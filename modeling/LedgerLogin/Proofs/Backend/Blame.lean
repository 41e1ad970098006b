import LedgerLogin.Proofs.Backend.Failure
import LedgerLogin.Proofs.Inquiry.Ensures

/-!
# Every error is a failed read

The converse of stopping at failures: a check that ends with an error has met it. An inquiry blames
failed reads (`Inquiry.Blames`) if no error is its result that none of its reads failed with. The
resolver, the authenticators and the servers blame failed reads, and so does the service save for
servers that it does not know (`Service.authenticate_blames`, `Service.isUser_blames`): nothing that
a client sends is an error by itself.
-/

namespace LedgerLogin

namespace Inquiry

variable {Q : Type} {A : Q → Type} {α β ε : Type}

/-- An error is the result only if a read failed with it. -/
def Blames (failure? : (q : Q) → A q → Option ε) (x : ExceptT ε (Inquiry Q A) α) : Prop :=
  ∀ e, x.run.Ensures (fun q a => failure? q a ≠ some e) fun y => y ≠ .error e

namespace Blames

variable {failure? : (q : Q) → A q → Option ε}

theorem pure (a : α) : Blames failure? (Pure.pure a : ExceptT ε (Inquiry Q A) α) := by
  intro e h
  cases h

theorem bind {x : ExceptT ε (Inquiry Q A) α} {f : α → ExceptT ε (Inquiry Q A) β}
    (hx : Blames failure? x) (hf : ∀ a, Blames failure? (f a)) : Blames failure? (x >>= f) := by
  intro e
  refine Ensures.bind (hx e) ?_
  intro y hy
  cases y with
  | error e' =>
    intro h
    cases h
    exact hy rfl
  | ok a => exact hf a e

end Blames

end Inquiry

open Inquiry (Blames)

/-! ## Reads from a ledger -/

namespace Resolver

theorem ask_blames (r : LedgerRead) : Blames LedgerRead.failure? r.ask := by
  intro e a ha
  cases a with
  | ok x => exact fun h => nomatch h
  | error cause =>
    intro h
    cases h
    exact ha rfl

theorem isAuthorized_blames (c : Credentials) (token : Token) (signer : Address) (now : Int64) :
    Blames LedgerRead.failure? (isAuthorized c token signer now) := by
  unfold isAuthorized
  refine .bind (ask_blames _) fun access => ?_
  split
  · exact .pure true
  refine .bind (ask_blames _) fun approved => ?_
  split
  · exact .pure true
  exact .bind (ask_blames _) fun owner => ask_blames _

theorem resolve_blames (domain : SigningDomain) (c : Credentials) (now : Int64) :
    Blames LedgerRead.failure? (resolve domain c now) := by
  unfold resolve
  split
  · exact .pure _
  split
  · exact .pure _
  refine .bind (ask_blames _) fun token => ?_
  refine .bind (ask_blames _) fun found => ?_
  split
  · exact .pure _
  split
  · exact .pure _
  · refine .bind (isAuthorized_blames _ _ _ _) fun authorized => ?_
    split
    · exact .pure _
    · exact .pure _

theorem verifyPassword_blames (domain : SigningDomain) (name app password : String)
    (now : Int64) : Blames LedgerRead.failure? (verifyPassword domain name app password now) := by
  unfold verifyPassword
  split
  · exact .bind (resolve_blames _ _ _) fun state => .pure _
  · exact .pure _

end Resolver

/-! ## Reads from backends -/

variable {L G α : Type}

/-- What blames a ledger for its errors blames it for them as a backend. -/
theorem Verification.ofLedger_blames (node : L) {x : LedgerInquiry α}
    (hx : Blames LedgerRead.failure? x) :
    Blames Backend.failure? (ofLedger node x : Verification L G α) := by
  intro e
  have hcauses : ∀ cause, e = .transport cause →
      x.run.Ensures (fun r a => r.failure? a ≠ some cause) fun y => y ≠ .error cause :=
    fun cause _ => hx cause
  show ((x.run.via fun r => Inquiry.query (Backend.ledger node r)).bind fun outcome =>
    Inquiry.done (Except.mapError VerifyError.transport outcome)).Ensures
      (fun (q : Backend L G) a => q.failure? a ≠ some e) _
  generalize x.run = y at hcauses
  induction y with
  | done outcome =>
    intro h
    cases outcome with
    | ok a => cases h
    | error cause =>
      cases h
      exact hcauses cause rfl rfl
  | ask r next ih =>
    intro a ha
    refine ih a fun cause he => hcauses cause he a ?_
    intro hfailure
    subst he
    exact ha (congrArg (Option.map VerifyError.transport) hfailure)

theorem Envelope.failure?_of_open {β : Type} {x : Envelope β} {e : VerifyError}
    (h : x.open = .error e) : x.failure? = some e := by
  unfold Envelope.open at h
  unfold failure?
  split at h
  · cases h
  · rename_i hstate
    cases h
    rw [if_neg hstate]

namespace Authenticator

theorem gspAuthenticate_blames (node : G) (name app password : String) :
    Blames Backend.failure? (gspAuthenticate node name app password : Verification L G Decision) := by
  intro e a ha
  cases a with
  | error cause =>
    intro h
    cases h
    exact ha rfl
  | ok x =>
    intro h
    exact ha (Envelope.failure?_of_open h)

theorem gspIsUser_blames (node : G) (name app : String) :
    Blames Backend.failure? (gspIsUser node name app : Verification L G Bool) := by
  intro e a ha
  cases a with
  | error cause =>
    intro h
    cases h
    exact ha rfl
  | ok x =>
    show (ExceptT.run (do return (← x.open).admits app : Verification L G Bool)).Ensures _ _
    cases hopen : x.open with
    | ok state => exact fun h => nomatch h
    | error e' =>
      intro h
      cases h
      exact ha (Envelope.failure?_of_open hopen)

theorem authenticate_blames (a : Authenticator L G) (now : Int64) (name app password : String) :
    Blames Backend.failure? (a.authenticate now name app password) := by
  cases a with
  | gsp node => exact gspAuthenticate_blames node name app password
  | delegation domain node =>
    exact Verification.ofLedger_blames node (Resolver.verifyPassword_blames _ _ _ _ _)

theorem isUser_blames (a : Authenticator L G) (name app : String) :
    Blames Backend.failure? (a.isUser name app) := by
  cases a with
  | gsp node => exact gspIsUser_blames node name app
  | delegation domain node => exact Verification.ofLedger_blames node (Resolver.ask_blames _)

end Authenticator

/-! ## Servers and the service -/

theorem Server.authenticate_blames (s : Server L G) (now : Int64) (name password : String) :
    Blames Backend.failure? (s.authenticate now name password) := by
  unfold authenticate
  generalize Decision.bare .invalidData = last
  induction s.authenticators generalizing last with
  | nil => exact .pure last
  | cons a rest ih =>
    refine .bind (a.authenticate_blames _ _ _ _) fun d => ?_
    split
    · exact .pure d
    · exact ih d

theorem Server.isUser_blames (s : Server L G) (name : String) :
    Blames Backend.failure? (s.isUser name) := by
  unfold isUser
  induction s.authenticators with
  | nil => exact .pure false
  | cons a rest ih =>
    refine .bind (a.isUser_blames _ _) fun known => ?_
    split
    · exact .pure true
    · exact ih

/-- A request that ends with an error has met it, or names an unknown server. -/
theorem Service.authenticate_blames (s : Service L G) (now : Int64) (chat server password : String)
    (e : VerifyError) :
    (s.authenticate now chat server password).Ensures (fun q a => q.failure? a ≠ some e)
      fun report => report.outcome = .error e → e = .unknownServer server := by
  unfold authenticate
  split
  · intro h
    cases h
    rfl
  split
  · exact fun h => nomatch h
  · refine .bind (Server.authenticate_blames _ now _ password e) ?_
    intro outcome houtcome h
    cases outcome with
    | ok d => cases h
    | error e' => exact absurd h houtcome

theorem Service.isUser_blames (s : Service L G) (chat server : String) (e : VerifyError) :
    (s.isUser chat server).Ensures (fun q a => q.failure? a ≠ some e)
      fun report => report.outcome = .error e → e = .unknownServer server := by
  unfold isUser
  split
  · intro h
    cases h
    rfl
  split
  · exact fun h => nomatch h
  · refine .bind (Server.isUser_blames _ _ e) ?_
    intro outcome houtcome h
    cases outcome with
    | ok b => cases h
    | error e' => exact absurd h houtcome

end LedgerLogin
