import LedgerLogin.Proofs.Inquiry.World
import LedgerLogin.Service

/-!
# Verification stops at failures

A read fails if it has no answer, and a read from a game-state processor also if the processor says
that it is not up to date. No check that reads from backends goes on after a failed read or puts
something in its place: the resolver (`Resolver.verifyPassword_stopsAt`), an authenticator, a server
with any list of authenticators, and the service (`Service.authenticate_stopsAt`,
`Service.isUser_stopsAt`) all end with the failure.
-/

namespace LedgerLogin

/-- The failure that an envelope is, which is none if it is up to date. -/
def Envelope.failure? {α : Type} (e : Envelope α) : Option VerifyError :=
  if e.state = upToDate then none else some (.notUpToDate e.state)

def LedgerRead.failure? (r : LedgerRead) (a : r.Answer) : Option TransportError :=
  match a with
  | .error cause => some cause
  | .ok _ => none

def GspRead.failure? : (r : GspRead) → r.Answer → Option VerifyError
  | .verifyAuth _ _ _, .ok e => e.failure?
  | .nameState _, .ok e => e.failure?
  | _, .error cause => some (.transport cause)

def Backend.failure? {L G : Type} : (q : Backend L G) → q.Answer → Option VerifyError
  | .ledger _ r, a => (r.failure? a).map .transport
  | .gsp _ r, a => r.failure? a

/-- Every failed read stops a bridge. -/
theorem Backend.isFatal_of_failure? {L G : Type} {q : Backend L G} {a : q.Answer} {e : VerifyError}
    (h : q.failure? a = some e) : e.isFatal = true := by
  have henvelope : ∀ {α : Type} {x : Envelope α}, x.failure? = some e → e.isFatal = true := by
    intro α x hx
    unfold Envelope.failure? at hx
    split at hx
    · cases hx
    · cases hx
      rfl
  cases q with
  | ledger node r =>
    obtain ⟨cause, -, rfl⟩ := Option.map_eq_some_iff.1 h
    rfl
  | gsp node r =>
    cases r with
    | verifyAuth name app password =>
      cases a with
      | error cause => cases h; rfl
      | ok x => exact henvelope h
    | nameState name =>
      cases a with
      | error cause => cases h; rfl
      | ok x => exact henvelope h

/-! ## Reads from a ledger -/

namespace Resolver

open Inquiry

theorem ask_stopsAt (r : LedgerRead) : r.ask.run.StopsAt LedgerRead.failure? .error := by
  intro a
  refine ⟨?_, trivial⟩
  intro e he
  cases a with
  | error cause => cases he; rfl
  | ok x => cases he

theorem isAuthorized_stopsAt (c : Credentials) (token : Token) (signer : Address) (now : Int64) :
    (isAuthorized c token signer now).run.StopsAt LedgerRead.failure? .error := by
  unfold isAuthorized
  refine .bind_exceptT (ask_stopsAt _) fun access => ?_
  split
  · exact .done _
  refine .bind_exceptT (ask_stopsAt _) fun approved => ?_
  split
  · exact .done _
  exact .bind_exceptT (ask_stopsAt _) fun owner => ask_stopsAt _

theorem resolve_stopsAt (domain : SigningDomain) (c : Credentials) (now : Int64) :
    (resolve domain c now).run.StopsAt LedgerRead.failure? .error := by
  unfold resolve
  split
  · exact .done _
  split
  · exact .done _
  refine .bind_exceptT (ask_stopsAt _) fun token => ?_
  refine .bind_exceptT (ask_stopsAt _) fun found => ?_
  split
  · exact .done _
  split
  · exact .done _
  · refine .bind_exceptT (isAuthorized_stopsAt _ _ _ _) fun authorized => ?_
    split
    · exact .done _
    · exact .done _

theorem verifyPassword_stopsAt (domain : SigningDomain) (name app password : String)
    (now : Int64) :
    (verifyPassword domain name app password now).run.StopsAt LedgerRead.failure? .error := by
  unfold verifyPassword
  split
  · exact .bind_exceptT (resolve_stopsAt _ _ _) fun state => .done _
  · exact .done _

end Resolver

/-! ## Reads from backends -/

variable {L G α : Type}

theorem Verification.ofLedger_stopsAt (node : L) {x : LedgerInquiry α}
    (hx : x.run.StopsAt LedgerRead.failure? .error) :
    (ofLedger node x : Verification L G α).run.StopsAt Backend.failure? .error := by
  show (((x.run.via fun r => Inquiry.query (Backend.ledger node r)).bind fun outcome =>
    Inquiry.done (outcome.mapError VerifyError.transport))).StopsAt Backend.failure? .error
  generalize x.run = y at hx
  induction y with
  | done result => trivial
  | ask r next ih =>
    intro a
    obtain ⟨hstop, hnext⟩ := hx a
    refine ⟨?_, ih a hnext⟩
    intro e he
    obtain ⟨cause, hcause, rfl⟩ := Option.map_eq_some_iff.1 he
    show ((next a).via _).bind _ = _
    rw [hstop cause hcause]
    rfl

theorem Envelope.open_of_failure? {β : Type} {x : Envelope β} {e : VerifyError}
    (h : x.failure? = some e) : x.open = .error e := by
  unfold failure? at h
  unfold Envelope.open
  split at h
  · cases h
  · rename_i hstate
    cases h
    rw [if_neg hstate]

namespace Authenticator

theorem gspAuthenticate_stopsAt (node : G) (name app password : String) :
    (gspAuthenticate node name app password : Verification L G Decision).run.StopsAt
      Backend.failure? .error := by
  intro a
  cases a with
  | error cause =>
    refine ⟨?_, trivial⟩
    intro e he
    cases he
    rfl
  | ok x =>
    refine ⟨?_, trivial⟩
    intro e he
    show Inquiry.done x.open = _
    rw [Envelope.open_of_failure? he]

theorem gspIsUser_stopsAt (node : G) (name app : String) :
    (gspIsUser node name app : Verification L G Bool).run.StopsAt Backend.failure? .error := by
  intro a
  cases a with
  | error cause =>
    refine ⟨?_, trivial⟩
    intro e he
    cases he
    rfl
  | ok x =>
    have hrest : ∀ y : Except VerifyError NameState,
        (do return (← y).admits app : Verification L G Bool).run =
          Inquiry.done (y.map fun state => state.admits app) := by
      intro y
      cases y with
      | error e => rfl
      | ok state => rfl
    constructor
    · intro e he
      show (do return (← x.open).admits app : Verification L G Bool).run = _
      rw [hrest, Envelope.open_of_failure? he]
      rfl
    · show (do return (← x.open).admits app : Verification L G Bool).run.StopsAt _ _
      rw [hrest]
      trivial

theorem authenticate_stopsAt (a : Authenticator L G) (now : Int64) (name app password : String) :
    (a.authenticate now name app password).run.StopsAt Backend.failure? .error := by
  cases a with
  | gsp node => exact gspAuthenticate_stopsAt node name app password
  | delegation domain node =>
    exact Verification.ofLedger_stopsAt node (Resolver.verifyPassword_stopsAt _ _ _ _ _)

theorem isUser_stopsAt (a : Authenticator L G) (name app : String) :
    (a.isUser name app).run.StopsAt Backend.failure? .error := by
  cases a with
  | gsp node => exact gspIsUser_stopsAt node name app
  | delegation domain node => exact Verification.ofLedger_stopsAt node (Resolver.ask_stopsAt _)

end Authenticator

/-! ## Servers and the service -/

theorem Server.authenticate_stopsAt (s : Server L G) (now : Int64) (name password : String) :
    (s.authenticate now name password).run.StopsAt Backend.failure? .error := by
  unfold authenticate
  generalize Decision.bare .invalidData = last
  induction s.authenticators generalizing last with
  | nil => exact .done _
  | cons a rest ih =>
    refine .bind_exceptT (a.authenticate_stopsAt _ _ _ _) fun d => ?_
    split
    · exact .done _
    · exact ih d

theorem Server.isUser_stopsAt (s : Server L G) (name : String) :
    (s.isUser name).run.StopsAt Backend.failure? .error := by
  unfold isUser
  induction s.authenticators with
  | nil => exact .done _
  | cons a rest ih =>
    refine .bind_exceptT (a.isUser_stopsAt _ _) fun known => ?_
    split
    · exact .done _
    · exact ih

theorem Service.authenticate_stopsAt (s : Service L G) (now : Int64)
    (chat server password : String) :
    (s.authenticate now chat server password).StopsAt Backend.failure? Report.failed := by
  unfold authenticate
  split
  · exact .done _
  split
  · exact .done _
  · exact Inquiry.StopsAt.map (Server.authenticate_stopsAt _ _ _ _) (Report.ofOutcome .decided)

theorem Service.isUser_stopsAt (s : Service L G) (chat server : String) :
    (s.isUser chat server).StopsAt Backend.failure? Report.failed := by
  unfold isUser
  split
  · exact .done _
  split
  · exact .done _
  · exact Inquiry.StopsAt.map (Server.isUser_stopsAt _ _) (Report.ofOutcome .answered)

end LedgerLogin
