import LedgerLogin.Proofs.Inquiry.Ensures
import LedgerLogin.Service

/-!
# Where decisions come from

A decision on a login is one that is made here, by the resolver, for a name that is none or for a
server without authenticators, or it is what a game-state processor that was up to date answered to
this login (`Service.authenticate_origin`). What is made here never has the state of a backend that
is not up to date.
-/

namespace LedgerLogin

variable {L G : Type} {σ : Type}

/-- If the answer passes a decision on a login on, the decision has a property. -/
def Backend.Relays (name app password : String) (p : Decision → Prop) :
    (q : Backend L G) → q.Answer → Prop
  | .gsp _ (.verifyAuth name' app' password'), .ok e =>
    name' = name ∧ app' = app ∧ password' = password ∧ e.state = upToDate → p e.data
  | _, _ => True

/-! ## What authenticators and servers ensure -/

/-- The resolver finds no backend out of date. -/
theorem Resolver.resolve_ensures (domain : SigningDomain) (c : Credentials) (now : Int64) :
    (resolve domain c now).run.Ensures (fun _ _ => True)
      fun y => ∀ state, y = .ok state → state ≠ .notUpToDate := by
  have hok : ∀ state : Decision.State, state ≠ .notUpToDate →
      (pure state : LedgerInquiry Decision.State).run.Ensures (fun _ _ => True)
        fun y => ∀ state, y = .ok state → state ≠ .notUpToDate := by
    intro state hstate state' h
    cases h
    exact hstate
  have hread : ∀ {α : Type} (x : LedgerInquiry α),
      x.run.Ensures (fun _ _ => True) fun y => ∀ a, y = .ok a → True :=
    fun x => .of_forall (fun _ _ _ => trivial) x.run
  unfold resolve
  split
  · exact hok _ (by decide)
  split
  · exact hok _ (by decide)
  refine .bind_exceptT (hread _) fun token _ => ?_
  refine .bind_exceptT (hread _) fun found _ => ?_
  split
  · exact hok _ (by decide)
  split
  · exact hok _ (by decide)
  · refine .bind_exceptT (hread _) fun authorized _ => ?_
    split
    · exact hok _ (by decide)
    · exact hok _ (by decide)

section
variable {p : Decision → Prop}

theorem Resolver.verifyPassword_ensures
    (hbare : ∀ state, state ≠ .notUpToDate → p (Decision.bare state))
    (hcredentials : ∀ state c, state ≠ .notUpToDate → p (Decision.ofCredentials state c))
    (domain : SigningDomain) (name app password : String) (now : Int64) :
    (verifyPassword domain name app password now).run.Ensures (fun _ _ => True)
      fun y => ∀ d, y = .ok d → p d := by
  unfold verifyPassword
  split
  · rename_i c hc
    refine .bind_exceptT (resolve_ensures domain c now) ?_
    intro state hstate d hd
    cases hd
    exact hcredentials state c hstate
  · intro d hd
    cases hd
    exact hbare .malformed (by decide)

theorem Verification.ofLedger_ensures {α : Type} {r : α → Prop} (node : L) {x : LedgerInquiry α}
    {relied : (q : Backend L G) → q.Answer → Prop}
    (hx : x.run.Ensures (fun _ _ => True) fun y => ∀ a, y = .ok a → r a) :
    (ofLedger node x : Verification L G α).run.Ensures relied fun y => ∀ a, y = .ok a → r a := by
  show ((x.run.via fun r => Inquiry.query (Backend.ledger node r)).bind fun outcome =>
    Inquiry.done (outcome.mapError VerifyError.transport)).Ensures relied _
  generalize x.run = y at hx
  induction y with
  | done outcome =>
    intro a ha
    cases outcome with
    | error cause => cases ha
    | ok b =>
      cases ha
      exact hx a rfl
  | ask q next ih => exact fun answer _ => ih answer (hx answer trivial)

theorem Authenticator.authenticate_ensures
    (hbare : ∀ state, state ≠ .notUpToDate → p (Decision.bare state))
    (hcredentials : ∀ state c, state ≠ .notUpToDate → p (Decision.ofCredentials state c))
    (a : Authenticator L G) (now : Int64) (name app password : String) :
    (a.authenticate now name app password).run.Ensures (Backend.Relays name app password p)
      fun y => ∀ d, y = .ok d → p d := by
  cases a with
  | gsp node =>
    intro answer hanswer
    cases answer with
    | error cause => exact fun d hd => nomatch hd
    | ok e =>
      intro d hd
      change e.open = .ok d at hd
      unfold Envelope.open at hd
      split at hd
      · rename_i hstate
        cases hd
        exact hanswer ⟨rfl, rfl, rfl, hstate⟩
      · cases hd
  | delegation domain node =>
    exact Verification.ofLedger_ensures node
      (Resolver.verifyPassword_ensures hbare hcredentials domain name app password now)

theorem Server.authenticate_ensures
    (hbare : ∀ state, state ≠ .notUpToDate → p (Decision.bare state))
    (hcredentials : ∀ state c, state ≠ .notUpToDate → p (Decision.ofCredentials state c))
    (s : Server L G) (now : Int64) (name password : String) :
    (s.authenticate now name password).run.Ensures (Backend.Relays name s.app password p)
      fun y => ∀ d, y = .ok d → p d := by
  unfold authenticate
  have hlast : p (Decision.bare .invalidData) := hbare _ (by decide)
  generalize Decision.bare .invalidData = last at hlast
  induction s.authenticators generalizing last with
  | nil =>
    intro d hd
    cases hd
    exact hlast
  | cons a rest ih =>
    refine .bind_exceptT (a.authenticate_ensures hbare hcredentials now name s.app password) ?_
    intro d hd
    split
    · intro d' hd'
      cases hd'
      exact hd
    · exact ih d hd

/-- A decision of a server is one that is made here or was received from a processor that was up to
date. -/
theorem Server.authenticate_origin
    (hbare : ∀ state, state ≠ .notUpToDate → p (Decision.bare state))
    (hcredentials : ∀ state c, state ≠ .notUpToDate → p (Decision.ofCredentials state c))
    {s : Server L G} {now : Int64} {name password : String}
    {w : World σ (Backend.Answer (L := L) (G := G))} {st : σ} {d : Decision}
    (h : ((s.authenticate now name password).run.runIn w st).result = .ok d) :
    p d ∨ ∃ node e,
      ⟨.gsp node (.verifyAuth name s.app password), .ok e⟩ ∈
        ((s.authenticate now name password).run.runIn w st).answers ∧
      e.state = upToDate ∧ e.data = d := by
  by_cases hreceived : ∃ node e,
      ⟨.gsp node (.verifyAuth name s.app password), .ok e⟩ ∈
        ((s.authenticate now name password).run.runIn w st).answers ∧
      e.state = upToDate ∧ e.data = d
  · exact .inr hreceived
  · -- No answer passes the decision on, so what all decisions but it have, it has too.
    have hensures := s.authenticate_ensures (p := fun x => x = d → p x)
      (fun state hstate _ => hbare state hstate)
      (fun state c hstate _ => hcredentials state c hstate) now name password
    refine .inl (hensures.runIn ?_ d h rfl)
    rintro ⟨q, answer⟩ hy
    cases q with
    | ledger node r => trivial
    | gsp node r =>
      cases r with
      | nameState name' => cases answer <;> trivial
      | verifyAuth name' app' password' =>
        cases answer with
        | error cause => trivial
        | ok e =>
          rintro ⟨rfl, rfl, rfl, hstate⟩ hdata
          exact absurd ⟨node, e, hy, hstate, hdata⟩ hreceived

/-- A request that ends with a decision ends with the report on it, and the decision is one that is
made here or a processor that was up to date gave it as its answer to this login. -/
theorem Service.authenticate_origin
    (hbare : ∀ state, state ≠ .notUpToDate → p (Decision.bare state))
    (hcredentials : ∀ state c, state ≠ .notUpToDate → p (Decision.ofCredentials state c))
    {service : Service L G} {now : Int64}
    {w : World σ (Backend.Answer (L := L) (G := G))} {s : σ} {chat server password : String}
    {d : Decision}
    (h : ((service.authenticate now chat server password).runIn w s).result.outcome = .ok d) :
    ((service.authenticate now chat server password).runIn w s).result = .decided d ∧
    (p d ∨ ∃ known name node e,
      service.servers.get? server = some known ∧ ChatName.decode chat = .ok name ∧
      ⟨.gsp node (.verifyAuth name known.app password), .ok e⟩ ∈
        ((service.authenticate now chat server password).runIn w s).answers ∧
      e.state = upToDate ∧ e.data = d) := by
  unfold authenticate at h ⊢
  cases hserver : service.servers.get? server with
  | none =>
    rw [hserver] at h
    cases h
  | some known =>
    simp only [hserver] at h ⊢
    cases hname : ChatName.decode chat with
    | error cause =>
      simp only [hname] at h ⊢
      cases h
      exact ⟨rfl, .inl (hbare _ (by decide))⟩
    | ok name =>
      simp only [hname, Inquiry.bind_eq, Inquiry.pure_eq_done, Inquiry.runIn_bind,
        Inquiry.runIn, List.append_nil] at h ⊢
      cases hresult : ((known.authenticate now name password).run.runIn w s).result with
      | error e =>
        rw [hresult] at h
        cases h
      | ok d' =>
        rw [hresult] at h
        cases h
        refine ⟨rfl, ?_⟩
        rcases Server.authenticate_origin hbare hcredentials hresult with
          hmade | ⟨node, e, hreceived⟩
        · exact .inl hmade
        · exact .inr ⟨known, name, node, e, rfl, rfl, hreceived⟩

end

end LedgerLogin
