import LedgerLogin.Proofs.Backend.Failure
import LedgerLogin.Proofs.Bridge.Turn

/-!
# Outages withhold answers and change none

Two worlds are compared, of which the second gives the answers of the first or fails, read by read.
What the service says in the second is what it says in the first, or a failure that it met; and a
bridge writes what it writes in the first, or stops earlier (`Service.withholding`). Nothing is
taken for a denial or an acceptance because a read failed.

Some passwords are settled before the first read: those that cannot be decoded, that are for
another protocol or that are expired.
-/

namespace LedgerLogin

variable {L G : Type} {σ α : Type} {w₁ w₂ : World σ (Backend.Answer (L := L) (G := G))}

/-- In the second world a request has the outcome that it has in the first, or a failure that it
met. -/
def WithheldOutcome (w₁ w₂ : World σ (Backend.Answer (L := L) (G := G)))
    (x : Inquiry (Backend L G) Backend.Answer (Report α)) (s : σ) : Prop :=
  (x.runIn w₂ s).result.outcome = (x.runIn w₁ s).result.outcome ∨
    ∃ e ∈ (x.runIn w₂ s).failures Backend.failure?, (x.runIn w₂ s).result.outcome = .error e

theorem withheldOutcome_of_stopsAt {x : Inquiry (Backend L G) Backend.Answer (Report α)}
    (hx : x.StopsAt Backend.failure? Report.failed) (hw : Withholds Backend.failure? w₁ w₂) (s : σ) :
    WithheldOutcome w₁ w₂ x s := by
  rcases hx.runIn_withheld hw s with hsame | ⟨e, he, hresult⟩
  · exact .inl (by rw [hsame])
  · exact .inr ⟨e, he, by rw [hresult]; rfl⟩

namespace Bridge

theorem handle_stopsAt (service : Service L G) (now : Int64) (c : Command) :
    (handle service now c).StopsAt Backend.failure? fun e =>
      ⟨tolerate (.error e), [.ofError e]⟩ := by
  cases c with
  | auth name server password =>
    exact (service.authenticate_stopsAt now name server password).map fun report =>
      (⟨tolerate (report.outcome.map (·.valid)), report.events⟩ : Report Bool)
  | isUser name server =>
    exact (service.isUser_stopsAt name server).map fun report =>
      (⟨tolerate report.outcome, report.events⟩ : Report Bool)
  | unsupported operation => exact .done _
  | invalid operation => exact .done _

/-- A run of a bridge that is as another one, or stops earlier at a failure that it met. -/
def CutShort (r₁ r₂ : Run σ (Backend.Answer (L := L) (G := G)) Outcome) : Prop :=
  r₂.result = r₁.result ∨ (r₂.result.output <+: r₁.result.output ∧
    ∃ e ∈ r₂.failures Backend.failure?, r₂.result.failure = some (.backend e))

section
variable {service : Service L G} {now : Int64} {line : String}
  {rest : List (Except FrameError String)} {s : σ}

theorem cutShort_of_failure {e : VerifyError} {events : List Metrics.Event}
    (he : e ∈ ((handle service now (Command.parse line)).runIn w₂ s).failures Backend.failure?)
    (hresult : ((handle service now (Command.parse line)).runIn w₂ s).result =
      ⟨tolerate (.error e), events⟩) :
    CutShort ((serve service now (.ok line :: rest)).runIn w₁ s)
      ((serve service now (.ok line :: rest)).runIn w₂ s) := by
  obtain ⟨x, -, hfailure⟩ := List.mem_filterMap.1 he
  have houtcome : ((handle service now (Command.parse line)).runIn w₂ s).result.outcome =
      .error e := by
    rw [hresult]
    exact if_pos (Backend.isFatal_of_failure? hfailure)
  obtain ⟨hend, hanswers⟩ := runIn_serve_of_error rest houtcome
  refine .inr ⟨?_, e, ?_, by rw [hend]⟩
  · rw [hend]
    exact List.nil_prefix
  · rw [Run.failures, hanswers]
    exact he

/-- After a line that goes the same way, a bridge is cut short where the rest is. -/
theorem cutShort_of_same
    (hsame : (handle service now (Command.parse line)).runIn w₂ s =
      (handle service now (Command.parse line)).runIn w₁ s)
    (hlater : ∀ s, CutShort ((serve service now rest).runIn w₁ s)
      ((serve service now rest).runIn w₂ s)) :
    CutShort ((serve service now (.ok line :: rest)).runIn w₁ s)
      ((serve service now (.ok line :: rest)).runIn w₂ s) := by
  cases h₁ : ((handle service now (Command.parse line)).runIn w₁ s).result.outcome with
  | error e =>
    have h₂ := h₁
    rw [← hsame] at h₂
    refine .inl ?_
    show ((serve service now (.ok line :: rest)).runIn w₂ s).result = _
    rw [(runIn_serve_of_error rest h₂).1, hsame]
    exact (runIn_serve_of_error rest h₁).1.symm
  | ok accepted =>
    have h₂ := h₁
    rw [← hsame] at h₂
    obtain ⟨hresult₁, -⟩ := runIn_serve_of_ok rest h₁
    obtain ⟨hresult₂, hanswers₂⟩ := runIn_serve_of_ok rest h₂
    rw [hsame] at hresult₂ hanswers₂
    simp only [CutShort, hresult₁, hresult₂, Run.failures, hanswers₂]
    rcases hlater ((handle service now (Command.parse line)).runIn w₁ s).state with
      hequal | ⟨houtput, e, he, hend⟩
    · exact .inl (by rw [hequal])
    · refine .inr ⟨?_, e, ?_, hend⟩
      · exact (List.prefix_append_right_inj _).2 houtput
      · rw [List.filterMap_append]
        exact List.mem_append_right _ he

end

theorem serve_withheld (hw : Withholds Backend.failure? w₁ w₂) (service : Service L G) (now : Int64)
    (lines : List (Except FrameError String)) (s : σ) :
    CutShort ((serve service now lines).runIn w₁ s) ((serve service now lines).runIn w₂ s) := by
  induction lines generalizing s with
  | nil => exact .inl rfl
  | cons line rest ih =>
    cases line with
    | error e => exact .inl rfl
    | ok line =>
      rcases (handle_stopsAt service now (Command.parse line)).runIn_withheld hw s with
        hsame | ⟨e, he, hresult⟩
      · exact cutShort_of_same hsame ih
      · exact cutShort_of_failure he hresult

end Bridge

/-- A password that is settled without the ledger: it cannot be decoded, is for another protocol or
is expired. -/
def Resolver.SettledAtOnce (name app password : String) (now : Int64) : Prop :=
  (∃ error, Credentials.ofPassword name app password = .error error) ∨
    ∃ c, Credentials.ofPassword name app password = .ok c ∧
      (c.protocol ≠ .delegation ∨ c.isExpiredAt now = true)

theorem Resolver.resolve_of_settled {c : Credentials} {now : Int64}
    (h : c.protocol ≠ .delegation ∨ c.isExpiredAt now = true) (domain : SigningDomain) :
    ∃ state, resolve domain c now = pure state := by
  unfold resolve
  by_cases hprotocol : c.protocol ≠ .delegation
  · exact ⟨.invalidData, if_pos hprotocol⟩
  · refine ⟨.expired, ?_⟩
    rw [if_neg hprotocol]
    exact if_pos (h.resolve_left hprotocol)

theorem Resolver.verifyPassword_of_settledAtOnce {name app password : String} {now : Int64}
    (h : SettledAtOnce name app password now) (domain : SigningDomain) :
    ∃ d, verifyPassword domain name app password now = pure d := by
  unfold verifyPassword
  rcases h with ⟨error, herror⟩ | ⟨c, hc, hsettled⟩
  · exact ⟨Decision.bare .malformed, by rw [herror]⟩
  · obtain ⟨state, hstate⟩ := resolve_of_settled hsettled domain
    refine ⟨Decision.ofCredentials state c, ?_⟩
    rw [hc]
    show verify domain c now = _
    rw [verify, hstate]
    rfl

/-- A world that withholds answers of another changes no outcome but by a failure that was met, and
makes a bridge write no other bytes than the first ones of those that it writes in the other world.
A password that is settled at once is decided the same in every world, and nothing is read for
it. -/
theorem Service.withholding (service : Service L G) (now : Int64)
    (hw : Withholds Backend.failure? w₁ w₂) (s : σ) :
    (∀ chat server password,
      WithheldOutcome w₁ w₂ (service.authenticate now chat server password) s) ∧
    (∀ chat server, WithheldOutcome w₁ w₂ (service.isUser chat server) s) ∧
    (∀ input, ((Bridge.run service now input).runIn w₂ s).result.output <+:
      ((Bridge.run service now input).runIn w₁ s).result.output) ∧
    (∀ name app password, Resolver.SettledAtOnce name app password now → ∀ domain, ∃ d,
      ∀ (τ : Type) (w : World τ LedgerRead.Answer) (t : τ),
        (Resolver.verifyPassword domain name app password now).run.runIn w t = ⟨.ok d, t, []⟩) := by
  refine ⟨?_, ?_, ?_, ?_⟩
  · intro chat server password
    exact withheldOutcome_of_stopsAt (service.authenticate_stopsAt now chat server password) hw s
  · intro chat server
    exact withheldOutcome_of_stopsAt (service.isUser_stopsAt chat server) hw s
  · intro input
    rcases Bridge.serve_withheld hw service now (Bridge.lines input) s with hsame | ⟨houtput, -⟩
    · show ((Bridge.serve service now (Bridge.lines input)).runIn w₂ s).result.output <+: _
      rw [hsame]
      exact List.prefix_refl _
    · exact houtput
  · intro name app password hsettled domain
    obtain ⟨d, hd⟩ := Resolver.verifyPassword_of_settledAtOnce hsettled domain
    refine ⟨d, ?_⟩
    intro τ w t
    rw [hd]
    rfl

def outage : (q : Backend L G) → q.Answer
  | .ledger _ _ => .error .noRuntime
  | .gsp _ _ => .error .noRuntime

/-- A world that counts the reads, with an outage from the read with a number on. -/
def outageFrom (k : Nat) (w : World Nat (Backend.Answer (L := L) (G := G))) :
    World Nat (Backend.Answer (L := L) (G := G)) :=
  fun q n => if n < k then w q n else (outage q, n + 1)

theorem withholds_outageFrom (k : Nat) (w : World Nat (Backend.Answer (L := L) (G := G))) :
    Withholds Backend.failure? w (outageFrom k w) := by
  intro q n
  by_cases h : n < k
  · exact .inl (if_pos h)
  · refine .inr ?_
    show (q.failure? (outageFrom k w q n).1).isSome
    rw [outageFrom, if_neg h]
    cases q with
    | ledger node r => rfl
    | gsp node r => cases r <;> rfl

/-- A world in which a processor, which is always up to date, accepts every login. -/
def acceptingWorld : World Nat (Backend.Answer (L := Unit) (G := Unit))
  | .ledger _ _, n => (.error .noRuntime, n + 1)
  | .gsp _ (.verifyAuth _ _ _), n => (.ok ⟨upToDate, none, Decision.bare .valid⟩, n + 1)
  | .gsp _ (.nameState _), n => (.ok ⟨upToDate, none, {}⟩, n + 1)

def chatService : Service Unit Unit := ⟨StringMap.ofList [("chat", ⟨"app", [.gsp ()]⟩)]⟩

def chatLogin : Bytes := Bridge.frame (utf8 "auth:domob:chat:pwd")

/-- Two logins, with an outage between them: the first is accepted and the second not answered. -/
theorem Service.withholding_second_login :
    Withholds Backend.failure? acceptingWorld (outageFrom 1 acceptingWorld) ∧
    ((Bridge.run chatService 0 (chatLogin ++ chatLogin)).runIn acceptingWorld 0).result.output =
      Bridge.answer true ++ Bridge.answer true ∧
    ((Bridge.run chatService 0 (chatLogin ++ chatLogin)).runIn
      (outageFrom 1 acceptingWorld) 0).result.output = Bridge.answer true ∧
    Bridge.answer true <+: Bridge.answer true ++ Bridge.answer true := by
  have hw := withholds_outageFrom 1 acceptingWorld
  have hreached : ((Bridge.run chatService 0 (chatLogin ++ chatLogin)).runIn
      acceptingWorld 0).result.output = Bridge.answer true ++ Bridge.answer true := by
    decide +kernel
  have hlost : ((Bridge.run chatService 0 (chatLogin ++ chatLogin)).runIn
      (outageFrom 1 acceptingWorld) 0).result.output = Bridge.answer true := by
    decide +kernel
  refine ⟨hw, hreached, hlost, ?_⟩
  obtain ⟨-, -, hbridge, -⟩ := Service.withholding chatService 0 hw 0
  have h := hbridge (chatLogin ++ chatLogin)
  rwa [hreached, hlost] at h

end LedgerLogin
