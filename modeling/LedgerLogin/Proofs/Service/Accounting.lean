import LedgerLogin.Proofs.Bridge.Stream
import LedgerLogin.Proofs.Inquiry.Ensures
import LedgerLogin.Proofs.Metrics.Counters
import LedgerLogin.Proofs.Service.Consistency
import LedgerLogin.Service
import Mathlib

/-!
# Every call is counted once

A session is a list of calls of a service, logins and questions for users in any order, while the
backends may change within a call and between calls. Each call counts up one counter or none, which
depends on what it returned alone (`Returned.counter?`, `Service.call_events`), and the counters
after a session are those before it and one more for each such call (`Service.session_counters`),
modulo the `2 ^ 64` at which a counter starts again.
-/

namespace LedgerLogin

variable {L G : Type} {σ : Type}

inductive Call where
  | authenticate (now : Int64) (chat server password : String)
  | isUser (chat server : String)

def Call.isLogin : Call → Bool
  | authenticate _ _ _ _ => true
  | isUser _ _ => false

abbrev Call.Result : Call → Type
  | authenticate _ _ _ _ => Decision
  | isUser _ _ => Bool

/-- A call with what it returned. -/
abbrev Returned : Type := (c : Call) × Except VerifyError c.Result

namespace Returned

/-- The state of the decision that a login returned. -/
def state? : Returned → Option Decision.State
  | ⟨.authenticate _ _ _ _, .ok d⟩ => some d.state
  | _ => none

def error? : Returned → Option VerifyError
  | ⟨_, .error e⟩ => some e
  | ⟨_, .ok _⟩ => none

def failedTransport (r : Returned) : Bool :=
  match r.error? with
  | some (.transport _) => true
  | _ => false

def failedStale (r : Returned) : Bool :=
  match r.error? with
  | some (.notUpToDate _) => true
  | _ => false

def failedUnknownServer (r : Returned) : Bool :=
  match r.error? with
  | some (.unknownServer _) => true
  | _ => false

/-- The counter that a call counts up. A question for a user counts only if it fails. -/
def counter? (r : Returned) : Option Metrics.Counter :=
  match r.state?, r.error? with
  | some state, _ => some (.decisions state.name)
  | none, some (.transport _) => some (.failures "transport")
  | none, some (.notUpToDate _) => some (.failures "not-up-to-date")
  | none, some (.unknownServer _) => some .unknownServers
  | none, none => none

theorem counter?_eq_decisions {r : Returned} {state : Decision.State} :
    r.counter? = some (.decisions state.name) ↔ r.state? = some state := by
  unfold counter?
  cases hstate : r.state? with
  | some counted =>
    simp only [Option.some.injEq, Metrics.Counter.decisions.injEq]
    exact ⟨Decision.State.name_injective, fun h => congrArg Decision.State.name h⟩
  | none =>
    cases r.error? with
    | none => simp
    | some e => cases e <;> simp

theorem state?_eq_none_of_error {r : Returned} {e : VerifyError} (h : r.error? = some e) :
    r.state? = none := by
  obtain ⟨c, outcome⟩ := r
  cases outcome with
  | ok a => cases h
  | error e' => cases c <;> rfl

theorem counter?_of_failure (r : Returned) :
    (r.counter? = some (.failures "transport") ↔ r.failedTransport = true) ∧
    (r.counter? = some (.failures "not-up-to-date") ↔ r.failedStale = true) ∧
    (r.counter? = some .unknownServers ↔ r.failedUnknownServer = true) := by
  unfold counter? failedTransport failedStale failedUnknownServer
  cases herror : r.error? with
  | none => cases r.state? <;> simp
  | some e =>
    rw [state?_eq_none_of_error herror]
    cases e <;> simp

/-- Every login is counted, and every question for a user that fails. -/
theorem isSome_counter? (r : Returned) :
    r.counter?.isSome = (r.1.isLogin || r.error?.isSome) := by
  obtain ⟨c, outcome⟩ := r
  cases c <;> cases outcome with
  | ok a => rfl
  | error e => cases e <;> rfl

end Returned

namespace Service

def call (service : Service L G) :
    (c : Call) → Inquiry (Backend L G) Backend.Answer (Report c.Result)
  | .authenticate now chat server password => service.authenticate now chat server password
  | .isUser chat server => service.isUser chat server

/-- Makes calls one after the other, and counts. -/
def session (service : Service L G) (m : Metrics) :
    List Call → Inquiry (Backend L G) Backend.Answer (List Returned × Metrics)
  | [] => return ([], m)
  | c :: rest => do
    let report ← service.call c
    let (returned, m') ← service.session (m.recordAll report.events) rest
    return (⟨c, report.outcome⟩ :: returned, m')

/-- What a call has counted follows from what it returned. -/
theorem call_events (service : Service L G) (c : Call) :
    (service.call c).Ensures (fun _ _ => True) fun report =>
      report.events.map Metrics.Event.counter =
        (Returned.counter? ⟨c, report.outcome⟩).toList := by
  have hread : ∀ {α : Type} (x : Inquiry (Backend L G) Backend.Answer α),
      x.Ensures (fun _ _ => True) fun _ => True := fun x => .of_forall (fun _ => trivial) x
  cases c with
  | authenticate now chat server password =>
    show (service.authenticate now chat server password).Ensures _ _
    unfold authenticate
    split
    · rfl
    split
    · rfl
    · refine .bind (hread _) ?_
      intro outcome _
      cases outcome with
      | ok d => rfl
      | error e => cases e <;> rfl
  | isUser chat server =>
    show (service.isUser chat server).Ensures _ _
    unfold isUser
    split
    · rfl
    split
    · rfl
    · refine .bind (hread _) ?_
      intro outcome _
      cases outcome with
      | ok known => rfl
      | error e => cases e <;> rfl

/-- In a session every call is made, and what is counted is what the calls count. -/
theorem session_events (service : Service L G) (w : World σ (Backend.Answer (L := L) (G := G)))
    (s : σ) (calls : List Call) (m : Metrics) :
    let r := ((service.session m calls).runIn w s).result
    r.1.map Sigma.fst = calls ∧ ∃ events : List Metrics.Event, r.2 = m.recordAll events ∧
      events.map Metrics.Event.counter = r.1.filterMap Returned.counter? := by
  induction calls generalizing m s with
  | nil => exact ⟨rfl, [], rfl, rfl⟩
  | cons c rest ih =>
    intro r
    let report := ((service.call c).runIn w s).result
    let later := ((service.session (m.recordAll report.events) rest).runIn w
      ((service.call c).runIn w s).state).result
    have hr : r = (⟨c, report.outcome⟩ :: later.1, later.2) := by
      simp only [r, session, Inquiry.bind_eq, Inquiry.runIn_bind]
      rfl
    obtain ⟨hcalls, events, hmetrics, hevents⟩ :=
      ih ((service.call c).runIn w s).state (m.recordAll report.events)
    have hfirst : report.events.map Metrics.Event.counter =
        (Returned.counter? ⟨c, report.outcome⟩).toList :=
      (service.call_events c).runIn fun _ _ => trivial
    rw [hr]
    refine ⟨?_, report.events ++ events, ?_, ?_⟩
    · rw [List.map_cons, hcalls]
    · rw [hmetrics]
      simp only [Metrics.recordAll, List.foldl_append]
    · rw [List.map_append, hevents, hfirst, List.filterMap_cons]
      cases Returned.counter? ⟨c, report.outcome⟩ <;> rfl

theorem session_value (service : Service L G) (w : World σ (Backend.Answer (L := L) (G := G)))
    (s : σ) (calls : List Call) (m : Metrics) (counter : Metrics.Counter) :
    let r := ((service.session m calls).runIn w s).result
    r.2.value counter =
      m.value counter + UInt64.ofNat (r.1.countP fun c => c.counter? = some counter) := by
  intro r
  obtain ⟨-, events, hafter, hevents⟩ := service.session_events w s calls m
  have hcount : (events.countP fun e => e.counter = counter) =
      r.1.countP fun c => c.counter? = some counter := by
    calc (events.countP fun e => e.counter = counter)
        = (events.map Metrics.Event.counter).countP (· = counter) := by
          rw [List.countP_map]
          rfl
      _ = r.1.countP fun c => c.counter? = some counter := by
          rw [hevents, List.countP_filterMap]
          refine List.countP_congr fun c _ => ?_
          cases c.counter? <;> simp
  rw [← hcount, ← Metrics.value_recordAll, ← hafter]

theorem session_total (service : Service L G) (w : World σ (Backend.Answer (L := L) (G := G)))
    (s : σ) (calls : List Call) (m : Metrics) :
    let r := ((service.session m calls).runIn w s).result
    ∃ restarts, r.2.total + restarts * 2 ^ 64 = m.total + calls.countP Call.isLogin +
      r.1.countP fun c => !c.1.isLogin && c.error?.isSome := by
  intro r
  obtain ⟨hcalls, events, hafter, hevents⟩ := service.session_events w s calls m
  obtain ⟨restarts, htotal⟩ := m.total_recordAll events
  have hcounted : events.length = r.1.countP fun c => c.counter?.isSome := by
    rw [← List.length_map Metrics.Event.counter, hevents, List.length_filterMap_eq_countP]
  have hlogins : calls.countP Call.isLogin = r.1.countP fun c => c.1.isLogin := by
    conv_lhs => rw [← hcalls, List.countP_map]
    rfl
  have hsplit : (r.1.countP fun c => c.counter?.isSome) = (r.1.countP fun c => c.1.isLogin) +
      r.1.countP fun c => !c.1.isLogin && c.error?.isSome := by
    rw [List.countP_eq_countP_filter_add r.1 _ fun c => c.1.isLogin, List.countP_filter,
      List.countP_filter]
    congr 1
    · refine List.countP_congr fun c _ => ?_
      rw [Returned.isSome_counter?]
      cases c.1.isLogin <;> simp
    · refine List.countP_congr fun c _ => ?_
      rw [Returned.isSome_counter?]
      cases c.1.isLogin <;> simp
  refine ⟨restarts, ?_⟩
  rw [← hafter, hcounted, hsplit, ← hlogins] at htotal
  rw [htotal, Nat.add_assoc]

/-- A login for a name that cannot be read is decided without a backend. -/
theorem call_unreadable {service : Service L G} {chat server : String} {cause : ChatName.Error}
    (hserver : service.servers.get? server ≠ none) (hcause : ChatName.decode chat = .error cause)
    (now : Int64) (password : String) :
    service.call (.authenticate now chat server password) =
      .done (.decided (Decision.bare .invalidData)) := by
  obtain ⟨known, hknown⟩ := Option.ne_none_iff_exists'.1 hserver
  show service.authenticate now chat server password = _
  unfold authenticate
  simp only [hknown, hcause]
  rfl

/-- The counters after some calls, by what the calls returned. A counter shows what it showed before
and one more for each call that it counts: one of decisions for the logins that were decided with
its state, those of failures and of unknown servers for the calls of either kind that returned such
an error, and any other for none. It does so modulo `2 ^ 64`, and exactly if it does not come that
far. All counters together count every login and every question for a user that failed. -/
structure Accounts (m after : Metrics) (calls : List Call) (returned : List Returned) : Prop where
  made : returned.map Sigma.fst = calls
  counters : ∀ counter, after.value counter =
    m.value counter + UInt64.ofNat (returned.countP fun r => r.counter? = some counter)
  decisions : ∀ state, after.count state =
    m.count state + UInt64.ofNat (returned.countP fun r => r.state? = some state)
  transport : after.value (.failures "transport") =
    m.value (.failures "transport") + UInt64.ofNat (returned.countP Returned.failedTransport)
  stale : after.value (.failures "not-up-to-date") =
    m.value (.failures "not-up-to-date") + UInt64.ofNat (returned.countP Returned.failedStale)
  unknownServers : after.unknownServers =
    m.unknownServers + UInt64.ofNat (returned.countP Returned.failedUnknownServer)
  countersExactly : ∀ counter,
    (m.value counter).toNat + (returned.countP fun r => r.counter? = some counter) < 2 ^ 64 →
      (after.value counter).toNat =
        (m.value counter).toNat + returned.countP fun r => r.counter? = some counter
  total : ∃ restarts, after.total + restarts * 2 ^ 64 = m.total + calls.countP Call.isLogin +
    returned.countP fun r => !r.1.isLogin && r.error?.isSome
  totalExactly : m.total + calls.countP Call.isLogin +
      (returned.countP fun r => !r.1.isLogin && r.error?.isSome) < 2 ^ 64 →
    after.total = m.total + calls.countP Call.isLogin +
      returned.countP fun r => !r.1.isLogin && r.error?.isSome

/-- A session counts every call once, by what the call returned. A login for a name that cannot be
read returns a decision, that its data are invalid. -/
theorem session_counters (service : Service L G) (w : World σ (Backend.Answer (L := L) (G := G)))
    (s : σ) (calls : List Call) (m : Metrics) :
    Accounts m ((service.session m calls).runIn w s).result.2 calls
      ((service.session m calls).runIn w s).result.1 ∧
    ∀ now chat server password, service.servers.get? server ≠ none →
      (∃ cause, ChatName.decode chat = .error cause) → ∀ t,
        ((service.call (.authenticate now chat server password)).runIn w t).result.outcome =
          .ok (Decision.bare .invalidData) := by
  have hvalue := service.session_value w s calls m
  obtain ⟨hcalls, -⟩ := service.session_events w s calls m
  obtain ⟨restarts, htotal⟩ := service.session_total w s calls m
  generalize ((service.session m calls).runIn w s).result = r at hvalue hcalls htotal
  refine ⟨⟨hcalls, hvalue, ?_, ?_, ?_, ?_, ?_, ⟨restarts, htotal⟩, ?_⟩, ?_⟩
  · intro state
    show r.2.value (.decisions state.name) = _
    rw [hvalue]
    simp only [Returned.counter?_eq_decisions]
    rfl
  · simp only [hvalue, (Returned.counter?_of_failure _).1, Bool.decide_eq_true]
  · simp only [hvalue, (Returned.counter?_of_failure _).2.1, Bool.decide_eq_true]
  · show r.2.value .unknownServers = m.value .unknownServers + _
    simp only [hvalue, (Returned.counter?_of_failure _).2.2, Bool.decide_eq_true]
  · intro counter hfits
    rw [hvalue, Metrics.toNat_add_ofNat hfits]
  · intro hfits
    omega
  · rintro now chat server password hserver ⟨cause, hcause⟩ t
    rw [call_unreadable hserver hcause]
    rfl

/-- A login that is accepted, one for a name that cannot be read, a question that meets an old state
and one about an unknown server: each is counted once. -/
theorem session_counters_four :
    let calls := [.authenticate 0 "domob" "chat" "pwd", .authenticate 0 "Domob" "chat" "pwd",
      .isUser "domob" "chat", .isUser "domob" "talk"]
    let world : World Unit Backend.Answer := fun q s => (Bridge.processorAnswer "catching-up" q, s)
    let after := ((Bridge.processedService.session {} calls).runIn world ()).result.2
    (after.count .valid = 1 ∧ after.count .invalidData = 1 ∧
      after.value (.failures "not-up-to-date") = 1 ∧ after.unknownServers = 1 ∧
      (after.value (.decisions "valid")).toNat = 1 ∧ after.total = 4) ∧
    ((Bridge.processedService.call (.authenticate 0 "Domob" "chat" "pwd")).runIn world
      ()).result.outcome = .ok (Decision.bare .invalidData) := by
  intro calls world after
  obtain ⟨haccounts, hunreadable⟩ := Bridge.processedService.session_counters world () calls {}
  refine ⟨⟨?_, ?_, ?_, ?_, ?_, ?_⟩, ?_⟩
  · exact (haccounts.decisions .valid).trans (by decide +kernel)
  · exact (haccounts.decisions .invalidData).trans (by decide +kernel)
  · exact haccounts.stale.trans (by decide +kernel)
  · exact haccounts.unknownServers.trans (by decide +kernel)
  · exact (haccounts.countersExactly (.decisions "valid") (by decide +kernel)).trans
      (by decide +kernel)
  · exact (haccounts.totalExactly (by decide +kernel)).trans (by decide +kernel)
  · have hname : ChatName.decode "Domob" = .error (.invalidSimpleChar "Domob" 'D') := by cbv
    exact hunreadable 0 "Domob" "chat" "pwd" (by decide) ⟨_, hname⟩ ()

end Service

end LedgerLogin
