import LedgerLogin.Proofs.Backend.Blame
import LedgerLogin.Proofs.Service.Consistency

/-!
# Backends that are not up to date

A processor can say in two ways that its state is old: beside its answer, in the envelope, or in the
answer, as the state of its decision. The first is always an error, whichever of the authenticators
asked, and the error is always such an envelope (`Service.authenticate_stale`). The second is not
looked at: a decision in an envelope that is up to date is passed on, so that a login can be denied
because a backend is not up to date (`Service.authenticate_staleDecision`).
-/

namespace LedgerLogin

variable {L G : Type} {σ : Type}

/-- The answer is that of a processor that says beside it that its state is old, and how old. -/
def Backend.Outdated (state : String) : (q : Backend L G) → q.Answer → Prop
  | .gsp _ (.verifyAuth _ _ _), .ok e => state ≠ upToDate ∧ e.state = state
  | .gsp _ (.nameState _), .ok e => state ≠ upToDate ∧ e.state = state
  | _, _ => False

theorem Envelope.failure?_eq_notUpToDate {α : Type} {e : Envelope α} {state : String} :
    e.failure? = some (.notUpToDate state) ↔ state ≠ upToDate ∧ e.state = state := by
  unfold failure?
  constructor
  · intro h
    split at h
    · cases h
    · rename_i hstate
      cases h
      exact ⟨hstate, rfl⟩
  · rintro ⟨hstate, rfl⟩
    rw [if_neg hstate]

/-- Of all answers these are the ones that fail because of an old state. -/
theorem Backend.failure?_eq_notUpToDate {q : Backend L G} {a : q.Answer} {state : String} :
    q.failure? a = some (.notUpToDate state) ↔ q.Outdated state a := by
  cases q with
  | ledger node r =>
    constructor
    · intro h
      obtain ⟨cause, -, hcause⟩ := Option.map_eq_some_iff.1 h
      cases hcause
    · exact False.elim
  | gsp node r =>
    cases r with
    | verifyAuth name app password =>
      cases a with
      | ok e => exact Envelope.failure?_eq_notUpToDate
      | error cause =>
        constructor
        · intro h
          cases h
        · exact False.elim
    | nameState name =>
      cases a with
      | ok e => exact Envelope.failure?_eq_notUpToDate
      | error cause =>
        constructor
        · intro h
          cases h
        · exact False.elim

section
variable {service : Service L G} {now : Int64} {w : World σ (Backend.Answer (L := L) (G := G))}
  {s : σ} {chat server password : String} {state : String}

/-- An old state ends a login, whoever of the processors has it and whatever the others said. -/
theorem Service.authenticate_of_outdated {y : (q : Backend L G) × q.Answer}
    (hy : y ∈ ((service.authenticate now chat server password).runIn w s).answers)
    (hold : y.1.Outdated state y.2) :
    ((service.authenticate now chat server password).runIn w s).result =
      .failed (.notUpToDate state) :=
  (service.authenticate_stopsAt now chat server password).result_of_failure hy
    (Backend.failure?_eq_notUpToDate.2 hold)

/-- No login fails for an old state unless a processor said that it has it. -/
theorem Service.outdated_of_authenticate
    (h : ((service.authenticate now chat server password).runIn w s).result.outcome =
      .error (.notUpToDate state)) :
    ∃ y ∈ ((service.authenticate now chat server password).runIn w s).answers,
      y.1.Outdated state y.2 := by
  by_contra hnone
  have hblames := service.authenticate_blames now chat server password (.notUpToDate state)
  have hunknown := hblames.runIn (w := w) (s := s) (fun y hy hfailure =>
    hnone ⟨y, hy, Backend.failure?_eq_notUpToDate.1 hfailure⟩) h
  cases hunknown

end

/-- A processor that is asked about a login and says beside its answer that its state is old makes
the login fail, at every place among the authenticators; a login that fails so has met such a
processor, ends a bridge without an answer and is answered with 503 by the API. Only a processor
that says that it is up to date can have a login decided with an old state: the decision is its
answer to this login, word for word. -/
theorem Service.authenticate_stale (service : Service L G) (now : Int64)
    (w : World σ (Backend.Answer (L := L) (G := G))) (s : σ) (chat server password : String) :
    let r := (service.authenticate now chat server password).runIn w s
    (∀ state : String, (∃ y ∈ r.answers, y.1.Outdated state y.2) ↔
      r.result.outcome = .error (.notUpToDate state)) ∧
    (∀ state : String, r.result.outcome = .error (.notUpToDate state) →
      (∀ line rest, Bridge.Command.parse line = .auth chat server password →
        ((Bridge.serve service now (.ok line :: rest)).runIn w s).result =
          { output := []
            failure := some (.backend (.notUpToDate state))
            events := [.staleBackend] }) ∧
      (∀ metrics request, request.path = "/v1/verify" → request.method = "POST" →
        request.record Api.VerifyRequest.read Api.VerifyRequest.check =
          .ok ⟨server, chat, password⟩ →
        ((Api.respond service metrics now request).runIn w s).result =
          (.json 503 (Api.ErrorBody.ofError (.notUpToDate state)).toJson, [.staleBackend]))) ∧
    (∀ d : Decision, r.result.outcome = .ok d → d.state = .notUpToDate →
      ∃ known name node e,
        service.servers.get? server = some known ∧ ChatName.decode chat = .ok name ∧
        ⟨.gsp node (.verifyAuth name known.app password), .ok e⟩ ∈ r.answers ∧
        e.state = upToDate ∧ e.data = d) := by
  intro r
  refine ⟨?_, ?_, ?_⟩
  · intro state
    constructor
    · rintro ⟨y, hy, hold⟩
      exact congrArg Report.outcome (Service.authenticate_of_outdated hy hold)
    · exact Service.outdated_of_authenticate
  · intro state houtcome
    obtain ⟨y, hy, hold⟩ := Service.outdated_of_authenticate houtcome
    have hreport := Service.authenticate_of_outdated hy hold
    constructor
    · intro line rest hline
      exact Bridge.runIn_serve_auth_of_fatal hline rfl hreport rest
    · intro metrics request hpath hmethod hrecord
      rw [Api.runIn_respond_verify service metrics now w s hpath hmethod hrecord, hreport]
      rfl
  · intro d houtcome hstate
    obtain ⟨-, hmade | hreceived⟩ := Service.authenticate_origin
      (p := fun d => d.state ≠ .notUpToDate) (fun state h => h) (fun state c h => h) houtcome
    · exact absurd hstate hmade
    · exact hreceived

/-! ## Processors with an old state -/

def twoProcessors : Service Empty Bool :=
  ⟨StringMap.ofList [("chat", ⟨"app", [.gsp false, .gsp true]⟩)]⟩

/-- The first processor denies every login, the second is catching up. -/
def catchingUpAnswer : (q : Backend Empty Bool) → q.Answer
  | .ledger node _ => node.elim
  | .gsp node (.verifyAuth _ _ _) =>
    .ok ⟨if node then "catching-up" else upToDate, none, Decision.bare .invalidSignature⟩
  | .gsp node (.nameState _) => .ok ⟨if node then "catching-up" else upToDate, none, {}⟩

/-- The denial of the first processor is not the answer if the second one cannot tell. -/
theorem Service.authenticate_stale_second :
    let r := (twoProcessors.authenticate 0 "domob" "chat" "pwd").runIn
      (fun q s => (catchingUpAnswer q, s)) ()
    (∃ y ∈ r.answers, y.1.Outdated "catching-up" y.2) ∧
    r.result.outcome = .error (.notUpToDate "catching-up") ∧
    ((Bridge.serve twoProcessors 0 [.ok "auth:domob:chat:pwd"]).runIn
      (fun q s => (catchingUpAnswer q, s)) ()).result =
        { output := []
          failure := some (.backend (.notUpToDate "catching-up"))
          events := [.staleBackend] } := by
  intro r
  obtain ⟨hold, hfails, -⟩ := Service.authenticate_stale twoProcessors 0
    (fun q s => (catchingUpAnswer q, s)) () "domob" "chat" "pwd"
  have houtcome : r.result.outcome = .error (.notUpToDate "catching-up") := by
    simp only [r]
    rw [Inquiry.runIn_fixed]
    decide +kernel
  have hline : Bridge.Command.parse "auth:domob:chat:pwd" = .auth "domob" "chat" "pwd" := by
    cbv
  exact ⟨(hold _).2 houtcome, houtcome, (hfails _ houtcome).1 _ _ hline⟩

/-- The body of a reply with a decision that denies a login because of an old state, in an envelope
that is up to date. -/
def staleBody : String :=
  "\x7b\"result\":\x7b\"state\":\"up-to-date\",\"data\":\x7b\"valid\":false,\"state\":\"not-up-to-date\"\x7d\x7d\x7d"

def staleResult : Json :=
  Json.ofMembers [("state", .string upToDate),
    ("data", Json.ofMembers [("valid", .bool false), ("state", .string "not-up-to-date")])]

set_option maxRecDepth 2000 in
theorem json?_staleBody :
    Rpc.json? (utf8 staleBody) = some (Json.ofMembers [("result", staleResult)]) := by
  cbv

theorem resultOfBody_stale :
    (Rpc.resultOfBody "verifyauth" (Json.ofMembers [("result", staleResult)])).bind
      (Rpc.typed "verifyauth" (Envelope.read Decision.read)) =
        .ok ⟨upToDate, none, Decision.bare .notUpToDate⟩ := by
  cbv

/-- What backends answer if every request to them is replied to so. -/
def staleAnswer (q : Backend LedgerNode GspNode) : q.Answer :=
  (Backend.overHttp q).run fun _ => .response 200 (utf8 staleBody)

/-- An old state can become a denial: the service takes over the decision that the processor
replies, and the bridge denies the login and goes on. -/
theorem Service.authenticate_staleDecision :
    ((Bridge.run processorService 0 (Bridge.frame (utf8 "auth:domob:chat:pwd"))).via
      Backend.overHttp).run (fun _ => .response 200 (utf8 staleBody)) =
        { output := Bridge.answer false, failure := none, events := [.decision .notUpToDate] } ∧
    ¬ ∀ (service : Service LedgerNode GspNode) (now : Int64) (reply : Http.Request → Http.Reply)
      (chat server password : String) (d : Decision),
      (((service.authenticate now chat server password).via Backend.overHttp).run reply).outcome =
        .ok d → d.state ≠ .notUpToDate := by
  have hanswer : ∀ node name app password, staleAnswer (.gsp node (.verifyAuth name app password)) =
      .ok ⟨upToDate, none, Decision.bare .notUpToDate⟩ :=
    Backend.verifyAuth_of_reply json?_staleBody resultOfBody_stale
  constructor
  · rw [Inquiry.run_via]
    exact processorService_bridge hanswer
  · intro hall
    have hdecided : (((processorService.authenticate 0 "domob" "chat" "pwd").via
        Backend.overHttp).run fun _ => .response 200 (utf8 staleBody)).outcome =
        .ok (Decision.bare .notUpToDate) := by
      rw [Inquiry.run_via]
      exact congrArg Report.outcome (processorService_authenticate hanswer)
    exact hall _ _ _ _ _ _ _ hdecided rfl

end LedgerLogin
