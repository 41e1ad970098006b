import LedgerLogin.Proofs.Api.Routes
import LedgerLogin.Proofs.Bridge.Turn
import LedgerLogin.Proofs.Metrics.Counters
import LedgerLogin.Proofs.Service.Acceptance
import LedgerLogin.Proofs.Service.Origin
import LedgerLogin.Rpc.Node
import Mathlib

/-!
# Consistent decisions

A decision is consistent if its flag follows its state. Those that are made here are, but the
decision of a game-state processor is passed on as it was received. So the decision on a login is
consistent, or it is what a processor answered (`Service.authenticate_decided`).

The bridge shows the flag, the counters the state and the API both. They agree on a consistent
decision, and a processor can make them disagree (`Service.authenticate_contradictory`).
-/

namespace LedgerLogin

variable {L G : Type} {σ : Type}

namespace Decision

/-- The flag follows the state. -/
def IsConsistent (d : Decision) : Prop := d.valid = true ↔ d.state = .valid

theorem bare_isConsistent (state : State) : (bare state).IsConsistent := decide_eq_true_iff

theorem ofCredentials_isConsistent (state : State) (c : Credentials) :
    (ofCredentials state c).IsConsistent := decide_eq_true_iff

end Decision

/-- The decision on a login is consistent, or a processor that was up to date gave it as its answer
to this login. Its flag is the answer of the bridge, its state is what is counted, and the API shows
both. -/
theorem Service.authenticate_decided (service : Service L G) (now : Int64)
    (w : World σ (Backend.Answer (L := L) (G := G))) (s : σ) (chat server password : String)
    {d : Decision}
    (h : ((service.authenticate now chat server password).runIn w s).result.outcome = .ok d) :
    (d.IsConsistent ∨ ∃ known name node e,
      service.servers.get? server = some known ∧ ChatName.decode chat = .ok name ∧
      ⟨.gsp node (.verifyAuth name known.app password), .ok e⟩ ∈
        ((service.authenticate now chat server password).runIn w s).answers ∧
      e.state = upToDate ∧ e.data = d) ∧
    (∀ line rest, Bridge.Command.parse line = .auth chat server password →
      ∃ later : Bridge.Outcome, ((Bridge.serve service now (.ok line :: rest)).runIn w s).result =
        later.answering d.valid [.decision d.state]) ∧
    (∀ metrics r, r.path = "/v1/verify" → r.method = "POST" →
      r.record Api.VerifyRequest.read Api.VerifyRequest.check = .ok ⟨server, chat, password⟩ →
      ((Api.respond service metrics now r).runIn w s).result =
        (.json 200 d.toJson, [.decision d.state])) ∧
    ∀ (m : Metrics) (state : Decision.State),
      (m.record (.decision d.state)).count state =
        m.count state + if state = d.state then 1 else 0 := by
  obtain ⟨hreport, horigin⟩ := Service.authenticate_origin
    (fun state _ => Decision.bare_isConsistent state)
    (fun state c _ => Decision.ofCredentials_isConsistent state c) h
  refine ⟨horigin, ?_, ?_, fun m state => m.count_record_decision d.state state⟩
  · intro line rest hline
    have hturn : ((Bridge.handle service now (Bridge.Command.parse line)).runIn w s).result =
        ⟨.ok d.valid, [.decision d.state]⟩ := by
      rw [hline, Bridge.runIn_handle_auth, hreport]
      rfl
    obtain ⟨hresult, -⟩ := Bridge.runIn_serve_of_ok rest (congrArg Report.outcome hturn)
    rw [hturn] at hresult
    exact ⟨_, hresult⟩
  · intro metrics r hpath hmethod hrecord
    rw [Api.runIn_respond_verify service metrics now w s hpath hmethod hrecord, hreport]
    rfl

/-! ## A processor that contradicts itself -/

/-- The decision of a server's only authenticator, a processor, is passed on whatever it is. -/
theorem Service.authenticate_relayed {service : Service L G} {answer : (q : Backend L G) → q.Answer}
    {now : Int64} {chat server password name app : String} {node : G} {height : Option UInt64}
    {d : Decision} (hserver : service.servers.get? server = some ⟨app, [.gsp node]⟩)
    (hname : ChatName.decode chat = .ok name)
    (hanswer : answer (.gsp node (.verifyAuth name app password)) = .ok ⟨upToDate, height, d⟩) :
    (service.authenticate now chat server password).run answer = .decided d := by
  have hgsp : (Authenticator.authenticate (.gsp node) now name app password :
      Verification L G Decision).run.run answer = .ok d := by
    show (Inquiry.run answer ((Inquiry.done (Except.mapError VerifyError.transport
      (answer (.gsp node (.verifyAuth name app password))))).bind _)) = _
    rw [hanswer]
    rfl
  have hlist : ((⟨app, [.gsp node]⟩ : Server L G).authenticate now name password).run.run answer =
      .ok d := by
    unfold Server.authenticate Server.firstAcceptance
    rw [Inquiry.run_bind_exceptT, hgsp]
    show ((if d.valid then pure d else pure d : Verification L G Decision).run.run answer) = .ok d
    rw [ite_self]
    rfl
  exact Service.authenticate_of_accepted hserver hname hlist

/-- A processor that replies to a request for a decision is taken at its word. -/
theorem Backend.verifyAuth_of_reply {body : String} {json : Json} {e : Envelope Decision}
    (hbody : Rpc.json? (utf8 body) = some json)
    (hread : (Rpc.resultOfBody "verifyauth" json).bind
      (Rpc.typed "verifyauth" (Envelope.read Decision.read)) = .ok e)
    (node : GspNode) (name app password : String) :
    (Backend.overHttp (.gsp node (.verifyAuth name app password))).run
      (fun _ => .response 200 (utf8 body)) = .ok e := by
  calc (Rpc.result node.endpoint "verifyauth" (.response 200 (utf8 body))).bind
        (Rpc.typed "verifyauth" (Envelope.read Decision.read))
      = (Rpc.resultOfBody "verifyauth" json).bind
          (Rpc.typed "verifyauth" (Envelope.read Decision.read)) := by
        rw [Rpc.result, if_pos (by decide), hbody]
    _ = .ok e := hread

/-- A decision that accepts a login as expired. -/
def contradictoryDecision : Decision := { valid := true, state := .expired }

def contradictoryResult : Json :=
  Json.ofMembers [("state", .string upToDate),
    ("data", Json.ofMembers [("valid", .bool true), ("state", .string "expired")])]

def contradictoryBody : String :=
  "\x7b\"result\":\x7b\"state\":\"up-to-date\",\"data\":\x7b\"valid\":true,\"state\":\"expired\"\x7d\x7d\x7d"

set_option maxRecDepth 2000 in
theorem json?_contradictoryBody :
    Rpc.json? (utf8 contradictoryBody) = some (Json.ofMembers [("result", contradictoryResult)]) := by
  cbv

theorem resultOfBody_contradictory :
    (Rpc.resultOfBody "verifyauth" (Json.ofMembers [("result", contradictoryResult)])).bind
      (Rpc.typed "verifyauth" (Envelope.read Decision.read)) =
        .ok ⟨upToDate, none, contradictoryDecision⟩ := by
  cbv

/-- What backends answer if every request to them is replied to so. -/
def contradictoryAnswer (q : Backend LedgerNode GspNode) : q.Answer :=
  (Backend.overHttp q).run fun _ => .response 200 (utf8 contradictoryBody)

theorem contradictoryAnswer_verifyAuth (node : GspNode) (name app password : String) :
    contradictoryAnswer (.gsp node (.verifyAuth name app password)) =
      .ok ⟨upToDate, none, contradictoryDecision⟩ :=
  Backend.verifyAuth_of_reply json?_contradictoryBody resultOfBody_contradictory node name app
    password

theorem contradictoryDecision_not_isConsistent : ¬ contradictoryDecision.IsConsistent := by
  intro h
  cases h.1 rfl

/-- A service with one server, whose users a processor checks. -/
def processorService : Service LedgerNode GspNode :=
  ⟨StringMap.ofList [("chat", ⟨"app", [.gsp ⟨⟨"http://gsp", 30⟩⟩]⟩)]⟩

theorem processorService_authenticate {answer : (q : Backend LedgerNode GspNode) → q.Answer}
    {d : Decision}
    (h : ∀ node name app password,
      answer (.gsp node (.verifyAuth name app password)) = .ok ⟨upToDate, none, d⟩) :
    (processorService.authenticate 0 "domob" "chat" "pwd").run answer = .decided d := by
  have hserver : processorService.servers.get? "chat" =
      some ⟨"app", [.gsp ⟨⟨"http://gsp", 30⟩⟩]⟩ := by
    decide
  have hname : ChatName.decode "domob" = .ok "domob" := by cbv
  exact Service.authenticate_relayed hserver hname (h _ _ _ _)

theorem processorService_bridge {answer : (q : Backend LedgerNode GspNode) → q.Answer}
    {d : Decision}
    (h : ∀ node name app password,
      answer (.gsp node (.verifyAuth name app password)) = .ok ⟨upToDate, none, d⟩) :
    (Bridge.run processorService 0 (Bridge.frame (utf8 "auth:domob:chat:pwd"))).run answer =
      { output := Bridge.answer d.valid, failure := none, events := [.decision d.state] } := by
  have hlines : Bridge.lines (Bridge.frame (utf8 "auth:domob:chat:pwd")) =
      [.ok "auth:domob:chat:pwd"] := by
    cbv
  have hline : Bridge.Command.parse "auth:domob:chat:pwd" = .auth "domob" "chat" "pwd" := by
    cbv
  exact Bridge.run_of_decided hlines hline (processorService_authenticate h)

/-- The decision is the processor's, and is not consistent. -/
theorem Service.authenticate_decided_contradictory :
    ((processorService.authenticate 0 "domob" "chat" "pwd").runIn
      (fun q s => (contradictoryAnswer q, s)) ()).result.outcome = .ok contradictoryDecision ∧
    ∃ known name node e, processorService.servers.get? "chat" = some known ∧
      ChatName.decode "domob" = .ok name ∧
      ⟨.gsp node (.verifyAuth name known.app "pwd"), .ok e⟩ ∈
        ((processorService.authenticate 0 "domob" "chat" "pwd").runIn
          (fun q s => (contradictoryAnswer q, s)) ()).answers ∧
      e.state = upToDate ∧ e.data = contradictoryDecision := by
  have h : ((processorService.authenticate 0 "domob" "chat" "pwd").runIn
      (fun q s => (contradictoryAnswer q, s)) ()).result.outcome = .ok contradictoryDecision := by
    rw [Inquiry.runIn_fixed, processorService_authenticate contradictoryAnswer_verifyAuth]
    rfl
  obtain ⟨horigin, -⟩ := Service.authenticate_decided processorService 0
    (fun q s => (contradictoryAnswer q, s)) () "domob" "chat" "pwd" h
  exact ⟨h, horigin.resolve_left contradictoryDecision_not_isConsistent⟩

/-- Not every decision is consistent: the service takes over what the processor replies, the bridge
lets the user in, and what is counted is that the login has expired. -/
theorem Service.authenticate_contradictory :
    ((Bridge.run processorService 0 (Bridge.frame (utf8 "auth:domob:chat:pwd"))).via
      Backend.overHttp).run (fun _ => .response 200 (utf8 contradictoryBody)) =
        { output := Bridge.answer true, failure := none, events := [.decision .expired] } ∧
    ¬ ∀ (service : Service LedgerNode GspNode) (now : Int64) (reply : Http.Request → Http.Reply)
      (chat server password : String) (d : Decision),
      (((service.authenticate now chat server password).via Backend.overHttp).run reply).outcome =
        .ok d → d.IsConsistent := by
  constructor
  · rw [Inquiry.run_via]
    exact processorService_bridge contradictoryAnswer_verifyAuth
  · intro hall
    have hdecided : (((processorService.authenticate 0 "domob" "chat" "pwd").via
        Backend.overHttp).run fun _ => .response 200 (utf8 contradictoryBody)).outcome =
        .ok contradictoryDecision := by
      rw [Inquiry.run_via]
      exact congrArg Report.outcome (processorService_authenticate contradictoryAnswer_verifyAuth)
    exact contradictoryDecision_not_isConsistent (hall _ _ _ _ _ _ _ hdecided)

end LedgerLogin
