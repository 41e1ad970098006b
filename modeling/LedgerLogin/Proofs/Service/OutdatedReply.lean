import LedgerLogin.Proofs.Rpc.GspNode
import LedgerLogin.Proofs.Service.Consistency
import Mathlib

/-!
# Replies with an old state

A processor replies with an object whose state is old. Then there is no decision: the processor by
itself, a service that meets the reply among others, the bridge and the API all end with the same
error (`Service.outdated_reply`). The error is the state if the rest of the object can be read. If
not it is an invalid reply, so that the state of a processor that sends no data with it is not told
(`Service.outdated_reply_unreadable`).
-/

namespace LedgerLogin

variable {σ : Type} {w : World σ fun _ : Http.Request => Http.Reply} {s : σ}
  {service : Service LedgerNode GspNode} {now : Int64} {chat server password : String}
  {members : List (String × Json)} {state : String} {e : VerifyError}

open Authenticator (gspAuthenticate gspIsUser gspProbe)

/-! ## Who fails -/

/-- A login over HTTP fails with an error, for a bridge and for the API too. -/
structure Service.LoginFails (service : Service LedgerNode GspNode)
    (w : World σ fun _ : Http.Request => Http.Reply) (s : σ) (now : Int64)
    (chat server password : String) (e : VerifyError) : Prop where
  report : (((service.authenticate now chat server password).via Backend.overHttp).runIn w
    s).result = .failed e
  bridge : ∀ line rest, Bridge.Command.parse line = .auth chat server password →
    (((Bridge.serve service now (.ok line :: rest)).via Backend.overHttp).runIn w s).result =
      { failure := some (.backend e), events := [.ofError e] }
  api : ∀ metrics request, request.path = "/v1/verify" → request.method = "POST" →
    request.record Api.VerifyRequest.read Api.VerifyRequest.check = .ok ⟨server, chat, password⟩ →
    (((Api.respond service metrics now request).via Backend.overHttp).runIn w s).result =
      (.ofError (Api.Error.ofVerifyError e), [.ofError e])

structure Service.QuestionFails (service : Service LedgerNode GspNode)
    (w : World σ fun _ : Http.Request => Http.Reply) (s : σ) (chat server : String)
    (e : VerifyError) : Prop where
  report : (((service.isUser chat server).via Backend.overHttp).runIn w s).result = .failed e
  bridge : ∀ now line rest, Bridge.Command.parse line = .isUser chat server →
    (((Bridge.serve service now (.ok line :: rest)).via Backend.overHttp).runIn w s).result =
      { failure := some (.backend e), events := [.ofError e] }
  api : ∀ metrics now request, request.path = "/v1/isuser" → request.method = "POST" →
    request.record Api.IsUserRequest.read Api.IsUserRequest.check = .ok ⟨server, chat⟩ →
    (((Api.respond service metrics now request).via Backend.overHttp).runIn w s).result =
      (.ofError (Api.Error.ofVerifyError e), [.ofError e])

theorem Service.loginFails_of_fatal (he : e.isFatal = true)
    (h : ((service.authenticate now chat server password).runIn (w.through Backend.overHttp)
      s).result = .failed e) : service.LoginFails w s now chat server password e where
  report := by rw [(Inquiry.runIn_via _ _ _ _).1, h]
  bridge line rest hline := by
    rw [(Inquiry.runIn_via _ _ _ _).1]
    exact Bridge.runIn_serve_auth_of_fatal hline he h rest
  api metrics request hpath hmethod hrecord := by
    rw [(Inquiry.runIn_via _ _ _ _).1,
      Api.runIn_respond_verify service metrics now _ s hpath hmethod hrecord, h]
    rfl

theorem Service.questionFails_of_fatal (he : e.isFatal = true)
    (h : ((service.isUser chat server).runIn (w.through Backend.overHttp) s).result = .failed e) :
    service.QuestionFails w s chat server e where
  report := by rw [(Inquiry.runIn_via _ _ _ _).1, h]
  bridge now line rest hline := by
    rw [(Inquiry.runIn_via _ _ _ _).1]
    exact Bridge.runIn_serve_isUser_of_fatal hline he h rest
  api metrics now request hpath hmethod hrecord := by
    rw [(Inquiry.runIn_via _ _ _ _).1,
      Api.runIn_respond_isUser service metrics now _ s hpath hmethod hrecord, h]
    rfl

theorem VerifyError.OfOutdated.status {readable : Prop} {method : String}
    (h : e.OfOutdated readable method state) :
    (readable → (Api.Error.ofVerifyError e).status = 503) ∧
    (¬ readable → (Api.Error.ofVerifyError e).status = 502) := by
  constructor
  · intro hreadable
    rw [h.stale hreadable]
    rfl
  · intro hreadable
    obtain ⟨reason, rfl⟩ := h.invalid hreadable
    rfl

/-! ## Services that meet a reply with an old state -/

section
variable {z : (_ : Http.Request) × Http.Reply}
  (hreply : z.2.Returns (.object members))
  (hstate : members.lookup "state" = some (.string state)) (hold : state ≠ upToDate)
include hreply hstate hold

theorem Service.loginFails_of_outdated
    (hz : z ∈ (((service.authenticate now chat server password).via Backend.overHttp).runIn w
      s).answers)
    (hmethod : z.1.body.member? "method" = some (.string "verifyauth")) :
    ∃ e : VerifyError, e.OfOutdated (Envelope.Readable Decision.read members) "verifyauth" state ∧
      service.LoginFails w s now chat server password e := by
  obtain ⟨r, e, hr, hof, hresult⟩ := Backend.exists_result_of_outdated
    (service.authenticate_stopsAt now chat server password) hz hmethod (by decide) hreply hstate hold
  cases r with
  | verifyAuth _ _ _ => exact ⟨e, hof, loginFails_of_fatal hof.isFatal hresult⟩
  | nameState _ => exact absurd (show "getnamestate" = "verifyauth" from hr) (by decide)

theorem Service.questionFails_of_outdated
    (hz : z ∈ (((service.isUser chat server).via Backend.overHttp).runIn w s).answers)
    (hmethod : z.1.body.member? "method" = some (.string "getnamestate")) :
    ∃ e : VerifyError, e.OfOutdated (Envelope.Readable NameState.read members) "getnamestate" state ∧
      service.QuestionFails w s chat server e := by
  obtain ⟨r, e, hr, hof, hresult⟩ := Backend.exists_result_of_outdated
    (service.isUser_stopsAt chat server) hz hmethod (by decide) hreply hstate hold
  cases r with
  | verifyAuth _ _ _ => exact absurd (show "verifyauth" = "getnamestate" from hr) (by decide)
  | nameState _ => exact ⟨e, hof, questionFails_of_fatal hof.isFatal hresult⟩

end

/-- A reply with an old state is an error, and never a decision: for the processor that replied, and
for every service that meets the reply on its way, with its bridge and its API. If the reply can be
read, the error is that state, which a probe gives as well; if not, it is an invalid reply. -/
theorem Service.outdated_reply (hstate : members.lookup "state" = some (.string state))
    (hold : state ≠ upToDate) (w : World σ fun _ : Http.Request => Http.Reply) (s : σ) :
    (∀ (node : GspNode) (name app password : String),
      (w (node.request (.verifyAuth name app password)) s).1.Returns (.object members) →
      ∃ e : VerifyError, e.OfOutdated (Envelope.Readable Decision.read members) "verifyauth" state ∧
        (((gspAuthenticate node name app password).run.via Backend.overHttp).runIn w s).result =
          .error e) ∧
    (∀ (node : GspNode) (name : String),
      (w (node.request (.nameState name)) s).1.Returns (.object members) →
      let probed := (((gspProbe node name).run.via Backend.overHttp).runIn w s).result
      (∀ app, ∃ e : VerifyError,
        e.OfOutdated (Envelope.Readable NameState.read members) "getnamestate" state ∧
        (((gspIsUser node name app).run.via Backend.overHttp).runIn w s).result = .error e) ∧
      (Envelope.Readable NameState.read members → ∃ height,
        Envelope.height? (members.lookup "height") = some height ∧ probed = .ok (state, height)) ∧
      (¬ Envelope.Readable NameState.read members → ∃ reason,
        probed = .error (.transport (.invalidResponse "getnamestate" reason)))) ∧
    (∀ (service : Service LedgerNode GspNode) (now : Int64) (chat server password : String),
      ∀ z ∈ (((service.authenticate now chat server password).via Backend.overHttp).runIn w s).answers,
      z.1.body.member? "method" = some (.string "verifyauth") → z.2.Returns (.object members) →
      ∃ e : VerifyError, e.OfOutdated (Envelope.Readable Decision.read members) "verifyauth" state ∧
        service.LoginFails w s now chat server password e ∧
        (Envelope.Readable Decision.read members → (Api.Error.ofVerifyError e).status = 503) ∧
        (¬ Envelope.Readable Decision.read members → (Api.Error.ofVerifyError e).status = 502)) ∧
    (∀ (service : Service LedgerNode GspNode) (chat server : String),
      ∀ z ∈ (((service.isUser chat server).via Backend.overHttp).runIn w s).answers,
      z.1.body.member? "method" = some (.string "getnamestate") → z.2.Returns (.object members) →
      ∃ e : VerifyError, e.OfOutdated (Envelope.Readable NameState.read members) "getnamestate" state ∧
        service.QuestionFails w s chat server e ∧
        (Envelope.Readable NameState.read members → (Api.Error.ofVerifyError e).status = 503) ∧
        (¬ Envelope.Readable NameState.read members → (Api.Error.ofVerifyError e).status = 502)) := by
  refine ⟨?_, ?_, ?_, ?_⟩
  · intro node name app password hreply
    exact Authenticator.gspAuthenticate_outdated hstate hold hreply
  · intro node name hreply probed
    exact ⟨Authenticator.gspIsUser_outdated hstate hold hreply,
      Authenticator.gspProbe_returned hreply hstate⟩
  · intro service now chat server password z hz hmethod hreply
    obtain ⟨e, hof, hfails⟩ := loginFails_of_outdated hreply hstate hold hz hmethod
    exact ⟨e, hof, hfails, hof.status⟩
  · intro service chat server z hz hmethod hreply
    obtain ⟨e, hof, hfails⟩ := questionFails_of_outdated hreply hstate hold hz hmethod
    exact ⟨e, hof, hfails, hof.status⟩

/-! ## Replies with and without data -/

/-- The result of a processor that is catching up, with the data that goes with it. -/
def catchingUpMembers (data : Json) : List (String × Json) :=
  [("data", data), ("state", .string "catching-up")]

/-- A reply with a denial beside the old state. -/
def readableReply : Http.Reply := .response 200 (utf8
  "\x7b\"result\":\x7b\"state\":\"catching-up\",\"data\":\x7b\"valid\":false,\"state\":\"malformed\"\x7d\x7d\x7d")

/-- A reply with nothing but the old state. -/
def unreadableReply : Http.Reply := .response 200 (utf8
  "\x7b\"result\":\x7b\"state\":\"catching-up\",\"data\":null\x7d\x7d")

set_option maxRecDepth 2000 in
theorem readableReply_returns : readableReply.Returns (.object (catchingUpMembers
    (Json.ofMembers [("valid", .bool false), ("state", .string "malformed")]))) := by
  refine ⟨rfl, Json.ofMembers [("result", _)], ?_, rfl, rfl⟩
  cbv

theorem unreadableReply_returns : unreadableReply.Returns (.object (catchingUpMembers .null)) := by
  refine ⟨rfl, Json.ofMembers [("result", _)], ?_, rfl, rfl⟩
  cbv

def onlyProcessor : GspNode := ⟨⟨"http://gsp", 30⟩⟩

theorem processorService_asks :
    ∃ next, (processorService.authenticate 0 "domob" "chat" "pwd").via Backend.overHttp =
      .ask (onlyProcessor.request (.verifyAuth "domob" "app" "pwd")) next := by
  have hserver : processorService.servers.get? "chat" = some ⟨"app", [.gsp onlyProcessor]⟩ := by
    decide
  have hname : ChatName.decode "domob" = .ok "domob" := by cbv
  unfold Service.authenticate
  simp only [hserver, hname]
  exact ⟨_, rfl⟩

/-- A processor that is catching up denies a login, and the login fails for its state. -/
theorem Service.outdated_reply_readable :
    let w : World Unit fun _ : Http.Request => Http.Reply := fun _ s => (readableReply, s)
    (((gspAuthenticate onlyProcessor "domob" "app" "pwd").run.via Backend.overHttp).runIn w
      ()).result = .error (.notUpToDate "catching-up") ∧
    processorService.LoginFails w () 0 "domob" "chat" "pwd" (.notUpToDate "catching-up") := by
  intro w
  have hreadable : Envelope.Readable Decision.read (catchingUpMembers
      (Json.ofMembers [("valid", .bool false), ("state", .string "malformed")])) :=
    ⟨rfl, _, Decision.bare .malformed, rfl, by cbv⟩
  have hstate : (catchingUpMembers (Json.ofMembers [("valid", .bool false),
      ("state", .string "malformed")])).lookup "state" = some (.string "catching-up") := rfl
  obtain ⟨halone, -, hlogin, -⟩ := Service.outdated_reply hstate (by decide) w ()
  constructor
  · obtain ⟨e, hof, hresult⟩ := halone onlyProcessor "domob" "app" "pwd" readableReply_returns
    rw [hresult, hof.stale hreadable]
  · obtain ⟨next, hasks⟩ := processorService_asks
    have hmem : ⟨onlyProcessor.request (.verifyAuth "domob" "app" "pwd"), readableReply⟩ ∈
        (((processorService.authenticate 0 "domob" "chat" "pwd").via Backend.overHttp).runIn w
          ()).answers := by
      rw [hasks]
      exact List.mem_cons_self
    obtain ⟨e, hof, hfails, -⟩ := hlogin processorService 0 "domob" "chat" "pwd" _ hmem
      (Rpc.member?_method _ _ _) readableReply_returns
    rw [← hof.stale hreadable]
    exact hfails

theorem ofReply_unreadable :
    GspRead.ofReply onlyProcessor.endpoint (.verifyAuth "domob" "app" "pwd") unreadableReply =
      .error (.invalidResponse "verifyauth"
        (Json.Fault.wrongType "null" "struct Decision").message) ∧
    GspRead.ofReply onlyProcessor.endpoint (.nameState "domob") unreadableReply =
      .error (.invalidResponse "getnamestate"
        (Json.Fault.wrongType "null" "struct NameState").message) := by
  have hdecision : Envelope.read Decision.read
      (Json.object (catchingUpMembers .null)).toDocument =
        .error (.wrongType "null" "struct Decision") := by
    cbv
  have hnameState : Envelope.read NameState.read
      (Json.object (catchingUpMembers .null)).toDocument =
        .error (.wrongType "null" "struct NameState") := by
    cbv
  constructor
  · rw [GspRead.ofReply, Rpc.result_of_returns unreadableReply_returns]
    show Rpc.typed "verifyauth" (Envelope.read Decision.read) _ = _
    rw [Rpc.typed, hdecision]
    rfl
  · rw [GspRead.ofReply, Rpc.result_of_returns unreadableReply_returns]
    show Rpc.typed "getnamestate" (Envelope.read NameState.read) _ = _
    rw [Rpc.typed, hnameState]
    rfl

/-- Not every old state is told: without data it is an invalid reply, for the probe too. -/
theorem Service.outdated_reply_unreadable :
    let w : World Unit fun _ : Http.Request => Http.Reply := fun _ s => (unreadableReply, s)
    (((gspAuthenticate onlyProcessor "domob" "app" "pwd").run.via Backend.overHttp).runIn w
      ()).result = .error (.transport (.invalidResponse "verifyauth"
        (Json.Fault.wrongType "null" "struct Decision").message)) ∧
    (((gspProbe onlyProcessor "domob").run.via Backend.overHttp).runIn w ()).result =
      .error (.transport (.invalidResponse "getnamestate"
        (Json.Fault.wrongType "null" "struct NameState").message)) ∧
    ¬ ∀ (node : GspNode) (name app password : String) (reply : Http.Reply)
      (members : List (String × Json)) (state : String), reply.Returns (.object members) →
      members.lookup "state" = some (.string state) → state ≠ upToDate →
      (((gspAuthenticate node name app password).run.via Backend.overHttp).runIn
        (fun _ s => (reply, s)) ()).result = .error (.notUpToDate state) := by
  intro w
  have hauthenticate : (((gspAuthenticate onlyProcessor "domob" "app" "pwd").run.via
      Backend.overHttp).runIn w ()).result = .error (.transport (.invalidResponse "verifyauth"
        (Json.Fault.wrongType "null" "struct Decision").message)) := by
    rw [(Inquiry.runIn_via _ _ _ _).1]
    refine (Authenticator.gspAuthenticate_stopsAt onlyProcessor "domob" "app"
      "pwd").result_of_failure List.mem_cons_self ?_
    rw [Backend.through_gsp]
    exact congrArg (GspRead.failure? _) ofReply_unreadable.1
  have hprobe : (((gspProbe onlyProcessor "domob").run.via Backend.overHttp).runIn w ()).result =
      .error (.transport (.invalidResponse "getnamestate"
        (Json.Fault.wrongType "null" "struct NameState").message)) := by
    rw [(Inquiry.runIn_via _ _ _ _).1, Authenticator.runIn_gspProbe, Backend.through_gsp,
      show GspRead.ofReply _ _ _ = _ from ofReply_unreadable.2]
    rfl
  refine ⟨hauthenticate, hprobe, ?_⟩
  intro hall
  have htold := hall onlyProcessor "domob" "app" "pwd" unreadableReply _ "catching-up"
    unreadableReply_returns rfl (by decide)
  rw [hauthenticate] at htold
  cases htold

end LedgerLogin
