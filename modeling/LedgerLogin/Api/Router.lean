import LedgerLogin.Api.Request
import LedgerLogin.Service

/-!
# The decision API

Answers requests over HTTP: checks of logins and questions for users, which are posted as JSON; two
probes, whether the service lives and whether it has servers; and the counters, if they are kept.
A denial is a response like any other; only failures to decide are errors. With its response every
request gives the events that are to be counted.
-/

namespace LedgerLogin.Api

variable {L G : Type}

structure Response where
  status : Nat
  contentType : Option String := none
  body : String := ""
  deriving DecidableEq, Repr

namespace Response

def text (status : Nat) (body : String) : Response :=
  ⟨status, some "text/plain; charset=utf-8", body⟩

def json (status : Nat) (body : Json) : Response := ⟨status, some "application/json", body.text⟩

def empty (status : Nat) : Response := { status }

def ofError (e : Error) : Response := json e.status (ErrorBody.ofError e).toJson

def ofOutcome {α : Type} (toJson : α → Json) : Except VerifyError α → Response
  | .ok a => json 200 (toJson a)
  | .error e => ofError (Error.ofVerifyError e)

end Response

/-- What the API answers. -/
inductive Route where
  | liveness
  | readiness
  | metrics
  | verify
  | isUser
  deriving DecidableEq, Repr

namespace Route

/-- The route of a path. Without counters there is no route to them. -/
def ofPath? (counting : Bool) (path : String) : Option Route :=
  if path = "/v1/verify" then some verify
  else if path = "/v1/isuser" then some isUser
  else if path = "/health/liveness" then some liveness
  else if path = "/health/readiness" then some readiness
  else if path = "/metrics" ∧ counting then some metrics
  else none

/-- Whether a route is for reading, so that its head can be asked for too. -/
def isRead : Route → Bool
  | verify => false
  | isUser => false
  | _ => true

def allows (route : Route) (method : String) : Bool :=
  if route.isRead then method = "GET" || method = "HEAD" else method = "POST"

end Route

def registeredToJson (registered : Bool) : Json := Json.ofMembers [("registered", .bool registered)]

def readRegistered : Json.Document → Except Json.Fault Bool :=
  Json.Document.asRecord "struct IsUserResponse" ["registered"] false fun r =>
    r.required "registered" Json.Document.asBool

def verify (s : Service L G) (now : Int64) (r : VerifyRequest) :
    Inquiry (Backend L G) Backend.Answer (Response × List Metrics.Event) := do
  let report ← s.authenticate now r.name r.server r.password
  return (.ofOutcome Decision.toJson report.outcome, report.events)

def isUser (s : Service L G) (r : IsUserRequest) :
    Inquiry (Backend L G) Backend.Answer (Response × List Metrics.Event) := do
  let report ← s.isUser r.name r.server
  return (.ofOutcome registeredToJson report.outcome, report.events)

/-- Whether the service can be used: it can if it has any server. -/
def readiness (s : Service L G) : Response :=
  if s.servers.isEmpty then .text 503 "no servers configured" else .text 200 "ready"

def exposition (m : Metrics) : Response :=
  ⟨200, some "text/plain; version=0.0.4; charset=utf-8", m.text⟩

def respondTo (s : Service L G) (metrics : Option Metrics) (now : Int64) (r : Request) :
    Route → Inquiry (Backend L G) Backend.Answer (Response × List Metrics.Event)
  | .liveness => return (.text 200 "ok", [])
  | .readiness => return (readiness s, [])
  | .metrics => return (exposition (metrics.getD {}), [])
  | .verify =>
    match r.record VerifyRequest.read VerifyRequest.check with
    | .ok request => verify s now request
    | .error e => return (.ofError e, [])
  | .isUser =>
    match r.record IsUserRequest.read IsUserRequest.check with
    | .ok request => isUser s request
    | .error e => return (.ofError e, [])

/-- Answers a request. The answer to a request for a head has no body. -/
def respond (s : Service L G) (metrics : Option Metrics) (now : Int64) (r : Request) :
    Inquiry (Backend L G) Backend.Answer (Response × List Metrics.Event) :=
  match Route.ofPath? metrics.isSome r.path with
  | none => return (.empty 404, [])
  | some route =>
    if !route.allows r.method then return (.empty 405, [])
    else do
      let (response, events) ← respondTo s metrics now r route
      return (if r.method = "HEAD" then { response with body := "" } else response, events)

end LedgerLogin.Api
