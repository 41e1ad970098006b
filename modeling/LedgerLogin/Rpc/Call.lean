import LedgerLogin.Failure
import LedgerLogin.Inquiry
import LedgerLogin.Json.Record
import LedgerLogin.Rpc.Http

/-!
# Remote procedure calls

Calls of a node's methods by JSON-RPC. A reply has a result only if its status tells of success, its
body is JSON, it has no error other than null, and it has a result at all; an error counts also
where there is a result beside it. A call is sent once and not repeated.
-/

namespace LedgerLogin

/-- A program that sends requests and reads the replies; the first failure ends it. -/
abbrev HttpInquiry : Type → Type :=
  ExceptT TransportError (Inquiry Http.Request fun _ => Http.Reply)

namespace Rpc

open Http (Endpoint Request Reply)

def request (endpoint : Endpoint) (method : String) (params : Json) : Request where
  endpoint
  body := Json.ofMembers [("jsonrpc", .string "2.0"), ("method", .string method),
    ("params", params), ("id", .ofNat 1)]

/-- The code of an error object: zero if it is no integer of 64 bits with sign. -/
def errorCode (error : Json) : Int64 :=
  match error.member? "code" with
  | some (.number (.integer i)) => (int64? i).getD 0
  | _ => 0

def errorMessage (error : Json) : String :=
  ((error.member? "message").bind Json.asString?).getD "unknown RPC error"

/-- The error in a reply's body; null is none. -/
def error? (body : Json) : Option Json :=
  match body.member? "error" with
  | some .null => none
  | e => e

def resultOfBody (method : String) (body : Json) : Except TransportError Json :=
  match error? body with
  | some e => .error (.rpc method (errorCode e) (errorMessage e))
  | none =>
    match body.member? "result" with
    | some result => .ok result
    | none => .error (.invalidResponse method "missing \x27result\x27 field")

def json? (body : Bytes) : Option Json := do Json.parse? (← ofUtf8? body)

def result (endpoint : Endpoint) (method : String) : Reply → Except TransportError Json
  | .response status body =>
    if Http.isSuccess status then
      match json? body with
      | some body => resultOfBody method body
      | none => .error (.invalidResponse method "invalid JSON: error decoding response body")
    else .error (.unavailable endpoint.url s!"HTTP {status} {Http.phrase status}")
  | .timedOut => .error (.timedOut endpoint.url)
  | .unreachable reason => .error (.unavailable endpoint.url reason)
  | .noRuntime => .error .noRuntime

def call (endpoint : Endpoint) (method : String) (params : Json) : HttpInquiry Json :=
  ExceptT.mk do
    let reply ← Inquiry.query (request endpoint method params)
    return result endpoint method reply

/-- The value of a type in a method's result. -/
def typed {α : Type} (method : String) (read : Json.Document → Except Json.Fault α)
    (result : Json) : Except TransportError α :=
  (read result.toDocument).mapError fun fault => .invalidResponse method fault.message

end Rpc

end LedgerLogin
