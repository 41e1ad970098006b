import LedgerLogin.Decision
import LedgerLogin.Failure

/-!
# Errors of the decision API

An error is a status, a code and a message, and for a backend with an old state also the decision
that would have said so. What went wrong inside, or between the service and its backends, is not
told to the client.
-/

namespace LedgerLogin.Api

/-- Why a request is not answered. -/
inductive Error where
  | notFound (what : String)
  /-- The request can be read, but makes no sense. -/
  | validation (reason : String)
  /-- The request cannot be read. -/
  | badRequest (reason : String)
  | internal (reason : String)
  | backend (reason : String)
  | notUpToDate (state : String)
  deriving DecidableEq, Repr

namespace Error

/-- The error in words, with all that is known. -/
def message : Error → String
  | notFound what => s!"not found: {what}"
  | validation reason => s!"validation error: {reason}"
  | badRequest reason => s!"bad request: {reason}"
  | internal reason => s!"internal error: {reason}"
  | backend reason => s!"upstream error: {reason}"
  | notUpToDate state => s!"backend state is {state}"

/-- What the client is told. -/
def publicMessage : Error → String
  | internal _ => "An internal error occurred"
  | backend _ => "An upstream service error occurred"
  | e => e.message

def status : Error → Nat
  | notFound _ => 404
  | validation _ => 422
  | badRequest _ => 422
  | internal _ => 500
  | backend _ => 502
  | notUpToDate _ => 503

def code : Error → String
  | notFound _ => "NOT_FOUND"
  | validation _ => "VALIDATION_ERROR"
  | badRequest _ => "BAD_REQUEST"
  | internal _ => "INTERNAL_ERROR"
  | backend _ => "UPSTREAM_ERROR"
  | notUpToDate _ => "NOT_UP_TO_DATE"

/-- What the client is told beside the message. -/
def details : Error → Option Json
  | notUpToDate _ => some (Decision.bare .notUpToDate).toJson
  | _ => none

def ofVerifyError : VerifyError → Error
  | .unknownServer server => notFound s!"server {server} is not configured"
  | .notUpToDate state => notUpToDate state
  | .transport cause => backend cause.message

end Error

structure ErrorBody where
  code : String
  message : String
  details : Option Json := none

namespace ErrorBody

def ofError (e : Error) : ErrorBody := ⟨e.code, e.publicMessage, e.details⟩

/-- The body as JSON; without details there is no member for them. -/
def toJson (b : ErrorBody) : Json :=
  Json.ofMembers [("error", Json.ofMembers ([("code", .string b.code),
    ("message", .string b.message)] ++ (b.details.map fun d => ("details", d)).toList))]

/-- Reads a value that stands inside two containers. -/
def readDetails (d : Json.Document) : Except Json.Fault Json :=
  match d.toJson? 2 with
  | some j => .ok j
  | none => .error .noValue

def read : Json.Document → Except Json.Fault ErrorBody :=
  Json.Document.asRecord "struct ErrorBody" ["error"] false fun r =>
    r.required "error" (Json.Document.asRecord "struct ErrorDetail" ["code", "message", "details"]
      false fun r =>
        ErrorBody.mk <$> r.required "code" Json.Document.asString
          <*> r.required "message" Json.Document.asString
          <*> r.nullable "details" readDetails)

end ErrorBody

end LedgerLogin.Api
