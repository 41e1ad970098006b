/-!
# Failures

A denial is a decision and not a failure. Failures are the conditions under which nothing can be
decided: a backend that gives no usable answer, a backend that says itself that its state is old,
and a server that nobody configured. The first two must stop a chat server's bridge; the last one
is answered as a denial there, since it is the client who names the server.
-/

namespace LedgerLogin

/-- Why a read from a backend has no answer. -/
inductive TransportError where
  /-- The endpoint was not reached, or refused. -/
  | unavailable (endpoint reason : String)
  | timedOut (endpoint : String)
  /-- The endpoint answered with an error of its own. -/
  | rpc (method : String) (code : Int64) (message : String)
  /-- The endpoint answered with something else than what was asked for. -/
  | invalidResponse (method reason : String)
  /-- There is nothing to run the request on. -/
  | noRuntime
  deriving DecidableEq, Repr

def TransportError.message : TransportError → String
  | unavailable endpoint reason => s!"{endpoint} unavailable: {reason}"
  | timedOut endpoint => s!"{endpoint} timed out"
  | rpc method code message => s!"RPC error {code} from {method}: {message}"
  | invalidResponse method reason => s!"invalid response to {method}: {reason}"
  | noRuntime => "no async runtime available"

/-- Why there is no decision. -/
inductive VerifyError where
  | transport (cause : TransportError)
  /-- A backend's state is old; `state` is what it says about it. -/
  | notUpToDate (state : String)
  | unknownServer (server : String)
  deriving DecidableEq, Repr

namespace VerifyError

def message : VerifyError → String
  | transport cause => s!"transport failure: {cause.message}"
  | notUpToDate state => s!"backend is not up-to-date: {state}"
  | unknownServer server => s!"server {server} is not configured for xidauth"

/-- Whether the error must stop a bridge. -/
def isFatal : VerifyError → Bool
  | unknownServer _ => false
  | _ => true

def chain : VerifyError → List String
  | transport cause => [(transport cause).message, cause.message]
  | e => [e.message]

end VerifyError

end LedgerLogin
