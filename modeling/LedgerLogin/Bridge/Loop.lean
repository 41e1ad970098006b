import LedgerLogin.Bridge.Command
import LedgerLogin.Bridge.Frame
import LedgerLogin.Service

/-!
# The bridge to a chat server

The bridge answers the commands of a chat server one after the other until the input ends. What is
denied is answered with a denial, and so are commands that cannot be served and servers that are not
configured. A failure to decide ends the bridge without an answer, so that the chat server sees the
bridge go rather than a user denied.
-/

namespace LedgerLogin.Bridge

variable {L G : Type}

/-- Why a bridge ended before its input did. -/
inductive Failure where
  | frame (cause : FrameError)
  | backend (cause : VerifyError)
  deriving DecidableEq, Repr

namespace Failure

def message : Failure → String
  | frame cause => cause.message
  | backend _ => "verification backend failed"

def chain : Failure → List String
  | frame cause => cause.chain
  | backend cause => (backend cause).message :: cause.chain

end Failure

/-- What a bridge has done when it ends. -/
structure Outcome where
  output : Bytes := []
  failure : Option Failure := none
  events : List Metrics.Event := []

/-- An outcome that starts with an answer and what was counted for it. -/
def Outcome.answering (accepted : Bool) (events : List Metrics.Event) (o : Outcome) : Outcome :=
  { o with output := answer accepted ++ o.output, events := events ++ o.events }

/-- The answer to be given after an outcome, unless it is fatal. -/
def tolerate : Except VerifyError Bool → Except VerifyError Bool
  | .ok accepted => .ok accepted
  | .error e => if e.isFatal then .error e else .ok false

def handle (s : Service L G) (now : Int64) :
    Command → Inquiry (Backend L G) Backend.Answer (Report Bool)
  | .auth name server password => do
    let report ← s.authenticate now name server password
    return ⟨tolerate (report.outcome.map (·.valid)), report.events⟩
  | .isUser name server => do
    let report ← s.isUser name server
    return ⟨tolerate report.outcome, report.events⟩
  | .unsupported _ => return .answered false
  | .invalid _ => return .answered false

def serve (s : Service L G) (now : Int64) :
    List (Except FrameError String) → Inquiry (Backend L G) Backend.Answer Outcome
  | [] => return {}
  | .error e :: _ => return { failure := some (.frame e) }
  | .ok line :: rest => do
    let report ← handle s now (Command.parse line)
    match report.outcome with
    | .error e => return { failure := some (.backend e), events := report.events }
    | .ok accepted => return (← serve s now rest).answering accepted report.events

def run (s : Service L G) (now : Int64) (input : Bytes) :
    Inquiry (Backend L G) Backend.Answer Outcome :=
  serve s now (lines input)

/-- The name whose state is asked for to see how far a processor is synchronized. -/
def probedName : String := "xaya"

/-- Asks every processor of a service how far it is synchronized, in the order of the servers. -/
def probe (s : Service L G) : Verification L G Unit :=
  s.servers.entries.forM fun server => server.2.authenticators.forM fun
    | .gsp node => do
      let _ ← Authenticator.gspProbe node probedName
    | .delegation _ _ => return

end LedgerLogin.Bridge
