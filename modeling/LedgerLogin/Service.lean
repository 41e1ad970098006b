import LedgerLogin.Authenticator
import LedgerLogin.ChatName
import LedgerLogin.Metrics

/-!
# The login service

A service knows servers by name. Each server has an application and a list of authenticators, and
lets a user in if any of them does: they are asked in turn until one accepts or fails to decide.
Users are named by their chat names; a text that is no chat name is the name of no user.

With its outcome every request gives the events that are to be counted.
-/

namespace LedgerLogin

/-- A chat server's application, and how its users are checked. -/
structure Server (L G : Type) where
  app : String
  authenticators : List (Authenticator L G) := []
  deriving DecidableEq, Repr

namespace Server

variable {L G : Type}

/-- The first acceptance of the authenticators, or else the last denial; `last` is the denial before
them. -/
def firstAcceptance (check : Authenticator L G → Verification L G Decision) (last : Decision) :
    List (Authenticator L G) → Verification L G Decision
  | [] => return last
  | a :: rest => do
    let d ← check a
    if d.valid then return d else firstAcceptance check d rest

def authenticate (s : Server L G) (now : Int64) (name password : String) :
    Verification L G Decision :=
  firstAcceptance (fun a => a.authenticate now name s.app password) (Decision.bare .invalidData)
    s.authenticators

def anyKnows (check : Authenticator L G → Verification L G Bool) :
    List (Authenticator L G) → Verification L G Bool
  | [] => return false
  | a :: rest => do if ← check a then return true else anyKnows check rest

def isUser (s : Server L G) (name : String) : Verification L G Bool :=
  anyKnows (fun a => a.isUser name s.app) s.authenticators

end Server

/-- The servers that logins are checked for, by name. -/
structure Service (L G : Type) where
  servers : StringMap (Server L G) := ∅

/-- The outcome of a request, and what is to be counted. -/
structure Report (α : Type) where
  outcome : Except VerifyError α
  events : List Metrics.Event

namespace Report

def failed {α : Type} (e : VerifyError) : Report α := ⟨.error e, [.ofError e]⟩

def decided (d : Decision) : Report Decision := ⟨.ok d, [.decision d.state]⟩

/-- A question for a user that was answered, which is not counted. -/
def answered (b : Bool) : Report Bool := ⟨.ok b, []⟩

def ofOutcome {α : Type} (succeeded : α → Report α) : Except VerifyError α → Report α
  | .ok a => succeeded a
  | .error e => failed e

end Report

namespace Service

variable {L G : Type}

/-- The service with a server added, in place of any other with its name. -/
def insert (s : Service L G) (name : String) (server : Server L G) : Service L G :=
  ⟨s.servers.insert name server⟩

def authenticate (s : Service L G) (now : Int64) (chat server password : String) :
    Inquiry (Backend L G) Backend.Answer (Report Decision) :=
  match s.servers.get? server with
  | none => return .failed (.unknownServer server)
  | some known =>
    match ChatName.decode chat with
    | .error _ => return .decided (Decision.bare .invalidData)
    | .ok name => return .ofOutcome .decided (← (known.authenticate now name password).run)

def isUser (s : Service L G) (chat server : String) :
    Inquiry (Backend L G) Backend.Answer (Report Bool) :=
  match s.servers.get? server with
  | none => return .failed (.unknownServer server)
  | some known =>
    match ChatName.decode chat with
    | .error _ => return .answered false
    | .ok name => return .ofOutcome .answered (← (known.isUser name).run)

end Service

end LedgerLogin
