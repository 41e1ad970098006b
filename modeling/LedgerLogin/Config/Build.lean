import LedgerLogin.Config
import LedgerLogin.Rpc.Node
import LedgerLogin.Service

/-!
# Building a service

A configuration becomes a service when the ledger behind every delegation contract has been
connected, server by server in the order of their names. A server asks its game-state processor
before it resolves signatures. If one ledger cannot be connected, there is no service.
-/

namespace LedgerLogin

open Http (Endpoint)

/-- A service over nodes. -/
abbrev NodeService : Type := Service LedgerNode GspNode

/-- Why a service could not be built: the delegation contract of a server was not connected. -/
structure BuildError where
  server : String
  rpc : String
  cause : TransportError
  deriving DecidableEq, Repr

namespace BuildError

def message (e : BuildError) : String := s!"server {e.server}: delegation contract at {e.rpc}"

def chain (e : BuildError) : List String := [e.message, e.cause.message]

end BuildError

/-- A program that connects to nodes. -/
abbrev Building : Type → Type :=
  ExceptT BuildError (Inquiry Http.Request fun _ => Http.Reply)

namespace ServerConfig

/-- A node with the time that the server gives it. -/
def endpoint (c : ServerConfig) (url : String) : Endpoint :=
  match c.timeout with
  | some timeout => { url, timeout }
  | none => { url }

/-- The check by the game-state processor, if there is one. -/
def gspAuthenticators (c : ServerConfig) : List (Authenticator LedgerNode GspNode) :=
  c.gsp.toList.map fun url => .gsp ⟨c.endpoint url⟩

/-- The check by the delegation contract, with its ledger connected. -/
def connect (c : ServerConfig) (name : String) (d : DelegationConfig) :
    Building (Authenticator LedgerNode GspNode) :=
  ExceptT.mk do
    let outcome ← (LedgerNode.connect (c.endpoint d.rpc) d.contract).run
    return (outcome.map fun node => .delegation node.domain node).mapError
      (BuildError.mk name d.rpc)

def build (name : String) (c : ServerConfig) : Building (Server LedgerNode GspNode) := do
  let delegations ← c.delegation.toList.mapM (c.connect name)
  return ⟨c.app, c.gspAuthenticators ++ delegations⟩

end ServerConfig

def Config.build (c : Config) : Building NodeService := do
  let servers ← c.servers.entries.mapM fun e => return (e.1, ← ServerConfig.build e.1 e.2)
  return ⟨StringMap.ofList servers⟩

end LedgerLogin
