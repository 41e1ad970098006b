import LedgerLogin.Address
import LedgerLogin.Json.Record

/-!
# Configuration of a service

A configuration is a JSON object with a closed record for each server: its application, the node of
a game-state processor, a delegation contract and the node of its ledger, and how many seconds the
nodes have for an answer. At least one server must be there, and every server needs an application
and a way to check logins.
-/

namespace LedgerLogin

def Address.read (d : Json.Document) : Except Json.Fault Address := do
  (Address.parse (← d.asString)).mapError fun e => .other e.message

/-- A delegation contract, and the node that it is read through. -/
structure DelegationConfig where
  rpc : String
  contract : Address
  deriving DecidableEq, Repr

structure ServerConfig where
  app : String
  gsp : Option String := none
  delegation : Option DelegationConfig := none
  /-- How many seconds the nodes have for an answer. -/
  timeout : Option UInt64 := none
  deriving DecidableEq, Repr

structure Config where
  servers : StringMap ServerConfig := ∅
  deriving DecidableEq, Repr

namespace DelegationConfig

def toJson (c : DelegationConfig) : Json :=
  Json.ofMembers [("rpc", .string c.rpc), ("contract", .string c.contract.checksum)]

def read : Json.Document → Except Json.Fault DelegationConfig :=
  Json.Document.asRecord "struct DelegationConfig" ["rpc", "contract"] true fun r =>
    DelegationConfig.mk <$> r.required "rpc" Json.Document.asString
      <*> r.required "contract" Address.read

end DelegationConfig

namespace ServerConfig

/-- Whether there is a way to check logins. -/
def hasAuthenticator (c : ServerConfig) : Bool := c.gsp.isSome || c.delegation.isSome

/-- A member for a value that is there. -/
def optionalMember {α : Type} (key : String) (toJson : α → Json) (a : Option α) :
    List (String × Json) :=
  (a.map fun a => (key, toJson a)).toList

/-- A server as JSON, without members for what it does not have. -/
def toJson (c : ServerConfig) : Json :=
  Json.ofMembers ([("app", .string c.app)]
    ++ optionalMember "xid-gsp" Json.string c.gsp
    ++ optionalMember "delegation-contract" DelegationConfig.toJson c.delegation
    ++ optionalMember "rpc-timeout" (fun n => Json.ofNat n.toNat) c.timeout)

def fields : List String := ["app", "xid-gsp", "delegation-contract", "rpc-timeout"]

def read : Json.Document → Except Json.Fault ServerConfig :=
  Json.Document.asRecord "struct ServerConfig" fields true fun r =>
    ServerConfig.mk <$> r.required "app" Json.Document.asString
      <*> r.optional "xid-gsp" none (Json.Document.asOption Json.Document.asString)
      <*> r.optional "delegation-contract" none (Json.Document.asOption DelegationConfig.read)
      <*> r.optional "rpc-timeout" none (Json.Document.asOption Json.Document.asUInt64)

end ServerConfig

namespace Config

inductive Error where
  /-- The text is not JSON, or not of this form. -/
  | malformed (reason : String)
  | noServers
  | emptyApp (server : String)
  | noAuthenticators (server : String)
  | zeroTimeout (server : String)
  deriving DecidableEq, Repr

namespace Error

def message : Error → String
  | malformed _ => "invalid service config"
  | noServers => "no servers configured"
  | emptyApp server => s!"config for server {server} has an empty app"
  | noAuthenticators server => s!"config for server {server} has no authenticators"
  | zeroTimeout server => s!"config for server {server} has a zero rpc-timeout"

def chain : Error → List String
  | malformed reason => [(malformed reason).message, reason]
  | e => [e.message]

end Error

def toJson (c : Config) : Json := .object (c.servers.entries.map fun e => (e.1, e.2.toJson))

def read (d : Json.Document) : Except Json.Fault Config :=
  (d.asMap ServerConfig.read).map Config.mk

def validateServer (name : String) (c : ServerConfig) : Except Error Unit :=
  if c.app.isEmpty then .error (.emptyApp name)
  else if !c.hasAuthenticator then .error (.noAuthenticators name)
  else if c.timeout = some 0 then .error (.zeroTimeout name)
  else .ok ()

/-- A configuration that can be used. The first server with a fault is named. -/
def validate (c : Config) : Except Error Unit :=
  if c.servers.isEmpty then .error .noServers
  else c.servers.entries.forM fun e => validateServer e.1 e.2

def parse (text : String) : Except Error Config :=
  match Json.Document.parse? text with
  | none => .error (.malformed "not JSON")
  | some d =>
    match read d with
    | .error fault => .error (.malformed fault.message)
    | .ok c => do
      c.validate
      return c

end Config

end LedgerLogin
