import LedgerLogin.Abi
import LedgerLogin.Backend
import LedgerLogin.Rpc.Call
import LedgerLogin.Rpc.Hexadecimal

/-!
# Backends behind nodes

A ledger is read by calling view functions of its contracts at the latest block, through a node. Of
the contracts only the one for delegations is configured; the address of the accounts contract and
the chain id are asked for once, on connecting. An error that the node reports for a call of a
function is named for the function.

A game-state processor is a node itself.
-/

namespace LedgerLogin

open Http (Endpoint)

/-- A ledger behind a node. -/
structure LedgerNode where
  endpoint : Endpoint
  chainId : UInt64
  /-- The contract that access is delegated in. -/
  delegation : Address
  /-- The contract that names are registered in. -/
  accounts : Address
  deriving DecidableEq, Repr

namespace LedgerNode

/-- The parameters of a call of a function: the call, and the block it is made at. -/
def callParams (contract : Address) (data : Bytes) : Json :=
  .array [Json.ofMembers [("to", .string contract.lower),
    ("data", .string ("0x" ++ Hex.encode data))], .string "latest"]

/-- An error of a node with the method named for the function that was called. -/
def nameError (signature : String) : TransportError → TransportError
  | .rpc _ code message => .rpc signature code message
  | e => e

/-- The result of a function, read from what the node gave for its call. -/
def viewResult {α : Type} (signature : String)
    (decode : String → Bytes → Except TransportError α) (outcome : Except TransportError Json) :
    Except TransportError α := do
  let result ← outcome.mapError (nameError signature)
  decode signature (← Hexadecimal.bytes signature result)

def view {α : Type} (endpoint : Endpoint) (contract : Address) (signature : String)
    (args : List Abi.Argument) (decode : String → Bytes → Except TransportError α) :
    HttpInquiry α :=
  ExceptT.mk do
    let data := Abi.encodeCall signature args
    let outcome ← (Rpc.call endpoint "eth_call" (callParams contract data)).run
    return viewResult signature decode outcome

def chainId? (endpoint : Endpoint) : HttpInquiry UInt64 :=
  ExceptT.mk do
    let outcome ← (Rpc.call endpoint "eth_chainId" (.array [])).run
    return outcome.bind (Hexadecimal.quantity "eth_chainId")

/-- Connects to the ledger behind a node. -/
def connect (endpoint : Endpoint) (delegation : Address) : HttpInquiry LedgerNode := do
  let chainId ← chainId? endpoint
  let accounts ← view endpoint delegation "accounts()" [] Abi.decodeAddress
  return { endpoint, chainId, delegation, accounts }

/-- What signatures for the ledger are bound to. -/
def domain (n : LedgerNode) : SigningDomain := ⟨n.chainId, n.delegation⟩

/-- The name of the node as a source of answers. -/
def title (n : LedgerNode) : String := s!"evm:{n.endpoint.url}"

def viewAccounts {α : Type} (n : LedgerNode) (signature : String) (args : List Abi.Argument)
    (decode : String → Bytes → Except TransportError α) : HttpInquiry α :=
  view n.endpoint n.accounts signature args decode

def read (n : LedgerNode) : (r : LedgerRead) → HttpInquiry r.Result
  | .nameExists ns name =>
    n.viewAccounts "exists(string,string)" [.text ns, .text name] Abi.decodeBool
  | .tokenOf ns name =>
    n.viewAccounts "tokenIdForName(string,string)" [.text ns, .text name] Abi.decodeWord
  | .tokenExists token => n.viewAccounts "exists(uint256)" [.word token] Abi.decodeBool
  | .approved token => n.viewAccounts "getApproved(uint256)" [.word token] Abi.decodeAddress
  | .owner token => n.viewAccounts "ownerOf(uint256)" [.word token] Abi.decodeAddress
  | .approvedForAll owner operator =>
    n.viewAccounts "isApprovedForAll(address,address)" [.address owner, .address operator]
      Abi.decodeBool
  | .hasAccess ns name path operator time =>
    view n.endpoint n.delegation "hasAccess(string,string,string[],address,uint256)"
      [.text ns, .text name, .texts path, .address operator, .uint time] Abi.decodeBool

end LedgerNode

/-- A game-state processor that is a node. -/
structure GspNode where
  endpoint : Endpoint
  deriving DecidableEq, Repr

namespace GspNode

def title (n : GspNode) : String := s!"xid:{n.endpoint.url}"

def callTyped {α : Type} (n : GspNode) (method : String) (params : Json)
    (read : Json.Document → Except Json.Fault α) : HttpInquiry α :=
  ExceptT.mk do
    let outcome ← (Rpc.call n.endpoint method params).run
    return outcome.bind (Rpc.typed method read)

def read (n : GspNode) : (r : GspRead) → HttpInquiry r.Result
  | .verifyAuth name app password =>
    n.callTyped "verifyauth"
      (Json.ofMembers [("name", .string name), ("application", .string app),
        ("password", .string password)])
      (Envelope.read Decision.read)
  | .nameState name =>
    n.callTyped "getnamestate" (Json.ofMembers [("name", .string name)])
      (Envelope.read NameState.read)

end GspNode

/-- Reads from backends that are nodes. -/
def Backend.overHttp : (q : Backend LedgerNode GspNode) →
    Inquiry Http.Request (fun _ => Http.Reply) q.Answer
  | .ledger node r => (node.read r).run
  | .gsp node r => (node.read r).run

end LedgerLogin
