import LedgerLogin.Ledger.Read

/-!
# Ledgers and their history

A ledger in memory is what a history of events leaves: registered names with an owner and at most
one approved address each, operators who are approved for everything that an owner owns, and
delegations of paths, which may expire. Owners have access to every path of their own names.

A ledger can also be told to fail, and then answers every question with that failure.
-/

namespace LedgerLogin

/-- A registered name's holder, and the address that is approved for it. -/
structure Account where
  owner : Address
  approved : Address := Address.zero
  deriving DecidableEq, Repr

/-- The delegation of a path, and of everything below it, to an operator. -/
structure Grant where
  ns : String
  name : String
  path : List String
  operator : Address
  expiry : Option UInt64 := none
  deriving DecidableEq, Repr

/-- Whether a grant covers a question for access. It still does at its expiry. -/
def Grant.covers (g : Grant) (ns name : String) (path : List String) (operator : Address)
    (time : UInt64) : Bool :=
  g.ns = ns && g.name = name && g.operator = operator && g.path.isPrefixOf path
    && g.expiry.all (time ≤ ·)

/-- What can happen on a ledger. -/
inductive LedgerEvent where
  /-- A name is registered, anew also where it was registered before. -/
  | register (name : String) (owner : Address)
  | transfer (name : String) (owner : Address)
  /-- An address is approved for a registered name, in place of any other. -/
  | approve (name : String) (operator : Address)
  /-- An operator is approved for all that an owner owns, or no longer so. -/
  | setApprovalForAll (owner operator : Address) (approved : Bool)
  | grant (name : String) (path : List String) (operator : Address) (expiry : Option UInt64)
  /-- An operator loses all that was delegated on a name. -/
  | revoke (name : String) (operator : Address)
  deriving DecidableEq, Repr

structure Ledger where
  /-- What signatures for this ledger are bound to. -/
  domain : SigningDomain
  accounts : Token → Option Account := fun _ => none
  /-- Whether an operator is approved for all that an owner owns. -/
  operators : Address → Address → Bool := fun _ _ => false
  grants : List Grant := []
  failure : Option TransportError := none

namespace Ledger

/-- The token of a name: the hash of the namespace with its length before it, and of the name. -/
def tokenOf (ns name : String) : Token :=
  keccak256 (bigEndian 8 (utf8 ns).length ++ utf8 ns ++ utf8 name)

def playerToken (name : String) : Token := tokenOf playerNamespace name

def setAccount (l : Ledger) (name : String) (account : Option Account) : Ledger :=
  { l with accounts := fun t => if t = playerToken name then account else l.accounts t }

/-- The ledger after an event. A transfer ends the approval for the name; transfers and approvals
of names that are not registered change nothing. -/
def apply (l : Ledger) : LedgerEvent → Ledger
  | .register name owner => l.setAccount name (some { owner })
  | .transfer name owner =>
    l.setAccount name ((l.accounts (playerToken name)).map fun _ => { owner })
  | .approve name operator =>
    l.setAccount name ((l.accounts (playerToken name)).map ({ · with approved := operator }))
  | .setApprovalForAll owner operator approved =>
    { l with
      operators := fun o p => if o = owner ∧ p = operator then approved else l.operators o p }
  | .grant name path operator expiry =>
    { l with grants := l.grants ++ [{ ns := playerNamespace, name, path, operator, expiry }] }
  | .revoke name operator =>
    { l with grants := l.grants.filter fun g => !(g.name = name && g.operator = operator) }

def replay (l : Ledger) (history : List LedgerEvent) : Ledger := history.foldl apply l

/-- The answer that the contracts give when they are asked for the owner of no name. -/
def noOwner : TransportError :=
  .rpc "ownerOf" 3 "execution reverted: ERC721: invalid token ID"

def hasAccess (l : Ledger) (ns name : String) (path : List String) (operator : Address)
    (time : UInt64) : Bool :=
  ((l.accounts (tokenOf ns name)).any fun a => a.owner = operator)
    || l.grants.any (·.covers ns name path operator time)

/-- The answer of the contracts. -/
def lookup (l : Ledger) : (r : LedgerRead) → r.Answer
  | .nameExists ns name => .ok (l.accounts (tokenOf ns name)).isSome
  | .tokenOf ns name => .ok (tokenOf ns name)
  | .tokenExists token => .ok (l.accounts token).isSome
  | .approved token => .ok (((l.accounts token).map (·.approved)).getD Address.zero)
  | .owner token =>
    match l.accounts token with
    | some a => .ok a.owner
    | none => .error noOwner
  | .approvedForAll owner operator => .ok (l.operators owner operator)
  | .hasAccess ns name path operator time => .ok (l.hasAccess ns name path operator time)

/-- The answer of the ledger: its failure, if it was told to fail. -/
def answer (l : Ledger) (r : LedgerRead) : r.Answer :=
  match l.failure with
  | some e => .error e
  | none => l.lookup r

def signingDomain (l : Ledger) : Except TransportError SigningDomain :=
  match l.failure with
  | some e => .error e
  | none => .ok l.domain

end Ledger

end LedgerLogin
