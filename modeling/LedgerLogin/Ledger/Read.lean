import LedgerLogin.Address
import LedgerLogin.Commitment
import LedgerLogin.Failure
import LedgerLogin.Inquiry

/-!
# Reads from a ledger

The questions that authorization asks of the accounts and the delegation contract. Each is a single
read; between two of them the ledger may change.
-/

namespace LedgerLogin

/-- The ledger's own key for a name. -/
abbrev Token := Word

/-- The namespace that identities live in. -/
def playerNamespace : String := "p"

/-- The path under which the right to log in to an application is delegated. -/
def accessPath (app : String) : List String := ["g", "id", "xidauth", app]

inductive LedgerRead where
  | nameExists (ns name : String)
  /-- The token of a name, registered or not. -/
  | tokenOf (ns name : String)
  /-- Whether a token belongs to a registered name. -/
  | tokenExists (token : Token)
  /-- The single address that is approved for a token; the zero address if there is none. -/
  | approved (token : Token)
  | owner (token : Token)
  | approvedForAll (owner operator : Address)
  | hasAccess (ns name : String) (path : List String) (operator : Address) (time : UInt64)
  deriving DecidableEq, Repr

namespace LedgerRead

/-- What a question is answered with. -/
abbrev Result : LedgerRead → Type
  | nameExists _ _ => Bool
  | tokenOf _ _ => Token
  | tokenExists _ => Bool
  | approved _ => Address
  | owner _ => Address
  | approvedForAll _ _ => Bool
  | hasAccess _ _ _ _ _ => Bool

/-- An answer, or why there is none. -/
abbrev Answer (r : LedgerRead) : Type := Except TransportError r.Result

end LedgerRead

/-- A program that reads from a ledger; the first failure ends it. -/
abbrev LedgerInquiry : Type → Type := ExceptT TransportError (Inquiry LedgerRead LedgerRead.Answer)

def LedgerRead.ask (r : LedgerRead) : LedgerInquiry r.Result := ExceptT.mk (Inquiry.query r)

end LedgerLogin
