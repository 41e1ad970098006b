import LedgerLogin.Gsp.Read
import LedgerLogin.Ledger.Read

/-!
# Backends

A service reads from several ledgers and game-state processors. Which ones there are is left open:
`L` names the ledgers and `G` the processors. A program that reads from one ledger or one processor
becomes a program that reads from backends when the node that it reads from is named.
-/

namespace LedgerLogin

/-- A question to one of the backends. -/
inductive Backend (L G : Type) where
  | ledger (node : L) (read : LedgerRead)
  | gsp (node : G) (read : GspRead)
  deriving DecidableEq, Repr

namespace Backend

variable {L G : Type} {α : Type}

/-- The answer of a backend, or why there is none. -/
abbrev Answer : Backend L G → Type
  | ledger _ read => read.Answer
  | gsp _ read => read.Answer

end Backend

/-- A program that reads from backends; a failure to decide ends it. -/
abbrev Verification (L G : Type) : Type → Type :=
  ExceptT VerifyError (Inquiry (Backend L G) Backend.Answer)

namespace Verification

variable {L G α : Type}

/-- A program that reads from one ledger, as one that reads from the ledger with a name. -/
def ofLedger (node : L) (x : LedgerInquiry α) : Verification L G α :=
  ExceptT.mk do
    let outcome ← (ExceptT.run x).via fun r => Inquiry.query (Backend.ledger node r)
    return outcome.mapError VerifyError.transport

def askGsp (node : G) (r : GspRead) : Verification L G r.Result :=
  ExceptT.mk do
    let outcome ← Inquiry.query (Backend.gsp node r)
    return Except.mapError VerifyError.transport outcome

end Verification

end LedgerLogin
