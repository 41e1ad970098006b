import LedgerLogin.Failure
import LedgerLogin.Gsp.NameState

/-!
# Reads from a game-state processor

The two questions that are asked of a game-state processor.
-/

namespace LedgerLogin

inductive GspRead where
  | verifyAuth (name app password : String)
  | nameState (name : String)
  deriving DecidableEq, Repr

namespace GspRead

/-- What a question is answered with. -/
abbrev Result : GspRead → Type
  | verifyAuth _ _ _ => Envelope Decision
  | nameState _ => Envelope NameState

/-- An answer, or why there is none. -/
abbrev Answer (r : GspRead) : Type := Except TransportError r.Result

end GspRead

end LedgerLogin
