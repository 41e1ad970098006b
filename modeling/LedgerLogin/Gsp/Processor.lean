import LedgerLogin.Gsp.Read

/-!
# A game-state processor in memory

A processor that has been told what to answer: which passwords to accept and what the names' states
are. A password that it was not told to accept is malformed if it cannot be decoded, and has an
invalid signature otherwise.
-/

namespace LedgerLogin

/-- A game-state processor in memory. -/
structure Processor where
  /-- How far it says that it is synchronized. -/
  syncState : String := upToDate
  height : UInt64 := 0
  names : StringMap NameState := ∅
  /-- The logins that are accepted, each a name, an application and a password. -/
  accepted : List (String × String × String) := []
  failure : Option TransportError := none

namespace Processor

def setSync (p : Processor) (syncState : String) (height : UInt64) : Processor :=
  { p with syncState, height }

def setName (p : Processor) (name : String) (state : NameState) : Processor :=
  { p with names := p.names.insert name state }

def accept (p : Processor) (name app password : String) : Processor :=
  { p with accepted := (name, app, password) :: p.accepted }

/-- A decision that tells what the password holds, as far as it can be decoded. -/
def decisionOn (name app password : String) (decoded undecoded : Decision.State) : Decision :=
  match Credentials.ofPassword name app password with
  | .ok c => Decision.ofCredentials decoded c
  | .error _ => Decision.bare undecoded

def decide (p : Processor) (name app password : String) : Decision :=
  if (name, app, password) ∈ p.accepted then decisionOn name app password .valid .valid
  else decisionOn name app password .invalidSignature .malformed

def wrap {α : Type} (p : Processor) (data : α) : Envelope α := ⟨p.syncState, some p.height, data⟩

/-- The answer of the processor when it works. -/
def lookup (p : Processor) : (r : GspRead) → r.Answer
  | .verifyAuth name app password => .ok (p.wrap (p.decide name app password))
  | .nameState name => .ok (p.wrap ((p.names.get? name).getD {}))

/-- The answer of the processor: its failure, if it was told to fail. -/
def answer (p : Processor) (r : GspRead) : r.Answer :=
  match p.failure with
  | some e => .error e
  | none => p.lookup r

end Processor

end LedgerLogin
