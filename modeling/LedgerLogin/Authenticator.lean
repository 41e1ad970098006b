import LedgerLogin.Backend
import LedgerLogin.Resolver

/-!
# Authenticators

The two ways to check a login: asking a game-state processor, or resolving the signature against a
ledger. An answer of a processor counts only if it says that it is up to date.
-/

namespace LedgerLogin

/-- Takes the data out of an envelope that is up to date. -/
def Envelope.open {α : Type} (e : Envelope α) : Except VerifyError α :=
  if e.state = upToDate then .ok e.data else .error (.notUpToDate e.state)

inductive Authenticator (L G : Type) where
  /-- Asks a game-state processor. -/
  | gsp (node : G)
  /-- Resolves signatures under a domain against a ledger. -/
  | delegation (domain : SigningDomain) (node : L)
  deriving DecidableEq, Repr

namespace Authenticator

variable {L G : Type}

def protocol : Authenticator L G → Protocol
  | gsp _ => .gsp
  | delegation _ _ => .delegation

/-- The decision of a processor on a login. -/
def gspAuthenticate (node : G) (name app password : String) : Verification L G Decision := do
  (← Verification.askGsp node (.verifyAuth name app password)).open

/-- Whether a processor knows a signer who may log in. -/
def gspIsUser (node : G) (name app : String) : Verification L G Bool := do
  return (← (← Verification.askGsp node (.nameState name)).open).admits app

/-- How far a processor is synchronized, and to which height. -/
def gspProbe (node : G) (name : String) : Verification L G (String × Option UInt64) := do
  let e ← Verification.askGsp node (.nameState name)
  return (e.state, e.height)

def authenticate (a : Authenticator L G) (now : Int64) (name app password : String) :
    Verification L G Decision :=
  match a with
  | gsp node => gspAuthenticate node name app password
  | delegation domain node => .ofLedger node (Resolver.verifyPassword domain name app password now)

def isUser (a : Authenticator L G) (name app : String) : Verification L G Bool :=
  match a with
  | gsp node => gspIsUser node name app
  | delegation _ node => .ofLedger node (Resolver.isRegistered name)

end Authenticator

end LedgerLogin
