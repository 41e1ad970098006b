import LedgerLogin.Decision
import LedgerLogin.Ledger.Read

/-!
# Resolving signed logins

Decides on credentials that are signed for the delegation contract. The checks come in a fixed
order and the first that fails decides: the protocol, the expiry, whether the name is registered,
whether a signer can be recovered from the signature, and whether that signer may log in with the
name. The signer may if the delegation contract gives access to the path of the application, which
it does to owners too; or if the signer is approved for the token, or for all that its owner owns.

Every question to the ledger is a read of its own, and the first failing read ends the check
without a decision.
-/

namespace LedgerLogin.Resolver

/-- The time that the contract is asked about; times before the epoch count as the epoch. -/
def contractTime (now : Int64) : UInt64 := UInt64.ofNat now.toInt.toNat

/-- Whether a signer may log in to the application with the name. -/
def isAuthorized (c : Credentials) (token : Token) (signer : Address) (now : Int64) :
    LedgerInquiry Bool := do
  let path := accessPath c.app
  if ← (LedgerRead.hasAccess playerNamespace c.name path signer (contractTime now)).ask then
    return true
  if (← (LedgerRead.approved token).ask) = signer then
    return true
  let owner ← (LedgerRead.owner token).ask
  (LedgerRead.approvedForAll owner signer).ask

/-- The address that signed credentials under a domain. -/
def signer (domain : SigningDomain) (c : Credentials) : Except SignatureError Address :=
  Signature.recover (Commitment.ofCredentials domain c).digest c.signature

def resolve (domain : SigningDomain) (c : Credentials) (now : Int64) :
    LedgerInquiry Decision.State := do
  if c.protocol ≠ .delegation then
    return .invalidData
  if c.isExpiredAt now then
    return .expired
  let token ← (LedgerRead.tokenOf playerNamespace c.name).ask
  if !(← (LedgerRead.tokenExists token).ask) then
    return .invalidData
  match signer domain c with
  | .error _ => return .invalidSignature
  | .ok signer =>
    if ← isAuthorized c token signer now then
      return .valid
    return .invalidSignature

def verify (domain : SigningDomain) (c : Credentials) (now : Int64) : LedgerInquiry Decision :=
  return Decision.ofCredentials (← resolve domain c now) c

def verifyPassword (domain : SigningDomain) (name app password : String) (now : Int64) :
    LedgerInquiry Decision :=
  match Credentials.ofPassword name app password with
  | .ok c => verify domain c now
  | .error _ => return Decision.bare .malformed

def isRegistered (name : String) : LedgerInquiry Bool :=
  (LedgerRead.nameExists playerNamespace name).ask

end LedgerLogin.Resolver
