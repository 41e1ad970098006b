import LedgerLogin.Commitment

/-!
# Signed passwords

What a client does to log in by signature: it puts credentials together for the delegation
contract, signs the commitment to them under the contract's domain, and writes the password.
-/

namespace LedgerLogin.SignedPassword

/-- Credentials for the delegation contract, without a signature. -/
def unsigned (name app : String) (expiry : Option Int64) (extra : List (String × String)) :
    Credentials :=
  (⟨name, app, { protocol := some .delegation, expiry }⟩ : Credentials).setExtra extra

/-- Credentials with the signature of a key under a domain, if signing ends. -/
def sign? (key : SecretKey) (domain : SigningDomain) (c : Credentials) : Option Credentials :=
  (key.sign? (Commitment.ofCredentials domain c).digest).map c.setSignature

/-- The password of signed credentials, if signing ends. -/
def build? (key : SecretKey) (domain : SigningDomain) (name app : String) (expiry : Option Int64)
    (extra : List (String × String)) : Option (Except PasswordError String) :=
  (sign? key domain (unsigned name app expiry extra)).map Credentials.toPassword

end LedgerLogin.SignedPassword
