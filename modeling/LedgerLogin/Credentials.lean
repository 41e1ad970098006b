import LedgerLogin.LoginData

/-!
# Credentials

What a client puts together to log in: the identity and the application that it claims, and the
data that the password carries. An absent protocol reads as the game-state processor's, and absent
expiry means that the credentials do not expire.
-/

namespace LedgerLogin

/-- Credentials for logging in as `name` within `app`. -/
structure Credentials where
  name : String
  app : String
  data : LoginData := {}
  deriving DecidableEq, Repr

namespace Credentials

def ofPassword (name app password : String) : Except PasswordError Credentials :=
  (LoginData.ofPassword password).map fun data => ⟨name, app, data⟩

/-- The credentials with the data of another password in place of their own. -/
def loadPassword (c : Credentials) (password : String) : Except PasswordError Credentials :=
  (LoginData.ofPassword password).map fun data => { c with data }

def toPassword (c : Credentials) : Except PasswordError String := c.data.toPassword

def protocol (c : Credentials) : Protocol := c.data.protocol.getD .gsp

/-- The time after which the credentials are expired. -/
def expiry (c : Credentials) : Option Int64 := c.data.expiry

def extra (c : Credentials) : StringMap String := c.data.extra

def signature (c : Credentials) : Bytes := c.data.signature

def setName (c : Credentials) (name : String) : Credentials := { c with name }

def setApp (c : Credentials) (app : String) : Credentials := { c with app }

def setProtocol (c : Credentials) (p : Protocol) : Credentials :=
  { c with data.protocol := some p }

def clearProtocol (c : Credentials) : Credentials := { c with data.protocol := none }

def setExpiry (c : Credentials) (e : Int64) : Credentials := { c with data.expiry := some e }

def clearExpiry (c : Credentials) : Credentials := { c with data.expiry := none }

/-- Sets one entry of the extra data: the value that the key had, and the credentials after. -/
def addExtra (c : Credentials) (key value : String) : Option String × Credentials :=
  (c.extra.get? key, { c with data.extra := c.extra.insert key value })

/-- Removes one entry of the extra data: the value that the key had, and the credentials after. -/
def removeExtra (c : Credentials) (key : String) : Option String × Credentials :=
  (c.extra.get? key, { c with data.extra := c.extra.erase key })

/-- Replaces the extra data; of two entries with one key the later counts. -/
def setExtra (c : Credentials) (entries : List (String × String)) : Credentials :=
  { c with data.extra := StringMap.ofList entries }

def clearExtra (c : Credentials) : Credentials := { c with data.extra := ∅ }

def setSignature (c : Credentials) (signature : Bytes) : Credentials :=
  { c with data.signature := signature }

/-- Whether the credentials are expired at a time: they still hold at the expiry itself. -/
def isExpiredAt (c : Credentials) (now : Int64) : Bool := c.expiry.any (· < now)

end Credentials

end LedgerLogin
