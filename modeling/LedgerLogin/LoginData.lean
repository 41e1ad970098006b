import LedgerLogin.Bytes.Base64
import LedgerLogin.Payload.Wire
import LedgerLogin.StringMap
import LedgerLogin.Word64

/-!
# The data that a password carries

A password is the base64 text of a message with four fields: the signature, the expiry in seconds
since the epoch, a map of extra data and the signing protocol. Every field may be absent, and an
absent protocol or expiry is not the same as any that is there. Unknown fields are skipped; of a
field that is there twice the later counts, and only what counts in the end must be in range. A
known field must be of its kind, save the extra data, which is bytes under a key of any kind.
-/

namespace LedgerLogin

/-- How a login is signed. -/
inductive Protocol where
  /-- Challenge and response, judged by the game-state processor. -/
  | gsp
  /-- A signature over typed data, judged by the delegation contract. -/
  | delegation
  deriving DecidableEq, Repr

namespace Protocol

/-- The number of a protocol on the wire. -/
def code : Protocol → Int
  | gsp => 1
  | delegation => 2

def ofCode? : Int → Option Protocol
  | 1 => some gsp
  | 2 => some delegation
  | _ => none

def name : Protocol → String
  | gsp => "xid-gsp"
  | delegation => "delegation-contract"

def choices : List (String × Protocol) := [gsp, delegation].map fun p => (p.name, p)

end Protocol

/-- What a password says beside the name and the application, which travel on their own. -/
structure LoginData where
  protocol : Option Protocol := none
  expiry : Option Int64 := none
  extra : StringMap String := ∅
  signature : Bytes := []
  deriving DecidableEq, Repr

/-- Why a password and its data do not go together. -/
inductive PasswordError where
  | base64
  /-- The bytes are no message, or a field is not of its type. -/
  | malformed
  | unknownProtocol (code : Int)
  /-- The expiry is beyond all times. -/
  | expiryOverflow (expiry : Nat)
  | negativeExpiry (expiry : Int64)
  deriving DecidableEq, Repr

def PasswordError.message : PasswordError → String
  | base64 => "password is not valid base64"
  | malformed => "invalid AuthData payload"
  | unknownProtocol code => s!"unknown signing protocol value {code}"
  | expiryOverflow expiry => s!"expiry {expiry} is out of range"
  | negativeExpiry expiry => s!"negative expiry {expiry} cannot be encoded"

namespace Payload

/-- The fields of a message as they are on the wire, before any range is checked. -/
structure Content where
  signature : Option Bytes := none
  expiry : Option Nat := none
  extra : StringMap String := ∅
  protocol : Option Int := none
  deriving DecidableEq, Repr

/-- How deep the unknown fields of a message may nest. -/
def nestingLimit : Nat := 100

/-- The key and the value of an entry of the extra data, a field of an entry applied. -/
def applyEntry (e : String × String) : Wire.Token → Option (String × String)
  | .delimited 1 bs => (ofUtf8? bs).map fun key => (key, e.2)
  | .delimited 2 bs => (ofUtf8? bs).map fun value => (e.1, value)
  | t => if t.field = 1 ∨ t.field = 2 then none else some e

/-- How an entry of the extra data is read. It counts as a level of nesting. -/
def entryFormat : Wire.Format (String × String) := ⟨nestingLimit - 1, [], applyEntry⟩

def entryOf? (bs : Bytes) : Option (String × String) := Wire.read? entryFormat ("", "") bs

/-- The signed number that the low 32 bits of a number spell. -/
def lowInt32 (n : Nat) : Int := (BitVec.ofNat 32 n).toInt

def apply (c : Content) : Wire.Token → Option Content
  | .delimited 1 bs => some { c with signature := some bs }
  | .varint 2 n => some { c with expiry := some n }
  | .delimited 3 bs => (entryOf? bs).map fun e => { c with extra := c.extra.insert e.1 e.2 }
  | .varint 4 n => some { c with protocol := some (lowInt32 n) }
  | t => if t.field ≤ 4 then none else some c

/-- How a message is read. The extra data is known to come as bytes, so that the kind its keys name
is not looked at. -/
def format : Wire.Format Content := ⟨nestingLimit, [3], apply⟩

def content? (bs : Bytes) : Option Content := Wire.read? format {} bs

end Payload

namespace LoginData

def readProtocol (code : Int) : Except PasswordError Protocol :=
  match Protocol.ofCode? code with
  | some p => .ok p
  | none => .error (.unknownProtocol code)

def readExpiry (n : Nat) : Except PasswordError Int64 :=
  match int64? n with
  | some time => .ok time
  | none => .error (.expiryOverflow n)

/-- The data of a message's content. The protocol is checked before the expiry. -/
def ofContent (c : Payload.Content) : Except PasswordError LoginData := do
  let protocol ← c.protocol.mapM readProtocol
  let expiry ← c.expiry.mapM readExpiry
  return ⟨protocol, expiry, c.extra, c.signature.getD []⟩

def decode (bs : Bytes) : Except PasswordError LoginData :=
  match Payload.content? bs with
  | some c => ofContent c
  | none => .error .malformed

/-- An entry of the extra data as a message; an empty key or value is left out. -/
def encodeEntry (e : String × String) : Bytes :=
  (if e.1.isEmpty then [] else Wire.delimitedField 1 (utf8 e.1))
    ++ (if e.2.isEmpty then [] else Wire.delimitedField 2 (utf8 e.2))

/-- The fields of the data in the order in which they are written; an empty signature is left
out. -/
def fields (d : LoginData) : List Bytes :=
  (if d.signature.isEmpty then [] else [Wire.delimitedField 1 d.signature])
    ++ (d.expiry.toList.map fun e => Wire.varintField 2 e.toInt.toNat)
    ++ (d.extra.entries.map fun e => Wire.delimitedField 3 (encodeEntry e))
    ++ (d.protocol.toList.map fun p => Wire.varintField 4 p.code.toNat)

def encode (d : LoginData) : Except PasswordError Bytes :=
  match d.expiry with
  | some e => if e < 0 then .error (.negativeExpiry e) else .ok d.fields.flatten
  | none => .ok d.fields.flatten

def toPassword (d : LoginData) : Except PasswordError String := d.encode.map Base64.encode

def ofPassword (password : String) : Except PasswordError LoginData :=
  match Base64.decode? password with
  | some bs => decode bs
  | none => .error .base64

end LoginData

end LedgerLogin
