import LedgerLogin.Bytes.Hex
import LedgerLogin.Curve.Secp256k1
import LedgerLogin.Hash.Keccak

/-!
# Ledger addresses

An address is twenty bytes. It is written `0x` and forty digits, and the checksummed form chooses
the case of each letter by the hash of the lowercase digits. Text that mixes cases must be the
checksummed form, so that a typing error does not name another account; text in one case carries
no checksum and is taken as it is.
-/

namespace LedgerLogin

/-- An account or contract on the ledger. -/
structure Address where
  bytes : Vector UInt8 20
  deriving DecidableEq, Repr

namespace Address

/-- The address that stands for none. -/
def zero : Address := ⟨Vector.replicate 20 0⟩

instance : Inhabited Address := ⟨zero⟩

/-- The last twenty bytes of a word. -/
def ofWord (w : Word) : Address := ⟨(w.drop 12).cast (by rfl)⟩

/-- The address of a public key, given as the bytes of its two coordinates. -/
def ofCoordinates (coordinates : Bytes) : Address := ofWord (keccak256 coordinates)

/-- The address of a public key; the neutral point is none and counts as the origin. -/
def ofPoint : Secp256k1.Point → Address
  | .infinity => ofCoordinates (bigEndian 64 0)
  | .affine x y => ofCoordinates (bigEndian 32 x ++ bigEndian 32 y)

def digits (a : Address) : List Char := Hex.digits a.bytes.toList

def lower (a : Address) : String := String.ofList ('0' :: 'x' :: a.digits)

/-- The hexadecimal digits of some bytes as numbers. -/
def nibbles (bs : Bytes) : List Nat := bs.flatMap fun b => [b.toNat / 16, b.toNat % 16]

/-- A digit in the case that the hash asks for. -/
def checksumDigit (c : Char) (nibble : Nat) : Char := if 8 ≤ nibble then c.toUpper else c

/-- The digits of an address, each letter in the case that the hash of all of them asks for. -/
def checksumDigits (a : Address) : List Char :=
  a.digits.zipWith checksumDigit (nibbles (keccak256 (utf8 (String.ofList a.digits))).toList)

def checksum (a : Address) : String := String.ofList ('0' :: 'x' :: a.checksumDigits)

inductive Error where
  /-- The text is not `0x` and forty digits. -/
  | malformed (text : String)
  /-- The text mixes cases and is not the checksummed form. -/
  | wrongChecksum (text : String)
  deriving DecidableEq, Repr

def Error.message : Error → String
  | malformed text => s!"invalid address: {text}"
  | wrongChecksum text => s!"address checksum mismatch: {text}"

/-- The address that forty digits spell. -/
def ofDigits? (cs : List Char) : Option Address := do
  let bs ← Hex.pairs cs
  return ⟨← fixed? 20 bs⟩

/-- Whether letters of both cases occur. -/
def mixesCases (cs : List Char) : Bool := cs.any Char.isLower && cs.any Char.isUpper

def parse (s : String) : Except Error Address :=
  match s.toList with
  | '0' :: 'x' :: cs =>
    match ofDigits? cs with
    | none => .error (.malformed s)
    | some a => if mixesCases cs ∧ a.checksum ≠ s then .error (.wrongChecksum s) else .ok a
  | _ => .error (.malformed s)

end Address

end LedgerLogin
