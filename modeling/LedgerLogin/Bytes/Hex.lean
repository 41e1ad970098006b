import LedgerLogin.Bytes
import LedgerLogin.Text.Quoted

/-!
# Hexadecimal text

Bytes are written as two lowercase digits each; both letter cases are read. A text that spells no
bytes is refused with its first fault: a length that is odd in UTF-8 bytes comes before any wrong
character, and a wrong character is named by its first byte, read as a Latin-1 character, and by
its offset.
-/

namespace LedgerLogin.Hex

/-- The lowercase digit of a number below sixteen. -/
def digit (n : Nat) : Char := if n < 10 then Char.ofNat (48 + n) else Char.ofNat (87 + n)

/-- The value of a digit of either case. -/
def digit? (c : Char) : Option Nat :=
  if '0' ≤ c ∧ c ≤ '9' then some (c.toNat - 48)
  else if 'a' ≤ c ∧ c ≤ 'f' then some (c.toNat - 87)
  else if 'A' ≤ c ∧ c ≤ 'F' then some (c.toNat - 55)
  else none

def isDigit (c : Char) : Bool := (digit? c).isSome

def ofByte (b : UInt8) : List Char := [digit (b.toNat / 16), digit (b.toNat % 16)]

def digits (bs : Bytes) : List Char := bs.flatMap ofByte

def encode (bs : Bytes) : String := String.ofList (digits bs)

/-- What makes a text no spelling of bytes. -/
inductive Fault where
  | oddLength
  /-- The text has an even length, but not that of the bytes wanted. -/
  | wrongLength
  /-- The character that starts at `offset` is no digit; `first` is its first byte. -/
  | wrongCharacter (first : UInt8) (offset : Nat)
  deriving DecidableEq, Repr

def Fault.message : Fault → String
  | oddLength => "Odd number of digits"
  | wrongLength => "Invalid string length"
  | wrongCharacter first offset =>
    s!"Invalid character {Text.quotedChar (Char.ofNat first.toNat)} at position {offset}"

/-- The bytes that an even number of digits spell. -/
def pairs : List Char → Option Bytes
  | [] => some []
  | [_] => none
  | c :: d :: rest => do
    let hi ← digit? c
    let lo ← digit? d
    let bs ← pairs rest
    return UInt8.ofNat (hi * 16 + lo) :: bs

/-- The first byte of a character in UTF-8. -/
def leadByte (c : Char) : UInt8 := (String.utf8EncodeChar c).headD 0

/-- The fault of the first character that is no digit. Those before it are ASCII, so their number
is its byte offset. -/
def wrongCharacter (cs : List Char) : Fault :=
  .wrongCharacter (leadByte ((cs.dropWhile isDigit).headD '0')) (cs.takeWhile isDigit).length

def decode (s : String) : Except Fault Bytes :=
  if s.utf8ByteSize % 2 = 1 then .error .oddLength
  else match pairs s.toList with
    | some bs => .ok bs
    | none => .error (wrongCharacter s.toList)

def decodeFixed (n : Nat) (s : String) : Except Fault (Vector UInt8 n) := do
  if s.utf8ByteSize % 2 = 1 then throw .oddLength
  if s.utf8ByteSize / 2 ≠ n then throw .wrongLength
  match fixed? n (← decode s) with
  | some v => return v
  | none => throw .wrongLength

end LedgerLogin.Hex
