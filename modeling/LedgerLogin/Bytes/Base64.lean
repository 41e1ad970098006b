import LedgerLogin.Bytes

/-!
# Base64 text

The standard alphabet with padding, and only the canonical spelling of each byte string: the
length is a multiple of four, padding stands only at the end, and the bits that the last digit has
to spare are zero.
-/

namespace LedgerLogin.Base64

/-- The digit of a number below sixty-four. -/
def digit (n : Nat) : Char :=
  if n < 26 then Char.ofNat (65 + n)
  else if n < 52 then Char.ofNat (71 + n)
  else if n < 62 then Char.ofNat (n - 4)
  else if n = 62 then '+' else '/'

def digit? (c : Char) : Option Nat :=
  if 'A' ≤ c ∧ c ≤ 'Z' then some (c.toNat - 65)
  else if 'a' ≤ c ∧ c ≤ 'z' then some (c.toNat - 71)
  else if '0' ≤ c ∧ c ≤ '9' then some (c.toNat + 4)
  else if c = '+' then some 62
  else if c = '/' then some 63
  else none

/-- Three bytes become four digits; one or two at the end are padded. -/
def digits : Bytes → List Char
  | [] => []
  | [a] => [digit (a.toNat / 4), digit (a.toNat % 4 * 16), '=', '=']
  | [a, b] =>
    [digit (a.toNat / 4), digit (a.toNat % 4 * 16 + b.toNat / 16), digit (b.toNat % 16 * 4), '=']
  | a :: b :: c :: rest =>
    digit (a.toNat / 4) :: digit (a.toNat % 4 * 16 + b.toNat / 16)
      :: digit (b.toNat % 16 * 4 + c.toNat / 64) :: digit (c.toNat % 64) :: digits rest

def encode (bs : Bytes) : String := String.ofList (digits bs)

/-- The byte that the last two digits of a text spell, if they have no bits to spare but zeros. -/
def lastOne? (c d : Char) : Option Bytes := do
  let x ← digit? c
  let y ← digit? d
  if y % 16 = 0 then some [UInt8.ofNat (x * 4 + y / 16)] else none

/-- The two bytes that the last three digits of a text spell, under the same condition. -/
def lastTwo? (c d e : Char) : Option Bytes := do
  let x ← digit? c
  let y ← digit? d
  let z ← digit? e
  if z % 4 = 0 then some [UInt8.ofNat (x * 4 + y / 16), UInt8.ofNat (y % 16 * 16 + z / 4)] else none

def three? (c d e f : Char) : Option Bytes := do
  let x ← digit? c
  let y ← digit? d
  let z ← digit? e
  let w ← digit? f
  some [UInt8.ofNat (x * 4 + y / 16), UInt8.ofNat (y % 16 * 16 + z / 4),
    UInt8.ofNat (z % 4 * 64 + w)]

def ofDigits? : List Char → Option Bytes
  | [] => some []
  | [c, d, '=', '='] => lastOne? c d
  | [c, d, e, '='] => lastTwo? c d e
  | c :: d :: e :: f :: rest => do
    let bs ← three? c d e f
    let more ← ofDigits? rest
    return bs ++ more
  | _ => none

def decode? (s : String) : Option Bytes := ofDigits? s.toList

end LedgerLogin.Base64
