import LedgerLogin.Json.Double
import LedgerLogin.Word64

/-!
# JSON numbers

A number text is an integer if it has neither fraction nor exponent and fits 64 bits with or
without sign; any other is read into binary floating point in two roundings: the digits that fit
64 bits to the nearest number, then the power of ten that remains.
-/

namespace LedgerLogin.Json

/-- A number as JSON values hold it. -/
inductive Number where
  | integer (i : Int)
  | decimal (x : Double)
  deriving DecidableEq, Repr

def Number.text : Number → String
  | .integer i => toString i
  | .decimal x => x.text

/-- A number text taken apart. The fraction is empty if there is no point, which a point never
leaves it; an exponent is a sign and digits. -/
structure Literal where
  negative : Bool
  whole : List Char
  fraction : List Char
  exponent : Option (Bool × List Char)
  deriving DecidableEq, Repr

def digitValue (c : Char) : Nat := c.toNat - 48

def digitsValue (cs : List Char) : Nat := cs.foldl (fun n c => n * 10 + digitValue c) 0

/-- Appends digits to a number for as long as it fits 64 bits: the number, and the digits that are
left over. -/
def appendFitting (n : Nat) : List Char → Nat × List Char
  | [] => (n, [])
  | c :: rest =>
    if n * 10 + digitValue c < UInt64.size then appendFitting (n * 10 + digitValue c) rest
    else (n, c :: rest)

/-- A number divided by a power of ten, in steps of at most the 308th. -/
def divPow10? (x : Double) (e : Nat) : Option Double :=
  if e ≤ 308 then do x.div? (← Double.pow10? e)
  else if x.mantissa = 0 then some x
  else do divPow10? (← x.div? (← Double.pow10? 308)) (e - 308)
termination_by e

/-- A number times a power of ten; nothing if that is beyond the largest number. -/
def mulPow10? (x : Double) (e : Int) : Option Double :=
  if e < 0 then divPow10? x (-e).toNat
  else if x.mantissa = 0 then some x
  else if 308 < e then none
  else do x.mul? (← Double.pow10? e.toNat)

namespace Literal

/-- Whether the literal has neither fraction nor exponent. -/
def isWhole (l : Literal) : Bool := l.fraction.isEmpty && l.exponent.isNone

def exponentValue (l : Literal) : Int :=
  match l.exponent with
  | none => 0
  | some (true, ds) => -Int.ofNat (digitsValue ds)
  | some (false, ds) => digitsValue ds

def toDouble? (l : Literal) : Option Double := do
  let (n, dropped) := appendFitting 0 l.whole
  let (m, unused) := appendFitting n l.fraction
  let e : Int := l.exponentValue + dropped.length - (l.fraction.length - unused.length : Nat)
  let x ← mulPow10? (← Double.round? false m 1) e
  return if l.negative then x.neg else x

/-- The number that a literal stands for, if it is not too large. -/
def toNumber? (l : Literal) : Option Number :=
  let n := digitsValue l.whole
  if l.isWhole && !l.negative && n < UInt64.size then some (.integer n)
  else if l.isWhole && l.negative && 0 < n && (int64? (-n)).isSome then some (.integer (-n))
  else l.toDouble?.map .decimal

end Literal

end LedgerLogin.Json
