/-!
# Binary floating-point numbers

The finite binary64 numbers as integers times powers of two, with what number texts need of them:
rounding a quotient to the nearest, product and quotient, and the shortest decimal that reads back
as the same number.
-/

namespace LedgerLogin

/-- The number `mantissa * 2 ^ exponent`, negated if `negative`. -/
structure Double where
  negative : Bool
  mantissa : Nat
  exponent : Int
  deriving DecidableEq, Repr

namespace Double

/-- A quotient rounded to the nearest integer, a tie to the even one. -/
def roundQuotient (num den : Nat) : Nat :=
  let q := num / den
  let r := num % den
  if 2 * r < den then q else if den < 2 * r then q + 1 else q + q % 2

/-- The quotient `num / den / 2 ^ e` as a pair of numerator and denominator. -/
def scaled (num den : Nat) (e : Int) : Nat × Nat :=
  (num <<< (-e).toNat, den <<< e.toNat)

/-- The number nearest to a quotient, a tie going to the even mantissa; nothing if the quotient is
beyond the largest number. -/
def round? (negative : Bool) (num den : Nat) : Option Double :=
  if num = 0 then some ⟨negative, 0, 0⟩
  else
    -- The top binary digit of the quotient stands at the guess or one below it.
    let guess : Int := Int.ofNat num.log2 - Int.ofNat den.log2
    let (n, d) := scaled num den guess
    let top := if n < d then guess - 1 else guess
    let e := max (top - 52) (-1074)
    let (n, d) := scaled num den e
    let m := roundQuotient n d
    -- Rounding up may carry into a 54th digit.
    let (m, e) := if m = 0x20000000000000 then (0x10000000000000, e + 1) else (m, e)
    if m = 0 then some ⟨negative, 0, 0⟩ else if 971 < e then none else some ⟨negative, m, e⟩

def quotient (x : Double) : Nat × Nat := scaled x.mantissa 1 (-x.exponent)

def mul? (x y : Double) : Option Double :=
  round? (x.negative != y.negative) (x.quotient.1 * y.quotient.1) (x.quotient.2 * y.quotient.2)

def div? (x y : Double) : Option Double :=
  round? (x.negative != y.negative) (x.quotient.1 * y.quotient.2) (x.quotient.2 * y.quotient.1)

def pow10? (e : Nat) : Option Double := round? false (Nat.pow 10 e) 1

def neg (x : Double) : Double := { x with negative := !x.negative }

/-- Decimal digits of a quotient: how many stand before the point, counting zeros after it as
negative. -/
def pointPosition (num den : Nat) : Int :=
  if den ≤ num then (Nat.toDigits 10 (num / den)).length
  else 1 - Int.ofNat (Nat.toDigits 10 (den / num)).length

/-- A decimal without trailing zeros: `digits * 10 ^ exponent`. -/
structure Decimal where
  digits : Nat
  exponent : Int
  deriving DecidableEq, Repr

def Decimal.quotient (d : Decimal) : Nat × Nat :=
  (d.digits * Nat.pow 10 d.exponent.toNat, Nat.pow 10 (-d.exponent).toNat)

/-- The decimal without the zeros it ends in; at most `fuel` are dropped. -/
def Decimal.strip : (fuel : Nat) → Decimal → Decimal
  | 0, d => d
  | fuel + 1, d =>
    if d.digits % 10 = 0 ∧ d.digits ≠ 0 then strip fuel ⟨d.digits / 10, d.exponent + 1⟩ else d

/-- Of the two neighbours of a number on the grid of decimals with `count` digits, the one that
reads back as the number; of two the nearer, and of two that are as near the even one. -/
def onGrid? (x : Double) (count : Nat) : Option Decimal :=
  let (num, den) := x.quotient
  let e : Int := pointPosition num den - count
  let n := num * Nat.pow 10 (-e).toNat
  let d := den * Nat.pow 10 e.toNat
  let below : Decimal := ⟨n / d, e⟩
  let above : Decimal := ⟨n / d + 1, e⟩
  let readsBack (c : Decimal) : Bool :=
    round? x.negative c.quotient.1 c.quotient.2 = some x
  match readsBack below, readsBack above with
  | true, true => some ⟨roundQuotient n d, e⟩
  | true, false => some below
  | false, true => some above
  | false, false => none

/-- The decimal with the fewest digits that reads back as the number, the nearest of those. -/
def shortest (x : Double) : Decimal :=
  let found := (List.range 17).findSome? fun i => onGrid? x (i + 1)
  (found.getD ⟨x.mantissa, x.exponent⟩).strip 20

def zeros (n : Nat) : List Char := List.replicate n '0'

/-- A power of ten in a number text, always with its sign. -/
def powerText (e : Int) : List Char :=
  'e' :: (if e < 0 then [] else ['+']) ++ (toString e).toList

/-- Number texts are positional from `0.00001` up to sixteen digits before the point, always with a
digit after the point, and in powers of ten outside of that. -/
def text (x : Double) : String :=
  let sign := if x.negative then "-" else ""
  if x.mantissa = 0 then sign ++ "0.0"
  else
    let d := x.shortest
    let cs := Nat.toDigits 10 d.digits
    let point : Int := cs.length + d.exponent
    let body : List Char :=
      if 0 ≤ d.exponent ∧ point ≤ 16 then cs ++ zeros d.exponent.toNat ++ ['.', '0']
      else if 0 < point ∧ point ≤ 16 then cs.take point.toNat ++ '.' :: cs.drop point.toNat
      else if -5 < point ∧ point ≤ 0 then '0' :: '.' :: zeros (-point).toNat ++ cs
      else
        let mantissa := if cs.length = 1 then cs else cs.take 1 ++ '.' :: cs.drop 1
        mantissa ++ powerText (point - 1)
    sign ++ String.ofList body

end Double

end LedgerLogin
