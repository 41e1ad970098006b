import LedgerLogin.Curve.Modular

/-!
# The curve secp256k1

The group of the points on `y² = x³ + 7` over the field of `p` elements, in affine coordinates,
with its base point of order `n`.
-/

namespace LedgerLogin.Secp256k1

/-- The size of the field. -/
def p : Nat := 0xFFFFFFFFFFFFFFFFFFFFFFFFFFFFFFFFFFFFFFFFFFFFFFFFFFFFFFFEFFFFFC2F

/-- The order of the group. -/
def n : Nat := 0xFFFFFFFFFFFFFFFFFFFFFFFFFFFFFFFEBAAEDCE6AF48A03BBFD25E8CD0364141

/-- A point of the curve: the neutral one, or one with coordinates below `p`. -/
inductive Point where
  | infinity
  | affine (x y : Nat)
  deriving DecidableEq, Repr

namespace Point

def base : Point :=
  .affine 0x79BE667EF9DCBBAC55A06295CE870B07029BFCDB2DCE28D959F2815B16F81798
    0x483ADA7726A3C4655DA4FBFC0E1108A8FD17B448A68554199C47D08FFB10D4B8

/-- The third point on the line through `(x₁, y₁)` and `(x₂, y₂)` with the given slope,
its ordinate negated. -/
def alongLine (slope x₁ y₁ x₂ : Nat) : Point :=
  let x₃ := Modular.sub p (slope * slope % p) ((x₁ + x₂) % p)
  .affine x₃ (Modular.sub p (slope * Modular.sub p x₁ x₃ % p) y₁)

def double : Point → Point
  | .infinity => .infinity
  | .affine x y =>
    if y = 0 then .infinity
    else alongLine (3 * x * x * Modular.inv p (2 * y) % p) x y x

def add : Point → Point → Point
  | .infinity, q => q
  | q, .infinity => q
  | .affine x₁ y₁, .affine x₂ y₂ =>
    if x₁ = x₂ then
      if y₁ = y₂ then double (.affine x₁ y₁) else .infinity
    else
      alongLine (Modular.sub p y₂ y₁ * Modular.inv p (Modular.sub p x₂ x₁) % p) x₁ y₁ x₂

def smul (k : Nat) (q : Point) : Point :=
  if k = 0 then .infinity
  else
    let rest := smul (k / 2) q.double
    if k % 2 = 1 then rest.add q else rest
termination_by k

/-- The point with the given first coordinate whose second is odd or even as asked, if the
coordinate is that of a point. -/
def lift? (x : Nat) (odd : Bool) : Option Point :=
  let square := (x * x * x + 7) % p
  let y := Modular.pow p square ((p + 1) / 4)
  if p ≤ x ∨ y * y % p ≠ square then none
  else some (.affine x (if (y % 2 = 1) = odd then y else Modular.sub p 0 y))

end Point

end LedgerLogin.Secp256k1
