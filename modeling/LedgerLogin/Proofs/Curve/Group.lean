import LedgerLogin.Proofs.Curve.Primes
import Mathlib.AlgebraicGeometry.EllipticCurve.Affine.Point
import Mathlib.FieldTheory.Finite.Basic

/-!
# The group of the curve

Points with reduced coordinates stand for the points of the curve over `ZMod p`, whose group law is
that of Mathlib. `Point.ofGroup` writes a group element as such a point, and doubling, adding and
multiplying by a number are the operations of the group (`add_ofGroup`, `smul_ofGroup`).
`lift?_val` says which of the two points with a first coordinate is found for a parity.
-/

namespace LedgerLogin.Secp256k1

def curve : WeierstrassCurve.Affine (ZMod p) := ⟨0, 0, 0, 0, 7⟩

theorem equation_iff {x y : ZMod p} : curve.Equation x y ↔ y ^ 2 = x ^ 3 + 7 := by
  rw [WeierstrassCurve.Affine.equation_iff]
  simp [curve]

@[simp] theorem negY_eq (x y : ZMod p) : curve.negY x y = -y := by
  simp [WeierstrassCurve.Affine.negY, curve]

theorem addX_eq (x₁ x₂ ℓ : ZMod p) : curve.addX x₁ x₂ ℓ = ℓ * ℓ - (x₁ + x₂) := by
  simp only [WeierstrassCurve.Affine.addX, curve]
  ring

theorem addY_eq (x₁ x₂ y₁ ℓ : ZMod p) :
    curve.addY x₁ x₂ y₁ ℓ = ℓ * (x₁ - curve.addX x₁ x₂ ℓ) - y₁ := by
  simp only [WeierstrassCurve.Affine.addY, WeierstrassCurve.Affine.negAddY, negY_eq]
  ring

theorem two_ne_zero' : (2 : ZMod p) ≠ 0 := by decide +kernel

theorem eq_neg_iff_eq_zero {y : ZMod p} : y = -y ↔ y = 0 := by
  rw [eq_neg_iff_add_eq_zero, ← two_mul, mul_eq_zero, or_iff_right two_ne_zero']

/-- A point is its own negative only where its second coordinate is zero. -/
theorem ne_negY_iff {x y : ZMod p} : y ≠ curve.negY x y ↔ y ≠ 0 := by
  rw [negY_eq, ne_eq, eq_neg_iff_eq_zero]

theorem slope_tangent {x y : ZMod p} (hy : y ≠ 0) :
    curve.slope x x y y = 3 * x * x * (2 * y)⁻¹ := by
  rw [WeierstrassCurve.Affine.slope_of_Y_ne rfl (ne_negY_iff.2 hy), negY_eq, div_eq_mul_inv]
  simp only [curve]
  ring

namespace Point

/-- A group element as a point with reduced coordinates. -/
def ofGroup : curve.Point → Point
  | .zero => .infinity
  | .some x y _ => .affine x.val y.val

@[simp] theorem ofGroup_zero : ofGroup 0 = .infinity := rfl

@[simp] theorem ofGroup_some {x y : ZMod p} (h : curve.Nonsingular x y) :
    ofGroup (.some x y h) = .affine x.val y.val := rfl

theorem ofGroup_eq_infinity {P : curve.Point} : ofGroup P = .infinity ↔ P = 0 := by
  cases P with
  | zero => simp [← WeierstrassCurve.Affine.Point.zero_def]
  | some x y h => simp

/-! ## The group law -/

theorem alongLine_val (ℓ x₁ y₁ x₂ : ZMod p) :
    alongLine ℓ.val x₁.val y₁.val x₂.val =
      .affine (curve.addX x₁ x₂ ℓ).val (curve.addY x₁ x₂ y₁ ℓ).val := by
  simp only [alongLine, Modular.sub_eq, Modular.mod_eq_val, addX_eq, addY_eq]
  simp

theorem double_ofGroup (P : curve.Point) : (ofGroup P).double = ofGroup (P + P) := by
  cases P with
  | zero => rfl
  | some x y h =>
    by_cases hy : y = 0
    · -- The tangent is vertical.
      have hneg : y = curve.negY x y := by rw [negY_eq, hy, neg_zero]
      rw [WeierstrassCurve.Affine.Point.add_self_of_Y_eq hneg, ofGroup_some, double, hy,
        ZMod.val_zero, if_pos rfl]
      rfl
    · have hslope : 3 * x.val * x.val * Modular.inv p (2 * y.val) % p =
          (curve.slope x x y y).val := by
        rw [Modular.inv_eq, Modular.mod_eq_val, slope_tangent hy]
        simp
      rw [WeierstrassCurve.Affine.Point.add_self_of_Y_ne (ne_negY_iff.2 hy), ofGroup_some,
        ofGroup_some, double, if_neg (by simpa using hy), hslope, alongLine_val]

theorem add_ofGroup (P Q : curve.Point) : (ofGroup P).add (ofGroup Q) = ofGroup (P + Q) := by
  cases P with
  | zero => rw [← WeierstrassCurve.Affine.Point.zero_def, zero_add]; rfl
  | some x₁ y₁ h₁ =>
    cases Q with
    | zero => rw [← WeierstrassCurve.Affine.Point.zero_def, add_zero]; rfl
    | some x₂ y₂ h₂ =>
      have hval : ∀ a b : ZMod p, a.val = b.val ↔ a = b := fun a b => ZMod.val_injective p |>.eq_iff
      by_cases hx : x₁ = x₂
      · subst hx
        by_cases hy : y₁ = y₂
        · subst hy
          rw [← double_ofGroup, ofGroup_some, add, if_pos rfl, if_pos rfl]
        · have hneg : y₁ = curve.negY x₁ y₂ :=
            (WeierstrassCurve.Affine.Y_eq_of_X_eq h₁.1 h₂.1 rfl).resolve_left hy
          rw [WeierstrassCurve.Affine.Point.add_of_Y_eq rfl hneg, ofGroup_some, ofGroup_some, add,
            if_pos rfl, if_neg (mt (hval _ _).1 hy)]
          rfl
      · have hslope : Modular.sub p y₂.val y₁.val * Modular.inv p (Modular.sub p x₂.val x₁.val) % p =
            (curve.slope x₁ x₂ y₁ y₂).val := by
          rw [Modular.inv_eq, Modular.mod_eq_val, WeierstrassCurve.Affine.slope_of_X_ne hx,
            Modular.sub_eq, Modular.sub_eq, div_eq_mul_inv, ← neg_sub y₂, ← neg_sub x₂, inv_neg,
            neg_mul_neg]
          simp
        rw [WeierstrassCurve.Affine.Point.add_of_X_ne hx, ofGroup_some, ofGroup_some, ofGroup_some,
          add, if_neg (mt (hval _ _).1 hx), hslope, alongLine_val]

theorem smul_ofGroup (k : Nat) (P : curve.Point) : smul k (ofGroup P) = ofGroup (k • P) := by
  induction k using Nat.strongRecOn generalizing P with
  | _ k ih =>
    unfold smul
    by_cases hk : k = 0
    · rw [if_pos hk, hk, zero_nsmul]
      rfl
    · have hhalf := ih (k / 2) (by omega) (P + P)
      have hdouble : (k / 2) • (P + P) = (2 * (k / 2)) • P := by rw [← two_nsmul, mul_nsmul]
      rw [if_neg hk, double_ofGroup, hhalf, hdouble]
      by_cases hodd : k % 2 = 1
      · rw [if_pos hodd, add_ofGroup, ← succ_nsmul]
        congr 2
        omega
      · rw [if_neg hodd]
        congr 2
        omega

/-! ## Points with a first coordinate -/

theorem val_neg_parity {y : ZMod p} (hy : y ≠ 0) : (-y).val % 2 = 1 ↔ ¬ y.val % 2 = 1 := by
  have : NeZero y := ⟨hy⟩
  have hlt := ZMod.val_lt y
  have hodd : p % 2 = 1 := by decide
  rw [ZMod.val_neg_of_ne_zero]
  omega

/-- The one of a number and its negative whose representative is odd or even as asked. -/
def withParity (y : ZMod p) (odd : Bool) : ZMod p := if (y.val % 2 = 1) = odd then y else -y

theorem withParity_neg (y : ZMod p) (odd : Bool) : withParity (-y) odd = withParity y odd := by
  by_cases hy : y = 0
  · rw [hy, neg_zero]
  · unfold withParity
    by_cases hpar : y.val % 2 = 1 <;> cases odd <;> simp [val_neg_parity hy, hpar]

theorem withParity_own (y : ZMod p) : withParity y (decide (y.val % 2 = 1)) = y := by
  simp [withParity]

theorem withParity_other (y : ZMod p) : withParity y (!decide (y.val % 2 = 1)) = -y := by
  by_cases hpar : y.val % 2 = 1 <;> simp [withParity, hpar]

/-- The power that is taken of a square is one of its roots, because `p` is 3 modulo 4. -/
theorem pow_root (y : ZMod p) : (y * y) ^ ((p + 1) / 4) = y ∨ (y * y) ^ ((p + 1) / 4) = -y := by
  have hexp : 2 * ((p + 1) / 4 + (p + 1) / 4) = p + 1 := by decide
  have hsquare : (y * y) ^ ((p + 1) / 4) * (y * y) ^ ((p + 1) / 4) = y * y := by
    rw [← pow_add, ← pow_two, ← pow_mul, hexp, pow_succ, ZMod.pow_card, pow_two]
  exact mul_self_eq_mul_self_iff.1 hsquare

/-- Of the two points with a first coordinate, the one whose second has the parity is found. -/
theorem lift?_val {x y : ZMod p} (h : curve.Equation x y) (odd : Bool) :
    lift? x.val odd = some (.affine x.val (withParity y odd).val) := by
  have hsquare : (x.val * x.val * x.val + 7) % p = (y * y).val := by
    rw [Modular.mod_eq_val, ← pow_two y, equation_iff.1 h]
    congr 1
    push_cast
    rw [ZMod.natCast_zmod_val]
    ring
  have hpow : Modular.pow p (y * y).val ((p + 1) / 4) = ((y * y) ^ ((p + 1) / 4)).val := by
    rw [Modular.pow_eq, Modular.mod_eq_val, Nat.cast_pow, ZMod.natCast_zmod_val]
  have hroot : ∀ z, z = y ∨ z = -y → z.val * z.val % p = (y * y).val ∧
      withParity y odd = withParity z odd := by
    intro z hz
    rcases hz with rfl | rfl
    · exact ⟨(ZMod.val_mul z z).symm, rfl⟩
    · exact ⟨by rw [← ZMod.val_mul, neg_mul_neg], (withParity_neg y odd).symm⟩
  obtain ⟨hmul, hparity⟩ := hroot _ (pow_root y)
  have hx : ¬ p ≤ x.val := Nat.not_le.2 (ZMod.val_lt x)
  simp only [lift?, hsquare, hpow]
  rw [if_neg (by simp [hx, hmul]), hparity]
  unfold withParity
  split
  · rfl
  · rw [Modular.sub_eq, Nat.cast_zero, zero_sub, ZMod.natCast_zmod_val]

end Point

end LedgerLogin.Secp256k1
