import LedgerLogin.Proofs.Curve.Group
import Mathlib.GroupTheory.OrderOfElement

/-!
# The order of the base point

The base point has order `n`, so its multiples are told apart by residues modulo `n`
(`scalarMul_eq_zero`). The `n - 1`-fold is computed by doubling and adding in Jacobian
coordinates, in which nothing is divided: `(x, y, z)` is the point `(x / z², y / z³)`, and a step
that meets an exceptional case of the group law leaves a zero `z`, which stays zero to the end.
-/

namespace LedgerLogin.Secp256k1

/-! ## The base point -/

def baseX : Nat := 0x79BE667EF9DCBBAC55A06295CE870B07029BFCDB2DCE28D959F2815B16F81798

def baseY : Nat := 0x483ADA7726A3C4655DA4FBFC0E1108A8FD17B448A68554199C47D08FFB10D4B8

theorem nonsingular_base : curve.Nonsingular (baseX : ZMod p) (baseY : ZMod p) := by
  rw [WeierstrassCurve.Affine.nonsingular_iff, equation_iff]
  refine ⟨?_, .inr (ne_negY_iff.2 ?_)⟩
  · decide +kernel
  · decide +kernel

def baseGroup : curve.Point := .some _ _ nonsingular_base

theorem ofGroup_baseGroup : Point.ofGroup baseGroup = Point.base := by
  decide +kernel

/-! ## Jacobian coordinates -/

structure Jacobian where
  x : Nat
  y : Nat
  z : Nat

namespace Jacobian

def double (j : Jacobian) : Jacobian :=
  let yy := j.y * j.y % p
  let s := 4 * j.x * yy % p
  let m := 3 * j.x * j.x % p
  let x := Modular.sub p (m * m) (2 * s)
  ⟨x, Modular.sub p (m * Modular.sub p s x) (8 * yy * yy), 2 * j.y * j.z % p⟩

def addBase (j : Jacobian) : Jacobian :=
  let zz := j.z * j.z % p
  let h := Modular.sub p (baseX * zz) j.x
  let r := Modular.sub p (baseY * j.z * zz) j.y
  let hh := h * h % p
  let v := j.x * hh % p
  let x := Modular.sub p (r * r) (h * hh + 2 * v)
  ⟨x, Modular.sub p (r * Modular.sub p v x) (j.y * h * hh), j.z * h % p⟩

/-- The coordinates of a multiple of the base point, from the `width + 1` digits of the number. -/
def multiple : (width : Nat) → Nat → Jacobian
  | 0, _ => ⟨baseX, baseY, 1⟩
  | width + 1, k =>
    let j := (multiple width (k / 2)).double
    if k % 2 = 1 then j.addBase else j

/-- The coordinates are those of a point, unless the third is zero. -/
def Represents (j : Jacobian) (P : curve.Point) : Prop :=
  (j.z : ZMod p) ≠ 0 → ∃ x y h, P = .some x y h ∧
    (j.x : ZMod p) = x * (j.z : ZMod p) ^ 2 ∧ (j.y : ZMod p) = y * (j.z : ZMod p) ^ 3

theorem represents_base : Represents ⟨baseX, baseY, 1⟩ baseGroup := by
  intro _
  exact ⟨_, _, nonsingular_base, rfl, by simp, by simp⟩

theorem Represents.double {j : Jacobian} {P : curve.Point} (hj : j.Represents P) :
    j.double.Represents (P + P) := by
  intro hz
  have hz' : (j.double.z : ZMod p) = 2 * j.y * j.z := by simp [Jacobian.double]
  rw [hz'] at hz ⊢
  have hzne : (j.z : ZMod p) ≠ 0 := right_ne_zero_of_mul hz
  obtain ⟨x, y, h, rfl, hx, hy⟩ := hj hzne
  -- The ordinate is not zero, so that the tangent is no vertical line.
  have hyne : y ≠ 0 := by
    intro hzero
    subst hzero
    simp [hy] at hz
  have hslope : curve.slope x x y y * (2 * y) = 3 * x * x := by
    rw [slope_tangent hyne, mul_assoc, inv_mul_cancel₀ (mul_ne_zero two_ne_zero' hyne), mul_one]
  refine ⟨_, _, _, WeierstrassCurve.Affine.Point.add_self_of_Y_ne (ne_negY_iff.2 hyne), ?_, ?_⟩
  all_goals generalize curve.slope x x y y = ℓ at hslope ⊢
  · simp only [Jacobian.double, Modular.natCast_sub, ZMod.natCast_mod, Nat.cast_mul, addX_eq, hx, hy]
    linear_combination -(ℓ * (2 * y) + 3 * x * x) * (j.z : ZMod p) ^ 8 * hslope
  · simp only [Jacobian.double, Modular.natCast_sub, ZMod.natCast_mod, Nat.cast_mul, addX_eq,
      addY_eq, hx, hy]
    linear_combination
      ((ℓ * (2 * y)) ^ 2 + ℓ * (2 * y) * (3 * x * x) + (3 * x * x) ^ 2 - 12 * x * y ^ 2) *
        (j.z : ZMod p) ^ 12 * hslope

theorem Represents.addBase {j : Jacobian} {P : curve.Point} (hj : j.Represents P) :
    j.addBase.Represents (P + baseGroup) := by
  intro hz
  have hz' : (j.addBase.z : ZMod p) = j.z * (baseX * (j.z * j.z) - j.x) := by
    simp [Jacobian.addBase, Modular.natCast_sub]
  rw [hz'] at hz ⊢
  obtain ⟨x, y, h, rfl, hx, hy⟩ := hj (left_ne_zero_of_mul hz)
  -- The two first coordinates differ, so that the line through the points is no vertical one.
  have hxne : x ≠ baseX := by
    intro hsame
    subst hsame
    exact hz (by rw [hx]; ring)
  have hslope : curve.slope x baseX y baseY * (baseX - x) = baseY - y := by
    rw [WeierstrassCurve.Affine.slope_of_X_ne hxne, ← neg_sub y, ← neg_sub x, mul_neg,
      div_mul_cancel₀ _ (sub_ne_zero.2 hxne)]
  refine ⟨_, _, _, WeierstrassCurve.Affine.Point.add_of_X_ne hxne, ?_, ?_⟩
  all_goals generalize curve.slope x baseX y baseY = ℓ at hslope ⊢
  · simp only [Jacobian.addBase, Modular.natCast_sub, ZMod.natCast_mod, Nat.cast_mul, Nat.cast_add,
      addX_eq, hx, hy]
    linear_combination -(ℓ * (baseX - x) + (baseY - y)) * (j.z : ZMod p) ^ 6 * hslope
  · simp only [Jacobian.addBase, Modular.natCast_sub, ZMod.natCast_mod, Nat.cast_mul, Nat.cast_add,
      addX_eq, addY_eq, hx, hy]
    linear_combination
      ((ℓ * (baseX - x)) ^ 2 + ℓ * (baseX - x) * (baseY - y) + (baseY - y) ^ 2 -
        (2 * x + baseX) * (baseX - x) ^ 2) * (j.z : ZMod p) ^ 9 * hslope

/-- Half of a number has its digits but the last. -/
theorem multiple_represents : ∀ (width k : Nat), k / 2 ^ width = 1 →
    (multiple width k).Represents (k • baseGroup)
  | 0, k, hk => by
    rw [pow_zero, Nat.div_one] at hk
    rw [hk, one_nsmul]
    exact represents_base
  | width + 1, k, hk => by
    have hhalf : k / 2 / 2 ^ width = 1 := by
      rw [Nat.div_div_eq_div_mul, ← pow_succ']
      exact hk
    have hdouble := (multiple_represents width (k / 2) hhalf).double
    rw [← two_nsmul, ← mul_nsmul] at hdouble
    unfold multiple
    by_cases hodd : k % 2 = 1
    · have hk' : k = k / 2 * 2 + 1 := by omega
      have hadd := hdouble.addBase
      rw [← succ_nsmul, ← hk'] at hadd
      simpa only [if_pos hodd] using hadd
    · have hk' : k / 2 * 2 = k := by omega
      rw [hk'] at hdouble
      simpa only [if_neg hodd] using hdouble

end Jacobian

/-- The `n - 1`-fold of the base point has the coordinates of its negative. -/
theorem multiple_pred_n :
    (Jacobian.multiple 255 (n - 1)).z % p ≠ 0 ∧
      (Jacobian.multiple 255 (n - 1)).x % p =
        baseX * (Jacobian.multiple 255 (n - 1)).z ^ 2 % p ∧
      ((Jacobian.multiple 255 (n - 1)).y +
        baseY * (Jacobian.multiple 255 (n - 1)).z ^ 3) % p = 0 := by
  decide +kernel

theorem pred_n_nsmul_base : (n - 1) • baseGroup = -baseGroup := by
  obtain ⟨hz, hx, hy⟩ := multiple_pred_n
  have hz' : ((Jacobian.multiple 255 (n - 1)).z : ZMod p) ≠ 0 :=
    fun h => hz (Nat.mod_eq_zero_of_dvd ((ZMod.natCast_eq_zero_iff _ _).1 h))
  obtain ⟨x, y, h, hP, hx', hy'⟩ := Jacobian.multiple_represents 255 (n - 1) (by decide) hz'
  have hxeq : x = baseX := by
    have hcast := (ZMod.natCast_eq_natCast_iff' _ _ _).2 hx
    push_cast at hcast
    exact mul_right_cancel₀ (pow_ne_zero 2 hz') (hx'.symm.trans hcast)
  have hyeq : y = -baseY := by
    have hcast := (ZMod.natCast_eq_zero_iff _ _).2 (Nat.dvd_of_mod_eq_zero hy)
    push_cast at hcast
    refine mul_right_cancel₀ (pow_ne_zero 3 hz') (hy'.symm.trans ?_)
    linear_combination hcast
  subst hxeq hyeq
  rw [hP, baseGroup, WeierstrassCurve.Affine.Point.neg_some]
  simp only [negY_eq]

theorem addOrderOf_base : addOrderOf baseGroup = n := by
  have hzero : n • baseGroup = 0 := by
    rw [show n = n - 1 + 1 by decide, succ_nsmul, pred_n_nsmul_base, neg_add_cancel]
  exact addOrderOf_eq_prime hzero (WeierstrassCurve.Affine.Point.some_ne_zero _)

/-! ## Multiples by residues -/

theorem zmultiples_n : zmultiplesHom curve.Point baseGroup n = 0 := by
  rw [zmultiplesHom_apply, natCast_zsmul, ← addOrderOf_base, addOrderOf_nsmul_eq_zero]

def scalarMul : ZMod n →+ curve.Point :=
  ZMod.lift n ⟨zmultiplesHom curve.Point baseGroup, zmultiples_n⟩

theorem scalarMul_natCast (k : Nat) : scalarMul k = k • baseGroup := by
  have h := ZMod.lift_coe n ⟨zmultiplesHom curve.Point baseGroup, zmultiples_n⟩ (k : Int)
  rw [Int.cast_natCast] at h
  rw [scalarMul, h, zmultiplesHom_apply, natCast_zsmul]

theorem scalarMul_eq_zero {a : ZMod n} : scalarMul a = 0 ↔ a = 0 := by
  constructor
  · intro h
    rw [← ZMod.natCast_zmod_val a, scalarMul_natCast, ← addOrderOf_dvd_iff_nsmul_eq_zero,
      addOrderOf_base] at h
    rw [← ZMod.natCast_zmod_val a]
    exact (ZMod.natCast_eq_zero_iff _ _).2 h
  · intro h
    rw [h, map_zero]

theorem nsmul_scalarMul (m : Nat) (a : ZMod n) : m • scalarMul a = scalarMul (m * a) := by
  rw [← map_nsmul, nsmul_eq_mul]

/-- Multiples of the base point are computed by their residues. -/
theorem smul_base (k : Nat) : Point.smul k Point.base = Point.ofGroup (scalarMul k) := by
  rw [← ofGroup_baseGroup, Point.smul_ofGroup, scalarMul_natCast]

end LedgerLogin.Secp256k1
