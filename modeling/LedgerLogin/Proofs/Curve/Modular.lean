import LedgerLogin.Curve.Modular
import Mathlib.Algebra.Field.ZMod
import Mathlib.Tactic.LinearCombination

/-!
# Modular arithmetic in the ring of residues

The operations on reduced numbers are those of `ZMod m`, read through the representatives of
residues (`ZMod.val`).
-/

namespace LedgerLogin.Modular

theorem pow_eq (m a e : Nat) : pow m a e = a ^ e % m := by
  fun_induction pow m a e with
  | case1 a => simp
  | case2 a e he half hodd ih =>
    have hpow : a ^ e = (a * a) ^ (e / 2) * a := by
      rw [← pow_two, ← pow_mul, ← pow_succ]
      congr 1
      omega
    have hhalf : half = (a * a) ^ (e / 2) % m := by rw [Nat.pow_mod]; exact ih
    rw [hhalf, Nat.mod_mul_mod, hpow]
  | case3 a e he half heven ih =>
    have hpow : a ^ e = (a * a) ^ (e / 2) := by
      rw [← pow_two, ← pow_mul]
      congr 1
      omega
    rw [hpow, Nat.pow_mod]
    exact ih

/-- Euclid's algorithm keeps the multiples that its remainders are, up to the last remainder. -/
theorem bezout_mul {R : Type} [CommRing R] (a : R) (r s : Nat) (t u : Int) (hr : (t : R) * a = r)
    (hs : (u : R) * a = s) : (bezout r s t u : R) * a = (Nat.gcd r s : R) := by
  fun_induction bezout r s t u with
  | case1 r t u => simpa using hr
  | case2 r s t u hne ih =>
    have hstep : (((t - (r / s : Nat) * u : Int)) : R) * a = (r % s : Nat) := by
      have hdiv : (s : R) * (r / s : Nat) + (r % s : Nat) = r := by
        rw [← Nat.cast_mul, ← Nat.cast_add, Nat.div_add_mod]
      rw [Int.cast_sub, Int.cast_mul, Int.cast_natCast]
      linear_combination hr - ((r / s : Nat) : R) * hs - hdiv
    rw [ih hs hstep, Nat.gcd_comm s, ← Nat.gcd_rec, Nat.gcd_comm]

/-- A reduced number stands for the residue of which it is the representative. -/
theorem mod_eq_val (m k : Nat) : k % m = (k : ZMod m).val := (ZMod.val_natCast m k).symm

theorem sub_eq (m : Nat) [NeZero m] (a b : Nat) : sub m a b = ((a - b : ZMod m)).val := by
  have hb : b % m ≤ m := (Nat.mod_lt b (NeZero.pos m)).le
  rw [sub, mod_eq_val, Nat.cast_add, Nat.cast_sub hb, ZMod.natCast_mod, ZMod.natCast_self, zero_sub,
    ← sub_eq_add_neg]

theorem natCast_sub (m : Nat) [NeZero m] (a b : Nat) : (sub m a b : ZMod m) = a - b := by
  rw [sub_eq, ZMod.natCast_zmod_val]

theorem inv_eq (m : Nat) [Fact m.Prime] (a : Nat) : inv m a = ((a : ZMod m)⁻¹).val := by
  have hval : inv m a = ((bezout m (a % m) 0 1 : Int) : ZMod m).val := by
    rw [inv, ← ZMod.val_intCast, Int.toNat_natCast]
  rw [hval]
  by_cases ha : (a : ZMod m) = 0
  · have hmod : a % m = 0 := by rw [mod_eq_val, ha, ZMod.val_zero]
    rw [ha, hmod, bezout, if_pos rfl, inv_zero, Int.cast_zero]
  · have hmul := bezout_mul (a : ZMod m) m (a % m) 0 1 (by simp) (by simp)
    have hgcd : Nat.gcd m (a % m) = 1 := by
      rw [Nat.gcd_comm, ← Nat.gcd_rec]
      refine (Nat.Prime.coprime_iff_not_dvd Fact.out).2 fun hdvd => ha ?_
      exact (ZMod.natCast_eq_zero_iff a m).2 hdvd
    rw [hgcd, Nat.cast_one] at hmul
    rw [eq_inv_of_mul_eq_one_left hmul]

end LedgerLogin.Modular
