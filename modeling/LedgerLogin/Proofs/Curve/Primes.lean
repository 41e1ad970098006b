import LedgerLogin.Curve.Secp256k1
import LedgerLogin.Proofs.Curve.Modular
import Mathlib.NumberTheory.LucasPrimality
import Mathlib.Tactic.NormNum.Prime

/-!
# The primes of the curve

The size of the field and the order of the group are prime. Each is certified by Lucas's test: a
number is prime if some root has the order of its predecessor, which is checked at the prime
factors of the predecessor, small primes or certified before.
-/

namespace LedgerLogin

namespace Modular

/-- A number with a primitive root and the prime factors of its predecessor. -/
structure PrimeStep where
  number : Nat
  root : Nat
  factors : List Nat

/-- Whether Lucas's test says that the number is prime, if the numbers known before are. -/
def PrimeStep.test (known : List Nat) (s : PrimeStep) : Bool :=
  1 < s.number
    && s.factors.all (fun q => q ∈ known)
    && s.factors.prod = s.number - 1
    && pow s.number s.root (s.number - 1) = 1
    && s.factors.all (fun q => pow s.number s.root ((s.number - 1) / q) ≠ 1)

/-- Whether every step passes the test when the numbers of the steps before it are known. -/
def certifies : List Nat → List PrimeStep → Bool
  | _, [] => true
  | known, s :: steps => s.test known && certifies (s.number :: known) steps

theorem natCast_pow_eq_one_iff {m : Nat} (hm : 1 < m) (a e : Nat) :
    (a : ZMod m) ^ e = 1 ↔ pow m a e = 1 := by
  rw [pow_eq, ← Nat.cast_pow, ← Nat.cast_one, ZMod.natCast_eq_natCast_iff', Nat.mod_eq_of_lt hm]

theorem PrimeStep.prime_of_test {known : List Nat} {s : PrimeStep}
    (hknown : ∀ q ∈ known, q.Prime) (h : s.test known = true) : s.number.Prime := by
  simp only [test, Bool.and_eq_true, decide_eq_true_eq, List.all_eq_true] at h
  obtain ⟨⟨⟨⟨hone, hfactors⟩, hprod⟩, hfull⟩, hpart⟩ := h
  refine lucas_primality s.number (s.root : ZMod s.number) ?_ fun q hq hdvd => ?_
  · exact (natCast_pow_eq_one_iff hone _ _).2 hfull
  · obtain ⟨f, hf, hqf⟩ := (Prime.dvd_prod_iff hq.prime).1 (hprod ▸ hdvd)
    have hprime : f.Prime := hknown f (hfactors f hf)
    rw [(Nat.prime_dvd_prime_iff_eq hq hprime).1 hqf]
    exact fun hone' => hpart f hf ((natCast_pow_eq_one_iff hone _ _).1 hone')

theorem prime_of_certifies {known : List Nat} {steps : List PrimeStep}
    (hknown : ∀ q ∈ known, q.Prime) (h : certifies known steps = true) :
    ∀ q ∈ steps.map (·.number), q.Prime := by
  induction steps generalizing known with
  | nil => simp
  | cons s steps ih =>
    obtain ⟨hs, hsteps⟩ := Bool.and_eq_true_iff.1 h
    have hprime := s.prime_of_test hknown hs
    refine List.forall_mem_cons.2 ⟨hprime, ih ?_ hsteps⟩
    exact List.forall_mem_cons.2 ⟨hprime, hknown⟩

end Modular

namespace Secp256k1

def smallPrimes : List Nat :=
  [2, 3, 5, 7, 11, 17, 19, 23, 29, 31, 41, 53, 59, 97, 101, 103, 109, 113, 149, 239, 293,
    419, 443, 461, 631, 797, 971, 1373, 1409, 1627, 1871, 2011, 2621, 2657, 2731, 2861,
    4051, 4423, 5323, 7723, 9349]

theorem prime_of_mem_smallPrimes : ∀ q ∈ smallPrimes, q.Prime := by
  simp only [smallPrimes, List.forall_mem_cons]
  norm_num

def primeSteps : List Modular.PrimeStep :=
  [
    ⟨13441, 11, [2, 2, 2, 2, 2, 2, 2, 3, 5, 7]⟩,
    ⟨24809, 6, [2, 2, 2, 7, 443]⟩,
    ⟨13331831, 13, [2, 5, 971, 1373]⟩,
    ⟨173378833005251801, 6, [2, 2, 2, 5, 5, 2621, 24809, 13331831]⟩,
    ⟨22149492674086928081353, 5, [2, 2, 2, 3, 5323, 173378833005251801]⟩,
    ⟨132896956044521568488119, 6, [2, 3, 22149492674086928081353]⟩,
    ⟨41201, 3, [2, 2, 2, 2, 5, 5, 103]⟩,
    ⟨96557, 2, [2, 2, 101, 239]⟩,
    ⟨20113, 10, [2, 2, 2, 2, 3, 419]⟩,
    ⟨1206781, 10, [2, 2, 3, 5, 20113]⟩,
    ⟨7240687, 3, [2, 3, 1206781]⟩,
    ⟨107590001, 3, [2, 2, 2, 2, 5, 5, 5, 5, 7, 29, 53]⟩,
    ⟨255515944373312847190720520512484175977, 3,
      [2, 2, 2, 7, 7, 11, 1627, 2657, 4423, 41201, 96557, 7240687, 107590001]⟩,
    ⟨205115282021455665897114700593932402728804164701536103180137503955397371, 10,
      [2, 3, 5, 29, 29, 31, 7723, 132896956044521568488119,
        255515944373312847190720520512484175977]⟩,
    ⟨p, 3,
      [2, 3, 7, 13441, 205115282021455665897114700593932402728804164701536103180137503955397371]⟩,
    ⟨16699, 3, [2, 3, 11, 11, 23]⟩,
    ⟨85831, 3, [2, 3, 5, 2861]⟩,
    ⟨4681609, 23, [2, 2, 2, 3, 97, 2011]⟩,
    ⟨107361793816595537, 3, [2, 2, 2, 2, 16699, 85831, 4681609]⟩,
    ⟨120233, 3, [2, 2, 2, 7, 19, 113]⟩,
    ⟨44706919, 6, [2, 3, 797, 9349]⟩,
    ⟨174723607534414371449, 3, [2, 2, 2, 17, 59, 4051, 120233, 44706919]⟩,
    ⟨305873, 3, [2, 2, 2, 2, 7, 2731]⟩,
    ⟨28181, 2, [2, 2, 5, 1409]⟩,
    ⟨545358713, 5, [2, 2, 2, 41, 59, 28181]⟩,
    ⟨1627771, 3, [2, 3, 5, 29, 1871]⟩,
    ⟨297159362677, 2, [2, 2, 3, 3, 11, 461, 1627771]⟩,
    ⟨29047611873442575647497758179, 2, [2, 293, 305873, 545358713, 297159362677]⟩,
    ⟨341948486974166000522343609283189, 2, [2, 2, 3, 3, 3, 109, 29047611873442575647497758179]⟩,
    ⟨n, 7,
      [2, 2, 2, 2, 2, 2, 3, 149, 631, 107361793816595537, 174723607534414371449,
        341948486974166000522343609283189]⟩]

theorem certifies_primeSteps : Modular.certifies smallPrimes primeSteps = true := by decide +kernel

instance : Fact p.Prime :=
  ⟨Modular.prime_of_certifies prime_of_mem_smallPrimes certifies_primeSteps p (by simp [primeSteps])⟩

instance : Fact n.Prime :=
  ⟨Modular.prime_of_certifies prime_of_mem_smallPrimes certifies_primeSteps n (by simp [primeSteps])⟩

end Secp256k1

end LedgerLogin
