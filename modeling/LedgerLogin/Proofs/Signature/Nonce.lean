import LedgerLogin.Proofs.Bytes.Canonical
import LedgerLogin.Signature
import Mathlib

/-!
# The nonce of a signature

Signing takes the numbers of a generator one after the other, until one can be a nonce and gives a
signature. A generator has 64 bytes of state, so it comes back to a state that it was in before it
has drawn more numbers than there are states (`Nonces.Sized.exists_repeat`), and what it draws
later it has drawn before. A search through as many numbers as there are states therefore misses
none: it finds the first number of all that gives a signature (`sign?_eq_some_iff`), and nothing
just if there is no such number (`sign?_eq_none_iff`).
-/

namespace LedgerLogin

open Secp256k1 (n)

theorem length_sha256 (input : Bytes) : (sha256 input).length = 32 := by
  simp [sha256, Sha256.State.bytes]

theorem length_hmacSha256 (key message : Bytes) : (hmacSha256 key message).length = 32 :=
  length_sha256 _

namespace SecretKey

variable {key : SecretKey} {z nonce : Nat} {digest : Word} {signature : Bytes} {g : Nonces}

namespace Nonces

/-- A generator whose state has its 64 bytes. -/
structure Sized (g : Nonces) : Prop where
  key : g.key.length = 32
  value : g.value.length = 32

theorem sized_mix (g : Nonces) (data : Bytes) : (g.mix data).Sized :=
  ⟨length_hmacSha256 _ _, length_hmacSha256 _ _⟩

theorem sized_iterate_next (h : g.Sized) (i : Nat) : (next^[i] g).Sized := by
  cases i with
  | zero => exact h
  | succ i =>
    rw [Function.iterate_succ_apply']
    exact sized_mix _ _

/-! ## Numbers that are drawn -/

/-- The number that a generator draws after `i` others. -/
def drawn (g : Nonces) (i : Nat) : Nat := (next^[i] g).number

theorem drawn_zero (g : Nonces) : g.drawn 0 = g.number := rfl

theorem drawn_succ (g : Nonces) (i : Nat) : g.drawn (i + 1) = g.next.drawn i := rfl

/-- The state as a number. -/
def code (g : Nonces) : Nat := ofBigEndian (g.key ++ g.value)

theorem Sized.code_lt (h : g.Sized) : g.code < states := by
  have hlt := ofBigEndian_lt (g.key ++ g.value)
  rwa [List.length_append, h.key, h.value] at hlt

theorem Sized.eq_of_code_eq {g' : Nonces} (h : g.Sized) (h' : g'.Sized) (heq : g.code = g'.code) :
    g = g' := by
  have hlength : (g.key ++ g.value).length = (g'.key ++ g'.value).length := by
    rw [List.length_append, List.length_append, h.key, h.value, h'.key, h'.value]
  obtain ⟨hkey, hvalue⟩ :=
    List.append_inj (ofBigEndian_inj hlength heq) (h.key.trans h'.key.symm)
  cases g
  cases g'
  rw [Nonces.mk.injEq]
  exact ⟨hkey, hvalue⟩

theorem Sized.exists_repeat (h : g.Sized) :
    ∃ i j, i < j ∧ j ≤ states ∧ next^[i] g = next^[j] g := by
  have hmaps : ∀ i ∈ Finset.range (states + 1),
      (next^[i] g).code ∈ Finset.range states := by
    intro i _
    exact Finset.mem_range.2 (sized_iterate_next h i).code_lt
  have hcard : (Finset.range states).card < (Finset.range (states + 1)).card := by
    rw [Finset.card_range, Finset.card_range]
    exact Nat.lt_succ_self _
  obtain ⟨i, hi, j, hj, hne, hcode⟩ := Finset.exists_ne_map_eq_of_card_lt_of_maps_to hcard hmaps
  have heq := (sized_iterate_next h i).eq_of_code_eq (sized_iterate_next h j) hcode
  rcases Nat.lt_or_gt_of_ne hne with hlt | hlt
  · exact ⟨i, j, hlt, Nat.lt_succ_iff.1 (Finset.mem_range.1 hj), heq⟩
  · exact ⟨j, i, hlt, Nat.lt_succ_iff.1 (Finset.mem_range.1 hi), heq.symm⟩

/-- A number that is drawn for the first time is drawn before the states are used up. -/
theorem Sized.lt_states_of_first (h : g.Sized) {i : Nat} (hfirst : ∀ j < i, g.drawn j ≠ g.drawn i) :
    i < states := by
  by_contra hle
  obtain ⟨a, b, hlt, hb, hrepeat⟩ := h.exists_repeat
  obtain ⟨k, rfl⟩ := Nat.exists_eq_add_of_le (hb.trans (Nat.not_lt.1 hle))
  have hsame : next^[k + a] g = next^[b + k] g := by
    rw [Nat.add_comm b k, Function.iterate_add_apply, Function.iterate_add_apply, hrepeat]
  exact hfirst (k + a) (by omega) (congrArg number hsame)

end Nonces

theorem sized_nonces (key : SecretKey) (z : Nat) : (key.nonces z).Sized := Nonces.sized_mix _ _

/-! ## The search -/

theorem exists_first_succ_iff {α : Type} {f : Nat → Option α} {a : α} {m : Nat} :
    (∃ i < m + 1, f i = some a ∧ ∀ j < i, f j = none) ↔
      f 0 = some a ∨ f 0 = none ∧ ∃ i < m, f (i + 1) = some a ∧ ∀ j < i, f (j + 1) = none := by
  constructor
  · rintro ⟨i, hlt, hi, hbefore⟩
    cases i with
    | zero => exact .inl hi
    | succ i =>
      refine .inr ⟨hbefore 0 (Nat.succ_pos i), i, Nat.lt_of_succ_lt_succ hlt, hi, ?_⟩
      intro j hj
      exact hbefore (j + 1) (Nat.succ_lt_succ hj)
  · rintro (hzero | ⟨hzero, i, hlt, hi, hbefore⟩)
    · exact ⟨0, Nat.succ_pos m, hzero, by simp⟩
    · refine ⟨i + 1, Nat.succ_lt_succ hlt, hi, ?_⟩
      intro j hj
      cases j with
      | zero => exact hzero
      | succ j => exact hbefore j (Nat.lt_of_succ_lt_succ hj)

theorem signFrom?_eq_some_iff {tries : Nat} : key.signFrom? z tries g = some signature ↔
    ∃ i < tries, key.attempt? z (g.drawn i) = some signature ∧
      ∀ j < i, key.attempt? z (g.drawn j) = none := by
  induction tries generalizing g with
  | zero => simp [signFrom?]
  | succ tries ih =>
    rw [exists_first_succ_iff (f := fun i => key.attempt? z (g.drawn i)), signFrom?]
    simp only [Nonces.drawn_zero, Nonces.drawn_succ]
    cases key.attempt? z g.number with
    | some found => simp
    | none => simp [ih]

/-- The nonce of a digest: the first number of its generator that gives a signature. -/
def IsNonce (key : SecretKey) (digest : Word) (nonce : Nat) : Prop :=
  ∃ i, (key.nonces (signedNumber digest)).drawn i = nonce ∧
    (key.attempt? (signedNumber digest) nonce).isSome ∧
    ∀ j < i, key.attempt? (signedNumber digest)
      ((key.nonces (signedNumber digest)).drawn j) = none

theorem IsNonce.unique {nonce' : Nat} (h : key.IsNonce digest nonce)
    (h' : key.IsNonce digest nonce') : nonce = nonce' := by
  obtain ⟨i, rfl, hi, hbefore⟩ := h
  obtain ⟨i', rfl, hi', hbefore'⟩ := h'
  rcases Nat.lt_trichotomy i i' with hlt | rfl | hlt
  · simp [hbefore' i hlt] at hi
  · rfl
  · simp [hbefore i' hlt] at hi'

theorem attempt?_eq_some : key.attempt? z nonce = some signature ↔
    (0 < nonce ∧ nonce < n) ∧ key.signWith? z nonce = some signature := by
  unfold attempt?
  split <;> simp_all

theorem sign?_eq_some_iff : key.sign? digest = some signature ↔
    ∃ nonce, key.IsNonce digest nonce ∧
      key.attempt? (signedNumber digest) nonce = some signature := by
  unfold sign?
  rw [signFrom?_eq_some_iff]
  constructor
  · rintro ⟨i, -, hi, hbefore⟩
    exact ⟨_, ⟨i, rfl, by rw [hi]; rfl, hbefore⟩, hi⟩
  · rintro ⟨nonce, ⟨i, rfl, -, hbefore⟩, hi⟩
    have hfirst : ∀ j < i, (key.nonces (signedNumber digest)).drawn j ≠
        (key.nonces (signedNumber digest)).drawn i := by
      intro j hj heq
      have hnone := hbefore j hj
      rw [heq, hi] at hnone
      cases hnone
    exact ⟨i, (sized_nonces key _).lt_states_of_first hfirst, hi, hbefore⟩

/-- Signing does not end just if there is no nonce. -/
theorem sign?_eq_none_iff : key.sign? digest = none ↔ ∀ nonce, ¬ key.IsNonce digest nonce := by
  constructor
  · rintro h nonce ⟨i, hdrawn, hsome, hbefore⟩
    obtain ⟨signature, hsignature⟩ := Option.isSome_iff_exists.1 hsome
    have hsign := sign?_eq_some_iff.2 ⟨nonce, ⟨i, hdrawn, hsome, hbefore⟩, hsignature⟩
    rw [h] at hsign
    cases hsign
  · intro h
    cases hsign : key.sign? digest with
    | none => rfl
    | some signature =>
      obtain ⟨nonce, hnonce, -⟩ := sign?_eq_some_iff.1 hsign
      exact absurd hnonce (h nonce)

end SecretKey

end LedgerLogin
