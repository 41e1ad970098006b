/-!
# Numbers of 64 bits

Times are numbers of 64 bits with sign, chain ids and heights such numbers without one. This module
narrows a number to one of the two types. `int64?_eq_some` and `uint64?_eq_some` say that narrowing
succeeds exactly on the numbers that the type has, and keeps them.
-/

namespace LedgerLogin

/-- The number with sign that 64 bits hold, if they hold it. -/
def int64? (i : Int) : Option Int64 :=
  if Int64.minValue.toInt ≤ i ∧ i ≤ Int64.maxValue.toInt then some (Int64.ofInt i) else none

/-- The number without sign that 64 bits hold, if they hold it. -/
def uint64? (n : Nat) : Option UInt64 :=
  if n < UInt64.size then some (UInt64.ofNat n) else none

theorem int64?_eq_some {i : Int} {x : Int64} : int64? i = some x ↔ x.toInt = i := by
  unfold int64?
  constructor
  · intro h
    split at h
    case isTrue hi =>
      simp only [Option.some.injEq] at h
      rw [← h]
      exact Int64.toInt_ofInt_of_le hi.1 (Int.lt_of_le_of_lt hi.2 (by decide))
    case isFalse => simp at h
  · intro h
    have hlo : Int64.minValue.toInt ≤ i := by rw [← h]; exact Int64.minValue_le_toInt x
    have hhi : i ≤ Int64.maxValue.toInt := by rw [← h]; exact Int64.toInt_le x
    rw [if_pos ⟨hlo, hhi⟩, ← h, Int64.ofInt_toInt]

theorem uint64?_eq_some {n : Nat} {x : UInt64} : uint64? n = some x ↔ x.toNat = n := by
  unfold uint64?
  constructor
  · intro h
    split at h
    case isTrue hn =>
      simp only [Option.some.injEq] at h
      rw [← h]
      exact UInt64.toNat_ofNat_of_lt hn
    case isFalse => simp at h
  · intro h
    have hn : n < UInt64.size := by rw [← h]; exact x.toNat_lt
    rw [if_pos hn, ← h, UInt64.ofNat_toNat]

end LedgerLogin
