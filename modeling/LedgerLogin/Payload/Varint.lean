import LedgerLogin.Bytes

/-!
# Variable-length integers

Numbers in base 128, the least significant digit first, each digit but the last marked by its top
bit. Reading takes at most ten bytes and 64 bits; a number may be spelled with more digits than it
needs.
-/

namespace LedgerLogin.Varint

/-- The shortest spelling of a number. -/
def write (n : Nat) : Bytes :=
  if n < 128 then [UInt8.ofNat n] else UInt8.ofNat (n % 128 + 128) :: write (n / 128)

/-- Reads a number of which `index` digits have been read. -/
def readFrom : (index : Nat) → Bytes → Option (Nat × Bytes)
  | _, [] => none
  | index, b :: rest =>
    if index = 9 ∧ 1 < b.toNat then none
    else if b.toNat < 128 then some (b.toNat, rest)
    else (readFrom (index + 1) rest).map fun (n, after) => (b.toNat - 128 + 128 * n, after)

/-- The number at the start of a byte string, and what follows it. -/
def read? (bs : Bytes) : Option (Nat × Bytes) := readFrom 0 bs

theorem length_readFrom {index n : Nat} {bs after : Bytes}
    (h : readFrom index bs = some (n, after)) :
    after.length < bs.length := by
  induction bs generalizing index n after with
  | nil => simp [readFrom] at h
  | cons b rest ih =>
    simp only [readFrom] at h
    split at h
    · simp at h
    · split at h
      · simp only [Option.some.injEq, Prod.mk.injEq] at h
        rw [← h.2]; simp
      · obtain ⟨⟨m, r⟩, hr, he⟩ := Option.map_eq_some_iff.1 h
        simp only [Prod.mk.injEq] at he
        have := ih hr
        rw [← he.2]
        simp only [List.length_cons]
        omega

end LedgerLogin.Varint
