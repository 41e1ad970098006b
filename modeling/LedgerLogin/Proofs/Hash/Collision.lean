import LedgerLogin.Hash.Keccak

/-!
# Collisions of the hash

No hash of fixed size is injective, so whatever is read off equal hashes holds only as long as no two
of the byte strings that were hashed collide. A collision is therefore always one among the byte
strings of a computation, which are listed: that some two byte strings collide says nothing.
-/

namespace LedgerLogin

/-- Two of the byte strings that were hashed are distinct and have one hash. -/
def Collision (hashed : List Bytes) : Prop :=
  ∃ a ∈ hashed, ∃ b ∈ hashed, a ≠ b ∧ keccak256 a = keccak256 b

/-- Without a collision, equal hashes are hashes of one byte string. -/
theorem eq_of_keccak256_eq {hashed : List Bytes} (hc : ¬ Collision hashed) {a b : Bytes}
    (ha : a ∈ hashed) (hb : b ∈ hashed) (h : keccak256 a = keccak256 b) : a = b := by
  by_cases hab : a = b
  · exact hab
  · exact absurd ⟨a, ha, b, hb, hab, h⟩ hc

theorem eq_of_keccak256_utf8_eq {hashed : List Bytes} (hc : ¬ Collision hashed) {s t : String}
    (hs : utf8 s ∈ hashed) (ht : utf8 t ∈ hashed)
    (h : (keccak256 (utf8 s)).toList = (keccak256 (utf8 t)).toList) : s = t :=
  utf8_inj.1 (eq_of_keccak256_eq hc hs ht (Vector.toList_inj.1 h))

end LedgerLogin
