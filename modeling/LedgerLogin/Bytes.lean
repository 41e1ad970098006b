/-!
# Byte strings

Byte strings are lists of bytes, so that every codec of the library is a function on lists. This
module holds the two conversions that all of them share: text as UTF-8, and numbers as big-endian
words. `ofUtf8?_eq_some` says that the two directions of the first are inverse, and
`ofBigEndian_bigEndian` the same of the second for numbers that fit.
-/

namespace LedgerLogin

abbrev Bytes := List UInt8

/-- A 256-bit word: a hash, a token id, or one slot of call data. -/
abbrev Word := Vector UInt8 32

def utf8 (s : String) : Bytes := s.toByteArray.data.toList

/-- The text that some bytes spell in UTF-8, if they spell one. -/
def ofUtf8? (bs : Bytes) : Option String := String.fromUTF8? ⟨bs.toArray⟩

theorem utf8_inj {s t : String} : utf8 s = utf8 t ↔ s = t := by
  constructor
  · intro h
    have : s.toByteArray.data = t.toByteArray.data := Array.toList_inj.1 h
    exact String.toByteArray_inj.1 (congrArg ByteArray.mk this)
  · intro h; rw [h]

/-- Reading accepts exactly what writing produces. -/
theorem ofUtf8?_eq_some {bs : Bytes} {s : String} : ofUtf8? bs = some s ↔ bs = utf8 s := by
  unfold ofUtf8? String.fromUTF8? utf8
  constructor
  · intro h
    split at h
    · simp only [Option.some.injEq] at h
      rw [← h]
      rfl
    · simp at h
  · intro h
    subst h
    have hv : (ByteArray.mk s.toByteArray.data.toList.toArray).IsValidUTF8 := by
      simpa using s.isValidUTF8
    rw [dif_pos hv]
    simp only [Option.some.injEq]
    exact String.toByteArray_inj.1 (by simp [String.fromUTF8])

/-- The last `width` base-256 digits of a number, most significant first. -/
def bigEndian : (width : Nat) → Nat → Bytes
  | 0, _ => []
  | width + 1, n => bigEndian width (n / 256) ++ [UInt8.ofNat n]

@[simp] theorem length_bigEndian (width n : Nat) : (bigEndian width n).length = width := by
  induction width generalizing n with
  | zero => rfl
  | succ width ih => simp [bigEndian, ih]

def ofBigEndian (bs : Bytes) : Nat := bs.foldl (fun n b => n * 256 + b.toNat) 0

theorem ofBigEndian_append_singleton (bs : Bytes) (b : UInt8) :
    ofBigEndian (bs ++ [b]) = ofBigEndian bs * 256 + b.toNat := by
  simp [ofBigEndian]

/-- Writing keeps the number up to the width. -/
theorem ofBigEndian_bigEndian (width n : Nat) :
    ofBigEndian (bigEndian width n) = n % Nat.pow 256 width := by
  induction width generalizing n with
  | zero => simp [bigEndian, ofBigEndian, Nat.mod_one]
  | succ width ih =>
    have hb : (UInt8.ofNat n).toNat = n % 256 := rfl
    have hm : n % Nat.pow 256 (width + 1) = n % 256 + 256 * (n / 256 % Nat.pow 256 width) := by
      rw [show Nat.pow 256 (width + 1) = 256 * Nat.pow 256 width from Nat.mul_comm _ _, Nat.mod_mul]
    rw [bigEndian, ofBigEndian_append_singleton, ih, hb, hm]
    omega

theorem bigEndian_inj {width m n : Nat} (hm : m < Nat.pow 256 width) (hn : n < Nat.pow 256 width)
    (h : bigEndian width m = bigEndian width n) : m = n := by
  have hd := congrArg ofBigEndian h
  rwa [ofBigEndian_bigEndian, ofBigEndian_bigEndian, Nat.mod_eq_of_lt hm, Nat.mod_eq_of_lt hn] at hd

/-- The word that holds a number below the 256th power of two. -/
def wordOfNat (n : Nat) : Word := ⟨(bigEndian 32 n).toArray, by simp⟩

def natOfWord {n : Nat} (w : Vector UInt8 n) : Nat := ofBigEndian w.toList

/-- The fixed-width byte string with the given bytes, if there are just as many of them. -/
def fixed? (n : Nat) (bs : Bytes) : Option (Vector UInt8 n) :=
  if h : bs.length = n then some ⟨bs.toArray, by simpa using h⟩ else none

end LedgerLogin
