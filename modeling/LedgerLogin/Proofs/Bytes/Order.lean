import LedgerLogin.Proofs.Bytes.Digits

/-!
# The order of texts is that of their bytes

Keys are ordered by code point. UTF-8 keeps this order: a longer encoding of a character starts with
a larger byte, and those of one length spell the code point in base 64, most significant digit
first (`Utf8.spelling_lt`). So a text is before another exactly if its bytes are (`utf8_lt_iff`).
-/

namespace LedgerLogin

namespace Utf8

/-- What is left of a number when `k` digits in base 64 are taken off. -/
def leading : Nat → Nat → Nat
  | 0, n => n
  | k + 1, n => leading k (n / 64)

/-- A number in base 64 with `k` digits behind the first byte, which is marked. -/
def spelling (mark : Nat) : Nat → Nat → Bytes
  | 0, n => [UInt8.ofNat (n + mark)]
  | k + 1, n => spelling mark k (n / 64) ++ [UInt8.ofNat (n % 64 + 128)]

theorem ofNat_lt_ofNat {m n : Nat} (hn : n < 256) (h : m < n) : UInt8.ofNat m < UInt8.ofNat n := by
  rw [UInt8.lt_iff_toNat_lt, toNat_ofNat_of_lt hn, toNat_ofNat_of_lt (Nat.lt_trans h hn)]
  exact h

theorem exists_spelling_eq_cons (mark k n : Nat) :
    ∃ rest, spelling mark k n = UInt8.ofNat (leading k n + mark) :: rest := by
  induction k generalizing n with
  | zero => exact ⟨[], rfl⟩
  | succ k ih =>
    obtain ⟨rest, hrest⟩ := ih (n / 64)
    exact ⟨rest ++ [UInt8.ofNat (n % 64 + 128)], by rw [spelling, hrest, List.cons_append]; rfl⟩

/-- Of two numbers that are spelled the one with the smaller first byte has the smaller bytes, and
of two in as many digits the smaller one has, whatever follows. -/
theorem spelling_lt {mark mark' k k' m n : Nat} (hn : leading k' n + mark' < 256)
    (h : leading k m + mark < leading k' n + mark' ∨ (mark = mark' ∧ k = k' ∧ m < n))
    (r s : Bytes) : spelling mark k m ++ r < spelling mark' k' n ++ s := by
  rcases h with hfirst | ⟨rfl, rfl, hlt⟩
  · obtain ⟨rest, hrest⟩ := exists_spelling_eq_cons mark k m
    obtain ⟨rest', hrest'⟩ := exists_spelling_eq_cons mark' k' n
    rw [hrest, hrest']
    exact List.cons_lt_cons_iff.2 (.inl (ofNat_lt_ofNat hn hfirst))
  induction k generalizing m n r s with
  | zero => exact List.cons_lt_cons_iff.2 (.inl (ofNat_lt_ofNat hn (Nat.add_lt_add_right hlt mark)))
  | succ k ih =>
    rw [spelling, spelling, List.append_assoc, List.append_assoc]
    rcases Nat.lt_or_ge (m / 64) (n / 64) with hhigh | hlow
    · exact ih _ _ hhigh hn
    · -- The numbers differ in the last digit only.
      have hsame : m / 64 = n / 64 := by omega
      have hlast : UInt8.ofNat (m % 64 + 128) < UInt8.ofNat (n % 64 + 128) :=
        ofNat_lt_ofNat (by omega) (by omega)
      rw [hsame]
      exact List.append_left_lt (List.cons_lt_cons_iff.2 (.inl hlast))

/-- The four lengths in which characters are encoded. -/
theorem encodeChar_cases (c : Char) :
    (c.toNat < 0x80 ∧ String.utf8EncodeChar c = spelling 0 0 c.toNat) ∨
    (0x80 ≤ c.toNat ∧ c.toNat < 0x800 ∧ String.utf8EncodeChar c = spelling 0xc0 1 c.toNat) ∨
    (0x800 ≤ c.toNat ∧ c.toNat < 0x10000 ∧ String.utf8EncodeChar c = spelling 0xe0 2 c.toNat) ∨
    (0x10000 ≤ c.toNat ∧ c.toNat < 0x110000 ∧
      String.utf8EncodeChar c = spelling 0xf0 3 c.toNat) := by
  have hvalid : c.toNat < 0x110000 := by
    rcases c.valid with h | h
    · exact Nat.lt_trans h (by decide)
    · exact h.2
  unfold String.utf8EncodeChar
  rcases Nat.lt_or_ge c.toNat 0x80 with h₁ | h₁
  · exact .inl ⟨h₁, if_pos (Nat.le_of_lt_succ h₁)⟩
  have hlong : ¬ c.val.toNat ≤ 127 := Nat.not_le.2 h₁
  rcases Nat.lt_or_ge c.toNat 0x800 with h₂ | h₂
  · have hfirst : c.val.toNat / 64 % 32 = c.val.toNat / 64 :=
      Nat.mod_eq_of_lt (Nat.div_lt_of_lt_mul h₂)
    refine .inr (.inl ⟨h₁, h₂, ?_⟩)
    simp only [if_neg hlong, if_pos (show c.val.toNat ≤ 2047 from Nat.le_of_lt_succ h₂), hfirst]
    rfl
  have hlonger : ¬ c.val.toNat ≤ 2047 := Nat.not_le.2 h₂
  rcases Nat.lt_or_ge c.toNat 0x10000 with h₃ | h₃
  · have hfirst : c.val.toNat / 4096 % 16 = c.val.toNat / 64 / 64 := by
      rw [Nat.div_div_eq_div_mul]
      exact Nat.mod_eq_of_lt (Nat.div_lt_of_lt_mul h₃)
    refine .inr (.inr (.inl ⟨h₂, h₃, ?_⟩))
    simp only [if_neg hlong, if_neg hlonger,
      if_pos (show c.val.toNat ≤ 65535 from Nat.le_of_lt_succ h₃), hfirst]
    rfl
  have hlongest : ¬ c.val.toNat ≤ 65535 := Nat.not_le.2 h₃
  have hfirst : c.val.toNat / 262144 % 8 = c.val.toNat / 64 / 64 / 64 := by
    rw [Nat.div_div_eq_div_mul, Nat.div_div_eq_div_mul]
    exact Nat.mod_eq_of_lt (Nat.div_lt_of_lt_mul (Nat.lt_trans hvalid (by decide)))
  have hsecond : c.val.toNat / 4096 = c.val.toNat / 64 / 64 := (Nat.div_div_eq_div_mul _ 64 64).symm
  refine .inr (.inr (.inr ⟨h₃, hvalid, ?_⟩))
  simp only [if_neg hlong, if_neg hlonger, if_neg hlongest, hfirst, hsecond]
  rfl

theorem encodeChar_lt {c d : Char} (h : c < d) (r s : Bytes) :
    String.utf8EncodeChar c ++ r < String.utf8EncodeChar d ++ s := by
  have hlt : c.toNat < d.toNat := h
  -- Either the lengths differ, and so do the ranges of the first bytes, or the code points are
  -- spelled alike. That a smaller character has the longer encoding is excluded by the ranges.
  rcases encodeChar_cases c with ⟨hc, ec⟩ | ⟨hc, hc', ec⟩ | ⟨hc, hc', ec⟩ | ⟨hc, hc', ec⟩ <;>
    rcases encodeChar_cases d with ⟨hd, ed⟩ | ⟨hd, hd', ed⟩ | ⟨hd, hd', ed⟩ | ⟨hd, hd', ed⟩ <;>
    rw [ec, ed] <;>
    refine spelling_lt ?_ ?_ r s <;>
    simp only [leading, true_and] <;>
    omega

theorem flatMap_lt {cs ds : List Char} (h : cs < ds) :
    cs.flatMap String.utf8EncodeChar < ds.flatMap String.utf8EncodeChar := by
  induction cs generalizing ds with
  | nil =>
    cases ds with
    | nil => exact absurd h (List.lt_irrefl [])
    | cons d ds =>
      obtain ⟨b, bs, hbytes⟩ := List.exists_cons_of_ne_nil (String.utf8EncodeChar_ne_nil (c := d))
      rw [List.flatMap_cons, hbytes]
      exact List.nil_lt_cons b _
  | cons c cs ih =>
    cases ds with
    | nil => exact absurd h (List.not_lt_nil _)
    | cons d ds =>
      rw [List.flatMap_cons, List.flatMap_cons]
      rcases List.cons_lt_cons_iff.1 h with hlt | ⟨rfl, hrest⟩
      · exact encodeChar_lt hlt _ _
      · exact List.append_left_lt (ih hrest)

end Utf8

/-- Texts are in the order of their bytes. -/
theorem utf8_lt_iff {s t : String} : utf8 s < utf8 t ↔ s < t := by
  have hkeeps : ∀ {s t : String}, s < t → utf8 s < utf8 t := by
    intro s t h
    rw [utf8_eq_flatMap, utf8_eq_flatMap]
    exact Utf8.flatMap_lt h
  constructor
  · intro h
    rcases Std.lt_trichotomy s t with hlt | rfl | hgt
    · exact hlt
    · exact absurd h (List.lt_irrefl _)
    · exact absurd (hkeeps hgt) (List.lt_asymm h)
  · exact hkeeps

end LedgerLogin
