import LedgerLogin.Bytes.Base64
import LedgerLogin.Bytes.Hex

/-!
# Digits that are read back

Byte strings in base64 and in hexadecimal digits are read back as they were (`decode?_encode` and
`pairs_digits`). Both are written in ASCII and without colons.
-/

namespace LedgerLogin

theorem ofNat_toNat_eq {b : UInt8} {k : Nat} (h : k = b.toNat) : UInt8.ofNat k = b := by
  rw [h, UInt8.ofNat_toNat]

theorem toNat_ofNat_of_lt {n : Nat} (h : n < 256) : (UInt8.ofNat n).toNat = n := by
  rw [UInt8.toNat_ofNat']
  omega

/-- The bytes of a text are those of its characters. -/
theorem utf8_eq_flatMap (s : String) : utf8 s = s.toList.flatMap String.utf8EncodeChar := by
  unfold utf8
  rw [← String.utf8Encode_toList, List.utf8Encode, List.toList_data_toByteArray]

/-- ASCII text has one byte for each character. -/
theorem utf8_of_ascii {s : String} (h : ∀ c ∈ s.toList, c.toNat < 128) :
    utf8 s = s.toList.map fun c => UInt8.ofNat c.toNat := by
  rw [utf8_eq_flatMap]
  generalize s.toList = cs at h
  induction cs with
  | nil => rfl
  | cons c cs ih =>
    have hc : c.toNat < 128 := h c List.mem_cons_self
    have hsize : c.utf8Size = 1 := by
      rw [Char.utf8Size_eq_one_iff, UInt32.le_iff_toNat_le]
      exact Nat.le_of_lt_succ hc
    rw [List.flatMap_cons, String.utf8EncodeChar_eq_singleton hsize, List.map_cons,
      ih fun d hd => h d (List.mem_cons_of_mem c hd)]
    rfl

/-- A character that may stand in a field of a command: ASCII and no colon. -/
def IsFieldChar (c : Char) : Prop := c.toNat < 128 ∧ c ≠ ':'

namespace Base64

theorem digit?_digit : ∀ k < 64, digit? (digit k) = some k := by decide

theorem digit_ne_pad : ∀ k < 64, digit k ≠ '=' := by decide

theorem isFieldChar_digit : ∀ k < 64, IsFieldChar (digit k) := by
  unfold IsFieldChar
  decide

/-! ## Groups of digits -/

theorem ofDigits?_two (c d : Char) : ofDigits? [c, d, '=', '='] = lastOne? c d := by
  rw [ofDigits?]

theorem ofDigits?_three {c d e : Char} (he : e ≠ '=') :
    ofDigits? [c, d, e, '='] = lastTwo? c d e := by
  rw [ofDigits?]
  intro h
  exact he h

theorem ofDigits?_four {c d e f : Char} (hf : f ≠ '=') (rest : List Char) :
    ofDigits? (c :: d :: e :: f :: rest) =
      (three? c d e f).bind fun bs => (ofDigits? rest).map (bs ++ ·) := by
  rw [ofDigits?]
  · cases three? c d e f with
    | none => rfl
    | some bs =>
      cases ofDigits? rest with
      | none => rfl
      | some more => rfl
  · intro _ h
    exact absurd h hf
  · intro h
    exact absurd h hf

theorem ofDigits?_digits (bs : Bytes) : ofDigits? (digits bs) = some bs := by
  fun_induction digits bs with
  | case1 => rfl
  | case2 a =>
    have ha := a.toNat_lt
    rw [ofDigits?_two, lastOne?, digit?_digit _ (by omega), digit?_digit _ (by omega)]
    simp only [bind, Option.bind_some]
    rw [if_pos (by omega), ofNat_toNat_eq (b := a) (by omega)]
  | case3 a b =>
    have ha := a.toNat_lt
    have hb := b.toNat_lt
    rw [ofDigits?_three (digit_ne_pad _ (by omega)), lastTwo?, digit?_digit _ (by omega),
      digit?_digit _ (by omega), digit?_digit _ (by omega)]
    simp only [bind, Option.bind_some]
    rw [if_pos (by omega), ofNat_toNat_eq (b := a) (by omega), ofNat_toNat_eq (b := b) (by omega)]
  | case4 a b c rest ih =>
    have ha := a.toNat_lt
    have hb := b.toNat_lt
    have hc := c.toNat_lt
    rw [ofDigits?_four (digit_ne_pad _ (by omega)), three?, digit?_digit _ (by omega),
      digit?_digit _ (by omega), digit?_digit _ (by omega), digit?_digit _ (by omega), ih]
    simp only [bind, Option.bind_some, Option.map_some]
    rw [ofNat_toNat_eq (b := a) (by omega), ofNat_toNat_eq (b := b) (by omega),
      ofNat_toNat_eq (b := c) (by omega)]
    rfl

theorem decode?_encode (bs : Bytes) : decode? (encode bs) = some bs := by
  rw [decode?, encode, String.toList_ofList, ofDigits?_digits]

theorem isFieldChar_of_mem_digits {bs : Bytes} {c : Char} (h : c ∈ digits bs) : IsFieldChar c := by
  have hpad : IsFieldChar '=' := by
    unfold IsFieldChar
    decide
  fun_induction digits bs with
  | case1 => cases h
  | case2 a =>
    have ha := a.toNat_lt
    simp only [List.mem_cons, List.not_mem_nil, or_false] at h
    rcases h with rfl | rfl | rfl | rfl
    · exact isFieldChar_digit _ (by omega)
    · exact isFieldChar_digit _ (by omega)
    · exact hpad
    · exact hpad
  | case3 a b =>
    have ha := a.toNat_lt
    have hb := b.toNat_lt
    simp only [List.mem_cons, List.not_mem_nil, or_false] at h
    rcases h with rfl | rfl | rfl | rfl
    · exact isFieldChar_digit _ (by omega)
    · exact isFieldChar_digit _ (by omega)
    · exact isFieldChar_digit _ (by omega)
    · exact hpad
  | case4 a b d rest ih =>
    have ha := a.toNat_lt
    have hb := b.toNat_lt
    have hd := d.toNat_lt
    simp only [List.mem_cons] at h
    rcases h with rfl | rfl | rfl | rfl | h
    · exact isFieldChar_digit _ (by omega)
    · exact isFieldChar_digit _ (by omega)
    · exact isFieldChar_digit _ (by omega)
    · exact isFieldChar_digit _ (by omega)
    · exact ih h

theorem length_le_digits (bs : Bytes) : bs.length ≤ (digits bs).length := by
  fun_induction digits bs with
  | case1 => simp
  | case2 a => simp
  | case3 a b => simp
  | case4 a b c rest ih =>
    simp only [List.length_cons]
    omega

end Base64

namespace Hex

theorem digit?_digit : ∀ k < 16, digit? (digit k) = some k := by decide

theorem isFieldChar_digit : ∀ k < 16, IsFieldChar (digit k) := by
  unfold IsFieldChar
  decide

theorem pairs_digits (bs : Bytes) : pairs (digits bs) = some bs := by
  induction bs with
  | nil => rfl
  | cons b bs ih =>
    have hb := b.toNat_lt
    rw [show digits (b :: bs) = digit (b.toNat / 16) :: digit (b.toNat % 16) :: digits bs from rfl,
      pairs, digit?_digit _ (by omega), digit?_digit _ (by omega), ih]
    simp only [bind, Option.bind_some, pure]
    rw [ofNat_toNat_eq (b := b) (by omega)]

theorem exists_digit_of_mem {bs : Bytes} {c : Char} (h : c ∈ digits bs) :
    ∃ k < 16, c = digit k := by
  obtain ⟨b, -, hc⟩ := List.mem_flatMap.1 h
  have hb := b.toNat_lt
  simp only [ofByte, List.mem_cons, List.not_mem_nil, or_false] at hc
  rcases hc with rfl | rfl
  · exact ⟨_, by omega, rfl⟩
  · exact ⟨_, by omega, rfl⟩

end Hex

end LedgerLogin
