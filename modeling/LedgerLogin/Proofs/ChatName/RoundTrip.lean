import LedgerLogin.ChatName
import LedgerLogin.Proofs.Bytes.Digits

/-!
# Chat names that are read back

Every identity has a chat name, and is what its chat name spells (`decode_encode`). A chat name may
stand in a field of a command: it is ASCII and holds no colon.
-/

namespace LedgerLogin.ChatName

theorem isHexChar_digit : ∀ k < 16, isHexChar (Hex.digit k) = true := by decide

theorem toNat_of_isSimpleChar {c : Char} (h : isSimpleChar c = true) :
    48 ≤ c.toNat ∧ c.toNat ≤ 57 ∨ 97 ≤ c.toNat ∧ c.toNat ≤ 122 := by
  simp only [isSimpleChar, Bool.or_eq_true, Bool.and_eq_true, decide_eq_true_eq, Char.le_def,
    UInt32.le_iff_toNat_le] at h
  exact h

theorem isFieldChar_of_isSimpleChar {c : Char} (h : isSimpleChar c = true) : IsFieldChar c := by
  have hcode := toNat_of_isSimpleChar h
  refine ⟨by omega, ?_⟩
  intro hcolon
  subst hcolon
  have hcolon : ':'.toNat = 58 := rfl
  omega

theorem decode_of_isSimple {name : String} (h : isSimple name = true) : decode name = .ok name := by
  simp only [isSimple, Bool.and_eq_true, Bool.not_eq_true', List.all_eq_true] at h
  obtain ⟨hne, hall⟩ := h
  have hfind : name.toList.find? (!isSimpleChar ·) = none := by
    refine List.find?_eq_none.2 fun c hc => ?_
    simp [hall c hc]
  unfold decode
  split
  · rename_i hnil
    rw [hnil] at hne
    cases hne
  · rename_i cs hx
    -- A hyphen is no simple character.
    have hhyphen := toNat_of_isSimpleChar (hall '-' (by simp [hx]))
    have hcode : '-'.toNat = 45 := rfl
    omega
  · rw [decodeSimple, hfind]

/-- The identity that a chat name spells is the one that it was written for. -/
theorem decode_encode (name : String) : decode (encode name) = .ok name := by
  by_cases hsimple : isSimple name = true
  · rw [encode, if_pos hsimple]
    exact decode_of_isSimple hsimple
  · have hlist : (encode name).toList = 'x' :: '-' :: Hex.digits (utf8 name) := by
      rw [encode, if_neg hsimple, String.toList_ofList]
    have hfind : (Hex.digits (utf8 name)).find? (!isHexChar ·) = none := by
      refine List.find?_eq_none.2 fun c hc => ?_
      obtain ⟨k, hk, rfl⟩ := Hex.exists_digit_of_mem hc
      simp [isHexChar_digit k hk]
    have hutf8 : ofUtf8? (utf8 name) = some name := ofUtf8?_eq_some.2 rfl
    unfold decode
    rw [hlist]
    simp only [decodeHex, hfind, Hex.pairs_digits, hutf8, if_neg hsimple]

theorem isFieldChar_of_mem_encode {name : String} {c : Char} (h : c ∈ (encode name).toList) :
    IsFieldChar c := by
  unfold encode at h
  split at h
  · rename_i hsimple
    simp only [isSimple, Bool.and_eq_true, List.all_eq_true] at hsimple
    exact isFieldChar_of_isSimpleChar (hsimple.2 c h)
  · rw [String.toList_ofList] at h
    simp only [List.mem_cons] at h
    rcases h with rfl | rfl | hdigit
    · unfold IsFieldChar
      decide
    · unfold IsFieldChar
      decide
    · obtain ⟨k, hk, rfl⟩ := Hex.exists_digit_of_mem hdigit
      exact Hex.isFieldChar_digit k hk

end LedgerLogin.ChatName
