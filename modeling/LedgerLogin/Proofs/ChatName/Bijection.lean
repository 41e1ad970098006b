import LedgerLogin.Proofs.Bytes.Canonical
import LedgerLogin.Proofs.ChatName.RoundTrip

/-!
# Chat names and identities, one to one

Reading accepts exactly what writing produces (`decode_eq_ok_iff`), so an identity has one chat name
and no two chat names spell one identity. Which texts are accepted is also said without the writer
(`decode_eq_ok_iff_form`): simple names, and `x-` before the lowercase hexadecimal digits of a text
that is no simple name. Chat names have no capital letters, so two of them that differ in case at
most are the same (`eq_of_toLower_eq`).
-/

namespace LedgerLogin.ChatName

/-- The names that spell themselves: digits and lowercase letters only, at least one. -/
def IsPlain (name : String) : Prop :=
  name.toList ≠ [] ∧ ∀ c ∈ name.toList, ('0' ≤ c ∧ c ≤ '9') ∨ ('a' ≤ c ∧ c ≤ 'z')

def IsChatChar (c : Char) : Prop := ('0' ≤ c ∧ c ≤ '9') ∨ ('a' ≤ c ∧ c ≤ 'z') ∨ c = '-'

theorem isSimpleChar_iff {c : Char} :
    isSimpleChar c = true ↔ ('0' ≤ c ∧ c ≤ '9') ∨ ('a' ≤ c ∧ c ≤ 'z') := by
  simp [isSimpleChar]

theorem isSimple_iff {name : String} : isSimple name = true ↔ IsPlain name := by
  simp only [isSimple, IsPlain, Bool.and_eq_true, Bool.not_eq_true', List.isEmpty_eq_false_iff,
    List.all_eq_true, isSimpleChar_iff]

/-! ## Reading accepts only what is written -/

theorem find?_not_eq_none {p : Char → Bool} {cs : List Char} :
    cs.find? (!p ·) = none ↔ ∀ c ∈ cs, p c = true := by
  simp [List.find?_eq_none]

theorem toLower_eq_self {c : Char} (h : IsChatChar c) : c.toLower = c := by
  have hcode : c.toNat ≤ 64 ∨ 91 ≤ c.toNat := by
    simp only [IsChatChar, Char.le_def, UInt32.le_iff_toNat_le] at h
    rcases h with hdigit | hletter | rfl
    · have hle : c.toNat ≤ 57 := hdigit.2
      omega
    · have hle : 97 ≤ c.toNat := hletter.1
      omega
    · decide
  unfold Char.toLower
  rw [dif_neg]
  simp only [ge_iff_le, UInt32.le_iff_toNat_le]
  intro hupper
  have hle : 65 ≤ c.toNat ∧ c.toNat ≤ 90 := hupper
  omega

theorem isChatChar_of_isHexChar {c : Char} (h : isHexChar c = true) : IsChatChar c := by
  simp only [isHexChar, Bool.or_eq_true, Bool.and_eq_true, decide_eq_true_eq] at h
  rcases h with hdecimal | ⟨hlow, hhigh⟩
  · exact .inl hdecimal
  · exact .inr (.inl ⟨hlow, Char.le_trans hhigh (by decide)⟩)

theorem eq_digits_of_pairs {cs : List Char} {bs : Bytes} (hcs : ∀ c ∈ cs, isHexChar c = true)
    (h : Hex.pairs cs = some bs) : cs = Hex.digits bs := by
  have hlower : cs.map Char.toLower = cs :=
    (List.map_congr_left fun c hc => toLower_eq_self (isChatChar_of_isHexChar (hcs c hc))).trans
      (List.map_id _)
  calc cs = cs.map Char.toLower := hlower.symm
    _ = Hex.digits bs := Hex.pairs_eq_some_iff.1 h

/-- What is accepted behind `x-` is written there. -/
theorem decodeHex_eq_ok {chat name : String} {cs : List Char} (h : decodeHex chat cs = .ok name) :
    isSimple name = false ∧ cs = Hex.digits (utf8 name) := by
  unfold decodeHex at h
  split at h
  · cases h
  · rename_i hlower
    split at h
    · cases h
    · rename_i bs hbs
      split at h
      · cases h
      · rename_i name' hname
        split at h
        · cases h
        · rename_i hsimple
          cases h
          rw [← ofUtf8?_eq_some.1 hname]
          exact ⟨Bool.eq_false_iff.2 hsimple,
            eq_digits_of_pairs (find?_not_eq_none.1 hlower) hbs⟩

/-- What is accepted without `x-` is a simple name, and spells itself. -/
theorem decodeSimple_eq_ok {chat name : String} (hne : chat.toList ≠ [])
    (h : decodeSimple chat chat.toList = .ok name) : isSimple name = true ∧ chat = name := by
  unfold decodeSimple at h
  split at h
  · cases h
  · rename_i hall
    cases h
    exact ⟨isSimple_iff.2 ⟨hne, fun c hc => isSimpleChar_iff.1 (find?_not_eq_none.1 hall c hc)⟩, rfl⟩

/-- A chat name is the one that is written for the identity that it spells. -/
theorem eq_encode_of_decode {chat name : String} (h : decode chat = .ok name) :
    chat = encode name := by
  unfold decode at h
  split at h
  · cases h
  · rename_i cs hcs
    obtain ⟨hsimple, rfl⟩ := decodeHex_eq_ok h
    rw [encode, if_neg (by simp [hsimple]), ← hcs, String.ofList_toList]
  · rename_i hne _
    obtain ⟨hsimple, rfl⟩ := decodeSimple_eq_ok hne h
    rw [encode, if_pos hsimple]

theorem decode_eq_ok_iff {chat name : String} : decode chat = .ok name ↔ chat = encode name := by
  constructor
  · exact eq_encode_of_decode
  · rintro rfl
    exact decode_encode name

/-! ## The accepted texts -/

theorem decode_eq_ok_iff_form {chat name : String} :
    decode chat = .ok name ↔ (IsPlain chat ∧ name = chat) ∨
      (¬ IsPlain name ∧ chat = "x-" ++ Hex.encode (utf8 name)) := by
  have hencoded : String.ofList ('x' :: '-' :: Hex.digits (utf8 name)) =
      "x-" ++ Hex.encode (utf8 name) := by
    rw [← String.toList_inj, String.toList_append, Hex.encode]
    simp only [String.toList_ofList]
    rfl
  rw [decode_eq_ok_iff, encode, hencoded]
  by_cases hsimple : isSimple name = true
  · have hplain := isSimple_iff.1 hsimple
    rw [if_pos hsimple]
    constructor
    · rintro rfl
      exact .inl ⟨hplain, rfl⟩
    · rintro (⟨-, rfl⟩ | ⟨hnot, -⟩)
      · rfl
      · exact absurd hplain hnot
  · have hplain : ¬ IsPlain name := fun h => hsimple (isSimple_iff.2 h)
    rw [if_neg hsimple]
    constructor
    · exact fun h => .inr ⟨hplain, h⟩
    · rintro (⟨h, rfl⟩ | ⟨-, h⟩)
      · exact absurd h hplain
      · exact h

theorem isChatChar_digit : ∀ k < 16, IsChatChar (Hex.digit k) := by
  unfold IsChatChar
  decide

theorem isChatChar_of_mem_encode {name : String} {c : Char} (h : c ∈ (encode name).toList) :
    IsChatChar c := by
  unfold encode at h
  split at h
  · rename_i hsimple
    rcases (isSimple_iff.1 hsimple).2 c h with hdigit | hletter
    · exact .inl hdigit
    · exact .inr (.inl hletter)
  · rw [String.toList_ofList] at h
    simp only [List.mem_cons] at h
    rcases h with rfl | rfl | hdigit
    · exact .inr (.inl (by decide))
    · exact .inr (.inr rfl)
    · obtain ⟨k, hk, rfl⟩ := Hex.exists_digit_of_mem hdigit
      exact isChatChar_digit k hk

theorem toLower_encode (name : String) : (encode name).toLower = encode name := by
  rw [← String.toList_inj]
  show ((encode name).map Char.toLower).toList = _
  rw [String.toList_map]
  exact (List.map_congr_left fun c hc => toLower_eq_self (isChatChar_of_mem_encode hc)).trans
    (List.map_id _)

/-- Chat names that are equal but for case are equal. -/
theorem eq_of_toLower_eq {chat₁ chat₂ name₁ name₂ : String} (h₁ : decode chat₁ = .ok name₁)
    (h₂ : decode chat₂ = .ok name₂) (h : chat₁.toLower = chat₂.toLower) : chat₁ = chat₂ := by
  rw [decode_eq_ok_iff] at h₁ h₂
  rw [h₁, h₂, toLower_encode, toLower_encode] at h
  rw [h₁, h₂, h]

/-- Chat names and identities are in bijection, and the chat names are a set of texts of digits,
lowercase letters and hyphens that are told apart without regard to case. -/
theorem decode_bijective :
    (∀ name, decode (encode name) = .ok name) ∧
    (∀ chat name, decode chat = .ok name → chat = encode name) ∧
    (∀ name, ∃ chat, decode chat = .ok name ∧ ∀ other, decode other = .ok name → other = chat) ∧
    (∀ chat, (∃ name, decode chat = .ok name) ↔ ∃ name, chat = encode name) ∧
    (∀ chat name, decode chat = .ok name ↔ (IsPlain chat ∧ name = chat) ∨
      (¬ IsPlain name ∧ chat = "x-" ++ Hex.encode (utf8 name))) ∧
    (∀ chat name, decode chat = .ok name →
      (∀ c ∈ chat.toList, IsChatChar c) ∧ ':' ∉ chat.toList) ∧
    (∀ chat₁ chat₂ name₁ name₂, decode chat₁ = .ok name₁ → decode chat₂ = .ok name₂ →
      chat₁.toLower = chat₂.toLower → chat₁ = chat₂) := by
  refine ⟨decode_encode, fun _ _ => eq_encode_of_decode, ?_, ?_, fun _ _ => decode_eq_ok_iff_form, ?_,
    fun _ _ _ _ => eq_of_toLower_eq⟩
  · intro name
    exact ⟨encode name, decode_encode name, fun other h => eq_encode_of_decode h⟩
  · intro chat
    exact exists_congr fun name => decode_eq_ok_iff
  · intro chat name h
    have hchat := eq_encode_of_decode h
    refine ⟨fun c hc => isChatChar_of_mem_encode (hchat ▸ hc), fun hcolon => ?_⟩
    exact (isFieldChar_of_mem_encode (hchat ▸ hcolon)).2 rfl

end LedgerLogin.ChatName
