import LedgerLogin.Config
import LedgerLogin.Proofs.Bytes.Canonical
import LedgerLogin.Proofs.Json.RoundTrip
import Mathlib

/-!
# Spellings of addresses

An address has three spellings, in lowercase, in capitals and checksummed, and no other text is
parsed as the address (`parse_spellings`). Digits that mix cases and are not checksummed are refused
for that, and everything that is not `0x` and forty digits for its form.

The checksum is never computed here: what counts is that it changes nothing of the digits but their
case.
-/

namespace LedgerLogin.Address

def upper (a : Address) : String := String.ofList ('0' :: 'x' :: a.digits.map Char.toUpper)

/-- The texts that spell an address. -/
def IsSpelling (a : Address) (s : String) : Prop := s = a.lower ∨ s = a.upper ∨ s = a.checksum

def HasDigits (s : String) (cs : List Char) : Prop :=
  s.toList = '0' :: 'x' :: cs ∧ cs.length = 40 ∧ ∀ c ∈ cs, Hex.IsDigit c

def IsMixed (s : String) : Prop :=
  ∃ cs, HasDigits s cs ∧ (∃ c ∈ cs, c.isLower) ∧ ∃ c ∈ cs, c.isUpper

variable {a : Address} {s : String} {cs : List Char}

/-! ## Digits in either case -/

theorem length_digits (a : Address) : a.digits.length = 40 := by
  rw [digits, Hex.length_digits, a.bytes.length_toList]

theorem toLower_of_mem_digits {c : Char} (h : c ∈ a.digits) : c.toLower = c := by
  have hlower : ∀ k < 16, (Hex.digit k).toLower = Hex.digit k := by decide
  obtain ⟨k, hk, rfl⟩ := Hex.exists_digit_of_mem h
  exact hlower k hk

theorem map_toLower_digits (a : Address) : a.digits.map Char.toLower = a.digits :=
  (List.map_congr_left fun _ hc => toLower_of_mem_digits hc).trans (List.map_id _)

theorem toLower_checksumDigit (c : Char) (nibble : Nat) :
    (checksumDigit c nibble).toLower = c.toLower := by
  unfold checksumDigit
  split
  · exact Char.toLower_toUpper_eq_toLower c
  · rfl

/-- A checksum changes the case of digits at most. -/
theorem map_toLower_zipWith {nibbles : List Nat} (hcs : ∀ c ∈ cs, c.toLower = c)
    (hlength : cs.length ≤ nibbles.length) :
    (cs.zipWith checksumDigit nibbles).map Char.toLower = cs := by
  induction cs generalizing nibbles with
  | nil => rfl
  | cons c cs ih =>
    cases nibbles with
    | nil => simp at hlength
    | cons nibble nibbles =>
      simp only [List.length_cons, Nat.add_le_add_iff_right] at hlength
      rw [List.zipWith_cons_cons, List.map_cons, toLower_checksumDigit,
        hcs c List.mem_cons_self, ih (fun d hd => hcs d (List.mem_cons_of_mem c hd)) hlength]

theorem length_nibbles (bs : Bytes) : (nibbles bs).length = 2 * bs.length := by
  induction bs with
  | nil => rfl
  | cons b bs ih =>
    have hcons : nibbles (b :: bs) = b.toNat / 16 :: b.toNat % 16 :: nibbles bs := rfl
    rw [hcons, List.length_cons, List.length_cons, ih, List.length_cons]
    omega

theorem map_toLower_checksumDigits (a : Address) :
    a.checksumDigits.map Char.toLower = a.digits := by
  refine map_toLower_zipWith (fun _ hc => toLower_of_mem_digits hc) ?_
  rw [length_digits, length_nibbles, Vector.length_toList]
  omega

/-- Digits without capitals are in lowercase, and those without small letters in capitals. -/
theorem eq_of_not_mixesCases (hmixes : mixesCases cs = false)
    (hdigits : cs.map Char.toLower = a.digits) :
    cs = a.digits ∨ cs = a.digits.map Char.toUpper := by
  rw [mixesCases, Bool.and_eq_false_iff] at hmixes
  simp only [List.any_eq_false] at hmixes
  rcases hmixes with hlower | hupper
  · right
    rw [← hdigits, List.map_map]
    refine (List.map_id cs).symm.trans (List.map_congr_left fun c hc => ?_)
    rw [Function.comp_apply, Char.toUpper_toLower_eq_toUpper,
      Char.toUpper_eq_of_not_isLower (hlower c hc), id]
  · left
    rw [← hdigits]
    refine (List.map_id cs).symm.trans (List.map_congr_left fun c hc => ?_)
    rw [Char.toLower_eq_of_not_isUpper (hupper c hc), id]

theorem not_mixesCases_digits (a : Address) : mixesCases a.digits = false := by
  rw [mixesCases, Bool.and_eq_false_iff]
  right
  rw [List.any_eq_false]
  intro c hc
  rw [← toLower_of_mem_digits hc, Char.isUpper_toLower_eq_false]
  decide

theorem not_mixesCases_capitals (cs : List Char) : mixesCases (cs.map Char.toUpper) = false := by
  rw [mixesCases, Bool.and_eq_false_iff]
  left
  rw [List.any_eq_false]
  intro c hc
  obtain ⟨d, -, rfl⟩ := List.mem_map.1 hc
  rw [Char.isLower_toUpper_eq_false]
  decide

/-! ## Digits that are read -/

theorem ofDigits?_eq_some_iff : ofDigits? cs = some a ↔ cs.map Char.toLower = a.digits := by
  rw [digits, ← Hex.pairs_eq_some_iff]
  simp only [ofDigits?, bind, Option.bind_eq_some_iff, pure, Option.some.injEq, fixed?_eq_some_iff]
  constructor
  · rintro ⟨bs, hbs, v, rfl, rfl⟩
    exact hbs
  · intro h
    exact ⟨a.bytes.toList, h, a.bytes, rfl, rfl⟩

theorem exists_ofDigits?_iff :
    (∃ a, ofDigits? cs = some a) ↔ cs.length = 40 ∧ ∀ c ∈ cs, Hex.IsDigit c := by
  rw [← Hex.exists_pairs_iff (k := 20)]
  constructor
  · rintro ⟨a, h⟩
    rw [ofDigits?_eq_some_iff, digits, ← Hex.pairs_eq_some_iff] at h
    exact ⟨a.bytes.toList, h, a.bytes.length_toList⟩
  · rintro ⟨bs, hbs, hlength⟩
    have hbytes : bs = (Vector.mk bs.toArray (by simpa using hlength) : Vector UInt8 20).toList := rfl
    rw [hbytes] at hbs
    exact ⟨⟨_⟩, ofDigits?_eq_some_iff.2 (Hex.pairs_eq_some_iff.1 hbs)⟩

/-- Digits are parsed as the address that they spell, unless they mix cases wrongly. -/
theorem parse_of_digits (hs : s.toList = '0' :: 'x' :: cs)
    (hdigits : cs.map Char.toLower = a.digits) :
    parse s =
      if mixesCases cs ∧ a.checksum ≠ s then .error (.wrongChecksum s) else .ok a := by
  simp only [parse, hs, ofDigits?_eq_some_iff.2 hdigits]

theorem parse_of_not_digits (h : ¬ ∃ cs, HasDigits s cs) : parse s = .error (.malformed s) := by
  unfold parse
  split
  · rename_i cs hs
    split
    · rfl
    · rename_i a ha
      exact absurd ⟨cs, hs, exists_ofDigits?_iff.1 ⟨a, ha⟩⟩ h
  · rfl

theorem parse_cases (s : String) :
    ((¬ ∃ cs, HasDigits s cs) ∧ parse s = .error (.malformed s)) ∨
    ∃ cs a, HasDigits s cs ∧ cs.map Char.toLower = a.digits ∧
      ((mixesCases cs = true ∧ s ≠ a.checksum ∧ parse s = .error (.wrongChecksum s)) ∨
        ((mixesCases cs = true → s = a.checksum) ∧ parse s = .ok a)) := by
  by_cases h : ∃ cs, HasDigits s cs
  · right
    obtain ⟨cs, hs, hcs⟩ := h
    obtain ⟨a, ha⟩ := exists_ofDigits?_iff.2 hcs
    have hdigits := ofDigits?_eq_some_iff.1 ha
    refine ⟨cs, a, ⟨hs, hcs⟩, hdigits, ?_⟩
    rw [parse_of_digits hs hdigits]
    by_cases hwrong : mixesCases cs = true ∧ a.checksum ≠ s
    · rw [if_pos hwrong]
      exact .inl ⟨hwrong.1, hwrong.2.symm, rfl⟩
    · rw [if_neg hwrong]
      refine .inr ⟨fun hmixes => ?_, rfl⟩
      by_contra hne
      exact hwrong ⟨hmixes, Ne.symm hne⟩
  · exact .inl ⟨h, parse_of_not_digits h⟩

theorem parse_lower (a : Address) : parse a.lower = .ok a := by
  have hs : a.lower.toList = '0' :: 'x' :: a.digits := String.toList_ofList
  rw [parse_of_digits hs (map_toLower_digits a), not_mixesCases_digits]
  rfl

theorem parse_upper (a : Address) : parse a.upper = .ok a := by
  have hdigits : (a.digits.map Char.toUpper).map Char.toLower = a.digits := by
    rw [List.map_map]
    refine (List.map_congr_left fun c hc => ?_).trans (List.map_id _)
    rw [Function.comp_apply, Char.toLower_toUpper_eq_toLower, toLower_of_mem_digits hc, id]
  have hs : a.upper.toList = '0' :: 'x' :: a.digits.map Char.toUpper := String.toList_ofList
  rw [parse_of_digits hs hdigits, not_mixesCases_capitals]
  rfl

theorem parse_checksum (a : Address) : parse a.checksum = .ok a := by
  have hs : a.checksum.toList = '0' :: 'x' :: a.checksumDigits := String.toList_ofList
  rw [parse_of_digits hs (map_toLower_checksumDigits a)]
  exact if_neg fun h => h.2 rfl

theorem parse_of_isSpelling (h : IsSpelling a s) : parse s = .ok a := by
  obtain rfl | rfl | rfl := h
  · exact parse_lower a
  · exact parse_upper a
  · exact parse_checksum a

theorem isSpelling_of_parse (h : parse s = .ok a) : IsSpelling a s := by
  obtain ⟨-, hparse⟩ | ⟨cs, b, ⟨hs, -⟩, hdigits, ⟨-, -, hparse⟩ | ⟨hmixes, hparse⟩⟩ := parse_cases s
  · rw [hparse] at h
    cases h
  · rw [hparse] at h
    cases h
  rw [hparse] at h
  cases h
  have hof : s = String.ofList ('0' :: 'x' :: cs) := by rw [← hs, String.ofList_toList]
  cases hcase : mixesCases cs with
  | true => exact .inr (.inr (hmixes hcase))
  | false =>
    obtain rfl | rfl := eq_of_not_mixesCases hcase hdigits
    · exact .inl hof
    · exact .inr (.inl hof)

theorem parse_eq_ok_iff : parse s = .ok a ↔ IsSpelling a s :=
  ⟨isSpelling_of_parse, parse_of_isSpelling⟩

/-! ## Texts that are refused -/

theorem isMixed_iff : IsMixed s ↔ ∃ cs, HasDigits s cs ∧ mixesCases cs = true := by
  simp only [IsMixed, mixesCases, Bool.and_eq_true, List.any_eq_true]

theorem parse_eq_wrongChecksum_iff :
    parse s = .error (.wrongChecksum s) ↔ IsMixed s ∧ ∀ a : Address, ¬ IsSpelling a s := by
  rw [isMixed_iff]
  constructor
  · intro h
    refine ⟨?_, fun a ha => ?_⟩
    · obtain ⟨-, hparse⟩ | ⟨cs, b, hs, -, ⟨hmixes, -⟩ | ⟨-, hparse⟩⟩ := parse_cases s
      · rw [hparse] at h
        cases h
      · exact ⟨cs, hs, hmixes⟩
      · rw [hparse] at h
        cases h
    · rw [parse_of_isSpelling ha] at h
      cases h
  · rintro ⟨⟨cs, hs, -⟩, hno⟩
    obtain ⟨hnot, -⟩ | ⟨-, b, -, -, ⟨-, -, hparse⟩ | ⟨-, hparse⟩⟩ := parse_cases s
    · exact absurd ⟨cs, hs⟩ hnot
    · exact hparse
    · exact absurd (parse_eq_ok_iff.1 hparse) (hno b)

theorem parse_eq_malformed_iff :
    parse s = .error (.malformed s) ↔ ¬ IsMixed s ∧ ∀ a : Address, ¬ IsSpelling a s := by
  constructor
  · intro h
    refine ⟨fun hmixed => ?_, fun a ha => ?_⟩
    · obtain ⟨cs, hs, -⟩ := hmixed
      obtain ⟨hnot, -⟩ | ⟨-, b, -, -, ⟨-, -, hparse⟩ | ⟨-, hparse⟩⟩ := parse_cases s
      · exact hnot ⟨cs, hs⟩
      · rw [hparse] at h
        cases h
      · rw [hparse] at h
        cases h
    · rw [parse_of_isSpelling ha] at h
      cases h
  · rintro ⟨hmixed, hno⟩
    obtain ⟨-, hparse⟩ | ⟨cs, b, hs, -, ⟨hmixes, -⟩ | ⟨-, hparse⟩⟩ := parse_cases s
    · exact hparse
    · exact absurd (isMixed_iff.2 ⟨cs, hs, hmixes⟩) hmixed
    · exact absurd (parse_eq_ok_iff.1 hparse) (hno b)

/-- An address has three spellings and shares none of them with another; each other text is refused
for its checksum if it is `0x` and forty digits of mixed case, and else for its form. -/
theorem parse_spellings :
    (∀ (s : String) (a : Address),
      parse s = .ok a ↔ s = a.lower ∨ s = a.upper ∨ s = a.checksum) ∧
    (∀ a : Address, ∃ d, Json.Document.parse? (Json.string a.checksum).text = some d ∧
      read d = .ok a) ∧
    (∀ s : String, parse s = .error (.wrongChecksum s) ↔
      IsMixed s ∧ ∀ a : Address, ¬ IsSpelling a s) ∧
    (∀ s : String, parse s = .error (.malformed s) ↔
      ¬ IsMixed s ∧ ∀ a : Address, ¬ IsSpelling a s) ∧
    (∀ (s : String) (a b : Address), IsSpelling a s → IsSpelling b s → a = b) := by
  refine ⟨fun _ _ => parse_eq_ok_iff, fun a => ?_, fun _ => parse_eq_wrongChecksum_iff,
    fun _ => parse_eq_malformed_iff, fun s a b ha hb => ?_⟩
  · refine ⟨_, Json.Document.parse?_text (.string _), ?_⟩
    show (parse a.checksum).mapError _ = _
    rw [parse_checksum]
    rfl
  · have hparse := parse_of_isSpelling ha
    rw [parse_of_isSpelling hb] at hparse
    exact (Except.ok.inj hparse).symm

end LedgerLogin.Address
