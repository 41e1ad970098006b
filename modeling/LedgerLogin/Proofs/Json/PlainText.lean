import LedgerLogin.Json.Document

/-!
# Plain texts in JSON

A text without quotes, backslashes and control characters is spelled as it is, between quotes, and
read so (`tokens?_quoted`).
-/

namespace LedgerLogin.Json

/-- A character that stands for itself between quotes. -/
def IsPlain (c : Char) : Prop := 0x20 ≤ c.toNat ∧ c ≠ '\x22' ∧ c ≠ '\\'

instance (c : Char) : Decidable (IsPlain c) := inferInstanceAs (Decidable (_ ∧ _ ∧ _))

theorem stringBody?_cons_plain {c : Char} (h : IsPlain c) (rest : List Char) :
    stringBody? (c :: rest) = (stringBody? rest).map (prepend (some c)) := by
  obtain ⟨hcode, hquote, hbackslash⟩ := h
  have hstop : ¬ (c.toNat < 0x20 || c = '\\') = true := by
    simp [hbackslash, Nat.not_lt.2 hcode]
  rw [stringBody?]
  · rw [if_neg hstop]
  -- The other cases start with a quote or a backslash.
  all_goals
    intros
    contradiction

theorem stringBody?_plain {cs : List Char} (h : ∀ c ∈ cs, IsPlain c) (rest : List Char) :
    stringBody? (cs ++ '\x22' :: rest) = some (some cs, rest) := by
  induction cs with
  | nil => rw [List.nil_append, stringBody?]
  | cons c cs ih =>
    rw [List.cons_append, stringBody?_cons_plain (h c List.mem_cons_self),
      ih fun d hd => h d (List.mem_cons_of_mem c hd)]
    rfl

theorem tokens?_cons {c : Char} {rest after : List Char} {t : Token} {ts : List Token}
    (hblank : isBlank c = false) (hnext : next? (c :: rest) = some (t, after))
    (hafter : tokens? after = some ts) : tokens? (c :: rest) = some (t :: ts) := by
  rw [tokens?, if_neg (by simp [hblank])]
  split
  · rename_i hnone
    rw [hnone] at hnext
    cases hnext
  · rename_i t' after' hsome
    rw [hnext] at hsome
    cases hsome
    rw [hafter]
    rfl

def quoted (s : String) : List Char := '\x22' :: (s.toList ++ ['\x22'])

theorem tokens?_quoted {s : String} {rest : List Char} {ts : List Token}
    (h : ∀ c ∈ s.toList, IsPlain c) (hrest : tokens? rest = some ts) :
    tokens? (quoted s ++ rest) = some (.string (some s) :: ts) := by
  have hchars : quoted s ++ rest = '\x22' :: (s.toList ++ '\x22' :: rest) := by
    rw [quoted, List.cons_append, List.append_assoc]
    rfl
  rw [hchars]
  refine tokens?_cons rfl ?_ hrest
  show (stringBody? (s.toList ++ '\x22' :: rest)).map _ = _
  rw [stringBody?_plain h, Option.map_some]
  show some (Token.string (some (String.ofList s.toList)), rest) = _
  rw [String.ofList_toList]

end LedgerLogin.Json
