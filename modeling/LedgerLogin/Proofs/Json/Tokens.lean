import LedgerLogin.Json.Value
import LedgerLogin.Proofs.Bytes.Digits
import LedgerLogin.Proofs.Json.PlainText
import Mathlib.Tactic.SplitIfs

/-!
# Tokens that are written

A text between quotes is read as one token, whatever characters it has (`tokens?_quote`), and so is
an integer that fits 64 bits, if what stands behind it ends it (`tokens?_integer`).
-/

namespace LedgerLogin.Json

/-! ## Texts between quotes -/

theorem stringBody?_of_hex4?_none {a b c d : Char} (h : hex4? a b c d = none) (rest : List Char) :
    stringBody? ('\\' :: 'u' :: a :: b :: c :: d :: rest) = none := by
  unfold stringBody?
  split <;> grind

theorem stringBody?_unit {a b c d : Char} {n : Nat} (h : hex4? a b c d = some n)
    (hn : isHigh n = false) (rest : List Char) :
    stringBody? ('\\' :: 'u' :: a :: b :: c :: d :: rest) =
      (stringBody? rest).map (prepend (ofUnit? n)) := by
  by_cases hpair : ∃ e f g k after, rest = '\\' :: 'u' :: e :: f :: g :: k :: after
  · obtain ⟨e, f, g, k, after, rfl⟩ := hpair
    rw [stringBody?]
    cases hlow : hex4? e f g k with
    | none => simp [h, stringBody?_of_hex4?_none hlow]
    | some low => simp [h, hn]
  · rw [stringBody?]
    · rw [h]
    · intro e f g k after heq
      exact hpair ⟨e, f, g, k, after, heq⟩

theorem stringBody?_letter {e c : Char} (he : e ≠ 'u') (h : unescape? e = some c)
    (rest : List Char) :
    stringBody? ('\\' :: e :: rest) = (stringBody? rest).map (prepend (some c)) := by
  rw [stringBody?]
  · rw [h]
  all_goals
    intros
    contradiction

/-- A control character without a letter of its own is escaped by its number. -/
theorem stringBody?_control {c : Char} (h : c.toNat < 0x20) (rest : List Char) :
    stringBody? ('\\' :: 'u' :: '0' :: '0' :: Hex.digit (c.toNat / 16) ::
      Hex.digit (c.toNat % 16) :: rest) = (stringBody? rest).map (prepend (some c)) := by
  have hhigh := Hex.digit?_digit (c.toNat / 16) (by omega)
  have hlow := Hex.digit?_digit (c.toNat % 16) (by omega)
  have hzero : Hex.digit? '0' = some 0 := rfl
  have hunit : hex4? '0' '0' (Hex.digit (c.toNat / 16)) (Hex.digit (c.toNat % 16)) =
      some c.toNat := by
    simp only [hex4?, hzero, hhigh, hlow, bind, Option.bind_some, pure, Option.some.injEq]
    omega
  have hchar : ofUnit? c.toNat = some c := by
    have hno : (isHigh c.toNat || isLow c.toNat) = false := by
      simp only [isHigh, isLow, Bool.or_eq_false_iff, Bool.and_eq_false_iff, decide_eq_false_iff_not]
      omega
    rw [ofUnit?, hno, Char.ofNat_toNat]
    rfl
  have hhalf : isHigh c.toNat = false := by
    simp only [isHigh, Bool.and_eq_false_iff, decide_eq_false_iff_not]
    omega
  rw [stringBody?_unit hunit hhalf, hchar]

theorem stringBody?_escape (c : Char) (rest : List Char) :
    stringBody? (escape c ++ rest) = (stringBody? rest).map (prepend (some c)) := by
  unfold escape
  split_ifs with hquote hbackslash hb hf hn hr ht hcontrol
  · subst hquote
    exact stringBody?_letter (by decide) rfl rest
  · subst hbackslash
    exact stringBody?_letter (by decide) rfl rest
  · subst hb
    exact stringBody?_letter (by decide) rfl rest
  · subst hf
    exact stringBody?_letter (by decide) rfl rest
  · subst hn
    exact stringBody?_letter (by decide) rfl rest
  · subst hr
    exact stringBody?_letter (by decide) rfl rest
  · subst ht
    exact stringBody?_letter (by decide) rfl rest
  · exact stringBody?_control hcontrol rest
  · exact stringBody?_cons_plain ⟨Nat.not_lt.1 hcontrol, hquote, hbackslash⟩ rest

theorem stringBody?_escaped (cs rest : List Char) :
    stringBody? (cs.flatMap escape ++ '\x22' :: rest) = some (some cs, rest) := by
  induction cs with
  | nil => rw [List.flatMap_nil, List.nil_append, stringBody?]
  | cons c cs ih =>
    rw [List.flatMap_cons, List.append_assoc, stringBody?_escape, ih]
    rfl

theorem tokens?_quote (s : String) {rest : List Char} {ts : List Token}
    (hrest : tokens? rest = some ts) :
    tokens? (quote s ++ rest) = some (.string (some s) :: ts) := by
  have hchars : quote s ++ rest = '\x22' :: (s.toList.flatMap escape ++ '\x22' :: rest) := by
    simp [quote]
  rw [hchars]
  refine tokens?_cons rfl ?_ hrest
  show (stringBody? (s.toList.flatMap escape ++ '\x22' :: rest)).map _ = _
  rw [stringBody?_escaped, Option.map_some]
  show some (Token.string (some (String.ofList s.toList)), rest) = _
  rw [String.ofList_toList]

/-! ## Whole numbers -/

/-- What may stand behind a value. -/
def Ends (cs : List Char) : Prop := ∀ c rest, cs = c :: rest → c = ',' ∨ c = ']' ∨ c = '\x7d'

theorem digits?_append {ds rest : List Char} (hne : ds ≠ []) (hds : ∀ d ∈ ds, d.isDigit = true)
    (hrest : Ends rest) : digits? (ds ++ rest) = some (ds, rest) := by
  have hstop : rest.takeWhile Char.isDigit = [] ∧ rest.dropWhile Char.isDigit = rest := by
    cases rest with
    | nil => exact ⟨rfl, rfl⟩
    | cons c rest =>
      obtain rfl | rfl | rfl := hrest c rest rfl <;> exact ⟨rfl, rfl⟩
  rw [digits?, List.takeWhile_append_of_pos hds, List.dropWhile_append_of_pos hds, hstop.1, hstop.2,
    List.append_nil]
  cases ds with
  | nil => exact absurd rfl hne
  | cons d ds => rfl

theorem digitsValue_toDigits (n : Nat) : digitsValue (Nat.toDigits 10 n) = n := by
  have h : Nat.ofDigitChars 10 (Nat.toDigits 10 n) 0 = n := Nat.ofDigitChars_ten_toDigits
  simp only [Nat.ofDigitChars_eq_foldl, Nat.mul_comm 10] at h
  exact h

theorem toDigits_ne_zero_cons {n : Nat} (h : n ≠ 0) (ds : List Char) :
    Nat.toDigits 10 n ≠ '0' :: ds := by
  induction n using Nat.strongRecOn generalizing ds with
  | ind n ih =>
    rcases Nat.lt_or_ge n 10 with hlt | hge
    · rw [Nat.toDigits_of_lt_base hlt]
      have hdigit : ∀ k < 10, k ≠ 0 → k.digitChar ≠ '0' := by decide
      intro heq
      exact hdigit n hlt h (List.cons.inj heq).1
    · rw [Nat.toDigits_of_base_le (by decide) hge]
      intro heq
      cases hhigh : Nat.toDigits 10 (n / 10) with
      | nil => exact Nat.toDigits_ne_nil hhigh
      | cons d more =>
        rw [hhigh, List.cons_append] at heq
        rw [(List.cons.inj heq).1] at hhigh
        exact ih (n / 10) (by omega) (by omega) more hhigh

theorem whole?_toDigits (n : Nat) {rest : List Char} (hrest : Ends rest) :
    whole? (Nat.toDigits 10 n ++ rest) = some (Nat.toDigits 10 n, rest) := by
  by_cases hn : n = 0
  · subst hn
    rfl
  · have hdigits : ∀ d ∈ Nat.toDigits 10 n, d.isDigit = true :=
      fun d hd => Nat.isDigit_of_mem_toDigits (by decide) (by decide) hd
    rw [← digits?_append Nat.toDigits_ne_nil hdigits hrest]
    unfold whole?
    split
    · rename_i after heq
      cases hds : Nat.toDigits 10 n with
      | nil => exact absurd hds Nat.toDigits_ne_nil
      | cons d ds =>
        rw [hds, List.cons_append] at heq
        rw [(List.cons.inj heq).1] at hds
        exact absurd hds (toDigits_ne_zero_cons hn ds)
    · rfl

def wholeLiteral (negative : Bool) (n : Nat) : Literal := ⟨negative, Nat.toDigits 10 n, [], none⟩

theorem unsigned?_toDigits (negative : Bool) (n : Nat) {rest : List Char} (hrest : Ends rest) :
    unsigned? negative (Nat.toDigits 10 n ++ rest) = some (wholeLiteral negative n, rest) := by
  have hfraction : fraction? rest = some ([], rest) := by
    cases rest with
    | nil => rfl
    | cons c rest => obtain rfl | rfl | rfl := hrest c rest rfl <;> rfl
  have hexponent : exponent? rest = some (none, rest) := by
    cases rest with
    | nil => rfl
    | cons c rest => obtain rfl | rfl | rfl := hrest c rest rfl <;> rfl
  rw [unsigned?, whole?_toDigits n hrest]
  simp only [bind, Option.bind_some, hfraction, hexponent]
  rfl

/-- An integer that fits 64 bits, with sign or without. -/
def Fits (i : Int) : Prop := Int64.minValue.toInt ≤ i ∧ i < UInt64.size

theorem toNumber?_wholeLiteral {n : Nat} (h : n < UInt64.size) :
    (wholeLiteral false n).toNumber? = some (.integer n) := by
  have hvalue : digitsValue (wholeLiteral false n).whole = n := digitsValue_toDigits n
  unfold Literal.toNumber?
  simp only [hvalue]
  rw [if_pos (by simp [wholeLiteral, Literal.isWhole, h])]

theorem toNumber?_wholeLiteral_neg {n : Nat} (hn : 0 < n) (h : Int64.minValue.toInt ≤ -(n : Int)) :
    (wholeLiteral true n).toNumber? = some (.integer (-n)) := by
  have hvalue : digitsValue (wholeLiteral true n).whole = n := digitsValue_toDigits n
  have hfits : (int64? (-n)).isSome = true := by
    unfold int64?
    have hmax : (0 : Int) ≤ Int64.maxValue.toInt := by decide
    rw [if_pos ⟨h, by omega⟩]
    rfl
  unfold Literal.toNumber?
  simp only [hvalue]
  rw [if_neg (by simp [wholeLiteral]), if_pos (by simp [wholeLiteral, Literal.isWhole, hn, hfits])]

theorem literal?_of_isDigit {c : Char} (h : c.isDigit = true) (cs : List Char) :
    literal? (c :: cs) = unsigned? false (c :: cs) := by
  rw [literal?]
  rintro rest heq
  rw [(List.cons.inj heq).1] at h
  exact absurd h (by decide)

theorem next?_of_isDigit {c : Char} (h : c.isDigit = true) (cs : List Char) :
    next? (c :: cs) = (literal? (c :: cs)).map fun (l, rest) => (.number l.toNumber?, rest) := by
  rw [next?]
  -- No other token starts with a digit.
  all_goals
    intros
    rename_i heq
    rw [(List.cons.inj heq).1] at h
    exact absurd h (by decide)

theorem isBlank_of_isDigit {c : Char} (h : c.isDigit = true) : isBlank c = false := by
  refine Bool.eq_false_iff.2 fun hblank => ?_
  simp only [isBlank, Bool.or_eq_true, decide_eq_true_eq] at hblank
  rcases hblank with ((rfl | rfl) | rfl) | rfl <;> exact absurd h (by decide)

theorem tokens?_natural {n : Nat} (h : n < UInt64.size) {rest : List Char} {ts : List Token}
    (hends : Ends rest) (hrest : tokens? rest = some ts) :
    tokens? (Nat.toDigits 10 n ++ rest) = some (.number (some (.integer n)) :: ts) := by
  have hunsigned := unsigned?_toDigits false n hends
  cases hds : Nat.toDigits 10 n with
  | nil => exact absurd hds Nat.toDigits_ne_nil
  | cons d ds =>
    have hd : d.isDigit = true :=
      Nat.isDigit_of_mem_toDigits (by decide) (by decide) (hds ▸ List.mem_cons_self)
    rw [hds, List.cons_append] at hunsigned
    rw [List.cons_append]
    refine tokens?_cons (isBlank_of_isDigit hd) ?_ hrest
    rw [next?_of_isDigit hd, literal?_of_isDigit hd, hunsigned]
    exact congrArg (fun number => some (Token.number number, rest)) (toNumber?_wholeLiteral h)

theorem tokens?_negative {n : Nat} (hn : 0 < n) (h : Int64.minValue.toInt ≤ -(n : Int))
    {rest : List Char} {ts : List Token} (hends : Ends rest) (hrest : tokens? rest = some ts) :
    tokens? ('-' :: Nat.toDigits 10 n ++ rest) = some (.number (some (.integer (-n))) :: ts) := by
  rw [List.cons_append]
  refine tokens?_cons rfl ?_ hrest
  show (unsigned? true (Nat.toDigits 10 n ++ rest)).map _ = _
  rw [unsigned?_toDigits true n hends]
  exact congrArg (fun number => some (Token.number number, rest)) (toNumber?_wholeLiteral_neg hn h)

theorem tokens?_integer {i : Int} (h : Fits i) {rest : List Char} {ts : List Token}
    (hends : Ends rest) (hrest : tokens? rest = some ts) :
    tokens? ((Number.integer i).text.toList ++ rest) =
      some (.number (some (.integer i)) :: ts) := by
  obtain ⟨hlow, hhigh⟩ := h
  cases i with
  | ofNat n =>
    have htext : (Number.integer (Int.ofNat n)).text.toList = Nat.toDigits 10 n := Nat.toList_repr
    rw [htext]
    exact tokens?_natural (Int.ofNat_lt.1 hhigh) hends hrest
  | negSucc n =>
    have htext : (Number.integer (Int.negSucc n)).text.toList = '-' :: Nat.toDigits 10 (n + 1) := by
      show ("-" ++ (n + 1).repr).toList = _
      rw [String.toList_append, Nat.toList_repr]
      rfl
    rw [htext]
    exact tokens?_negative (Nat.succ_pos n) hlow hends hrest

end LedgerLogin.Json
