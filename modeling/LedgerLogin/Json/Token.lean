import LedgerLogin.Json.Number
import LedgerLogin.Bytes.Hex

/-!
# JSON tokens

The first stage of reading JSON: a text becomes a list of tokens, blanks dropped. A token that is
well spelled may still have no value, such as a number beyond all floating-point numbers or half
of a surrogate pair; it carries none, and only what reads the value refuses it.
-/

namespace LedgerLogin.Json

inductive Token where
  | leftBrace
  | rightBrace
  | leftBracket
  | rightBracket
  | colon
  | comma
  | null
  | bool (b : Bool)
  | number (n : Option Number)
  | string (s : Option String)
  deriving DecidableEq, Repr

/-- The characters that may stand between tokens. -/
def isBlank (c : Char) : Bool := c = ' ' || c = '\t' || c = '\n' || c = '\r'

def hex4? (a b c d : Char) : Option Nat := do
  let w ← Hex.digit? a
  let x ← Hex.digit? b
  let y ← Hex.digit? c
  let z ← Hex.digit? d
  return ((w * 16 + x) * 16 + y) * 16 + z

/-- The character that an escape by a single letter stands for. -/
def unescape? : Char → Option Char
  | '\x22' => some '\x22'
  | '\\' => some '\\'
  | '/' => some '/'
  | 'b' => some '\x08'
  | 'f' => some '\x0c'
  | 'n' => some '\n'
  | 'r' => some '\r'
  | 't' => some '\t'
  | _ => none

def ofSurrogates (high low : Nat) : Char :=
  Char.ofNat (0x10000 + (high - 0xD800) * 0x400 + (low - 0xDC00))

/-- Whether a UTF-16 unit is the first half of a pair. -/
def isHigh (n : Nat) : Bool := 0xD800 ≤ n && n < 0xDC00

def isLow (n : Nat) : Bool := 0xDC00 ≤ n && n < 0xE000

/-- The character that a UTF-16 unit is by itself: none if it is half of a pair. -/
def ofUnit? (n : Nat) : Option Char := if isHigh n || isLow n then none else some (Char.ofNat n)

/-- Puts a character, or what stands in the place of one, in front of a string's characters. -/
def prepend (c : Option Char) (r : Option (List Char) × List Char) :
    Option (List Char) × List Char :=
  (c.bind fun c => r.1.map (c :: ·), r.2)

/-- The rest of a string token after its opening quote, and what follows it. -/
def stringBody? : List Char → Option (Option (List Char) × List Char)
  | [] => none
  | '\x22' :: rest => some (some [], rest)
  | '\\' :: 'u' :: a :: b :: c :: d :: '\\' :: 'u' :: e :: f :: g :: h :: rest =>
    match hex4? a b c d, hex4? e f g h with
    | some high, some low =>
      if isHigh high && isLow low then
        (stringBody? rest).map (prepend (some (ofSurrogates high low)))
      else
        (stringBody? ('\\' :: 'u' :: e :: f :: g :: h :: rest)).map (prepend (ofUnit? high))
    | _, _ => none
  | '\\' :: 'u' :: a :: b :: c :: d :: rest =>
    match hex4? a b c d with
    | some n => (stringBody? rest).map (prepend (ofUnit? n))
    | none => none
  | '\\' :: e :: rest =>
    match unescape? e with
    | some c => (stringBody? rest).map (prepend (some c))
    | none => none
  | c :: rest =>
    if c.toNat < 0x20 || c = '\\' then none else (stringBody? rest).map (prepend (some c))

/-- A nonempty run of digits at the start of a text, and what follows it. -/
def digits? (cs : List Char) : Option (List Char × List Char) :=
  match cs.takeWhile Char.isDigit with
  | [] => none
  | d :: ds => some (d :: ds, cs.dropWhile Char.isDigit)

/-- The digits before the point: a zero stands alone. -/
def whole? : List Char → Option (List Char × List Char)
  | '0' :: rest => some (['0'], rest)
  | cs => digits? cs

def fraction? : List Char → Option (List Char × List Char)
  | '.' :: rest => digits? rest
  | cs => some ([], cs)

/-- The digits of an exponent after its sign. -/
def signedDigits? : List Char → Option ((Bool × List Char) × List Char)
  | '-' :: rest => (digits? rest).map fun (ds, rest) => ((true, ds), rest)
  | '+' :: rest => (digits? rest).map fun (ds, rest) => ((false, ds), rest)
  | rest => (digits? rest).map fun (ds, rest) => ((false, ds), rest)

def exponent? : List Char → Option (Option (Bool × List Char) × List Char)
  | 'e' :: rest => (signedDigits? rest).map fun (e, rest) => (some e, rest)
  | 'E' :: rest => (signedDigits? rest).map fun (e, rest) => (some e, rest)
  | cs => some (none, cs)

/-- A number text after its sign. -/
def unsigned? (negative : Bool) (cs : List Char) : Option (Literal × List Char) := do
  let (whole, cs) ← whole? cs
  let (fraction, cs) ← fraction? cs
  let (exponent, cs) ← exponent? cs
  return (⟨negative, whole, fraction, exponent⟩, cs)

def literal? : List Char → Option (Literal × List Char)
  | '-' :: rest => unsigned? true rest
  | cs => unsigned? false cs

/-- The token at the start of a text that starts with no blank, and what follows it. -/
def next? : List Char → Option (Token × List Char)
  | '\x7b' :: rest => some (.leftBrace, rest)
  | '\x7d' :: rest => some (.rightBrace, rest)
  | '[' :: rest => some (.leftBracket, rest)
  | ']' :: rest => some (.rightBracket, rest)
  | ':' :: rest => some (.colon, rest)
  | ',' :: rest => some (.comma, rest)
  | 'n' :: 'u' :: 'l' :: 'l' :: rest => some (.null, rest)
  | 't' :: 'r' :: 'u' :: 'e' :: rest => some (.bool true, rest)
  | 'f' :: 'a' :: 'l' :: 's' :: 'e' :: rest => some (.bool false, rest)
  | '\x22' :: rest => (stringBody? rest).map fun (s, rest) => (.string (s.map String.ofList), rest)
  | cs => (literal? cs).map fun (l, rest) => (.number l.toNumber?, rest)

theorem length_map_prepend {c : Option Char} {n : Nat} {r : Option (Option (List Char) × List Char)}
    {s : Option (List Char)} {rest : List Char}
    (hr : ∀ {s : Option (List Char)} {rest : List Char}, r = some (s, rest) → rest.length < n)
    (h : r.map (prepend c) = some (s, rest)) : rest.length < n := by
  obtain ⟨⟨s', rest'⟩, h', he⟩ := Option.map_eq_some_iff.1 h
  simp only [prepend, Prod.mk.injEq] at he
  rw [← he.2]
  exact hr h'

theorem length_stringBody {cs : List Char} {s : Option (List Char)} {rest : List Char}
    (h : stringBody? cs = some (s, rest)) : rest.length < cs.length := by
  fun_induction stringBody? cs generalizing s rest with
  | case1 => simp at h
  | case2 =>
    simp only [Option.some.injEq, Prod.mk.injEq] at h
    rw [← h.2]
    simp
  | case3 _ _ _ _ _ _ _ _ _ _ _ _ _ _ ih =>
    have := length_map_prepend ih h
    simp only [List.length_cons]; omega
  | case4 _ _ _ _ _ _ _ _ _ _ _ _ _ _ ih =>
    have := length_map_prepend ih h
    simp only [List.length_cons] at this ⊢; omega
  | case5 => simp at h
  | case6 _ _ _ _ _ _ _ _ ih =>
    have := length_map_prepend ih h
    simp only [List.length_cons]; omega
  | case7 => simp at h
  | case8 _ _ _ _ _ _ ih =>
    have := length_map_prepend ih h
    simp only [List.length_cons]; omega
  | case9 => simp at h
  | case10 => simp at h
  | case11 _ _ _ _ _ _ _ ih =>
    have := length_map_prepend ih h
    simp only [List.length_cons]; omega

theorem length_digits {cs ds rest : List Char} (h : digits? cs = some (ds, rest)) :
    rest.length < cs.length := by
  unfold digits? at h
  split at h
  · simp at h
  · rename_i d ds' hd
    simp only [Option.some.injEq, Prod.mk.injEq] at h
    have hlen := congrArg List.length
      (List.takeWhile_append_dropWhile (p := Char.isDigit) (l := cs))
    rw [List.length_append, hd, h.2, List.length_cons] at hlen
    omega

theorem length_whole {cs ds rest : List Char} (h : whole? cs = some (ds, rest)) :
    rest.length < cs.length := by
  unfold whole? at h
  split at h
  · simp only [Option.some.injEq, Prod.mk.injEq] at h
    rw [← h.2]; simp
  · exact length_digits h

theorem length_fraction {cs ds rest : List Char} (h : fraction? cs = some (ds, rest)) :
    rest.length ≤ cs.length := by
  unfold fraction? at h
  split at h
  · have := length_digits h
    simp only [List.length_cons]; omega
  · simp only [Option.some.injEq, Prod.mk.injEq] at h
    exact Nat.le_of_eq (congrArg List.length h.2.symm)

theorem length_signedDigits {cs rest : List Char} {e : Bool × List Char}
    (h : signedDigits? cs = some (e, rest)) : rest.length < cs.length := by
  unfold signedDigits? at h
  split at h <;>
  · obtain ⟨⟨ds, r⟩, hd, he⟩ := Option.map_eq_some_iff.1 h
    simp only [Prod.mk.injEq] at he
    have := length_digits hd
    rw [← he.2]
    exact Nat.lt_of_lt_of_le this (by simp)

theorem length_exponent {cs rest : List Char} {e : Option (Bool × List Char)}
    (h : exponent? cs = some (e, rest)) : rest.length ≤ cs.length := by
  unfold exponent? at h
  split at h
  case h_3 =>
    simp only [Option.some.injEq, Prod.mk.injEq] at h
    exact Nat.le_of_eq (congrArg List.length h.2.symm)
  all_goals
    obtain ⟨⟨ds, r⟩, hd, he⟩ := Option.map_eq_some_iff.1 h
    simp only [Prod.mk.injEq] at he
    have := length_signedDigits hd
    rw [← he.2]
    simp only [List.length_cons]
    omega

theorem length_unsigned {negative : Bool} {cs rest : List Char} {l : Literal}
    (h : unsigned? negative cs = some (l, rest)) : rest.length < cs.length := by
  unfold unsigned? at h
  simp only [bind, Option.bind_eq_some_iff, pure, Option.some.injEq, Prod.mk.injEq] at h
  obtain ⟨⟨w, r₁⟩, h₁, ⟨f, r₂⟩, h₂, ⟨e, r₃⟩, h₃, -, hr⟩ := h
  have := length_whole h₁
  have := length_fraction h₂
  have := length_exponent h₃
  subst hr
  simp only at *
  omega

theorem length_literal {cs rest : List Char} {l : Literal} (h : literal? cs = some (l, rest)) :
    rest.length < cs.length := by
  unfold literal? at h
  split at h
  · have := length_unsigned h
    simp only [List.length_cons]; omega
  · exact length_unsigned h

theorem length_next {cs rest : List Char} {t : Token} (h : next? cs = some (t, rest)) :
    rest.length < cs.length := by
  unfold next? at h
  split at h
  case h_10 =>
    obtain ⟨⟨s, r⟩, hs, he⟩ := Option.map_eq_some_iff.1 h
    simp only [Prod.mk.injEq] at he
    have := length_stringBody hs
    rw [← he.2]
    simp only [List.length_cons]
    omega
  case h_11 =>
    obtain ⟨⟨l, r⟩, hl, he⟩ := Option.map_eq_some_iff.1 h
    simp only [Prod.mk.injEq] at he
    have := length_literal hl
    rw [← he.2]
    exact this
  all_goals
    simp only [Option.some.injEq, Prod.mk.injEq] at h
    rw [← h.2]
    simp only [List.length_cons]
    omega

def tokens? : List Char → Option (List Token)
  | [] => some []
  | c :: rest =>
    if isBlank c then tokens? rest
    else match _h : next? (c :: rest) with
      | none => none
      | some (t, after) => do
        let ts ← tokens? after
        return t :: ts
termination_by cs => cs.length
decreasing_by
  · simp
  · exact length_next _h

end LedgerLogin.Json
