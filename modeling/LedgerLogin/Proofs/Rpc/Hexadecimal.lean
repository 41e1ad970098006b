import LedgerLogin.Proofs.Bytes.Canonical
import LedgerLogin.Rpc.Hexadecimal

/-!
# Hexadecimal values that are read

Just the texts of digits of either case are read as bytes, and as the bytes that they spell
(`bytes_eq_ok`); digits that spell a number of 64 bits are read as that number
(`quantity_spelled`).
-/

namespace LedgerLogin

namespace Hex

theorem decode_of_pairs {cs : List Char} {bs : Bytes} (h : pairs cs = some bs) :
    decode (String.ofList cs) = .ok bs := by
  obtain ⟨hlength, hdigits⟩ := digits_of_pairs h
  have hascii : ∀ c ∈ cs, c.toNat < 128 := by
    intro c hc
    obtain ⟨k, hk⟩ := hdigits c hc
    have hcode := code_of_digit? hk
    omega
  have hchars : (String.ofList cs).toList = cs := String.toList_ofList
  have hsize : (String.ofList cs).utf8ByteSize = cs.length := by
    have hutf8 := congrArg List.length (utf8_of_ascii (s := String.ofList cs) (by rwa [hchars]))
    rwa [List.length_map, hchars] at hutf8
  rw [decode, hsize, if_neg (by omega), hchars, h]

theorem decode_eq_ok {cs : List Char} {bs : Bytes} :
    decode (String.ofList cs) = .ok bs ↔ cs.map Char.toLower = digits bs := by
  refine ⟨fun h => ?_, fun h => decode_of_pairs (pairs_eq_some_iff.2 h)⟩
  rw [decode, String.toList_ofList] at h
  split at h
  · cases h
  split at h
  · rename_i bs' hpairs
    cases h
    exact pairs_eq_some_iff.1 hpairs
  · cases h

end Hex

namespace Hexadecimal

/-- A text of hexadecimal digits as nodes write it. -/
def spelled (digits : List Char) : String := String.ofList ('0' :: 'x' :: digits)

theorem body?_spelled (digits : List Char) : body? (spelled digits) = some digits := by
  rw [body?, spelled, String.toList_ofList]
  rfl

theorem bytes_spelled (method : String) {digits : List Char} {bs : Bytes}
    (h : Hex.pairs digits = some bs) : bytes method (.string (spelled digits)) = .ok bs := by
  simp only [bytes, Json.asString?, body?_spelled, Hex.decode_of_pairs h]

theorem body?_eq_some_iff {s : String} {cs : List Char} : body? s = some cs ↔ s = spelled cs := by
  constructor
  · intro h
    unfold body? at h
    split at h
    · rename_i rest hlist
      cases h
      rw [spelled, ← hlist, String.ofList_toList]
    · cases h
  · rintro rfl
    exact body?_spelled cs

/-- The results that are read as bytes are the texts of their digits in either case. -/
theorem bytes_eq_ok {method : String} {result : Json} {bs : Bytes} :
    bytes method result = .ok bs ↔
      ∃ digits, result = .string (spelled digits) ∧ digits.map Char.toLower = Hex.digits bs := by
  constructor
  · intro h
    unfold bytes at h
    split at h
    · cases h
    rename_i s hs
    split at h
    · cases h
    rename_i cs hcs
    split at h
    · rename_i bs' hdecode
      cases h
      refine ⟨cs, ?_, Hex.decode_eq_ok.1 hdecode⟩
      rw [← body?_eq_some_iff.1 hcs]
      cases result <;> cases hs
      rfl
    · cases h
  · rintro ⟨digits, rfl, hdigits⟩
    exact bytes_spelled method (Hex.pairs_eq_some_iff.2 hdigits)

theorem bytes_eq_error {method : String} {result : Json} {e : TransportError}
    (h : bytes method result = .error e) : ∃ reason, e = .invalidResponse method reason := by
  unfold bytes at h
  split at h
  · cases h
    exact ⟨_, rfl⟩
  split at h
  · cases h
    exact ⟨_, rfl⟩
  split at h
  · cases h
  · cases h
    exact ⟨_, rfl⟩

theorem unsigned_of_number? {digits : List Char} {n : Nat} (h : number? digits = some n) :
    unsigned digits = digits := by
  cases digits with
  | nil => rfl
  | cons c rest =>
    have hc : c ≠ '+' := by
      rintro rfl
      cases h
    rw [unsigned]
    intro rest' heq
    exact hc (List.cons.inj heq).1

theorem quantity_spelled (method : String) {digits : List Char} {n : UInt64} (hne : digits ≠ [])
    (h : number? digits = some n.toNat) : quantity method (.string (spelled digits)) = .ok n := by
  have hquantity : quantity? digits = some n := by
    rw [quantity?, unsigned_of_number? h]
    cases digits with
    | nil => exact absurd rfl hne
    | cons c rest =>
      show number? (c :: rest) >>= uint64? = some n
      rw [h]
      exact uint64?_eq_some.2 rfl
  simp only [quantity, Json.asString?, bind, Option.bind_some, body?_spelled, hquantity]

/-! ## Digits that are written -/

theorem number?_toDigits (n : Nat) : number? (Nat.toDigits 16 n) = some n := by
  have hdigit : ∀ k < 16, Hex.digit? k.digitChar = some k := by decide
  induction n using Nat.strongRecOn with
  | ind n ih =>
    rcases Nat.lt_or_ge n 16 with h | h
    · rw [Nat.toDigits_of_lt_base h]
      simp only [number?, List.foldlM_cons, List.foldlM_nil, hdigit n h, Option.map_some, bind,
        Option.bind_some, pure, Nat.zero_mul, Nat.zero_add]
    · have hhigh : number? (Nat.toDigits 16 (n / 16)) = some (n / 16) := ih _ (by omega)
      rw [number?] at hhigh
      rw [Nat.toDigits_of_base_le (by decide) h, number?, List.foldlM_append, hhigh]
      simp only [List.foldlM_cons, List.foldlM_nil, hdigit _ (Nat.mod_lt n (by decide)),
        Option.map_some, bind, Option.bind_some, pure, Nat.div_add_mod']

theorem digits_of_number? {cs : List Char} {n : Nat} (h : number? cs = some n) :
    ∀ c ∈ cs, ∃ k, Hex.digit? c = some k := by
  unfold number? at h
  -- The digits after the first are read with what stands before them.
  generalize 0 = start at h
  induction cs generalizing start with
  | nil => exact fun c hc => nomatch hc
  | cons c cs ih =>
    simp only [List.foldlM_cons, bind, Option.bind_eq_some_iff, Option.map_eq_some_iff] at h
    obtain ⟨m, ⟨k, hk, -⟩, hrest⟩ := h
    intro d hd
    rcases List.mem_cons.1 hd with rfl | hd
    · exact ⟨k, hk⟩
    · exact ih m hrest d hd

end Hexadecimal

end LedgerLogin
