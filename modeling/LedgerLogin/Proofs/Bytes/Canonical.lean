import LedgerLogin.Proofs.Bytes.Digits
import Mathlib.Data.List.Induction

/-!
# Spellings of byte strings

Reading base64 accepts exactly what writing it produces (`Base64.decode?_eq_some_iff`): the padding
and the zero bits that a last group has to spare leave no byte string a second text. Reading
hexadecimal digits accepts what writing them produces, in either case (`Hex.pairs_eq_some_iff`),
and fails only where a character is no digit or their number is odd (`Hex.exists_pairs_iff`). Byte
strings of one length are told apart by the numbers that they spell (`ofBigEndian_inj`).
-/

namespace LedgerLogin

/-- The bytes of a fixed width are those of just that many bytes. -/
theorem fixed?_eq_some_iff {n : Nat} {bs : Bytes} {v : Vector UInt8 n} :
    fixed? n bs = some v ↔ bs = v.toList := by
  unfold fixed?
  constructor
  · intro h
    split at h
    · cases h
      rfl
    · cases h
  · rintro rfl
    rw [dif_pos v.length_toList]
    exact congrArg some (Vector.toList_inj.1 rfl)

theorem fixed?_toList {n : Nat} (v : Vector UInt8 n) : fixed? n v.toList = some v :=
  fixed?_eq_some_iff.2 rfl

theorem bigEndian_ofBigEndian (bs : Bytes) : bigEndian bs.length (ofBigEndian bs) = bs := by
  induction bs using List.reverseRecOn with
  | nil => rfl
  | append_singleton init b ih =>
    have hb := b.toNat_lt
    have hhigh : (ofBigEndian init * 256 + b.toNat) / 256 = ofBigEndian init := by omega
    have hlow : UInt8.ofNat (ofBigEndian init * 256 + b.toNat) = b := by
      rw [← UInt8.toNat_inj]
      show (ofBigEndian init * 256 + b.toNat) % 256 = b.toNat
      omega
    rw [List.length_append, List.length_singleton, ofBigEndian_append_singleton, bigEndian, hhigh,
      hlow, ih]

theorem ofBigEndian_lt (bs : Bytes) : ofBigEndian bs < Nat.pow 256 bs.length := by
  have hread := ofBigEndian_bigEndian bs.length (ofBigEndian bs)
  rw [bigEndian_ofBigEndian] at hread
  rw [hread]
  exact Nat.mod_lt _ (Nat.pow_pos (by decide))

theorem ofBigEndian_inj {bs cs : Bytes} (hlength : bs.length = cs.length)
    (h : ofBigEndian bs = ofBigEndian cs) : bs = cs := by
  rw [← bigEndian_ofBigEndian bs, ← bigEndian_ofBigEndian cs, hlength, h]

namespace Base64

theorem eq_digit_of_digit? {c : Char} {k : Nat} (h : digit? c = some k) :
    k < 64 ∧ c = digit k := by
  simp only [digit?, Char.le_def, UInt32.le_iff_toNat_le] at h
  split at h
  · rename_i hupper
    have hcode : 65 ≤ c.toNat ∧ c.toNat ≤ 90 := hupper
    cases h
    refine ⟨by omega, ?_⟩
    rw [digit, if_pos (by omega), show 65 + (c.toNat - 65) = c.toNat by omega, Char.ofNat_toNat]
  split at h
  · rename_i hlower
    have hcode : 97 ≤ c.toNat ∧ c.toNat ≤ 122 := hlower
    cases h
    refine ⟨by omega, ?_⟩
    rw [digit, if_neg (by omega), if_pos (by omega), show 71 + (c.toNat - 71) = c.toNat by omega,
      Char.ofNat_toNat]
  split at h
  · rename_i hdecimal
    have hcode : 48 ≤ c.toNat ∧ c.toNat ≤ 57 := hdecimal
    cases h
    refine ⟨by omega, ?_⟩
    rw [digit, if_neg (by omega), if_neg (by omega), if_pos (by omega),
      show c.toNat + 4 - 4 = c.toNat by omega, Char.ofNat_toNat]
  split at h
  · rename_i hplus
    cases h
    exact ⟨by decide, hplus⟩
  split at h
  · rename_i hslash
    cases h
    exact ⟨by decide, hslash⟩
  · cases h

/-! ## Groups of digits -/

theorem digits_of_lastOne? {c d : Char} {bs : Bytes} (h : lastOne? c d = some bs) :
    digits bs = [c, d, '=', '='] := by
  simp only [lastOne?, bind, Option.bind_eq_some_iff] at h
  obtain ⟨x, hx, y, hy, h⟩ := h
  obtain ⟨hx64, rfl⟩ := eq_digit_of_digit? hx
  obtain ⟨hy64, rfl⟩ := eq_digit_of_digit? hy
  split at h
  · rename_i hspare
    cases h
    have hbyte := toNat_ofNat_of_lt (show x * 4 + y / 16 < 256 by omega)
    have hfirst : (x * 4 + y / 16) / 4 = x := by omega
    have hsecond : (x * 4 + y / 16) % 4 * 16 = y := by omega
    rw [digits, hbyte, hfirst, hsecond]
  · cases h

theorem digits_of_lastTwo? {c d e : Char} {bs : Bytes} (h : lastTwo? c d e = some bs) :
    digits bs = [c, d, e, '='] := by
  simp only [lastTwo?, bind, Option.bind_eq_some_iff] at h
  obtain ⟨x, hx, y, hy, z, hz, h⟩ := h
  obtain ⟨hx64, rfl⟩ := eq_digit_of_digit? hx
  obtain ⟨hy64, rfl⟩ := eq_digit_of_digit? hy
  obtain ⟨hz64, rfl⟩ := eq_digit_of_digit? hz
  split at h
  · rename_i hspare
    cases h
    have hbyte₁ := toNat_ofNat_of_lt (show x * 4 + y / 16 < 256 by omega)
    have hbyte₂ := toNat_ofNat_of_lt (show y % 16 * 16 + z / 4 < 256 by omega)
    have hfirst : (x * 4 + y / 16) / 4 = x := by omega
    have hsecond : (x * 4 + y / 16) % 4 * 16 + (y % 16 * 16 + z / 4) / 16 = y := by omega
    have hthird : (y % 16 * 16 + z / 4) % 16 * 4 = z := by omega
    rw [digits, hbyte₁, hbyte₂, hfirst, hsecond, hthird]
  · cases h

theorem digits_of_three? {c d e f : Char} {bs : Bytes} (h : three? c d e f = some bs)
    (more : Bytes) : digits (bs ++ more) = c :: d :: e :: f :: digits more := by
  simp only [three?, bind, Option.bind_eq_some_iff] at h
  obtain ⟨x, hx, y, hy, z, hz, w, hw, h⟩ := h
  obtain ⟨hx64, rfl⟩ := eq_digit_of_digit? hx
  obtain ⟨hy64, rfl⟩ := eq_digit_of_digit? hy
  obtain ⟨hz64, rfl⟩ := eq_digit_of_digit? hz
  obtain ⟨hw64, rfl⟩ := eq_digit_of_digit? hw
  cases h
  have hbyte₁ := toNat_ofNat_of_lt (show x * 4 + y / 16 < 256 by omega)
  have hbyte₂ := toNat_ofNat_of_lt (show y % 16 * 16 + z / 4 < 256 by omega)
  have hbyte₃ := toNat_ofNat_of_lt (show z % 4 * 64 + w < 256 by omega)
  have hfirst : (x * 4 + y / 16) / 4 = x := by omega
  have hsecond : (x * 4 + y / 16) % 4 * 16 + (y % 16 * 16 + z / 4) / 16 = y := by omega
  have hthird : (y % 16 * 16 + z / 4) % 16 * 4 + (z % 4 * 64 + w) / 64 = z := by omega
  have hfourth : (z % 4 * 64 + w) % 64 = w := by omega
  simp only [List.cons_append, List.nil_append]
  rw [digits, hbyte₁, hbyte₂, hbyte₃, hfirst, hsecond, hthird, hfourth]

theorem digits_of_ofDigits? {cs : List Char} {bs : Bytes} (h : ofDigits? cs = some bs) :
    digits bs = cs := by
  fun_induction ofDigits? cs generalizing bs with
  | case1 =>
    cases h
    rfl
  | case2 c d => exact digits_of_lastOne? h
  | case3 c d e => exact digits_of_lastTwo? h
  | case4 c d e f rest _ _ ih =>
    simp only [bind, Option.bind_eq_some_iff, pure, Option.some.injEq] at h
    obtain ⟨group, hgroup, more, hmore, rfl⟩ := h
    rw [digits_of_three? hgroup, ih hmore]
  | case5 => cases h

theorem decode?_eq_some_iff {s : String} {bs : Bytes} : decode? s = some bs ↔ s = encode bs := by
  constructor
  · intro h
    rw [encode, digits_of_ofDigits? h, String.ofList_toList]
  · rintro rfl
    exact decode?_encode bs

end Base64

namespace Hex

/-- The codes of digits. -/
theorem code_of_digit? {c : Char} {n : Nat} (h : digit? c = some n) :
    (0x30 ≤ c.toNat ∧ c.toNat ≤ 0x39) ∨ (0x61 ≤ c.toNat ∧ c.toNat ≤ 0x66) ∨
      (0x41 ≤ c.toNat ∧ c.toNat ≤ 0x46) := by
  simp only [digit?, Char.le_def, UInt32.le_iff_toNat_le] at h
  split at h
  · rename_i hdecimal
    exact .inl hdecimal
  split at h
  · rename_i hlower
    exact .inr (.inl hlower)
  split at h
  · rename_i hupper
    exact .inr (.inr hupper)
  · cases h

theorem digit?_eq_some_iff {c : Char} {n : Nat} :
    digit? c = some n ↔ n < 16 ∧ c.toLower = digit n := by
  have hascii : ∀ k < 128, (digit? (Char.ofNat k)).getD 0 < 16 ∧
      ∀ m < 16, digit? (Char.ofNat k) = some m ↔ (Char.ofNat k).toLower = digit m := by
    decide +kernel
  by_cases hc : c.toNat < 128
  · obtain ⟨hvalue, hdigit⟩ := hascii c.toNat hc
    rw [Char.ofNat_toNat] at hvalue hdigit
    constructor
    · intro h
      have hn : n < 16 := by simpa [h] using hvalue
      exact ⟨hn, (hdigit n hn).1 h⟩
    · rintro ⟨hn, h⟩
      exact (hdigit n hn).2 h
  · -- Neither side holds of a character beyond ASCII.
    constructor
    · intro h
      have hcode := code_of_digit? h
      omega
    · rintro ⟨hn, h⟩
      have hupper : ¬ (c.val ≥ 'A'.val ∧ c.val ≤ 'Z'.val) :=
        fun hupper => absurd (UInt32.le_iff_toNat_le.1 hupper.2) (by
          show ¬ c.toNat ≤ 90
          omega)
      have hsmall : ∀ m < 16, (digit m).toNat < 128 := by decide
      have hself : c.toLower = c := dif_neg hupper
      rw [hself] at h
      exact absurd (h ▸ hsmall n hn) hc

/-- The bytes that digits spell are those whose digits they are, but for the case. -/
theorem pairs_eq_some_iff {cs : List Char} {bs : Bytes} :
    pairs cs = some bs ↔ cs.map Char.toLower = digits bs := by
  fun_induction pairs cs generalizing bs with
  | case1 =>
    cases bs with
    | nil => exact iff_of_true rfl rfl
    | cons b bs => exact iff_of_false nofun nofun
  | case2 c =>
    refine iff_of_false nofun fun h => ?_
    cases bs with
    | nil => cases h
    | cons b bs => exact absurd (congrArg List.length h) (by simp [digits, ofByte])
  | case3 c d rest ih =>
    constructor
    · intro h
      simp only [bind, Option.bind_eq_some_iff, pure, Option.some.injEq] at h
      obtain ⟨hi, hc, lo, hd, bs', hrest, rfl⟩ := h
      obtain ⟨hhi, hc⟩ := digit?_eq_some_iff.1 hc
      obtain ⟨hlo, hd⟩ := digit?_eq_some_iff.1 hd
      have hbyte := toNat_ofNat_of_lt (show hi * 16 + lo < 256 by omega)
      have hfirst : (hi * 16 + lo) / 16 = hi := by omega
      have hsecond : (hi * 16 + lo) % 16 = lo := by omega
      show c.toLower :: d.toLower :: rest.map Char.toLower =
        digit ((UInt8.ofNat (hi * 16 + lo)).toNat / 16) ::
          digit ((UInt8.ofNat (hi * 16 + lo)).toNat % 16) :: digits bs'
      rw [hbyte, hfirst, hsecond, hc, hd, ih.1 hrest]
    · intro h
      cases bs with
      | nil => cases h
      | cons b bs =>
        have hb := b.toNat_lt
        obtain ⟨hc, h⟩ := List.cons.inj h
        obtain ⟨hd, hrest⟩ := List.cons.inj h
        rw [digit?_eq_some_iff.2 ⟨by omega, hc⟩, digit?_eq_some_iff.2 ⟨by omega, hd⟩, ih.2 hrest]
        simp only [bind, Option.bind_some, pure]
        rw [ofNat_toNat_eq (b := b) (by omega)]

theorem length_digits (bs : Bytes) : (digits bs).length = 2 * bs.length := by
  induction bs with
  | nil => rfl
  | cons b bs ih =>
    rw [digits, List.flatMap_cons, List.length_append, ← digits, ih, List.length_cons]
    show 2 + 2 * bs.length = _
    omega

theorem digits_of_pairs {cs : List Char} {bs : Bytes} (h : pairs cs = some bs) :
    cs.length = 2 * bs.length ∧ ∀ c ∈ cs, ∃ n, digit? c = some n := by
  have hlower : cs.map Char.toLower = digits bs := pairs_eq_some_iff.1 h
  constructor
  · calc cs.length = (cs.map Char.toLower).length := (List.length_map _).symm
      _ = 2 * bs.length := by rw [hlower, length_digits]
  · intro c hc
    have hmem : c.toLower ∈ digits bs := hlower ▸ List.mem_map_of_mem hc
    obtain ⟨k, hk, hdigit⟩ := exists_digit_of_mem hmem
    exact ⟨k, digit?_eq_some_iff.2 ⟨hk, hdigit⟩⟩

def IsDigit (c : Char) : Prop :=
  ('0' ≤ c ∧ c ≤ '9') ∨ ('a' ≤ c ∧ c ≤ 'f') ∨ ('A' ≤ c ∧ c ≤ 'F')

theorem exists_digit?_iff {c : Char} : (∃ n, digit? c = some n) ↔ IsDigit c := by
  unfold digit? IsDigit
  by_cases hdecimal : '0' ≤ c ∧ c ≤ '9'
  · rw [if_pos hdecimal]
    exact iff_of_true ⟨_, rfl⟩ (.inl hdecimal)
  by_cases hlower : 'a' ≤ c ∧ c ≤ 'f'
  · rw [if_neg hdecimal, if_pos hlower]
    exact iff_of_true ⟨_, rfl⟩ (.inr (.inl hlower))
  by_cases hupper : 'A' ≤ c ∧ c ≤ 'F'
  · rw [if_neg hdecimal, if_neg hlower, if_pos hupper]
    exact iff_of_true ⟨_, rfl⟩ (.inr (.inr hupper))
  · rw [if_neg hdecimal, if_neg hlower, if_neg hupper]
    exact iff_of_false nofun (not_or.2 ⟨hdecimal, not_or.2 ⟨hlower, hupper⟩⟩)

theorem exists_pairs {k : Nat} {cs : List Char} (hlength : cs.length = 2 * k)
    (hdigits : ∀ c ∈ cs, IsDigit c) : ∃ bs : Bytes, pairs cs = some bs ∧ bs.length = k := by
  induction k generalizing cs with
  | zero =>
    obtain rfl := List.length_eq_zero_iff.1 hlength
    exact ⟨[], rfl, rfl⟩
  | succ k ih =>
    match cs, hlength with
    | c :: d :: rest, hlength =>
      obtain ⟨hi, hc⟩ := exists_digit?_iff.2 (hdigits c (by simp))
      obtain ⟨lo, hd⟩ := exists_digit?_iff.2 (hdigits d (by simp))
      have hrest : rest.length = 2 * k := by
        simp only [List.length_cons] at hlength
        omega
      obtain ⟨bs, hbs, hbytes⟩ := ih hrest fun e he => hdigits e (by simp [he])
      refine ⟨UInt8.ofNat (hi * 16 + lo) :: bs, ?_, by rw [List.length_cons, hbytes]⟩
      rw [pairs, hc, hd, hbs]
      rfl

theorem exists_pairs_iff {k : Nat} {cs : List Char} :
    (∃ bs : Bytes, pairs cs = some bs ∧ bs.length = k) ↔
      cs.length = 2 * k ∧ ∀ c ∈ cs, IsDigit c := by
  refine ⟨?_, fun h => exists_pairs h.1 h.2⟩
  rintro ⟨bs, hbs, rfl⟩
  obtain ⟨hlength, hdigits⟩ := digits_of_pairs hbs
  exact ⟨hlength, fun c hc => exists_digit?_iff.1 (hdigits c hc)⟩

end Hex

end LedgerLogin
