import LedgerLogin.Proofs.Payload.Fields
import LedgerLogin.Proofs.Payload.Shortest

/-!
# Spellings on the wire

The grammar of numbers, keys and values, said without the reader. A number may be spelled with more
digits than it needs, up to ten; what counts is that it has 64 bits (`Varint.read?_eq_some_iff`). A
token is a key, in any spelling, and what the kind that it names calls for (`next?_of_value`,
`next?_cases`).

A token is read the same whatever follows it (`next?_append`). So of two tokens at the start of the
same bytes neither is part of the other.
-/

namespace LedgerLogin

namespace Varint

/-- Digits in base 128 that spell a number, the least significant first: all but the last are
marked by their top bit. -/
inductive Digits : Bytes → Nat → Prop
  | last {b : UInt8} (hb : b.toNat < 128) : Digits [b] b.toNat
  | more {b : UInt8} {bs : Bytes} {n : Nat} (hb : 128 ≤ b.toNat) (h : Digits bs n) :
      Digits (b :: bs) (b.toNat - 128 + 128 * n)

/-- A spelling that may stand in a message: a number of 64 bits in at most ten digits. -/
structure Spells (bs : Bytes) (n : Nat) : Prop where
  digits : Digits bs n
  length : bs.length ≤ 10
  lt : n < 2 ^ 64

theorem Digits.length_pos {bs : Bytes} {n : Nat} (h : Digits bs n) : 0 < bs.length := by
  cases h <;> simp

theorem digits_write (n : Nat) : Digits (write n) n := by
  fun_induction write n with
  | case1 n hlt =>
    have hb : (UInt8.ofNat n).toNat = n := by
      rw [UInt8.toNat_ofNat']
      omega
    have hlast := Digits.last (b := UInt8.ofNat n) (by omega)
    rwa [hb] at hlast
  | case2 n hge ih =>
    have hb : (UInt8.ofNat (n % 128 + 128)).toNat = n % 128 + 128 := by
      rw [UInt8.toNat_ofNat']
      omega
    have hmore := Digits.more (b := UInt8.ofNat (n % 128 + 128)) (by omega) ih
    rwa [hb, Nat.add_sub_cancel, Nat.mod_add_div] at hmore

/-- The last digit shows where a spelling ends, so that none goes on where another one stops. -/
theorem Digits.unique {ds ds' rest rest' : Bytes} {n n' : Nat} (h : Digits ds n)
    (h' : Digits ds' n') (heq : ds ++ rest = ds' ++ rest') : ds = ds' ∧ n = n' := by
  induction h generalizing ds' n' with
  | @last b hb =>
    cases h' with
    | last hb' =>
      cases heq
      exact ⟨rfl, rfl⟩
    | more hb' h' =>
      cases heq
      omega
  | @more b bs m hb h ih =>
    cases h' with
    | last hb' =>
      cases heq
      omega
    | more hb' h' =>
      obtain ⟨rfl, hrest⟩ := List.cons.inj heq
      obtain ⟨rfl, rfl⟩ := ih h' hrest
      exact ⟨rfl, rfl⟩

theorem exists_digits_of_readFrom {index n : Nat} {bs rest : Bytes} (hindex : index ≤ 9)
    (h : readFrom index bs = some (n, rest)) :
    ∃ ds, bs = ds ++ rest ∧ Digits ds n ∧ index + ds.length ≤ 10 := by
  induction bs generalizing index n with
  | nil => cases h
  | cons b bs ih =>
    rw [readFrom] at h
    split at h
    · cases h
    · split at h
      · rename_i hdigit
        cases h
        exact ⟨[b], rfl, .last hdigit, by simp only [List.length_singleton]; omega⟩
      · rename_i hlast hmore
        obtain ⟨⟨m, after⟩, hm, he⟩ := Option.map_eq_some_iff.1 h
        cases he
        obtain ⟨ds, rfl, hds, hlength⟩ := ih (by omega) hm
        refine ⟨b :: ds, rfl, .more (by omega) hds, ?_⟩
        rw [List.length_cons]
        omega

theorem readFrom_of_digits {index n : Nat} {ds : Bytes} (h : Digits ds n)
    (hlength : index + ds.length ≤ 10) (hlt : n < 2 * 128 ^ (9 - index)) (rest : Bytes) :
    readFrom index (ds ++ rest) = some (n, rest) := by
  induction h generalizing index with
  | @last b hb =>
    have hten : ¬ (index = 9 ∧ 1 < b.toNat) := by
      rintro ⟨rfl, hb⟩
      rw [Nat.sub_self] at hlt
      omega
    rw [List.singleton_append, readFrom, if_neg hten, if_pos hb]
  | @more b bs m hb h ih =>
    have hpos := h.length_pos
    rw [List.length_cons] at hlength
    have hpow : 128 ^ (9 - index) = 128 ^ (9 - (index + 1)) * 128 := by
      rw [← Nat.pow_succ]
      congr 1
      omega
    rw [List.cons_append, readFrom, if_neg (by omega), if_neg (by omega),
      ih (by omega) (by omega), Option.map_some]

theorem read?_eq_some_iff {n : Nat} {bs rest : Bytes} :
    read? bs = some (n, rest) ↔ ∃ ds, bs = ds ++ rest ∧ Spells ds n := by
  constructor
  · intro h
    obtain ⟨ds, hbs, hds, hlength⟩ := exists_digits_of_readFrom (Nat.zero_le 9) h
    exact ⟨ds, hbs, hds, by omega, read?_lt h⟩
  · rintro ⟨ds, rfl, hds⟩
    exact readFrom_of_digits hds.digits (by have := hds.length; omega) hds.lt rest

theorem spells_write {n : Nat} (hn : n < 2 ^ 64) : Spells (write n) n := by
  obtain ⟨ds, hds, hspells⟩ := read?_eq_some_iff.1 (read?_write n [] hn)
  rw [List.append_nil, List.append_nil] at hds
  rwa [hds]

/-- A number of more than 64 bits is written but not read. -/
theorem read?_write_eq_none {n : Nat} (hn : 2 ^ 64 ≤ n) (rest : Bytes) :
    read? (write n ++ rest) = none := by
  refine Option.eq_none_iff_forall_ne_some.2 ?_
  rintro ⟨m, after⟩ hread
  obtain ⟨ds, hds, hspells⟩ := read?_eq_some_iff.1 hread
  obtain ⟨-, hsame⟩ := (digits_write n).unique hspells.digits hds
  have hlt := hspells.lt
  omega

theorem Spells.read? {ds : Bytes} {n : Nat} (h : Spells ds n) (rest : Bytes) :
    read? (ds ++ rest) = some (n, rest) :=
  read?_eq_some_iff.2 ⟨ds, rfl, h⟩

end Varint

namespace Wire

structure Key (field : Nat) (kind : Kind) (bs : Bytes) : Prop where
  pos : 0 < field
  lt : field * 8 + kind.code < UInt32.size
  spells : Varint.Spells bs (field * 8 + kind.code)

theorem key_spells {field : Nat} (kind : Kind) (hpos : 0 < field) (hlt : field < 2 ^ 29) :
    Key field kind (key field kind) := by
  have hcode : kind.code < 8 := by cases kind <;> decide
  have hsize : UInt32.size = 2 ^ 32 := rfl
  exact ⟨hpos, by omega, Varint.spells_write (by omega)⟩

theorem key_ne_nil (field : Nat) (kind : Kind) : key field kind ≠ [] :=
  List.ne_nil_of_length_pos (Varint.digits_write _).length_pos

/-- What stands behind a key that holds a value, and the token that both are. -/
inductive Value (field : Nat) : Kind → Bytes → Token → Prop
  | varint {bs : Bytes} {n : Nat} (h : Varint.Spells bs n) :
      Value field .varint bs (.varint field n)
  | fixed64 {bs : Bytes} (h : bs.length = 8) : Value field .fixed64 bs (.fixed64 field bs)
  | delimited {length bs : Bytes} (h : Varint.Spells length bs.length) :
      Value field .delimited (length ++ bs) (.delimited field bs)
  | fixed32 {bs : Bytes} (h : bs.length = 4) : Value field .fixed32 bs (.fixed32 field bs)

theorem Kind.code_of_ofCode? {n : Nat} {kind : Kind} (h : Kind.ofCode? n = some kind) :
    kind.code = n := by
  unfold Kind.ofCode? at h
  split at h
  case h_7 => cases h
  all_goals
    cases h
    rfl

/-! ## Values -/

section
variable {delimited : List Nat} {field : Nat} {kind : Kind} {k v bs rest : Bytes} {t : Token}

theorem value?_of_value (h : Value field kind v t) (rest : Bytes) :
    value? field kind (v ++ rest) = some (t, rest) := by
  cases h with
  | varint h =>
    rw [value?, h.read?]
    rfl
  | fixed64 h =>
    rw [value?, take?_eq_some_iff.2 ⟨rfl, h⟩]
    rfl
  | fixed32 h =>
    rw [value?, take?_eq_some_iff.2 ⟨rfl, h⟩]
    rfl
  | delimited h =>
    rw [List.append_assoc, value?]
    simp only [bind, h.read?, Option.bind_some, take?_append]
    rfl

/-- A key that opens or closes a group stands alone, every other one has a value behind it. -/
theorem value?_cases (h : value? field kind bs = some (t, rest)) :
    (∃ v, bs = v ++ rest ∧ Value field kind v t) ∨
      (kind = .startGroup ∧ t = .startGroup field ∧ rest = bs) ∨
      (kind = .endGroup ∧ t = .endGroup field ∧ rest = bs) := by
  cases kind with
  | varint =>
    obtain ⟨⟨n, after⟩, hn, he⟩ := Option.map_eq_some_iff.1 h
    cases he
    obtain ⟨ds, rfl, hds⟩ := Varint.read?_eq_some_iff.1 hn
    exact .inl ⟨ds, rfl, .varint hds⟩
  | fixed64 =>
    obtain ⟨⟨v, after⟩, hv, he⟩ := Option.map_eq_some_iff.1 h
    cases he
    obtain ⟨rfl, hlength⟩ := take?_eq_some_iff.1 hv
    exact .inl ⟨v, rfl, .fixed64 hlength⟩
  | fixed32 =>
    obtain ⟨⟨v, after⟩, hv, he⟩ := Option.map_eq_some_iff.1 h
    cases he
    obtain ⟨rfl, hlength⟩ := take?_eq_some_iff.1 hv
    exact .inl ⟨v, rfl, .fixed32 hlength⟩
  | delimited =>
    obtain ⟨⟨n, after⟩, hn, h⟩ := Option.bind_eq_some_iff.1 h
    obtain ⟨⟨v, after'⟩, hv, he⟩ := Option.bind_eq_some_iff.1 h
    cases he
    obtain ⟨ds, rfl, hds⟩ := Varint.read?_eq_some_iff.1 hn
    obtain ⟨rfl, rfl⟩ := take?_eq_some_iff.1 hv
    exact .inl ⟨ds ++ v, (List.append_assoc ..).symm, .delimited hds⟩
  | startGroup =>
    cases h
    exact .inr (.inl ⟨rfl, rfl, rfl⟩)
  | endGroup =>
    cases h
    exact .inr (.inr ⟨rfl, rfl, rfl⟩)

/-! ## Tokens -/

def readAs (delimited : List Nat) (field : Nat) (kind : Kind) : Kind :=
  if field ∈ delimited then .delimited else kind

theorem readAs_nil (field : Nat) (kind : Kind) : readAs [] field kind = kind :=
  if_neg List.not_mem_nil

theorem next?_of_key (h : Key field kind k) (bs : Bytes) :
    next? delimited (k ++ bs) = value? field (readAs delimited field kind) bs :=
  next?_of_read (h.spells.read? bs) h.pos h.lt

theorem exists_key_of_next? (h : next? delimited bs = some (t, rest)) :
    ∃ field kind k after, Key field kind k ∧ bs = k ++ after ∧
      value? field (readAs delimited field kind) after = some (t, rest) := by
  simp only [next?, bind, Option.bind_eq_some_iff] at h
  obtain ⟨⟨n, after⟩, hn, h⟩ := h
  obtain ⟨k, rfl, hk⟩ := Varint.read?_eq_some_iff.1 hn
  split at h
  · cases h
  · rename_i hfit
    obtain ⟨kind, hkind, hvalue⟩ := Option.bind_eq_some_iff.1 h
    have hcode := Kind.code_of_ofCode? hkind
    have hkey : n / 8 * 8 + kind.code = n := by omega
    refine ⟨n / 8, kind, k, after, ⟨by omega, by omega, ?_⟩, rfl, hvalue⟩
    rw [hkey]
    exact hk

theorem next?_of_value (hkey : Key field kind k)
    (hvalue : Value field (readAs delimited field kind) v t) (rest : Bytes) :
    next? delimited (k ++ v ++ rest) = some (t, rest) := by
  rw [List.append_assoc, next?_of_key hkey, value?_of_value hvalue]

theorem next?_cases (h : next? delimited bs = some (t, rest)) :
    (∃ field kind k v, bs = k ++ v ++ rest ∧ Key field kind k ∧
      Value field (readAs delimited field kind) v t) ∨
    (∃ field k, bs = k ++ rest ∧ field ∉ delimited ∧ Key field .startGroup k ∧
      t = .startGroup field) ∨
    (∃ field k, bs = k ++ rest ∧ field ∉ delimited ∧ Key field .endGroup k ∧
      t = .endGroup field) := by
  obtain ⟨field, kind, k, after, hkey, rfl, hvalue⟩ := exists_key_of_next? h
  rcases value?_cases hvalue with ⟨v, rfl, hv⟩ | ⟨hkind, rfl, rfl⟩ | ⟨hkind, rfl, rfl⟩
  · exact .inl ⟨field, kind, k, v, (List.append_assoc ..).symm, hkey, hv⟩
  · unfold readAs at hkind
    split at hkind
    · cases hkind
    · rename_i hfield
      subst hkind
      exact .inr (.inl ⟨field, k, rfl, hfield, hkey, rfl⟩)
  · unfold readAs at hkind
    split at hkind
    · cases hkind
    · rename_i hfield
      subst hkind
      exact .inr (.inr ⟨field, k, rfl, hfield, hkey, rfl⟩)

theorem next?_delimitedField_eq_none {s : Bytes} (hpos : 0 < field) (hlt : field < 2 ^ 29)
    (hlen : 2 ^ 64 ≤ s.length) (rest : Bytes) :
    next? delimited (delimitedField field s ++ rest) = none := by
  have hkind : readAs delimited field .delimited = .delimited := ite_self _
  rw [delimitedField, List.append_assoc, List.append_assoc,
    next?_of_key (key_spells .delimited hpos hlt), hkind, value?]
  simp only [bind, Varint.read?_write_eq_none hlen, Option.bind_none]

theorem next?_append (h : next? delimited bs = some (t, rest)) (more : Bytes) :
    next? delimited (bs ++ more) = some (t, rest ++ more) := by
  rcases next?_cases h with ⟨field, kind, k, v, rfl, hkey, hvalue⟩ |
    ⟨field, k, rfl, hfield, hkey, rfl⟩ | ⟨field, k, rfl, hfield, hkey, rfl⟩
  · rw [List.append_assoc (k ++ v)]
    exact next?_of_value hkey hvalue _
  · rw [List.append_assoc, next?_of_key hkey, readAs, if_neg hfield]
    rfl
  · rw [List.append_assoc, next?_of_key hkey, readAs, if_neg hfield]
    rfl

/-- A token that takes all of some bytes is not there before the last of them. -/
theorem next?_eq_none_of_isPrefix {u p : Bytes} (hall : ∀ t rest, next? delimited u = some (t, rest) →
    rest = []) (hp : p <+: u) (hne : p ≠ u) : next? delimited p = none := by
  obtain ⟨more, rfl⟩ := hp
  refine Option.eq_none_iff_forall_ne_some.2 ?_
  rintro ⟨t, rest⟩ hnext
  have hnil := hall t (rest ++ more) (next?_append hnext more)
  rw [(List.append_eq_nil_iff.1 hnil).2, List.append_nil] at hne
  exact hne rfl

end

end Wire

end LedgerLogin
