import LedgerLogin.Payload.Wire
import Mathlib.Tactic.Ring

/-!
# Fields that are read back

What is written as a number is read as that number (`Varint.read?_write`), and what is written as a
field is read as one token, whatever follows it. A message can therefore be read field by field
(`Reader.run_field`), and only the format decides what its fields come to.
-/

namespace LedgerLogin

namespace Varint

/-- A number is read back if it fits into 64 bits beyond the digits that were read before. -/
theorem readFrom_write (index n : Nat) (rest : Bytes) (hn : n * 128 ^ index < 2 ^ 64) :
    readFrom index (write n ++ rest) = some (n, rest) := by
  -- The tenth digit has room for a single bit.
  have hlast : index = 9 → n < 2 := by
    intro hnine
    subst hnine
    omega
  fun_induction write n generalizing index with
  | case1 n hlt =>
    have hb : (UInt8.ofNat n).toNat = n := by
      rw [UInt8.toNat_ofNat']
      omega
    rw [List.singleton_append, readFrom, hb, if_neg (by omega), if_pos hlt]
  | case2 n hge ih =>
    have hb : (UInt8.ofNat (n % 128 + 128)).toNat = n % 128 + 128 := by
      rw [UInt8.toNat_ofNat']
      omega
    have hrest : n / 128 * 128 ^ (index + 1) < 2 ^ 64 := by
      calc n / 128 * 128 ^ (index + 1) = n / 128 * 128 * 128 ^ index := by ring
        _ ≤ n * 128 ^ index := Nat.mul_le_mul_right _ (Nat.div_mul_le_self n 128)
        _ < 2 ^ 64 := hn
    have hlast' : index + 1 = 9 → n / 128 < 2 := by
      intro h
      rw [h] at hrest
      omega
    rw [List.cons_append, readFrom, hb, if_neg (by omega), if_neg (by omega),
      ih (index + 1) hrest hlast', Option.map_some, Nat.add_sub_cancel]
    simp only [Nat.mod_add_div]

theorem read?_write (n : Nat) (rest : Bytes) (hn : n < 2 ^ 64) :
    read? (write n ++ rest) = some (n, rest) :=
  readFrom_write 0 n rest (by omega)

end Varint

namespace Wire

/-- Bytes that are read as a token, whatever follows them. -/
def Spells (delimited : List Nat) (bs : Bytes) (t : Token) : Prop :=
  ∀ rest, next? delimited (bs ++ rest) = some (t, rest)

theorem take?_append (bs rest : Bytes) : take? bs.length (bs ++ rest) = some (bs, rest) := by
  rw [take?, if_pos (by simp), List.take_left, List.drop_left]

theorem take?_eq_some_iff {n : Nat} {bs v rest : Bytes} :
    take? n bs = some (v, rest) ↔ bs = v ++ rest ∧ v.length = n := by
  unfold take?
  constructor
  · intro h
    split at h
    · rename_i hle
      cases h
      exact ⟨(List.take_append_drop n bs).symm, List.length_take_of_le hle⟩
    · cases h
  · rintro ⟨rfl, rfl⟩
    exact take?_append v rest

/-- Bytes that start with the number of a key are read as the key says. -/
theorem next?_of_read {delimited : List Nat} {field : Nat} {kind : Kind} {bs rest : Bytes}
    (hread : Varint.read? bs = some (field * 8 + kind.code, rest)) (hpos : 0 < field)
    (hlt : field * 8 + kind.code < UInt32.size) :
    next? delimited bs = value? field (if field ∈ delimited then .delimited else kind) rest := by
  have hcode : kind.code < 8 := by cases kind <;> decide
  have hdiv : (field * 8 + kind.code) / 8 = field := by omega
  have hmod : (field * 8 + kind.code) % 8 = kind.code := by omega
  have hfit : ¬ (UInt32.size ≤ field * 8 + kind.code ∨ field = 0) := by omega
  simp only [next?, hread, bind, Option.bind_some, hdiv, hmod, Kind.ofCode_code, if_neg hfit]

theorem next?_key {delimited : List Nat} {field : Nat} (kind : Kind) (hpos : 0 < field)
    (hlt : field < 2 ^ 29) (bs : Bytes) :
    next? delimited (key field kind ++ bs) =
      value? field (if field ∈ delimited then .delimited else kind) bs := by
  have hcode : kind.code < 8 := by cases kind <;> decide
  have hsize : UInt32.size = 2 ^ 32 := rfl
  exact next?_of_read (Varint.read?_write _ bs (by omega)) hpos (by omega)

theorem varintField_spells {delimited : List Nat} {field n : Nat} (hpos : 0 < field)
    (hlt : field < 2 ^ 29) (hfield : field ∉ delimited) (hn : n < 2 ^ 64) :
    Spells delimited (varintField field n) (.varint field n) := by
  intro rest
  rw [varintField, List.append_assoc, next?_key _ hpos hlt, if_neg hfield, value?,
    Varint.read?_write n rest hn]
  rfl

theorem delimitedField_spells {delimited : List Nat} {field : Nat} {bs : Bytes} (hpos : 0 < field)
    (hlt : field < 2 ^ 29) (hlen : bs.length < 2 ^ 64) :
    Spells delimited (delimitedField field bs) (.delimited field bs) := by
  intro rest
  have hkind : (if field ∈ delimited then Kind.delimited else Kind.delimited) = .delimited :=
    ite_self _
  rw [delimitedField, List.append_assoc, List.append_assoc, next?_key _ hpos hlt, hkind, value?]
  simp only [bind, Varint.read?_write bs.length (bs ++ rest) hlen, Option.bind_some, take?_append]
  rfl

theorem length_le_delimitedField (field : Nat) (bs : Bytes) :
    bs.length ≤ (delimitedField field bs).length := by
  simp only [delimitedField, List.length_append]
  omega

/-! ## Reading field by field -/

variable {α : Type} {f : Format α} {a b : α} {bs : Bytes} {t : Token}

/-- A token of the message itself that opens or closes no group is applied. -/
theorem Reader.step_apply (hlimit : 0 < f.limit) (hstart : ∀ n, t ≠ .startGroup n)
    (hend : ∀ n, t ≠ .endGroup n) (happly : f.apply a t = some b) :
    Reader.step f ⟨[], a⟩ t = some ⟨[], b⟩ := by
  cases t with
  | startGroup n => exact absurd rfl (hstart n)
  | endGroup n => exact absurd rfl (hend n)
  | _ => simp [step, take, hlimit, happly]

theorem Reader.run_token {r r' : Reader α} {rest : Bytes}
    (hnext : next? (r.delimited f) bs = some (t, rest)) (hstep : r.step f t = some r') :
    r.run f bs = r'.run f rest := by
  have hne : bs.isEmpty = false := by
    cases bs with
    | nil => exact absurd (length_next hnext) (Nat.not_lt_zero _)
    | cons b bs => rfl
  rw [run, hne, if_neg (by decide)]
  split
  · rename_i hnone
    rw [hnext] at hnone
    cases hnone
  · rename_i t' rest' hsome
    rw [hnext] at hsome
    cases hsome
    rw [hstep]
    rfl

theorem Reader.run_field (hspells : Spells f.delimited bs t) (hlimit : 0 < f.limit)
    (hstart : ∀ n, t ≠ .startGroup n) (hend : ∀ n, t ≠ .endGroup n)
    (happly : f.apply a t = some b) (rest : Bytes) :
    Reader.run f ⟨[], a⟩ (bs ++ rest) = Reader.run f ⟨[], b⟩ rest :=
  run_token (hspells rest) (step_apply hlimit hstart hend happly)

/-- A field that may be left out is read the same if leaving it out makes no difference. -/
theorem Reader.run_optional {absent : Prop} [Decidable absent] (hskip : absent → a = b)
    (hfield : ¬ absent → ∀ rest, Reader.run f ⟨[], a⟩ (bs ++ rest) = Reader.run f ⟨[], b⟩ rest)
    (rest : Bytes) :
    Reader.run f ⟨[], a⟩ ((if absent then [] else bs) ++ rest) = Reader.run f ⟨[], b⟩ rest := by
  by_cases h : absent
  · rw [if_pos h, hskip h, List.nil_append]
  · rw [if_neg h]
    exact hfield h rest

theorem Reader.run_nil (r : Reader α) : Reader.run f r [] = some r := by
  rw [run]
  rfl

end Wire

end LedgerLogin
