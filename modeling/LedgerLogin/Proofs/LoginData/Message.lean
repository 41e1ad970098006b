import LedgerLogin.Proofs.Payload.Grammar
import LedgerLogin.Proofs.StringMap.Override
import LedgerLogin.LoginData

/-!
# Messages of login data

What a message is, field by field, and what each field gives on its own (`Field`). The content of
a message is that of its fields merged in their order (`content?_eq_some_iff`), where of what is
there twice the later counts (`Content.merge`).
-/

namespace LedgerLogin.Payload

/-! ## Content over content -/

namespace Content

/-- A content with a later one over it: what the later one has counts. -/
def merge (c later : Content) : Content where
  signature := later.signature.or c.signature
  expiry := later.expiry.or c.expiry
  extra := c.extra.override later.extra
  protocol := later.protocol.or c.protocol

variable {c c₁ c₂ : Content}

theorem merge_empty (c : Content) : c.merge {} = c := rfl

theorem empty_merge (c : Content) : ({} : Content).merge c = c := by
  simp only [merge, Option.or_none, StringMap.empty_override]

theorem merge_assoc (c₁ c₂ c₃ : Content) :
    (c₁.merge c₂).merge c₃ = c₁.merge (c₂.merge c₃) := by
  simp only [merge, Option.or_assoc, StringMap.override_assoc]

/-- A content that only a field of some number gives. -/
structure From (number : Nat) (c : Content) : Prop where
  signature : number ≠ 1 → c.signature = none
  expiry : number ≠ 2 → c.expiry = none
  extra : number ≠ 3 → c.extra = ∅
  protocol : number ≠ 4 → c.protocol = none

def ofEntry (e : String × String) : Content := { extra := (∅ : StringMap String).insert e.1 e.2 }

theorem merge_ofEntry (c : Content) (e : String × String) :
    c.merge (ofEntry e) = { c with extra := c.extra.insert e.1 e.2 } := rfl

end Content

/-! ## Fields -/

/-- A field of a message and what it gives on its own. Numbers, lengths and keys may be spelled with
more digits than they need. The key of an entry of the extra data may name any kind, and a field
with a number above those that are known gives nothing. -/
inductive Field : (number : Nat) → Bytes → Content → Prop
  | signature {k length s : Bytes} (hkey : Wire.Key 1 .delimited k)
      (hlength : Varint.Spells length s.length) :
      Field 1 (k ++ (length ++ s)) { signature := some s }
  | expiry {k v : Bytes} {n : Nat} (hkey : Wire.Key 2 .varint k) (hvalue : Varint.Spells v n) :
      Field 2 (k ++ v) { expiry := some n }
  | extra {kind : Wire.Kind} {k length bs : Bytes} {e : String × String} (hkey : Wire.Key 3 kind k)
      (hlength : Varint.Spells length bs.length) (hentry : entryOf? bs = some e) :
      Field 3 (k ++ (length ++ bs)) (.ofEntry e)
  | protocol {k v : Bytes} {n : Nat} (hkey : Wire.Key 4 .varint k) (hvalue : Varint.Spells v n) :
      Field 4 (k ++ v) { protocol := some (lowInt32 n) }
  | unknown {number : Nat} {bs : Bytes} (hnumber : 4 < number)
      (h : Wire.Unknown nestingLimit 0 number bs) : Field number bs {}

variable {number : Nat} {bs rest : Bytes} {c d : Content}

theorem Field.from (h : Field number bs c) : c.From number := by
  cases h with
  | signature => exact ⟨fun h => absurd rfl h, fun _ => rfl, fun _ => rfl, fun _ => rfl⟩
  | expiry => exact ⟨fun _ => rfl, fun h => absurd rfl h, fun _ => rfl, fun _ => rfl⟩
  | extra => exact ⟨fun _ => rfl, fun _ => rfl, fun h => absurd rfl h, fun _ => rfl⟩
  | protocol => exact ⟨fun _ => rfl, fun _ => rfl, fun _ => rfl, fun h => absurd rfl h⟩
  | unknown => exact ⟨fun _ => rfl, fun _ => rfl, fun _ => rfl, fun _ => rfl⟩

theorem apply_of_four_lt (c : Content) {t : Wire.Token} (h : 4 < t.field) : apply c t = some c := by
  unfold apply
  split
  case h_5 => exact if_neg (Nat.not_le.2 h)
  all_goals exact absurd h (by simp only [Wire.Token.field]; omega)

theorem Field.exists_token (h : Field number bs c) :
    ∃ t, Wire.IsField format number bs t ∧ ∀ before, apply before t = some (before.merge c) := by
  cases h with
  | signature hkey hlength =>
    refine ⟨_, .plain hkey (.delimited hlength), fun before => ?_⟩
    simp only [apply, Content.merge, Option.some_or, Option.none_or, StringMap.override_empty]
  | expiry hkey hvalue =>
    refine ⟨_, .plain hkey (.varint hvalue), fun before => ?_⟩
    simp only [apply, Content.merge, Option.some_or, Option.none_or, StringMap.override_empty]
  | extra hkey hlength hentry =>
    refine ⟨_, .plain hkey (.delimited hlength), fun before => ?_⟩
    simp only [apply, hentry, Option.map_some, Content.merge_ofEntry]
  | protocol hkey hvalue =>
    refine ⟨_, .plain hkey (.varint hvalue), fun before => ?_⟩
    simp only [apply, Content.merge, Option.some_or, Option.none_or, StringMap.override_empty]
  | unknown hnumber h =>
    have hnot : number ∉ format.delimited := by
      rw [format, List.mem_singleton]
      omega
    obtain ⟨t, ht⟩ := h.exists_isField (f := format) hnot
    refine ⟨t, ht, fun before => ?_⟩
    rw [apply_of_four_lt before (ht.token_field.symm ▸ hnumber), Content.merge_empty]

theorem exists_field {t : Wire.Token} (h : Wire.IsField format number bs t)
    (happly : apply c t = some d) : ∃ e, Field number bs e ∧ d = c.merge e := by
  have hnumber := h.token_field
  -- Only the extra data is read as bytes whatever its key says.
  have hread : ∀ kind, number ≠ 3 → Wire.readAs format.delimited number kind = kind :=
    fun kind hthree => if_neg (mt List.mem_singleton.1 hthree)
  unfold apply at happly
  split at happly
  case h_1 s =>
    obtain rfl : 1 = number := hnumber
    obtain ⟨kind, k, length, hkind, hkey, hlength, rfl⟩ := h.of_delimited
    rw [hread kind (by decide)] at hkind
    cases happly
    exact ⟨_, .signature (hkind ▸ hkey) hlength, rfl⟩
  case h_2 n =>
    obtain rfl : 2 = number := hnumber
    obtain ⟨kind, k, v, hkind, hkey, hvalue, rfl⟩ := h.of_varint
    rw [hread kind (by decide)] at hkind
    cases happly
    exact ⟨_, .expiry (hkind ▸ hkey) hvalue, rfl⟩
  case h_3 s =>
    obtain rfl : 3 = number := hnumber
    obtain ⟨kind, k, length, -, hkey, hlength, rfl⟩ := h.of_delimited
    obtain ⟨e, he, rfl⟩ := Option.map_eq_some_iff.1 happly
    exact ⟨_, .extra hkey hlength he, rfl⟩
  case h_4 n =>
    obtain rfl : 4 = number := hnumber
    obtain ⟨kind, k, v, hkind, hkey, hvalue, rfl⟩ := h.of_varint
    rw [hread kind (by decide)] at hkind
    cases happly
    exact ⟨_, .protocol (hkind ▸ hkey) hvalue, rfl⟩
  case h_5 =>
    split at happly
    · cases happly
    · rename_i hknown
      cases happly
      have hnew : 4 < number := by omega
      have hnot : number ∉ format.delimited := mt List.mem_singleton.1 (by omega)
      exact ⟨{}, .unknown hnew (h.unknown hnot (by decide)), (Content.merge_empty c).symm⟩

/-! ## Messages -/

/-- A message, field after field, and its content. -/
inductive Message : Bytes → Content → Prop
  | nil : Message [] {}
  | field {number : Nat} {bs rest : Bytes} {c d : Content} (h : Field number bs c)
      (hrest : Message rest d) : Message (bs ++ rest) (c.merge d)

theorem Message.reads (h : Message bs c) (before : Content) :
    Wire.Reads format before bs (before.merge c) := by
  induction h generalizing before with
  | nil => exact .nil before
  | field h hrest ih =>
    obtain ⟨t, hfield, happly⟩ := h.exists_token
    rw [← Content.merge_assoc]
    exact .field hfield (happly before) (ih _)

theorem exists_message {before : Content} (h : Wire.Reads format before bs d) :
    ∃ c, Message bs c ∧ d = before.merge c := by
  induction h with
  | nil before => exact ⟨{}, .nil, rfl⟩
  | field h happly hrest ih =>
    obtain ⟨c, hc, rfl⟩ := exists_field h happly
    obtain ⟨e, he, rfl⟩ := ih
    exact ⟨c.merge e, .field hc he, Content.merge_assoc _ c e⟩

/-- Behind other content a message is read as it is alone, and the contents are merged. -/
theorem read?_format (before : Content) (bs : Bytes) :
    Wire.read? format before bs = (content? bs).map before.merge := by
  have hmessage : ∀ before d, Wire.read? format before bs = some d ↔
      ∃ c, Message bs c ∧ d = before.merge c := by
    intro before d
    rw [Wire.read?_eq_some_iff (by decide)]
    constructor
    · exact exists_message
    · rintro ⟨c, hc, rfl⟩
      exact hc.reads before
  refine Option.ext fun d => ?_
  rw [hmessage, Option.map_eq_some_iff]
  constructor
  · rintro ⟨c, hc, rfl⟩
    exact ⟨c, (hmessage {} c).2 ⟨c, hc, (Content.empty_merge c).symm⟩, rfl⟩
  · rintro ⟨e, he, rfl⟩
    obtain ⟨c, hc, rfl⟩ := (hmessage {} e).1 he
    exact ⟨c, hc, by rw [Content.empty_merge]⟩

/-- The content of a message is that of its fields. -/
theorem content?_eq_some_iff : content? bs = some c ↔ Message bs c := by
  rw [content?, Wire.read?_eq_some_iff (by decide)]
  constructor
  · intro h
    obtain ⟨e, he, rfl⟩ := exists_message h
    rwa [Content.empty_merge]
  · intro h
    have hreads := h.reads {}
    rwa [Content.empty_merge] at hreads

end LedgerLogin.Payload
