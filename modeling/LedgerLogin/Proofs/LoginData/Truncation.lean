import LedgerLogin.Proofs.LoginData.Merging
import LedgerLogin.Proofs.LoginData.RoundTrip

/-!
# Messages that end early

Data is written part by part, each part as a field of its own (`fields_eq`). A message that ends too
early is read only where it ends between two parts, and then as the data that has the parts before
the end and no others (`decode_truncated`). A part is never read from the first of its bytes: if
those were a token, the whole part would have been one with bytes left over.
-/

namespace LedgerLogin.LoginData

open Payload Wire

/-! ## Parts -/

/-- A part of login data that is written as a field of its own. -/
inductive Part where
  | signature (bytes : Bytes)
  | expiry (time : Int64)
  | extra (entry : String × String)
  | protocol (protocol : Protocol)

namespace Part

def bytes : Part → Bytes
  | signature s => delimitedField 1 s
  | expiry time => varintField 2 time.toInt.toNat
  | extra e => delimitedField 3 (encodeEntry e)
  | protocol p => varintField 4 p.code.toNat

/-- A part fits the wire if what stands behind a length in it has a length of 64 bits. -/
def Fits : Part → Prop
  | signature s => s.length < 2 ^ 64
  | expiry _ => True
  | extra e => (encodeEntry e).length < 2 ^ 64
  | protocol _ => True

end Part

def parts (d : LoginData) : List Part :=
  (if d.signature.isEmpty then [] else [.signature d.signature]) ++
    (d.expiry.toList.map .expiry ++ (d.extra.entries.map .extra ++ d.protocol.toList.map .protocol))

theorem fields_eq (d : LoginData) : d.fields = d.parts.map Part.bytes := by
  have hsignature : (if d.signature.isEmpty then [] else [delimitedField 1 d.signature]) =
      (if d.signature.isEmpty then [] else [Part.signature d.signature]).map Part.bytes := by
    split <;> rfl
  simp only [fields, parts, hsignature, List.map_append, List.map_map, List.append_assoc]
  rfl

section
variable {d e : LoginData}

theorem signature_mem_parts {s : Bytes} :
    .signature s ∈ d.parts ↔ s ≠ [] ∧ d.signature = s := by
  unfold parts
  split
  · rename_i hempty
    rw [List.isEmpty_iff.1 hempty]
    simp [eq_comm]
  · rename_i hsome
    have hne : d.signature ≠ [] := fun h => hsome (List.isEmpty_iff.2 h)
    simp only [List.mem_append, List.mem_singleton, List.mem_map, Part.signature.injEq,
      reduceCtorEq, and_false, exists_false, or_false]
    exact ⟨fun h => ⟨h ▸ hne, h.symm⟩, fun h => h.2.symm⟩

theorem expiry_mem_parts {time : Int64} : .expiry time ∈ d.parts ↔ d.expiry = some time := by
  unfold parts
  split <;> simp

theorem extra_mem_parts {entry : String × String} :
    .extra entry ∈ d.parts ↔ entry ∈ d.extra.entries := by
  unfold parts
  split <;> simp

theorem protocol_mem_parts {p : Protocol} : .protocol p ∈ d.parts ↔ d.protocol = some p := by
  unfold parts
  split <;> simp

theorem fits_iff : d.Fits ↔ ∀ x ∈ d.parts, x.Fits := by
  constructor
  · rintro ⟨hsignature, hextra⟩ x hx
    cases x with
    | signature s => exact (signature_mem_parts.1 hx).2 ▸ hsignature
    | expiry time => trivial
    | extra entry => exact hextra entry (extra_mem_parts.1 hx)
    | protocol p => trivial
  · intro h
    constructor
    · by_cases hempty : d.signature = []
      · rw [hempty]
        decide
      · exact h _ (signature_mem_parts.2 ⟨hempty, rfl⟩)
    · intro entry hentry
      exact h _ (extra_mem_parts.2 hentry)

/-! ## Parts on the wire -/

theorem Part.exists_token {x : Part} (h : x.Fits) :
    ∃ t c, Spells format.delimited x.bytes t ∧ (∀ n, t ≠ .startGroup n) ∧
      (∀ n, t ≠ .endGroup n) ∧ apply {} t = some c := by
  cases x with
  | signature s =>
    exact ⟨_, _, delimitedField_spells (by decide) (by decide) h, by simp, by simp, rfl⟩
  | expiry time =>
    have hle := time.toInt_le
    have hmax : Int64.maxValue.toInt = 2 ^ 63 - 1 := by decide
    exact ⟨_, _, varintField_spells (by decide) (by decide) (by decide) (by omega), by simp,
      by simp, rfl⟩
  | extra entry =>
    refine ⟨_, .ofEntry entry, delimitedField_spells (by decide) (by decide) h, by simp, by simp, ?_⟩
    simp only [apply, entryOf?_encodeEntry entry h, Option.map_some]
    rfl
  | protocol p =>
    have hcode : p.code.toNat < 2 ^ 64 := by cases p <;> decide
    exact ⟨_, _, varintField_spells (by decide) (by decide) (by decide) hcode, by simp, by simp, rfl⟩

theorem Part.content?_append {x : Part} (h : x.Fits) :
    ∃ c : Content, ∀ rest, content? (x.bytes ++ rest) = (content? rest).map c.merge := by
  obtain ⟨t, c, hspells, hstart, hend, happly⟩ := x.exists_token h
  refine ⟨c, fun rest => ?_⟩
  rw [← read?_format, content?, read?, run_format_field hspells hstart hend happly]
  rfl

theorem Part.next?_eq_none {x : Part} (h : ¬ x.Fits) (rest : Bytes) :
    next? format.delimited (x.bytes ++ rest) = none := by
  cases x with
  | signature s => exact next?_delimitedField_eq_none (by decide) (by decide) (Nat.not_lt.1 h) rest
  | expiry time => exact absurd trivial h
  | extra entry =>
    exact next?_delimitedField_eq_none (by decide) (by decide) (Nat.not_lt.1 h) rest
  | protocol p => exact absurd trivial h

theorem Part.bytes_ne_nil (x : Part) : x.bytes ≠ [] := by
  cases x with
  | signature s => simp [bytes, delimitedField, key_ne_nil]
  | expiry time => simp [bytes, varintField, key_ne_nil]
  | extra entry => simp [bytes, delimitedField, key_ne_nil]
  | protocol p => simp [bytes, varintField, key_ne_nil]

/-- No part is read from only some of its bytes. -/
theorem Part.content?_of_isPrefix {x : Part} {p : Bytes} (hp : p <+: x.bytes) (hne : p ≠ x.bytes)
    (hnil : p ≠ []) : content? p = none := by
  refine read?_eq_none_of_next? hnil (next?_eq_none_of_isPrefix ?_ hp hne)
  intro t rest hnext
  rw [← List.append_nil x.bytes] at hnext
  by_cases hfits : x.Fits
  · obtain ⟨t', c, hspells, -⟩ := x.exists_token hfits
    rw [hspells []] at hnext
    cases hnext
    rfl
  · rw [x.next?_eq_none hfits []] at hnext
    cases hnext

theorem Part.content?_of_long {x : Part} (h : ¬ x.Fits) (rest : Bytes) :
    content? (x.bytes ++ rest) = none :=
  read?_eq_none_of_next? (by simp [x.bytes_ne_nil]) (x.next?_eq_none h rest)

/-! ## Prefixes -/

theorem prefix_append_cases {α : Type} {p u v : List α} (h : p <+: u ++ v) :
    (p <+: u ∧ p ≠ u) ∨ ∃ q, q <+: v ∧ p = u ++ q := by
  obtain ⟨rest, hrest⟩ := h
  rcases List.append_eq_append_iff.1 hrest with ⟨as, rfl, rfl⟩ | ⟨bs, rfl, rfl⟩
  · by_cases hnil : as = []
    · subst hnil
      exact .inr ⟨[], List.nil_prefix, by simp⟩
    · exact .inl ⟨List.prefix_append p as, by simpa using hnil⟩
  · exact .inr ⟨bs, List.prefix_append bs rest, rfl⟩

/-- What is left of some parts is read only if it is some of them. -/
theorem content?_of_isPrefix {xs : List Part} {p : Bytes} (h : p <+: (xs.map Part.bytes).flatten) :
    content? p = none ∨
      ∃ before, before <+: xs ∧ p = (before.map Part.bytes).flatten ∧ ∀ x ∈ before, x.Fits := by
  -- The bytes end within the first part, or they have all of it and the rest ends early.
  induction xs generalizing p with
  | nil =>
    obtain rfl : p = [] := List.prefix_nil.1 h
    exact .inr ⟨[], List.nil_prefix, rfl, by simp⟩
  | cons x xs ih =>
    rw [List.map_cons, List.flatten_cons] at h
    rcases prefix_append_cases h with ⟨hp, hne⟩ | ⟨q, hq, rfl⟩
    · by_cases hnil : p = []
      · exact .inr ⟨[], List.nil_prefix, hnil, by simp⟩
      · exact .inl (Part.content?_of_isPrefix hp hne hnil)
    · by_cases hfits : x.Fits
      · obtain ⟨c, hc⟩ := x.content?_append hfits
        rw [hc]
        rcases ih hq with hnone | ⟨before, hbefore, rfl, hall⟩
        · exact .inl (by rw [hnone, Option.map_none])
        · refine .inr ⟨x :: before, List.cons_prefix_cons.2 ⟨rfl, hbefore⟩, rfl, ?_⟩
          intro y hy
          rcases List.mem_cons.1 hy with rfl | hy
          · exact hfits
          · exact hall y hy
      · exact .inl (Part.content?_of_long hfits q)

/-! ## Data that is cut -/

theorem eq_nil_of_isPrefix {α : Type} {p u : List α} (h : p <+: u) (hne : p ≠ u)
    (hone : u.length ≤ 1) : p = [] := by
  have hlt : p.length ≠ u.length := fun heq => hne (h.eq_of_length heq)
  have hle := h.length_le
  exact List.eq_nil_of_length_eq_zero (by omega)

theorem exists_of_isPrefix_parts {before : List Part} (h : before <+: d.parts) :
    ∃ e : LoginData, e.parts = before := by
  -- Of the signature, the expiry and the protocol there is one at most: it is there or it is not.
  rcases prefix_append_cases h with ⟨hbefore, hne⟩ | ⟨m, hm, rfl⟩
  · have hone : (if d.signature.isEmpty then [] else [Part.signature d.signature]).length ≤ 1 := by
      split <;> simp
    rw [eq_nil_of_isPrefix hbefore hne hone]
    exact ⟨{}, rfl⟩
  · rcases prefix_append_cases hm with ⟨hm, hne⟩ | ⟨n, hn, rfl⟩
    · have hone : (d.expiry.toList.map Part.expiry).length ≤ 1 := by
        cases d.expiry <;> simp
      rw [eq_nil_of_isPrefix hm hne hone]
      exact ⟨{ signature := d.signature }, rfl⟩
    · rcases prefix_append_cases hn with ⟨hn, -⟩ | ⟨o, ho, rfl⟩
      · obtain ⟨entries, hentries, rfl⟩ := List.prefix_map_iff.1 hn
        have hascending := d.extra.ascending.sublist hentries.sublist
        refine ⟨{ d with extra := ⟨entries, hascending⟩, protocol := none }, ?_⟩
        simp only [parts, Option.toList_none, List.map_nil, List.append_nil]
      · have hone : (d.protocol.toList.map Part.protocol).length ≤ 1 := by
          cases d.protocol <;> simp
        by_cases hall : o = d.protocol.toList.map Part.protocol
        · exact ⟨d, by rw [hall, parts]⟩
        · rw [eq_nil_of_isPrefix ho hall hone]
          exact ⟨{ d with protocol := none }, rfl⟩

/-- Data that has of each part of other data all or nothing. -/
structure PartOf (e d : LoginData) : Prop where
  signature : e.signature = [] ∨ e.signature = d.signature
  expiry : e.expiry = none ∨ e.expiry = d.expiry
  extra : ∀ entry ∈ e.extra.entries, entry ∈ d.extra.entries
  protocol : e.protocol = none ∨ e.protocol = d.protocol

theorem partOf_of_isPrefix (h : e.parts <+: d.parts) : e.PartOf d := by
  refine ⟨?_, ?_, ?_, ?_⟩
  · by_cases hempty : e.signature = []
    · exact .inl hempty
    · have hmem := h.subset (signature_mem_parts.2 ⟨hempty, rfl⟩)
      exact .inr (signature_mem_parts.1 hmem).2.symm
  · cases he : e.expiry with
    | none => exact .inl rfl
    | some time =>
      have hmem := h.subset (expiry_mem_parts.2 he)
      exact .inr (expiry_mem_parts.1 hmem).symm
  · intro entry hentry
    exact extra_mem_parts.1 (h.subset (extra_mem_parts.2 hentry))
  · cases he : e.protocol with
    | none => exact .inl rfl
    | some p =>
      have hmem := h.subset (protocol_mem_parts.2 he)
      exact .inr (protocol_mem_parts.1 hmem).symm

/-- Data that fits is read from its parts, and so is the data that has only the first of them. -/
theorem decode_of_isPrefix_parts (hexpiry : ∀ time, d.expiry = some time → 0 ≤ time.toInt)
    {before : List Part} (h : before <+: d.parts) (hfits : ∀ x ∈ before, x.Fits) :
    ∃ e, e.parts = before ∧ decode (before.map Part.bytes).flatten = .ok e := by
  obtain ⟨e, rfl⟩ := exists_of_isPrefix_parts h
  have hexpiry' : ∀ time, e.expiry = some time → 0 ≤ time.toInt := by
    intro time he
    have hmem := h.subset (expiry_mem_parts.2 he)
    exact hexpiry time (expiry_mem_parts.1 hmem)
  refine ⟨e, rfl, ?_⟩
  rw [← fields_eq, decode, content?_fields (fits_iff.2 hfits)]
  exact ofContent_contentOf hexpiry'

/-- A message that ends early is never read as other data. Data without a negative expiry is written
as its parts one after the other, and the first bytes of that, not all, are not read unless they are
the fields of the first parts: then they are read as the data that has just these parts. If the data
fits the wire this is so wherever a message ends between two parts. So what is read has each part of
the data as it is or not at all. -/
theorem decode_truncated (hexpiry : ∀ time, d.expiry = some time → 0 ≤ time.toInt) :
    d.encode = .ok (d.parts.map Part.bytes).flatten ∧
    ∀ p, p <+: (d.parts.map Part.bytes).flatten → p ≠ (d.parts.map Part.bytes).flatten →
      (decode p = .error .malformed ∨ ∃ e, e.parts <+: d.parts ∧ e.parts ≠ d.parts ∧
        p = (e.parts.map Part.bytes).flatten ∧ decode p = .ok e) ∧
      (d.Fits → ∀ before, before <+: d.parts → p = (before.map Part.bytes).flatten →
        ∃ e, e.parts = before ∧ decode p = .ok e) ∧
      (∀ e, decode p = .ok e → e.PartOf d) := by
  refine ⟨fields_eq d ▸ encode_of_nonneg hexpiry, fun p hp hne => ?_⟩
  have hcut : decode p = .error .malformed ∨ ∃ e, e.parts <+: d.parts ∧ e.parts ≠ d.parts ∧
      p = (e.parts.map Part.bytes).flatten ∧ decode p = .ok e := by
    rcases content?_of_isPrefix hp with hnone | ⟨before, hbefore, rfl, hfits⟩
    · left
      rw [decode, hnone]
    · obtain ⟨e, rfl, he⟩ := decode_of_isPrefix_parts hexpiry hbefore hfits
      have hshorter : e.parts ≠ d.parts := fun hall => hne (by rw [hall])
      exact .inr ⟨e, hbefore, hshorter, rfl, he⟩
  refine ⟨hcut, ?_, ?_⟩
  · rintro hfits before hbefore rfl
    exact decode_of_isPrefix_parts hexpiry hbefore fun x hx => fits_iff.1 hfits x (hbefore.subset hx)
  · intro e he
    rcases hcut with hmalformed | ⟨e', hbefore, -, -, he'⟩
    · rw [hmalformed] at he
      cases he
    · rw [he'] at he
      cases he
      exact partOf_of_isPrefix hbefore

/-- The expiry of this data takes two bytes behind its key. Behind the first of them the message is
not read, least of all with a smaller expiry. -/
theorem decode_truncated_expiry :
    (∀ time, ({ signature := [0xaa], expiry := some 1234 } : LoginData).expiry = some time →
      0 ≤ time.toInt) ∧
    decode [0x0a, 1, 0xaa, 0x10, 0xd2] = .error .malformed := by
  have hexpiry : ∀ time, ({ signature := [0xaa], expiry := some 1234 } : LoginData).expiry =
      some time → 0 ≤ time.toInt := by
    intro time htime
    cases htime
    decide
  refine ⟨hexpiry, ?_⟩
  obtain ⟨hencode, hcut⟩ := decode_truncated hexpiry
  have hwritten : ({ signature := [0xaa], expiry := some 1234 } : LoginData).encode =
      .ok [0x0a, 1, 0xaa, 0x10, 0xd2, 9] := by cbv
  rw [← Except.ok.inj (hwritten.symm.trans hencode)] at hcut
  rcases (hcut [0x0a, 1, 0xaa, 0x10, 0xd2] (List.prefix_append _ [9]) (by decide)).1 with
    hmalformed | ⟨e, hbefore, hshorter, hp, -⟩
  · exact hmalformed
  · have hsignature : (Part.signature [0xaa]).bytes = [0x0a, 1, 0xaa] := by cbv
    rcases List.prefix_cons_iff.1 hbefore with hnone | ⟨more, hmore, hrest⟩
    · rw [hnone] at hp
      cases hp
    · rcases List.prefix_cons_iff.1 hrest with rfl | ⟨rest, rfl, hnil⟩
      · rw [hmore, List.map_cons, hsignature] at hp
        cases hp
      · obtain rfl := List.prefix_nil.1 hnil
        exact absurd hmore hshorter

end

end LedgerLogin.LoginData
