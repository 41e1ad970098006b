import LedgerLogin.Proofs.Json.Records
import LedgerLogin.Proofs.Outcome
import LedgerLogin.Proofs.StringMap.Override
import Mathlib.Data.List.Nodup
import Mathlib.Data.List.Perm.Basic
import Mathlib.Data.Option.Basic

/-!
# Readers that undo writers

A document tells a value if it has the value and repeats no key (`Document.Tells`); the members of
its objects may stand in any order. A reader undoes a writer if it finds what was written in every
document that tells the value (`Undoes`).

There is a rule for each of the shapes that readers are made of. The one for records
(`Undoes.record`) leaves the fields to be read, each by a reader that undoes its own writer
(`Record.Holds.required`, `Record.Holds.optional`, `Record.Holds.optionalMember`).
-/

namespace LedgerLogin.Json

variable {α : Type}

namespace Document

/-- No object of a document has two members with one key. -/
inductive Distinct : Document → Prop where
  | null : Distinct .null
  | bool (b : Bool) : Distinct (.bool b)
  | number (n : Option Number) : Distinct (.number n)
  | string (s : Option String) : Distinct (.string s)
  | array {items : List Document} (h : ∀ d ∈ items, Distinct d) : Distinct (.array items)
  | object {members : List (Option String × Document)} (hnodup : (members.map Prod.fst).Nodup)
    (h : ∀ e ∈ members, Distinct e.2) : Distinct (.object members)

/-- A document has a value and repeats no key. -/
structure Tells (d : Document) (j : Json) : Prop where
  value : d.resolve? = some j
  distinct : d.Distinct

/-- A member of a document tells a member of a value. -/
def TellsMember (m : String × Document) (e : String × Json) : Prop := m.1 = e.1 ∧ m.2.Tells e.2

/-! ## What tells a value -/

theorem nodup_keys_some {β γ : Type} (f : β → γ) (members : List (String × β)) :
    ((members.map fun m => (some m.1, f m.2)).map Prod.fst).Nodup ↔
      (members.map Prod.fst).Nodup := by
  have hkeys : (members.map fun m => (some m.1, f m.2)).map Prod.fst =
      (members.map Prod.fst).map some := by
    rw [List.map_map, List.map_map]
    rfl
  rw [hkeys, List.nodup_map_iff (Option.some_injective String)]

theorem forall₂_of_resolveItems? {items : List Document} {js : List Json}
    (h : resolveItems? items = some js) (hdistinct : ∀ d ∈ items, d.Distinct) :
    List.Forall₂ Tells items js := by
  induction items generalizing js with
  | nil =>
    cases h
    exact .nil
  | cons d rest ih =>
    simp only [resolveItems?, bind, Option.bind_eq_some_iff, pure, Option.some.injEq] at h
    obtain ⟨j, hj, more, hmore, rfl⟩ := h
    exact .cons ⟨hj, hdistinct d List.mem_cons_self⟩
      (ih hmore fun d hd => hdistinct d (List.mem_cons_of_mem _ hd))

theorem forall₂_of_resolveMembers? {ms : List (Option String × Document)}
    {resolved : List (String × Json)} (h : resolveMembers? ms = some resolved)
    (hdistinct : ∀ m ∈ ms, m.2.Distinct) :
    ∃ members : List (String × Document), ms = members.map (fun m => (some m.1, m.2)) ∧
      List.Forall₂ TellsMember members resolved := by
  induction ms generalizing resolved with
  | nil =>
    cases h
    exact ⟨[], rfl, .nil⟩
  | cons m rest ih =>
    obtain ⟨key?, d⟩ := m
    simp only [resolveMembers?, bind, Option.bind_eq_some_iff, pure, Option.some.injEq] at h
    obtain ⟨key, rfl, j, hj, more, hmore, rfl⟩ := h
    obtain ⟨members, rfl, htells⟩ := ih hmore fun m hm => hdistinct m (List.mem_cons_of_mem _ hm)
    exact ⟨(key, d) :: members, rfl, .cons ⟨rfl, hj, hdistinct _ List.mem_cons_self⟩ htells⟩

theorem keys_eq_of_forall₂ {members : List (String × Document)} {resolved : List (String × Json)}
    (h : List.Forall₂ TellsMember members resolved) :
    members.map Prod.fst = resolved.map Prod.fst := by
  induction h with
  | nil => rfl
  | cons hmember _ ih => rw [List.map_cons, List.map_cons, hmember.1, ih]

namespace Tells

variable {d : Document}

theorem eq_null (h : d.Tells .null) : d = .null := hasShape_of_resolve? h.value

theorem eq_bool {b : Bool} (h : d.Tells (.bool b)) : d = .bool b := hasShape_of_resolve? h.value

theorem eq_number {n : Number} (h : d.Tells (.number n)) : d = .number (some n) :=
  hasShape_of_resolve? h.value

theorem eq_string {s : String} (h : d.Tells (.string s)) : d = .string (some s) :=
  hasShape_of_resolve? h.value

theorem eq_array {js : List Json} (h : d.Tells (.array js)) :
    ∃ items, d = .array items ∧ List.Forall₂ Tells items js := by
  obtain ⟨items, rfl, hitems⟩ := hasShape_of_resolve? h.value
  cases h.distinct with
  | array hdistinct => exact ⟨items, rfl, forall₂_of_resolveItems? hitems hdistinct⟩

/-- What tells an object has members that tell the object's, in some order. -/
theorem eq_object {values : List (String × Json)} (hnodup : (values.map Prod.fst).Nodup)
    (h : d.Tells (ofMembers values)) :
    ∃ (members : List (String × Document)) (told : List (String × Json)),
      d = .object (members.map fun m => (some m.1, m.2)) ∧ (members.map Prod.fst).Nodup ∧
      List.Forall₂ TellsMember members told ∧ told.Perm values := by
  obtain ⟨hvalue, hdistinct⟩ := h
  rw [ofMembers_eq_object] at hvalue
  obtain ⟨ms, told, rfl, htold, hentries⟩ := hasShape_of_resolve? hvalue
  cases hdistinct with
  | object hkeys hms =>
    obtain ⟨members, rfl, htells⟩ := forall₂_of_resolveMembers? htold hms
    have hmembers : (members.map Prod.fst).Nodup := (nodup_keys_some (fun d => d) members).1 hkeys
    -- Both lists make the same map, and neither repeats a key.
    have hperm : told.Perm (StringMap.ofList values).entries := by
      rw [hentries]
      exact (StringMap.entries_ofList_perm (keys_eq_of_forall₂ htells ▸ hmembers)).symm
    exact ⟨members, told, rfl, hmembers, htells,
      hperm.trans (StringMap.entries_ofList_perm hnodup)⟩

end Tells

end Document

/-! ## Readers of shapes -/

open Document

/-- A reader finds what was written in every document that tells the value. -/
def Undoes (read : Document → Except Fault α) (write : α → Json) : Prop :=
  ∀ (a : α) (d : Document), d.Tells (write a) → read d = .ok a

/-- Each field of a record that is being read tells the member of its name, where there is one. -/
def Record.Holds (r : Record) (fields : List String) (members : List (String × Json)) : Prop :=
  ∀ field ∈ fields, Option.Rel Tells (r.document? field) (members.lookup field)

namespace Undoes

variable {read : Document → Except Fault α} {write : α → Json}

theorem bool : Undoes asBool Json.bool := by
  intro b d h
  rw [h.eq_bool]
  rfl

theorem string : Undoes asString Json.string := by
  intro s d h
  rw [h.eq_string]
  rfl

theorem int64 : Undoes asInt64 fun i => ofInt i.toInt := by
  intro i d h
  rw [h.eq_number]
  rw [asInt64, int64?_eq_some.2 rfl]

theorem uint64 : Undoes asUInt64 fun n => ofNat n.toNat := by
  intro n d h
  have hnarrow : (n.toNat : Int).toNat?.bind uint64? = some n := uint64?_eq_some.2 rfl
  rw [h.eq_number]
  rw [asUInt64, hnarrow]

theorem option (h : Undoes read write) (hnull : ∀ a, write a ≠ .null) :
    Undoes (asOption read) (ofOption write) := by
  intro a d hd
  cases a with
  | none =>
    rw [hd.eq_null]
    rfl
  | some a =>
    have hread : (read d).map some = .ok (some a) := by
      rw [h a d hd]
      rfl
    cases d with
    | null => exact absurd (Option.some.inj hd.value).symm (hnull a)
    | _ => exact hread

theorem list (h : Undoes read write) :
    Undoes (asList read) fun as => .array (as.map write) := by
  intro as d hd
  obtain ⟨items, rfl, htells⟩ := hd.eq_array
  exact mapM_eq_ok.2 ((List.forall₂_map_right_iff.1 htells).imp fun item a => h a item)

theorem map (h : Undoes read write) :
    Undoes (asMap read) fun m => .object (m.entries.map fun e => (e.1, write e.2)) := by
  intro m d hd
  have hascending : Ascending (m.entries.map fun e => (e.1, write e.2)) :=
    List.pairwise_map.2 m.ascending
  have hmembers : d.Tells (ofMembers (m.entries.map fun e => (e.1, write e.2))) := by
    rw [ofMembers_of_ascending hascending]
    exact hd
  obtain ⟨members, told, rfl, -, htells, hperm⟩ := hmembers.eq_object hascending.nodup_keys
  -- The members that are told are entries of the map, so each can be read.
  obtain ⟨entries, rfl, hentries⟩ :=
    (congrFun (congrFun (List.eq_map_comp_perm _) told) m.entries).mpr hperm
  have hread : (members.map fun e => (some e.1, e.2)).mapM (asEntry read) = .ok entries := by
    refine mapM_eq_ok.2 (List.forall₂_map_left_iff.2 ?_)
    refine (List.forall₂_map_right_iff.1 htells).imp ?_
    rintro e entry ⟨hkey, htold⟩
    show (read e.2).map (e.1, ·) = _
    rw [h entry.2 e.2 htold, hkey]
    rfl
  show ((members.map fun e => (some e.1, e.2)).mapM (asEntry read)).map StringMap.ofList = _
  rw [hread, ← StringMap.ofList_eq_of_perm hentries]
  rfl

theorem choice {choices : List (String × α)} {name : α → String}
    (h : ∀ a, choices.lookup (name a) = some a) :
    Undoes (asChoice choices) fun a => .string (name a) := by
  intro a d hd
  rw [hd.eq_string]
  show choose choices (name a) = _
  rw [choose, h]

/-- A record is read from what is written, if that has members for its fields, each at most once. -/
theorem record {what : String} {fields : List String} {closed : Bool}
    {build : Record → Reading α} {members : α → List (String × Json)} (hfields : fields.Nodup)
    (hkeys : ∀ a, ((members a).map Prod.fst).Sublist fields)
    (hbuild : ∀ a r, r.Holds fields (members a) → build r = Except.ok a) :
    Undoes (asRecord what fields closed build) fun a => ofMembers (members a) := by
  intro a d hd
  obtain ⟨ms, told, rfl, hms, htells, hperm⟩ := hd.eq_object ((hkeys a).nodup hfields)
  have hknown : closed = true → ∀ e ∈ ms, e.1 ∈ fields := by
    intro _ e he
    have hkey : e.1 ∈ ms.map Prod.fst := List.mem_map_of_mem he
    rw [keys_eq_of_forall₂ htells, (hperm.map Prod.fst).mem_iff] at hkey
    exact (hkeys a).subset hkey
  refine (asRecord_object_eq_ok hms hknown).2 (hbuild a _ fun field hfield => ?_)
  rw [Record.document?_ofMembers hms hknown hfield,
    ← StringMap.lookup_perm hperm (keys_eq_of_forall₂ htells ▸ hms)]
  exact StringMap.rel_lookup (R := fun _ => Tells) Function.injective_id htells field

end Undoes

namespace Record

variable {r : Record} {fields : List String} {members : List (String × Json)} {field : String}
  {read : Document → Except Fault α} {write : α → Json} {a : α}

theorem Holds.document?_eq_none (h : r.Holds fields members) (hfield : field ∈ fields)
    (hlookup : members.lookup field = none) : r.document? field = none := by
  have hrel := h field hfield
  rw [hlookup] at hrel
  generalize r.document? field = d? at hrel ⊢
  cases hrel
  rfl

theorem Holds.document?_eq_some (h : r.Holds fields members) (hfield : field ∈ fields) {j : Json}
    (hlookup : members.lookup field = some j) : ∃ d, r.document? field = some d ∧ d.Tells j := by
  have hrel := h field hfield
  rw [hlookup] at hrel
  generalize r.document? field = d? at hrel ⊢
  cases hrel with
  | some htells => exact ⟨_, rfl, htells⟩

theorem Holds.required (h : r.Holds fields members) (hread : Undoes read write)
    (hfield : field ∈ fields) (hlookup : members.lookup field = some (write a)) :
    r.required field read = Except.ok a := by
  obtain ⟨d, hd, htells⟩ := h.document?_eq_some hfield hlookup
  exact required_eq_ok.2 ⟨d, hd, hread a d htells⟩

theorem Holds.optional (h : r.Holds fields members) {absent : α} (hread : Undoes read write)
    (hfield : field ∈ fields) (hlookup : members.lookup field = some (write a)) :
    r.optional field absent read = Except.ok a := by
  obtain ⟨d, hd, htells⟩ := h.document?_eq_some hfield hlookup
  rw [optional_eq_ok, hd]
  exact hread a d htells

theorem Holds.optionalMember (h : r.Holds fields members) (hread : Undoes read write)
    (hnull : ∀ a, write a ≠ .null) (hfield : field ∈ fields) {a? : Option α}
    (hlookup : members.lookup field = a?.map write) :
    r.optional field none (asOption read) = Except.ok a? := by
  cases a? with
  | none =>
    rw [optional_eq_ok, h.document?_eq_none hfield hlookup]
    rfl
  | some a => exact h.optional (hread.option hnull) (a := some a) hfield hlookup

end Record

end LedgerLogin.Json
