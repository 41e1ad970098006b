import LedgerLogin.Json.Record
import LedgerLogin.Proofs.Json.Members

/-!
# Records that are read

A record written as an object whose keys are all different, and known if the record is closed, is
read as far as its fields can be read from the members of their names (`asRecord_object_eq_ok`,
`document?_ofMembers`).
-/

namespace LedgerLogin.Json

variable {α β : Type}

namespace Reading

theorem ok_inj {a b : α} : (Except.ok a : Reading α) = Except.ok b ↔ a = b :=
  ⟨Except.ok.inj, congrArg Except.ok⟩

theorem seq_eq_ok {f : Reading (α → β)} {x : Reading α} {b : β} :
    f <*> x = Except.ok b ↔ ∃ g a, f = Except.ok g ∧ x = Except.ok a ∧ g a = b := by
  constructor
  · intro h
    cases f with
    | error e => cases x <;> cases h
    | ok g =>
      cases x with
      | error e => cases h
      | ok a => exact ⟨g, a, rfl, rfl, ok_inj.1 h⟩
  · rintro ⟨g, a, rfl, rfl, rfl⟩
    rfl

theorem map_eq_ok {f : α → β} {x : Reading α} {b : β} :
    f <$> x = Except.ok b ↔ ∃ a, x = Except.ok a ∧ f a = b := by
  constructor
  · intro h
    cases x with
    | error e => cases h
    | ok a => exact ⟨a, rfl, ok_inj.1 h⟩
  · rintro ⟨a, rfl, rfl⟩
    rfl

theorem mapError_eq_ok {x : Except Fault α} {place : Nat} {a : α} :
    (x.mapError (place, ·) : Reading α) = Except.ok a ↔ x = .ok a := by
  cases x with
  | error e => exact ⟨(nomatch ·), (nomatch ·)⟩
  | ok b => exact ok_inj.trans ⟨congrArg Except.ok, Except.ok.inj⟩

end Reading

namespace Record

def document? (r : Record) (field : String) : Option Document :=
  (r.found.lookup field).map Prod.snd

theorem required_eq_ok {r : Record} {field : String} {read : Document → Except Fault α} {a : α} :
    r.required field read = Except.ok a ↔ ∃ d, r.document? field = some d ∧ read d = .ok a := by
  unfold required document?
  cases r.found.lookup field with
  | none => exact ⟨(nomatch ·), fun ⟨_, h, _⟩ => nomatch h⟩
  | some found =>
    refine Reading.mapError_eq_ok.trans ⟨fun h => ⟨_, rfl, h⟩, ?_⟩
    rintro ⟨d, hd, h⟩
    cases hd
    exact h

theorem optional_eq_ok {r : Record} {field : String} {absent : α}
    {read : Document → Except Fault α} {a : α} :
    r.optional field absent read = Except.ok a ↔
      (r.document? field).elim (.ok absent) read = .ok a := by
  unfold optional document?
  cases r.found.lookup field with
  | none => exact Reading.ok_inj.trans ⟨congrArg Except.ok, Except.ok.inj⟩
  | some found => exact Reading.mapError_eq_ok

theorem finish_eq_ok {r : Record} (h : r.fault = none) {x : Reading α} {a : α} :
    r.finish x = .ok a ↔ x = Except.ok a := by
  unfold finish
  rw [h]
  cases x with
  | ok b => exact Iff.trans ⟨Except.ok.inj, congrArg Except.ok⟩ Reading.ok_inj.symm
  | error e => exact ⟨(nomatch ·), (nomatch ·)⟩

/-- Members with different keys, all known if the record is closed, are collected without fault. -/
theorem collect_members (fields : List String) (closed : Bool) (r : Record) (place : Nat)
    {members : List (String × Document)} (hnodup : (members.map Prod.fst).Nodup)
    (hnew : ∀ e ∈ members, r.found.lookup e.1 = none)
    (hknown : closed = true → ∀ e ∈ members, e.1 ∈ fields) :
    let collected := collect fields closed r place (members.map fun e => (some e.1, e.2))
    collected.fault = r.fault ∧ ∀ field ∈ fields,
      collected.document? field = (r.document? field).or (members.lookup field) := by
  induction members generalizing r place with
  | nil => exact ⟨rfl, fun field _ => Option.or_none.symm⟩
  | cons e rest ih =>
    obtain ⟨key, d⟩ := e
    obtain ⟨hfirst, hrest⟩ := List.nodup_cons.1 hnodup
    have hnone : r.found.lookup key = none := hnew _ List.mem_cons_self
    have hlater : ∀ e ∈ rest, e.1 ≠ key := by
      rintro e he rfl
      have hmem : e.1 ∈ rest.map Prod.fst := List.mem_map_of_mem he
      exact hfirst hmem
    have hknown' : closed = true → ∀ e ∈ rest, e.1 ∈ fields :=
      fun hclosed e he => hknown hclosed e (List.mem_cons_of_mem _ he)
    intro collected
    by_cases hfield : key ∈ fields
    · -- The member is one of the fields, and the first of its name.
      have hstep : collected = collect fields closed
          { r with found := r.found ++ [(key, place, d)] } (place + 1)
            (rest.map fun e => (some e.1, e.2)) := by
        simp only [collected, List.map_cons, collect]
        rw [if_pos (List.contains_iff_mem.2 hfield), hnone]
        rfl
      obtain ⟨hfault, hfound⟩ := ih { r with found := r.found ++ [(key, place, d)] } (place + 1) hrest
        (fun e he => by
          rw [List.lookup_append, hnew e (List.mem_cons_of_mem _ he), Option.none_or,
            StringMap.lookup_cons_eq_ite, if_neg (hlater e he)]
          rfl) hknown'
      refine ⟨by rw [hstep, hfault], fun field hmem => ?_⟩
      rw [hstep, hfound field hmem, document?, document?, List.lookup_append,
        StringMap.lookup_cons_eq_ite, StringMap.lookup_cons_eq_ite field key d]
      by_cases hkey : field = key
      · subst hkey
        rw [hnone, if_pos rfl, if_pos rfl]
        rfl
      · rw [if_neg hkey, if_neg hkey]
        simp
    · -- The record is open, and the member is passed over.
      have hopen : closed = false :=
        Bool.eq_false_iff.2 fun hclosed => hfield (hknown hclosed _ List.mem_cons_self)
      have hstep : collected = collect fields closed r (place + 1)
          (rest.map fun e => (some e.1, e.2)) := by
        simp only [collected, List.map_cons, collect]
        rw [if_neg (fun hcontains => hfield (List.contains_iff_mem.1 hcontains)), hopen]
        rfl
      obtain ⟨hfault, hfound⟩ := ih r (place + 1) hrest
        (fun e he => hnew e (List.mem_cons_of_mem _ he)) hknown'
      refine ⟨by rw [hstep, hfault], fun field hmem => ?_⟩
      have hkey : field ≠ key := fun heq => hfield (heq ▸ hmem)
      rw [hstep, hfound field hmem, StringMap.lookup_cons_eq_ite, if_neg hkey]

section
variable {fields : List String} {closed : Bool} {members : List (String × Document)}

theorem fault_ofMembers (hnodup : (members.map Prod.fst).Nodup)
    (hknown : closed = true → ∀ e ∈ members, e.1 ∈ fields) :
    (ofMembers fields closed (members.map fun e => (some e.1, e.2))).fault = none :=
  (collect_members fields closed _ 0 hnodup (fun _ _ => rfl) hknown).1

theorem document?_ofMembers (hnodup : (members.map Prod.fst).Nodup)
    (hknown : closed = true → ∀ e ∈ members, e.1 ∈ fields) {field : String}
    (hfield : field ∈ fields) :
    (ofMembers fields closed (members.map fun e => (some e.1, e.2))).document? field =
      members.lookup field :=
  (collect_members fields closed _ 0 hnodup (fun _ _ => rfl) hknown).2 field hfield

end

/-! ## Members that are values -/

theorem toDocumentMembers_eq (members : List (String × Json)) :
    toDocumentMembers members =
      (members.map fun e => (e.1, e.2.toDocument)).map fun e => (some e.1, e.2) := by
  rw [toDocumentMembers_eq_map, List.map_map]
  rfl

theorem nodup_toDocument {members : List (String × Json)} (h : Ascending members) :
    ((members.map fun e => (e.1, e.2.toDocument)).map Prod.fst).Nodup := by
  rw [List.map_map]
  exact h.nodup_keys

theorem document?_toDocumentMembers {fields : List String} {members : List (String × Json)}
    (h : Ascending members) {field : String} (hfield : field ∈ fields) :
    (ofMembers fields false (toDocumentMembers members)).document? field =
      (members.lookup field).map toDocument := by
  rw [toDocumentMembers_eq, document?_ofMembers (nodup_toDocument h) (by simp) hfield,
    lookup_map_values]

end Record

theorem Document.asRecord_object_eq_ok {what : String} {fields : List String} {closed : Bool}
    {build : Record → Reading α} {members : List (String × Document)} {a : α}
    (hnodup : (members.map Prod.fst).Nodup)
    (hknown : closed = true → ∀ e ∈ members, e.1 ∈ fields) :
    asRecord what fields closed build (.object (members.map fun e => (some e.1, e.2))) = .ok a ↔
      build (.ofMembers fields closed (members.map fun e => (some e.1, e.2))) = Except.ok a :=
  Record.finish_eq_ok (Record.fault_ofMembers hnodup hknown)

theorem Document.asRecord_toDocument_eq_ok {what : String} {fields : List String}
    {build : Record → Reading α} {members : List (String × Json)} {a : α} (h : Ascending members) :
    asRecord what fields false build (Json.object members).toDocument = .ok a ↔
      build (.ofMembers fields false (toDocumentMembers members)) = Except.ok a := by
  rw [toDocument, Record.toDocumentMembers_eq]
  exact asRecord_object_eq_ok (Record.nodup_toDocument h) (by simp)

/-! ## Texts -/

theorem Document.asString_toDocument_eq_ok {j : Json} {s : String} :
    asString j.toDocument = .ok s ↔ j = .string s := by
  cases j <;> simp [toDocument, asString]

end LedgerLogin.Json
