import LedgerLogin.Proofs.Json.Records
import LedgerLogin.Proofs.Outcome
import LedgerLogin.Proofs.StringMap.Entries

/-!
# What is read was written

The other way round than for writers (`Document.Undoes`), where a value is read the document is
known: a record that is read has each field where it is written, as the member of its name or the
item in its place (`exists_record_of_asRecord`), a field that may be left out is null, left out or
read (`mayTell_of_optional`), and the value of a key in a map is that of its last member
(`exists_members_of_asMap`).
-/

namespace LedgerLogin.Json

variable {α β : Type}

namespace Record

/-- A record gives what its parts give if nothing is wrong with it as a whole. -/
theorem eq_ok_of_finish {r : Record} {x : Reading α} {a : α} (h : r.finish x = .ok a) :
    x = Except.ok a ∧ r.fault = none := by
  have hfault : r.fault = none := by
    cases hr : r.fault with
    | none => rfl
    | some e =>
      unfold finish at h
      rw [hr] at h
      cases x <;> cases h
  exact ⟨(finish_eq_ok hfault).1 h, hfault⟩

theorem document?_append (r : Record) (key : String) (place : Nat) (d : Document)
    (field : String) :
    ({ r with found := r.found ++ [(key, place, d)] } : Record).document? field =
      (r.document? field).or (if field = key then some d else none) := by
  unfold document?
  rw [List.lookup_append, StringMap.lookup_cons_eq_ite, List.lookup_nil]
  cases r.found.lookup field with
  | some found => rfl
  | none =>
    rw [Option.none_or]
    split <;> rfl

theorem lookup_some_cons (field key : String) (d : Document)
    (rest : List (Option String × Document)) :
    ((some key, d) :: rest).lookup (some field) =
      if field = key then some d else rest.lookup (some field) := by
  by_cases h : field = key
  · rw [if_pos h, h, List.lookup_cons_self]
  · have hne : (some field == some key) = false := by simpa using h
    rw [if_neg h, List.lookup_cons, hne]

/-- If nothing is wrong with the members as a whole, the fields are the members of their names. -/
theorem document?_of_collect {fields : List String} {closed : Bool} {r : Record} {place : Nat}
    {members : List (Option String × Document)}
    (h : (collect fields closed r place members).fault = none) :
    r.fault = none ∧ ∀ field ∈ fields, (collect fields closed r place members).document? field =
      (r.document? field).or (members.lookup (some field)) := by
  induction members generalizing r place with
  | nil => exact ⟨h, fun field _ => Option.or_none.symm⟩
  | cons m rest ih =>
    obtain ⟨key, d⟩ := m
    -- A fault that was found stays to the end.
    have hfaulty : ∀ f : Fault, (r.fault <|> some (place, f)) ≠ none := by
      intro f
      cases r.fault <;> nofun
    cases key with
    | none => exact absurd (ih h).1 (hfaulty _)
    | some key =>
      unfold collect at h ⊢
      simp only [lookup_some_cons]
      by_cases hfield : fields.contains key = true
      · by_cases hfound : (r.found.lookup key).isSome = true
        · simp only [if_pos hfield, if_pos hfound] at h
          exact absurd (ih h).1 (hfaulty _)
        · simp only [if_pos hfield, if_neg hfound] at h ⊢
          obtain ⟨hnone, hrest⟩ := ih h
          refine ⟨hnone, fun field hmem => ?_⟩
          rw [hrest field hmem, document?_append, Option.or_assoc]
          split <;> rfl
      · by_cases hclosed : closed = true
        · simp only [if_neg hfield, if_pos hclosed] at h
          exact absurd (ih h).1 (hfaulty _)
        · simp only [if_neg hfield, if_neg hclosed] at h ⊢
          obtain ⟨hnone, hrest⟩ := ih h
          refine ⟨hnone, fun field hmem => ?_⟩
          have hne : field ≠ key := by
            rintro rfl
            exact hfield (List.contains_iff_mem.2 hmem)
          rw [hrest field hmem, if_neg hne]

theorem lookup_zip_zipIdx {fields : List String} {field : String} (h : field ∈ fields)
    (items : List Document) (start : Nat) :
    ((fields.zip (items.zipIdx start)).map fun (f, d, i) => (f, i, d)).lookup field =
      (items[fields.idxOf field]?).map fun d => (start + fields.idxOf field, d) := by
  induction fields generalizing items start with
  | nil => cases h
  | cons f rest ih =>
    cases items with
    | nil => rfl
    | cons d items =>
      rw [List.zipIdx_cons, List.zip_cons_cons, List.map_cons, StringMap.lookup_cons_eq_ite,
        List.idxOf_cons]
      by_cases hf : field = f
      · simp [hf]
      · have hrest : field ∈ rest := (List.mem_cons.1 h).resolve_left hf
        have hne : (f == field) = false := beq_false_of_ne (Ne.symm hf)
        rw [if_neg hf, ih hrest, hne]
        simp only [cond_false, List.getElem?_cons_succ, Nat.add_assoc, Nat.add_comm 1]

end Record

namespace Document

/-! ## Records -/

/-- The document of a field where a record is written: the member of its name, or the item in its
place. -/
def field? (fields : List String) (field : String) : Document → Option Document
  | .object members => members.lookup (some field)
  | .array items => items[fields.idxOf field]?
  | _ => none

/-- A record that is read is made of its fields, each as it is written. -/
theorem exists_record_of_asRecord {what : String} {fields : List String} {closed : Bool}
    {build : Record → Reading α} {d : Document} {a : α}
    (h : asRecord what fields closed build d = .ok a) :
    ∃ r : Record, build r = Except.ok a ∧
      ∀ field ∈ fields, r.document? field = d.field? fields field := by
  cases d with
  | object members =>
    obtain ⟨hbuild, hfault⟩ := Record.eq_ok_of_finish h
    exact ⟨_, hbuild, (Record.document?_of_collect hfault).2⟩
  | array items =>
    refine ⟨_, (Record.eq_ok_of_finish h).1, fun field hfield => ?_⟩
    rw [Record.document?, Record.ofItems, Record.lookup_zip_zipIdx hfield, Option.map_map]
    exact Option.map_id'
  | _ => cases h

/-! ## Fields -/

theorem asString_eq_ok {d : Document} {s : String} :
    asString d = .ok s ↔ d = .string (some s) := by
  constructor
  · intro h
    unfold asString at h
    split at h
    · cases h
      rfl
    · cases h
  · rintro rfl
    rfl

theorem asUInt64_eq_ok {d : Document} {n : UInt64} :
    asUInt64 d = .ok n ↔ d = .number (some (.integer n.toNat)) := by
  constructor
  · intro h
    unfold asUInt64 at h
    split at h
    · rename_i i
      split at h
      · rename_i m hm
        cases h
        obtain ⟨k, hk, hn⟩ := Option.bind_eq_some_iff.1 hm
        have hi : i = k := by
          cases i with
          | ofNat k' => exact congrArg Int.ofNat (Option.some.inj hk)
          | negSucc k' => cases hk
        rw [hi, uint64?_eq_some.1 hn]
      · cases h
    · cases h
  · rintro rfl
    have hnarrow : (n.toNat : Int).toNat?.bind uint64? = some n := uint64?_eq_some.2 rfl
    rw [asUInt64, hnarrow]

/-- What a field tells that may be left out: null is as good as nothing. -/
def MayTell (told : Document → α → Prop) (member : Option Document) : Option α → Prop
  | none => member.getD .null = .null
  | some a => ∃ d, member = some d ∧ told d a

theorem MayTell.imp {told told' : Document → α → Prop} {member : Option Document} {a? : Option α}
    (h : MayTell told member a?) (himp : ∀ d a, told d a → told' d a) :
    MayTell told' member a? := by
  cases a? with
  | none => exact h
  | some a =>
    obtain ⟨d, hd, ha⟩ := h
    exact ⟨d, hd, himp d a ha⟩

theorem mayTell_of_optional {r : Record} {field : String} {read : Document → Except Fault α}
    {a? : Option α} (h : r.optional field none (asOption read) = Except.ok a?) :
    MayTell (fun d a => read d = .ok a) (r.document? field) a? := by
  rw [Record.optional_eq_ok] at h
  cases hd : r.document? field with
  | none =>
    rw [hd] at h
    cases h
    rfl
  | some d =>
    rw [hd] at h
    change asOption read d = .ok a? at h
    unfold asOption at h
    split at h
    · cases h
      rfl
    · obtain ⟨a, ha, rfl⟩ := except_map_eq_ok.1 h
      exact ⟨d, rfl, ha⟩

/-! ## Maps -/

theorem asEntry_eq_ok {read : Document → Except Fault α} {m : Option String × Document}
    {e : String × α} : asEntry read m = .ok e ↔ m.1 = some e.1 ∧ read m.2 = .ok e.2 := by
  obtain ⟨key, d⟩ := m
  cases key with
  | none => exact iff_of_false nofun (fun h => nomatch h.1)
  | some key =>
    show (read d).map (key, ·) = .ok e ↔ some key = some e.1 ∧ read d = .ok e.2
    rw [except_map_eq_ok, Option.some.injEq]
    constructor
    · rintro ⟨a, ha, rfl⟩
      exact ⟨rfl, ha⟩
    · rintro ⟨hkey, ha⟩
      exact ⟨e.2, ha, Prod.ext hkey rfl⟩

/-- A map that is read is written as an object, and of the members of a key the last counts. -/
theorem exists_members_of_asMap {read : Document → Except Fault α} {d : Document}
    {m : StringMap α} (h : asMap read d = .ok m) :
    ∃ members, d = .object members ∧ ∀ key,
      Option.Rel (fun d a => read d = .ok a) (members.reverse.lookup (some key)) (m.get? key) := by
  cases d with
  | object members =>
    obtain ⟨entries, hentries, rfl⟩ := except_map_eq_ok.1 h
    refine ⟨members, rfl, fun key => ?_⟩
    rw [StringMap.get?_ofList]
    have hread := (List.rel_reverse (mapM_eq_ok.1 hentries)).imp fun _ _ => asEntry_eq_ok.1
    exact StringMap.rel_lookup (R := fun _ d a => read d = .ok a) (fun _ _ => Option.some.inj)
      hread key
  | _ => cases h

end Document

end LedgerLogin.Json
