import LedgerLogin.Json.Document
import LedgerLogin.Proofs.StringMap.Entries

/-!
# Members of objects

An object that is built from a list of members has the last value that the list has for a key
(`member?_ofMembers`). The objects in a value that is parsed have ascending members, at every depth
(`Document.ascending_of_resolve?`, `Document.exists_resolve?_of_member?`).
-/

namespace LedgerLogin

variable {α β : Type}

theorem lookup_map_values (f : α → β) (key : String) (entries : List (String × α)) :
    (entries.map fun e => (e.1, f e.2)).lookup key = (entries.lookup key).map f := by
  induction entries with
  | nil => rfl
  | cons e rest ih =>
    rw [List.map_cons, StringMap.lookup_cons_eq_ite, StringMap.lookup_cons_eq_ite key e.1 e.2, ih]
    split <;> rfl

namespace Json

theorem ofMembers_eq_object (members : List (String × Json)) :
    ofMembers members = .object (StringMap.ofList members).entries := by
  have hentries : ∀ m : StringMap Json,
      members.foldl (fun es e => insertEntry e.1 e.2 es) m.entries =
        (members.foldl (fun m e => m.insert e.1 e.2) m).entries :=
    fun m => List.foldl_hom StringMap.entries fun _ _ => rfl
  exact congrArg object (hentries StringMap.empty)

theorem member?_ofMembers (members : List (String × Json)) (key : String) :
    (ofMembers members).member? key = members.reverse.lookup key := by
  rw [ofMembers_eq_object]
  exact StringMap.get?_ofList members key

theorem ofMembers_of_ascending {members : List (String × Json)} (h : Ascending members) :
    ofMembers members = .object members := by
  rw [ofMembers_eq_object]
  exact congrArg object (StringMap.entries_foldl_insert StringMap.empty members h)

theorem toDocumentItems_eq_map (items : List Json) :
    toDocumentItems items = items.map toDocument := by
  induction items with
  | nil => rfl
  | cons j rest ih => rw [toDocumentItems, ih, List.map_cons]

theorem toDocumentMembers_eq_map (members : List (String × Json)) :
    toDocumentMembers members = members.map fun e => (some e.1, e.2.toDocument) := by
  induction members with
  | nil => rfl
  | cons e rest ih => rw [toDocumentMembers, ih, List.map_cons]

namespace Document

theorem exists_resolve?_of_mem {members : List (Option String × Document)}
    {resolved : List (String × Json)} (h : resolveMembers? members = some resolved)
    {e : String × Json} (he : e ∈ resolved) : ∃ d : Document, d.resolve? = some e.2 := by
  induction members generalizing resolved with
  | nil =>
    cases h
    cases he
  | cons m rest ih =>
    simp only [resolveMembers?, bind, Option.bind_eq_some_iff, pure, Option.some.injEq] at h
    obtain ⟨key, -, j, hj, more, hmore, rfl⟩ := h
    rcases List.mem_cons.1 he with rfl | he
    · exact ⟨m.2, hj⟩
    · exact ih hmore he

theorem resolveItems?_toDocumentItems {items : List Json}
    (h : ∀ j ∈ items, j.toDocument.resolve? = some j) :
    resolveItems? (toDocumentItems items) = some items := by
  induction items with
  | nil => rfl
  | cons j rest ih =>
    rw [toDocumentItems, resolveItems?, h j List.mem_cons_self,
      ih fun k hk => h k (List.mem_cons_of_mem j hk)]
    rfl

theorem resolveMembers?_toDocumentMembers {members : List (String × Json)}
    (h : ∀ e ∈ members, e.2.toDocument.resolve? = some e.2) :
    resolveMembers? (toDocumentMembers members) = some members := by
  induction members with
  | nil => rfl
  | cons e rest ih =>
    rw [toDocumentMembers, resolveMembers?, h e List.mem_cons_self,
      ih fun f hf => h f (List.mem_cons_of_mem e hf)]
    rfl

theorem depthOfItems_toDocumentItems_le {n : Nat} {items : List Json}
    (h : ∀ j ∈ items, j.toDocument.depth ≤ n) : depthOfItems (toDocumentItems items) ≤ n := by
  induction items with
  | nil => exact Nat.zero_le n
  | cons j rest ih =>
    rw [toDocumentItems, depthOfItems]
    exact Nat.max_le.2 ⟨h j List.mem_cons_self, ih fun k hk => h k (List.mem_cons_of_mem j hk)⟩

theorem depthOfMembers_toDocumentMembers_le {n : Nat} {members : List (String × Json)}
    (h : ∀ e ∈ members, e.2.toDocument.depth ≤ n) :
    depthOfMembers (toDocumentMembers members) ≤ n := by
  induction members with
  | nil => exact Nat.zero_le n
  | cons e rest ih =>
    rw [toDocumentMembers, depthOfMembers]
    exact Nat.max_le.2 ⟨h e List.mem_cons_self, ih fun f hf => h f (List.mem_cons_of_mem e hf)⟩

/-- A document is of the shape of a value, and so are the items of an array or the members of an
object. -/
def HasShape (d : Document) : Json → Prop
  | .null => d = .null
  | .bool b => d = .bool b
  | .number n => d = .number (some n)
  | .string s => d = .string (some s)
  | .array js => ∃ items, d = .array items ∧ resolveItems? items = some js
  | .object members => ∃ ms resolved, d = .object ms ∧ resolveMembers? ms = some resolved ∧
    members = (StringMap.ofList resolved).entries

theorem hasShape_of_resolve? {d : Document} {j : Json} (h : d.resolve? = some j) :
    d.HasShape j := by
  cases d with
  | null =>
    cases h
    rfl
  | bool b =>
    cases h
    rfl
  | number n =>
    obtain ⟨m, rfl, rfl⟩ := Option.map_eq_some_iff.1 h
    rfl
  | string s =>
    obtain ⟨t, rfl, rfl⟩ := Option.map_eq_some_iff.1 h
    rfl
  | array items =>
    obtain ⟨js, hjs, rfl⟩ := Option.map_eq_some_iff.1 h
    exact ⟨items, rfl, hjs⟩
  | object ms =>
    obtain ⟨resolved, hresolved, rfl⟩ := Option.map_eq_some_iff.1 h
    rw [ofMembers_eq_object]
    exact ⟨ms, resolved, rfl, hresolved, rfl⟩

theorem ascending_of_resolve? {d : Document} {members : List (String × Json)}
    (h : d.resolve? = some (.object members)) : Ascending members := by
  obtain ⟨-, resolved, -, -, rfl⟩ := hasShape_of_resolve? h
  exact (StringMap.ofList resolved).ascending

theorem exists_resolve?_of_member? {d : Document} {j value : Json} {key : String}
    (h : d.resolve? = some j) (hmember : j.member? key = some value) :
    ∃ d : Document, d.resolve? = some value := by
  cases j with
  | object members =>
    obtain ⟨ms, resolved, -, hresolved, rfl⟩ := hasShape_of_resolve? h
    have hlookup : resolved.reverse.lookup key = some value := by
      rw [← StringMap.get?_ofList]
      exact hmember
    have hmem : (key, value) ∈ resolved :=
      List.mem_reverse.1 (StringMap.mem_of_lookup_eq_some hlookup)
    exact exists_resolve?_of_mem hresolved hmem
  | null => cases hmember
  | bool b => cases hmember
  | number n => cases hmember
  | string s => cases hmember
  | array items => cases hmember

end Document

theorem exists_resolve?_of_parse? {s : String} {j : Json} (h : parse? s = some j) :
    ∃ d : Document, d.resolve? = some j := by
  simp only [parse?, bind, Option.bind_eq_some_iff, Document.toJson?] at h
  obtain ⟨d, -, hd⟩ := h
  split at hd
  · exact ⟨d, hd⟩
  · cases hd

end Json

end LedgerLogin
