/-!
# Maps keyed by text

A map is the list of its entries in ascending order of the key, each key once. Keys are ordered
by code point, which is also the order of their UTF-8 bytes. Since the order is part of the type,
two maps with the same associations are equal, and whatever lists a map lists it in key order.
-/

namespace LedgerLogin

/-- A text-keyed list with an entry put in front of the first larger key, or in place of the entry
with its own key. -/
def insertEntry {α : Type} (key : String) (value : α) : List (String × α) → List (String × α)
  | [] => [(key, value)]
  | (k, v) :: rest =>
    if key < k then (key, value) :: (k, v) :: rest
    else if key = k then (key, value) :: rest
    else (k, v) :: insertEntry key value rest

def Ascending {α : Type} (entries : List (String × α)) : Prop :=
  entries.Pairwise fun a b => a.1 < b.1

theorem mem_insertEntry {α : Type} {key : String} {value : α} {entries : List (String × α)}
    {e : String × α} (h : e ∈ insertEntry key value entries) : e = (key, value) ∨ e ∈ entries := by
  induction entries with
  | nil => exact .inl (List.mem_singleton.1 h)
  | cons head rest ih =>
    obtain ⟨k, v⟩ := head
    simp only [insertEntry] at h
    split at h
    · rcases List.mem_cons.1 h with h | h
      · left; exact h
      · right; exact h
    · split at h
      · rcases List.mem_cons.1 h with h | h
        · left; exact h
        · right; exact List.mem_cons_of_mem _ h
      · rcases List.mem_cons.1 h with h | h
        · right; rw [h]; exact List.mem_cons_self
        · rcases ih h with h | h
          · left; exact h
          · right; exact List.mem_cons_of_mem _ h

theorem Ascending.insertEntry {α : Type} {key : String} {value : α} {entries : List (String × α)}
    (h : Ascending entries) : Ascending (insertEntry key value entries) := by
  induction entries with
  | nil => simp [LedgerLogin.insertEntry, Ascending]
  | cons head rest ih =>
    obtain ⟨k, v⟩ := head
    unfold Ascending at h
    rw [List.pairwise_cons] at h
    obtain ⟨hk, hrest⟩ := h
    simp only [LedgerLogin.insertEntry]
    split
    · rename_i hlt
      refine List.pairwise_cons.2 ⟨?_, List.pairwise_cons.2 ⟨hk, hrest⟩⟩
      intro e he
      rcases List.mem_cons.1 he with he | he
      · rw [he]; exact hlt
      · exact String.lt_trans hlt (hk e he)
    · split
      · rename_i heq
        exact List.pairwise_cons.2 ⟨fun e he => heq ▸ hk e he, hrest⟩
      · rename_i hnlt hne
        refine List.pairwise_cons.2 ⟨?_, ih hrest⟩
        intro e he
        rcases mem_insertEntry he with he | he
        · rw [he]
          rcases Std.lt_trichotomy k key with hlt | heq | hlt
          · exact hlt
          · exact absurd heq.symm hne
          · exact absurd hlt hnlt
        · exact hk e he

/-- A map from texts to `α`. -/
structure StringMap (α : Type) where
  entries : List (String × α) := []
  ascending : Ascending entries := by exact List.Pairwise.nil

namespace StringMap

variable {α β : Type}

theorem ext {m n : StringMap α} (h : m.entries = n.entries) : m = n := by
  obtain ⟨es, hes⟩ := m
  obtain ⟨fs, hfs⟩ := n
  cases h
  rfl

instance [DecidableEq α] : DecidableEq (StringMap α) := fun m n =>
  if h : m.entries = n.entries then isTrue (ext h) else isFalse fun e => h (by rw [e])

instance [Repr α] : Repr (StringMap α) := ⟨fun m p => reprPrec m.entries p⟩

def empty : StringMap α := {}

instance : EmptyCollection (StringMap α) := ⟨empty⟩
instance : Inhabited (StringMap α) := ⟨empty⟩

def insert (m : StringMap α) (key : String) (value : α) : StringMap α :=
  ⟨insertEntry key value m.entries, m.ascending.insertEntry⟩

def get? (m : StringMap α) (key : String) : Option α := m.entries.lookup key

def erase (m : StringMap α) (key : String) : StringMap α :=
  ⟨m.entries.filter fun e => e.1 ≠ key, m.ascending.filter _⟩

/-- The map that a list of entries leaves when they are inserted in turn: of two entries with one
key the later counts. -/
def ofList (entries : List (String × α)) : StringMap α :=
  entries.foldl (fun m e => m.insert e.1 e.2) empty

def isEmpty (m : StringMap α) : Bool := m.entries.isEmpty

end StringMap

end LedgerLogin
