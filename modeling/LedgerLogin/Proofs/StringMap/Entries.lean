import LedgerLogin.StringMap
import Mathlib.Data.List.Forall2

/-!
# The entries of a map

A map is what its entries make when they are inserted one after the other (`foldl_entries`), and of
the values that are inserted for a key the last one is found (`get?_ofList`). If no key is inserted
twice, the order does not matter (`lookup_perm`, `entries_ofList_perm`).
-/

namespace LedgerLogin

theorem Ascending.nodup_keys {α : Type} {entries : List (String × α)} (h : Ascending entries) :
    (entries.map Prod.fst).Nodup := by
  refine List.pairwise_map.2 (h.imp fun hlt => ?_)
  exact String.ne_of_lt hlt

theorem Ascending.of_keys {α β : Type} {entries : List (String × α)} {entries' : List (String × β)}
    (h : Ascending entries) (hkeys : entries'.map Prod.fst = entries.map Prod.fst) :
    Ascending entries' := by
  have hordered : (entries.map Prod.fst).Pairwise (· < ·) := List.pairwise_map.2 h
  rw [← hkeys] at hordered
  exact List.pairwise_map.1 hordered

namespace StringMap

variable {α : Type}

theorem insertEntry_last {key : String} {value : α} {entries : List (String × α)}
    (h : ∀ e ∈ entries, e.1 < key) : insertEntry key value entries = entries ++ [(key, value)] := by
  induction entries with
  | nil => rfl
  | cons e rest ih =>
    have he := h e List.mem_cons_self
    have hlt : ¬ key < e.1 := fun h' => String.lt_irrefl _ (String.lt_trans h' he)
    have hne : key ≠ e.1 := fun h' => String.lt_irrefl _ (h' ▸ he)
    rw [insertEntry, if_neg hlt, if_neg hne, ih fun x hx => h x (List.mem_cons_of_mem e hx)]
    rfl

theorem entries_foldl_insert (m : StringMap α) (entries : List (String × α))
    (h : Ascending (m.entries ++ entries)) :
    (entries.foldl (fun m e => m.insert e.1 e.2) m).entries = m.entries ++ entries := by
  induction entries generalizing m with
  | nil => simp
  | cons e rest ih =>
    -- The keys ascend, so every entry comes behind those that are there.
    have hlast : ∀ x ∈ m.entries, x.1 < e.1 :=
      fun x hx => (List.pairwise_append.1 h).2.2 x hx e List.mem_cons_self
    have hinsert : (m.insert e.1 e.2).entries = m.entries ++ [e] := insertEntry_last hlast
    have hsplit : m.entries ++ e :: rest = m.entries ++ [e] ++ rest := by simp
    rw [List.foldl_cons, ih, hinsert, ← hsplit]
    rw [hinsert, ← hsplit]
    exact h

/-- A map is what its entries make. -/
theorem foldl_entries (m : StringMap α) :
    m.entries.foldl (fun m e => m.insert e.1 e.2) ∅ = m := by
  refine ext ?_
  have h := entries_foldl_insert (∅ : StringMap α) m.entries m.ascending
  rw [h]
  rfl

theorem ofList_of_ascending {entries : List (String × α)} (h : Ascending entries) :
    ofList entries = ⟨entries, h⟩ :=
  foldl_entries ⟨entries, h⟩

theorem lookup_cons_eq_ite (k key : String) (value : α) (rest : List (String × α)) :
    ((key, value) :: rest).lookup k = if k = key then some value else rest.lookup k := by
  by_cases hk : k = key
  · rw [if_pos hk, hk, List.lookup_cons_self]
  · have hne : (k == key) = false := beq_false_of_ne hk
    rw [if_neg hk, List.lookup_cons, hne]

/-- Where entries stand side by side with entries under the same keys, so do their values. -/
theorem rel_lookup {κ κ' β : Type} [BEq κ] [LawfulBEq κ] [BEq κ'] [LawfulBEq κ'] {f : κ' → κ}
    (hf : Function.Injective f) {R : κ' → α → β → Prop} {xs : List (κ × α)} {ys : List (κ' × β)}
    (h : List.Forall₂ (fun x y => x.1 = f y.1 ∧ R y.1 x.2 y.2) xs ys) (k : κ') :
    Option.Rel (R k) (xs.lookup (f k)) (ys.lookup k) := by
  induction h with
  | nil => exact .none
  | @cons x y _ _ hxy _ ih =>
    obtain ⟨_, a⟩ := x
    obtain ⟨key, b⟩ := y
    obtain ⟨rfl, hab⟩ := hxy
    by_cases hk : k = key
    · subst hk
      rw [List.lookup_cons_self, List.lookup_cons_self]
      exact .some hab
    · have hkey : (k == key) = false := beq_false_of_ne hk
      have hfkey : (f k == f key) = false := beq_false_of_ne (hf.ne hk)
      rw [List.lookup_cons, List.lookup_cons, hkey, hfkey]
      exact ih

theorem keys_of_forall₂ {β : Type} {xs : List (String × α)} {ys : List (String × β)}
    (h : List.Forall₂ (fun x y => x.1 = y.1) xs ys) : xs.map Prod.fst = ys.map Prod.fst := by
  rw [← List.forall₂_eq_eq_eq, List.forall₂_map_left_iff, List.forall₂_map_right_iff]
  exact h

theorem mem_of_lookup_eq_some {entries : List (String × α)} {k : String} {value : α}
    (h : entries.lookup k = some value) : (k, value) ∈ entries := by
  obtain ⟨before, after, rfl, -⟩ := List.lookup_eq_some_iff.1 h
  exact List.mem_append_right before List.mem_cons_self

theorem lookup_insertEntry (key : String) (value : α) (entries : List (String × α)) (k : String) :
    (insertEntry key value entries).lookup k =
      if k = key then some value else entries.lookup k := by
  induction entries with
  | nil => exact lookup_cons_eq_ite k key value []
  | cons e rest ih =>
    obtain ⟨key', value'⟩ := e
    unfold insertEntry
    split
    · rw [lookup_cons_eq_ite]
    · split
      · rename_i heq
        rw [lookup_cons_eq_ite, lookup_cons_eq_ite k key', ← heq]
        by_cases hk : k = key
        · rw [if_pos hk, if_pos hk]
        · rw [if_neg hk, if_neg hk, if_neg hk]
      · rename_i hne
        rw [lookup_cons_eq_ite, lookup_cons_eq_ite k key', ih]
        by_cases hk : k = key
        · have hk' : k ≠ key' := fun h => hne (hk.symm.trans h)
          rw [if_neg hk', if_pos hk, if_pos hk]
        · rw [if_neg hk, if_neg hk]

theorem get?_insert (m : StringMap α) (key : String) (value : α) (k : String) :
    (m.insert key value).get? k = if k = key then some value else m.get? k :=
  lookup_insertEntry key value m.entries k

theorem get?_erase (m : StringMap α) (key k : String) :
    (m.erase key).get? k = if k = key then none else m.get? k := by
  show (m.entries.filter fun e => e.1 ≠ key).lookup k = if k = key then none else m.entries.lookup k
  induction m.entries with
  | nil => simp
  | cons e rest ih =>
    rw [List.filter_cons, lookup_cons_eq_ite k e.1 e.2]
    by_cases he : e.1 = key
    · rw [if_neg (by simpa using he), ih, he]
      split <;> rfl
    · rw [if_pos (by simpa using he), lookup_cons_eq_ite k e.1 e.2, ih]
      by_cases hk : k = e.1
      · rw [if_pos hk, if_pos hk, if_neg (fun h => he (hk.symm.trans h))]
      · rw [if_neg hk, if_neg hk]

theorem get?_foldl_insert (entries : List (String × α)) (m : StringMap α) (k : String) :
    (entries.foldl (fun m e => m.insert e.1 e.2) m).get? k =
      (entries.reverse.lookup k).or (m.get? k) := by
  induction entries generalizing m with
  | nil => rfl
  | cons e rest ih =>
    rw [List.foldl_cons, ih, get?_insert, List.reverse_cons, List.lookup_append]
    cases rest.reverse.lookup k with
    | some v => rfl
    | none =>
      rw [Option.none_or, Option.none_or, lookup_cons_eq_ite]
      by_cases hk : k = e.1
      · rw [if_pos hk, if_pos hk]
        rfl
      · rw [if_neg hk, if_neg hk]
        rfl

/-- Of the values that a list has for a key, the last is found. -/
theorem get?_ofList (entries : List (String × α)) (k : String) :
    (ofList entries).get? k = entries.reverse.lookup k := by
  unfold ofList
  rw [get?_foldl_insert entries empty]
  exact Option.or_none

/-! ## Entries in another order -/

theorem lookup_perm {entries entries' : List (String × α)} (h : entries.Perm entries')
    (hnodup : (entries.map Prod.fst).Nodup) (k : String) : entries.lookup k = entries'.lookup k := by
  induction h with
  | nil => rfl
  | cons e h ih =>
    rw [lookup_cons_eq_ite k e.1 e.2, lookup_cons_eq_ite k e.1 e.2, ih (List.nodup_cons.1 hnodup).2]
  | swap e f rest =>
    have hne : f.1 ≠ e.1 := fun heq => (List.nodup_cons.1 hnodup).1 (by simp [heq])
    rw [lookup_cons_eq_ite k f.1 f.2, lookup_cons_eq_ite k e.1 e.2,
      lookup_cons_eq_ite k e.1 e.2, lookup_cons_eq_ite k f.1 f.2]
    by_cases hf : k = f.1
    · rw [if_pos hf, if_neg fun he => hne (hf.symm.trans he), if_pos hf]
    · rw [if_neg hf, if_neg hf]
  | trans h₁ h₂ ih₁ ih₂ => rw [ih₁ hnodup, ih₂ ((h₁.map Prod.fst).nodup hnodup)]

theorem lookup_eq_some_of_mem {entries : List (String × α)} (hnodup : (entries.map Prod.fst).Nodup)
    {e : String × α} (he : e ∈ entries) : entries.lookup e.1 = some e.2 := by
  induction entries with
  | nil => cases he
  | cons f rest ih =>
    obtain ⟨hf, hrest⟩ := List.nodup_cons.1 hnodup
    rw [lookup_cons_eq_ite e.1 f.1 f.2]
    rcases List.mem_cons.1 he with rfl | he
    · rw [if_pos rfl]
    · have hne : e.1 ≠ f.1 := by
        intro heq
        have hmem : e.1 ∈ rest.map Prod.fst := List.mem_map_of_mem he
        rw [heq] at hmem
        exact hf hmem
      rw [if_neg hne, ih hrest he]

theorem insertEntry_perm {key : String} {entries : List (String × α)}
    (h : key ∉ entries.map Prod.fst) (value : α) :
    (insertEntry key value entries).Perm ((key, value) :: entries) := by
  induction entries with
  | nil => exact .refl _
  | cons e rest ih =>
    have hne : key ≠ e.1 := fun heq => h (by simp [heq])
    unfold insertEntry
    split
    · exact .refl _
    · exact ((ih fun hmem => h (List.mem_cons_of_mem _ hmem)).cons e).trans (.swap _ _ _)

theorem entries_ofList_perm {entries : List (String × α)} (h : (entries.map Prod.fst).Nodup) :
    (ofList entries).entries.Perm entries := by
  have hfold : ∀ m : StringMap α, ((m.entries ++ entries).map Prod.fst).Nodup →
      (entries.foldl (fun m e => m.insert e.1 e.2) m).entries.Perm (m.entries ++ entries) := by
    clear h
    induction entries with
    | nil =>
      intro m _
      rw [List.append_nil]
      exact .refl _
    | cons e rest ih =>
      intro m hm
      have hsplit : (e :: (m.entries ++ rest)).Perm (m.entries ++ e :: rest) := List.perm_middle.symm
      have hnodup := (hsplit.map Prod.fst).nodup_iff.2 hm
      have hnew : e.1 ∉ m.entries.map Prod.fst := fun hmem =>
        (List.nodup_cons.1 hnodup).1 (by simp only [List.map_append, List.mem_append]; exact .inl hmem)
      have hinsert : (m.insert e.1 e.2).entries.Perm (e :: m.entries) := insertEntry_perm hnew e.2
      have hmore := hinsert.append_right rest
      exact (ih _ ((hmore.map Prod.fst).nodup_iff.2 hnodup)).trans (hmore.trans hsplit)
  exact hfold empty h

theorem mem_of_mem_entries_ofList {entries : List (String × α)} {e : String × α}
    (h : e ∈ (ofList entries).entries) : e ∈ entries := by
  have hfold : ∀ m : StringMap α, e ∈ (entries.foldl (fun m e => m.insert e.1 e.2) m).entries →
      e ∈ m.entries ∨ e ∈ entries := by
    clear h
    induction entries with
    | nil => exact fun m hm => .inl hm
    | cons f rest ih =>
      intro m hm
      rcases ih (m.insert f.1 f.2) hm with hinsert | hrest
      · rcases mem_insertEntry hinsert with rfl | hold
        · exact .inr List.mem_cons_self
        · exact .inl hold
      · exact .inr (List.mem_cons_of_mem f hrest)
  exact (hfold empty h).resolve_left fun hempty => nomatch hempty

end StringMap

end LedgerLogin
