import LedgerLogin.Proofs.StringMap.Entries

/-!
# Maps over maps

A map is known by the values of its keys (`ext_get?`). One map put over another has the values of
the first where it has any, and else those of the second (`get?_override`).
-/

namespace LedgerLogin.StringMap

variable {α : Type}

theorem lookup_eq_none_of_lt {entries : List (String × α)} {k : String}
    (h : ∀ e ∈ entries, k < e.1) : entries.lookup k = none := by
  refine List.lookup_eq_none_iff.2 fun e he => ?_
  have hne : k ≠ e.1 := fun heq => String.lt_irrefl _ (heq ▸ h e he)
  simpa using hne

/-- The first key of a list is the smallest that has a value. -/
theorem not_lt_of_lookup {d e : String × α} {xs ys : List (String × α)} (hy : Ascending (e :: ys))
    (h : ∀ k, (d :: xs).lookup k = (e :: ys).lookup k) : ¬ d.1 < e.1 := by
  intro hlt
  have hnone : (e :: ys).lookup d.1 = none := by
    refine lookup_eq_none_of_lt fun x hx => ?_
    rcases List.mem_cons.1 hx with rfl | hx
    · exact hlt
    · exact String.lt_trans hlt ((List.pairwise_cons.1 hy).1 x hx)
  rw [← h, List.lookup_cons_self] at hnone
  cases hnone

theorem eq_of_lookup {xs ys : List (String × α)} (hx : Ascending xs) (hy : Ascending ys)
    (h : ∀ k, xs.lookup k = ys.lookup k) : xs = ys := by
  induction xs generalizing ys with
  | nil =>
    cases ys with
    | nil => rfl
    | cons e ys =>
      have he := h e.1
      rw [List.lookup_nil, List.lookup_cons_self] at he
      cases he
  | cons d xs ih =>
    cases ys with
    | nil =>
      have hd := h d.1
      rw [List.lookup_nil, List.lookup_cons_self] at hd
      cases hd
    | cons e ys =>
      -- Each list starts with the smallest key that has a value, and has it nowhere else.
      have hkey : d.1 = e.1 := by
        rcases Std.lt_trichotomy d.1 e.1 with hlt | heq | hlt
        · exact absurd hlt (not_lt_of_lookup hy h)
        · exact heq
        · exact absurd hlt (not_lt_of_lookup hx fun k => (h k).symm)
      have hhead : d = e := by
        have hd := h d.1
        rw [List.lookup_cons_self, hkey, List.lookup_cons_self] at hd
        exact Prod.ext hkey (Option.some.inj hd)
      subst hhead
      obtain ⟨hd, hxs⟩ := List.pairwise_cons.1 hx
      obtain ⟨hd', hys⟩ := List.pairwise_cons.1 hy
      have htail : ∀ k, xs.lookup k = ys.lookup k := by
        intro k
        by_cases hk : k = d.1
        · rw [hk, lookup_eq_none_of_lt hd, lookup_eq_none_of_lt hd']
        · have hrest := h k
          rwa [lookup_cons_eq_ite k d.1 d.2, lookup_cons_eq_ite k d.1 d.2, if_neg hk,
            if_neg hk] at hrest
      rw [ih hxs hys htail]

theorem ext_get? {m n : StringMap α} (h : ∀ k, m.get? k = n.get? k) : m = n :=
  ext (eq_of_lookup m.ascending n.ascending h)

theorem ofList_eq_of_perm {entries : List (String × α)} {m : StringMap α}
    (h : entries.Perm m.entries) : ofList entries = m := by
  have hreverse : m.entries.Perm entries.reverse := h.symm.trans entries.reverse_perm.symm
  refine ext_get? fun k => ?_
  rw [get?_ofList]
  exact (lookup_perm hreverse m.ascending.nodup_keys k).symm

/-- A map with another one put over it. -/
def override (m later : StringMap α) : StringMap α :=
  later.entries.foldl (fun m e => m.insert e.1 e.2) m

theorem get?_override (m later : StringMap α) (k : String) :
    (m.override later).get? k = (later.get? k).or (m.get? k) := by
  have hreverse : later.entries.lookup k = later.entries.reverse.lookup k :=
    lookup_perm later.entries.reverse_perm.symm later.ascending.nodup_keys k
  rw [override, get?_foldl_insert, ← hreverse]
  rfl

theorem override_empty (m : StringMap α) : m.override ∅ = m := rfl

theorem empty_override (m : StringMap α) : (∅ : StringMap α).override m = m := foldl_entries m

theorem override_assoc (m n o : StringMap α) :
    (m.override n).override o = m.override (n.override o) := by
  refine ext_get? fun k => ?_
  simp only [get?_override, Option.or_assoc]

end LedgerLogin.StringMap
