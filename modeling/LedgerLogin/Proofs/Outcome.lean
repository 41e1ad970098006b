import Mathlib.Data.List.Forall2

/-!
# Steps that may fail

When steps that may fail succeed, and which of them fails if they do not: two steps in turn
(`bind_eq_ok`, `bind_eq_error`), and a step for each of a list, of which the first failure counts
(`mapM_eq_ok`, `exists_first_error`).
-/

namespace LedgerLogin

variable {α β ε ε' : Type}

theorem bind_eq_ok {x : Except ε α} {f : α → Except ε β} {b : β} :
    x >>= f = .ok b ↔ ∃ a, x = .ok a ∧ f a = .ok b := by
  cases x with
  | error e => simp [bind, Except.bind]
  | ok a => simp [bind, Except.bind]

theorem bind_eq_error {x : Except ε α} {f : α → Except ε β} {e : ε} :
    x >>= f = .error e ↔ x = .error e ∨ ∃ a, x = .ok a ∧ f a = .error e := by
  cases x with
  | error e' => simp [bind, Except.bind]
  | ok a => simp [bind, Except.bind]

theorem except_map_eq_ok {x : Except ε α} {f : α → β} {b : β} :
    x.map f = .ok b ↔ ∃ a, x = .ok a ∧ f a = b := by
  cases x with
  | error e => exact iff_of_false nofun fun ⟨_, h, _⟩ => nomatch h
  | ok a => exact ⟨fun h => ⟨a, rfl, Except.ok.inj h⟩, fun ⟨_, h, hb⟩ => by cases h; cases hb; rfl⟩

theorem mapError_eq_ok {x : Except ε α} {f : ε → ε'} {a : α} :
    x.mapError f = .ok a ↔ x = .ok a := by
  cases x with
  | error e => exact iff_of_false nofun nofun
  | ok b => exact ⟨fun h => congrArg Except.ok (Except.ok.inj h), fun h => by cases h; rfl⟩

theorem mapM_eq_ok {f : β → Except ε α} {items : List β} {as : List α} :
    items.mapM f = .ok as ↔ List.Forall₂ (fun item a => f item = .ok a) items as := by
  induction items generalizing as with
  | nil =>
    rw [List.forall₂_nil_left_iff, List.mapM_nil]
    exact ⟨fun h => (Except.ok.inj h).symm, fun h => congrArg Except.ok h.symm⟩
  | cons item rest ih =>
    simp only [List.mapM_cons, bind_eq_ok, List.forall₂_cons_left_iff, ← ih]
    constructor
    · rintro ⟨a, ha, as', has, h⟩
      exact ⟨a, as', ha, has, (Except.ok.inj h).symm⟩
    · rintro ⟨a, as', ha, has, rfl⟩
      exact ⟨a, ha, as', has, rfl⟩

theorem exists_of_forall₂ {R : β → α → Prop} {items : List β} {as : List α}
    (h : List.Forall₂ R items as) {item : β} (hitem : item ∈ items) : ∃ a, R item a := by
  induction h with
  | nil => cases hitem
  | @cons item' a rest as' hfirst _ ih =>
    rcases List.mem_cons.1 hitem with rfl | hrest
    · exact ⟨a, hfirst⟩
    · exact ih hrest

/-- If a step for each of a list fails, it is with the first failure. -/
theorem exists_first_error {f : β → Except ε α} {items : List β} {e : ε}
    (h : items.mapM f = .error e) :
    ∃ before item after, items = before ++ item :: after ∧
      (∀ b ∈ before, ∃ a, f b = .ok a) ∧ f item = .error e := by
  induction items with
  | nil => cases h
  | cons item rest ih =>
    rw [List.mapM_cons, bind_eq_error] at h
    rcases h with hitem | ⟨a, ha, hrest⟩
    · exact ⟨[], item, rest, rfl, List.forall_mem_nil _, hitem⟩
    rw [bind_eq_error] at hrest
    rcases hrest with hrest | ⟨_, -, hpure⟩
    · obtain ⟨before, later, after, rfl, hbefore, hlater⟩ := ih hrest
      exact ⟨item :: before, later, after, rfl, List.forall_mem_cons.2 ⟨⟨a, ha⟩, hbefore⟩, hlater⟩
    · cases hpure

theorem forM_eq_ok {check : α → Except ε Unit} {as : List α} :
    as.forM check = .ok () ↔ ∀ a ∈ as, check a = .ok () := by
  induction as with
  | nil => exact iff_of_true rfl (List.forall_mem_nil _)
  | cons a rest ih =>
    show (check a >>= fun _ => rest.forM check) = .ok () ↔ _
    rw [bind_eq_ok, List.forall_mem_cons, ← ih]
    exact ⟨fun ⟨_, ha, hrest⟩ => ⟨ha, hrest⟩, fun ⟨ha, hrest⟩ => ⟨(), ha, hrest⟩⟩

end LedgerLogin
