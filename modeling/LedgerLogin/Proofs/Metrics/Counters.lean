import LedgerLogin.Metrics
import LedgerLogin.Proofs.StringMap.Entries
import Mathlib

/-!
# Counters

The metrics seen as counters, each by its label. An event counts up one counter (`value_record`),
and what all counters show together grows by one with it, unless the counter starts again at zero
(`total_record`). So counters of 64 bits tell the numbers of events modulo `2 ^ 64`
(`value_recordAll`, `total_recordAll`).
-/

namespace LedgerLogin

theorem Decision.State.name_injective {a b : State} (h : a.name = b.name) : a = b := by
  cases a <;> cases b <;> first | rfl | exact absurd h (by decide)

namespace Metrics

/-- A counter: that of a state or of a kind of failures, by its label, or that of requests for
unknown servers. -/
inductive Counter where
  | decisions (label : String)
  | failures (label : String)
  | unknownServers
  deriving DecidableEq

def value (m : Metrics) : Counter → UInt64
  | .decisions label => (m.decisions.get? label).getD 0
  | .failures label => (m.failures.get? label).getD 0
  | .unknownServers => m.unknownServers

/-- What the counters of a family show together. -/
def sum (counters : StringMap UInt64) : Nat := (counters.entries.map fun e => e.2.toNat).sum

def total (m : Metrics) : Nat := sum m.decisions + sum m.failures + m.unknownServers.toNat

def Event.counter : Event → Counter
  | .decision state => .decisions state.name
  | .transportFailure => .failures "transport"
  | .staleBackend => .failures "not-up-to-date"
  | .unknownServer => .unknownServers

theorem getD_get?_increment (counters : StringMap UInt64) (label key : String) :
    ((increment counters label).get? key).getD 0 =
      (counters.get? key).getD 0 + if label = key then 1 else 0 := by
  unfold increment
  rw [StringMap.get?_insert]
  by_cases h : key = label
  · subst h
    rw [if_pos rfl, if_pos rfl]
    rfl
  · rw [if_neg h, if_neg fun heq => h heq.symm, UInt64.add_zero]

theorem sum_insertEntry {entries : List (String × UInt64)} (h : Ascending entries) (label : String)
    (n : UInt64) :
    ((insertEntry label n entries).map fun e => e.2.toNat).sum +
        ((entries.lookup label).getD 0).toNat =
      (entries.map fun e => e.2.toNat).sum + n.toNat := by
  induction entries with
  | nil =>
    show n.toNat + 0 + 0 = 0 + n.toNat
    omega
  | cons e rest ih =>
    obtain ⟨key, shown⟩ := e
    obtain ⟨hkey, hrest⟩ := List.pairwise_cons.1 h
    have ih := ih hrest
    rw [StringMap.lookup_cons_eq_ite]
    unfold insertEntry
    by_cases hlt : label < key
    · -- All keys are larger, so the label has no entry yet.
      have hne : label ≠ key := String.ne_of_lt hlt
      have hnone : rest.lookup label = none := by
        rw [List.lookup_eq_none_iff]
        intro x hx
        exact bne_iff_ne.2 (String.ne_of_lt (String.lt_trans hlt (hkey x hx)))
      rw [if_pos hlt, if_neg hne, hnone]
      simp only [List.map_cons, List.sum_cons, Option.getD_none, UInt64.toNat_zero]
      omega
    · rw [if_neg hlt]
      by_cases heq : label = key
      · rw [if_pos heq, if_pos heq]
        simp only [List.map_cons, List.sum_cons, Option.getD_some]
        omega
      · rw [if_neg heq, if_neg heq]
        simp only [List.map_cons, List.sum_cons]
        omega

/-- A number that does not reach its end is counted up as a natural number is. -/
theorem toNat_add_ofNat {n : UInt64} {k : Nat} (h : n.toNat + k < 2 ^ 64) :
    (n + UInt64.ofNat k).toNat = n.toNat + k := by
  rw [UInt64.toNat_add, UInt64.toNat_ofNat', Nat.add_mod_mod, Nat.mod_eq_of_lt h]

theorem toNat_add_one (n : UInt64) :
    (n + 1).toNat = n.toNat + 1 ∨ (n + 1).toNat + 2 ^ 64 = n.toNat + 1 := by
  have hlt := n.toNat_lt
  rw [UInt64.toNat_add, UInt64.toNat_one]
  omega

theorem sum_increment (counters : StringMap UInt64) (label : String) :
    sum (increment counters label) = sum counters + 1 ∨
      sum (increment counters label) + 2 ^ 64 = sum counters + 1 := by
  have hsum := sum_insertEntry counters.ascending label ((counters.get? label).getD 0 + 1)
  have hnext := toNat_add_one ((counters.get? label).getD 0)
  simp only [sum, increment, StringMap.insert, StringMap.get?] at hsum hnext ⊢
  omega

/-- An event counts up its counter and no other. -/
theorem value_record (m : Metrics) (e : Event) (c : Counter) :
    (m.record e).value c = m.value c + if e.counter = c then 1 else 0 := by
  cases e <;> cases c <;> simp [record, value, Event.counter, getD_get?_increment]

theorem count_record_decision (m : Metrics) (state counted : Decision.State) :
    (m.record (.decision state)).count counted =
      m.count counted + if counted = state then 1 else 0 := by
  show (m.record (.decision state)).value (.decisions counted.name) =
    m.value (.decisions counted.name) + _
  rw [value_record]
  refine congrArg (m.value _ + ·) (if_congr ?_ rfl rfl)
  rw [Event.counter, Counter.decisions.injEq]
  exact ⟨fun h => (Decision.State.name_injective h).symm, fun h => congrArg _ h.symm⟩

/-- An event is counted once, unless its counter starts again at zero. -/
theorem total_record (m : Metrics) (e : Event) :
    (m.record e).total = m.total + 1 ∨ (m.record e).total + 2 ^ 64 = m.total + 1 := by
  cases e with
  | decision state =>
    have hsum := sum_increment m.decisions state.name
    simp only [total, record]
    omega
  | transportFailure =>
    have hsum := sum_increment m.failures "transport"
    simp only [total, record]
    omega
  | staleBackend =>
    have hsum := sum_increment m.failures "not-up-to-date"
    simp only [total, record]
    omega
  | unknownServer =>
    have hnext := toNat_add_one m.unknownServers
    simp only [total, record]
    omega

theorem value_recordAll (m : Metrics) (events : List Event) (c : Counter) :
    (m.recordAll events).value c =
      m.value c + UInt64.ofNat (events.countP fun e => e.counter = c) := by
  induction events generalizing m with
  | nil => exact (UInt64.add_zero _).symm
  | cons e rest ih =>
    show ((m.record e).recordAll rest).value c = _
    rw [ih, value_record, List.countP_cons, UInt64.ofNat_add, UInt64.add_assoc]
    by_cases h : e.counter = c <;> simp [h, UInt64.add_comm]

/-- Some counters may have started again at zero. -/
theorem total_recordAll (m : Metrics) (events : List Event) :
    ∃ restarts, (m.recordAll events).total + restarts * 2 ^ 64 = m.total + events.length := by
  induction events generalizing m with
  | nil => exact ⟨0, by simp [recordAll]⟩
  | cons e rest ih =>
    obtain ⟨restarts, hrest⟩ := ih (m.record e)
    show ∃ restarts, ((m.record e).recordAll rest).total + restarts * 2 ^ 64 =
      m.total + (rest.length + 1)
    rcases total_record m e with hnext | hzero
    · exact ⟨restarts, by omega⟩
    · exact ⟨restarts + 1, by linarith only [hrest, hzero]⟩

end Metrics

end LedgerLogin
