import LedgerLogin.Proofs.Ledger.Events

/-!
# Reads from a ledger that changes

An inquiry reads from a ledger step by step, and between two reads anything may happen on the
ledger. `Inquiry.runAmid` runs an inquiry with a list of gaps: before each read the events of the
next gap happen, and the read is answered by the ledger that there is then. Beside the result it
gives every ledger that there was, in order, from the start to the last read.

`Ledger.HandsOver` is the one way in which two reads in turn can give what no ledger between them
holds.
-/

namespace LedgerLogin

namespace Ledger

/-- The ledgers that there are while events happen, without the last. -/
def passing (l : Ledger) : History → List Ledger
  | [] => []
  | e :: h => l :: (l.apply e).passing h

theorem replay_append (l : Ledger) (h₁ h₂ : History) :
    l.replay (h₁ ++ h₂) = (l.replay h₁).replay h₂ := by
  simp [replay]

/-! ## What events leave -/

theorem isSome_accounts_apply {l : Ledger} {t : Token} (h : (l.accounts t).isSome)
    (e : LedgerEvent) : ((l.apply e).accounts t).isSome := by
  cases e with
  | register n owner => simp only [apply, setAccount]; split <;> simp [h]
  | transfer n owner =>
    simp only [apply, setAccount]
    split
    · rename_i ht
      simpa [← ht] using h
    · exact h
  | approve n operator =>
    simp only [apply, setAccount]
    split
    · rename_i ht
      simpa [← ht] using h
    · exact h
  | _ => exact h

theorem isSome_accounts_replay {l : Ledger} {t : Token} (h : (l.accounts t).isSome)
    (events : History) : ((l.replay events).accounts t).isSome := by
  induction events generalizing l with
  | nil => exact h
  | cons e events ih => exact ih (isSome_accounts_apply h e)

/-- An event takes a token from its owner if it registers its name or moves it to someone else. -/
def TakesFrom (t : Token) (owner : Address) (e : LedgerEvent) : Prop :=
  ∃ n other, playerToken n = t ∧ other ≠ owner ∧ (e = .register n other ∨ e = .transfer n other)

theorem owner_apply {l : Ledger} {t : Token} {a : Account} (ha : l.accounts t = some a)
    {e : LedgerEvent} (he : ¬ TakesFrom t a.owner e) :
    ∃ b, (l.apply e).accounts t = some b ∧ b.owner = a.owner := by
  have hkeep : ∀ n other, (e = .register n other ∨ e = .transfer n other) → t = playerToken n →
      other = a.owner := by
    intro n other hmove ht
    by_contra hne
    exact he ⟨n, other, ht.symm, hne, hmove⟩
  cases e with
  | register n other =>
    by_cases ht : t = playerToken n
    · exact ⟨{ owner := other }, by simp [apply, setAccount, ht], hkeep n other (.inl rfl) ht⟩
    · exact ⟨a, by simp [apply, setAccount, ht, ha], rfl⟩
  | transfer n other =>
    by_cases ht : t = playerToken n
    · subst ht
      exact ⟨{ owner := other }, by simp [apply, setAccount, ha], hkeep n other (.inr rfl) rfl⟩
    · exact ⟨a, by simp [apply, setAccount, ht, ha], rfl⟩
  | approve n operator =>
    by_cases ht : t = playerToken n
    · subst ht
      exact ⟨{ a with approved := operator }, by simp [apply, setAccount, ha], rfl⟩
    · exact ⟨a, by simp [apply, setAccount, ht, ha], rfl⟩
  | _ => exact ⟨a, ha, rfl⟩

/-- Whoever is approved for everything at the end but not at the start was approved between. -/
theorem mem_of_operators_replay {l : Ledger} {owner operator : Address} {events : History}
    (hl : l.operators owner operator = false)
    (h : (l.replay events).operators owner operator = true) :
    .setApprovalForAll owner operator true ∈ events := by
  induction events generalizing l with
  | nil => simp [replay, hl] at h
  | cons e events ih =>
    by_cases he : e = .setApprovalForAll owner operator true
    · exact he ▸ List.mem_cons_self
    · refine List.mem_cons_of_mem _ (ih ?_ h)
      rw [← Bool.not_eq_true, operators_apply]
      simp [he, hl]

/-- Events in which the name is taken from its owner, who approves the operator for everything only
then. -/
def HandsOver (l : Ledger) (name : String) (operator : Address) (events : History) : Prop :=
  ∃ a before taking between after, l.accounts (playerToken name) = some a ∧
    events = before ++ taking :: (between ++ .setApprovalForAll a.owner operator true :: after) ∧
    TakesFrom (playerToken name) a.owner taking

/-- If the owner at the start has approved an operator for everything at the end, but was never the
owner while they had, then the name was handed over. -/
theorem handsOver_of_replay {l : Ledger} {name : String} {operator : Address} {a : Account}
    {events : History} (ha : l.accounts (playerToken name) = some a)
    (hend : (l.replay events).operators a.owner operator = true)
    (hnever : ∀ m ∈ l.passing events ++ [l.replay events], ∀ b,
      m.accounts (playerToken name) = some b → m.operators b.owner operator = false) :
    l.HandsOver name operator events := by
  induction events generalizing l a with
  | nil =>
    have hl := hnever l (by simp [passing, replay]) a ha
    rw [show l.replay [] = l from rfl, hl] at hend
    cases hend
  | cons e events ih =>
    have hl := hnever l (by simp [passing]) a ha
    -- The name is handed over by the first event that takes it from its owner.
    by_cases he : TakesFrom (playerToken name) a.owner e
    · have happly : (l.apply e).operators a.owner operator = false := by
        obtain ⟨n, other, -, -, rfl | rfl⟩ := he <;> exact hl
      obtain ⟨between, after, hsplit⟩ := List.append_of_mem (mem_of_operators_replay happly hend)
      exact ⟨a, [], e, between, after, ha, by rw [hsplit]; rfl, he⟩
    · obtain ⟨b, hb, howner⟩ := owner_apply ha he
      have hrest : ∀ m ∈ (l.apply e).passing events ++ [(l.apply e).replay events], ∀ c,
          m.accounts (playerToken name) = some c → m.operators c.owner operator = false :=
        fun m hm => hnever m (List.mem_cons_of_mem l hm)
      obtain ⟨c, before, taking, between, after, hc, hsplit, htakes⟩ :=
        ih hb (howner ▸ hend) hrest
      rw [hb] at hc
      cases hc
      rw [howner] at hsplit htakes
      exact ⟨a, e :: before, taking, between, after, ha, by rw [hsplit]; rfl, htakes⟩

end Ledger

namespace Inquiry

variable {α : Type}

/-- A run of an inquiry while things happen on the ledger: before each read the events of the next
gap do. Gives the result, and the ledgers that there were up to the last read. -/
def runAmid : Inquiry LedgerRead LedgerRead.Answer α → Ledger → List History → α × List Ledger
  | done a, l, _ => (a, [l])
  | ask r next, l, gaps =>
    let later := l.replay (gaps.headD [])
    let run := (next (later.answer r)).runAmid later gaps.tail
    (run.1, l.passing (gaps.headD []) ++ run.2)

theorem self_mem_runAmid (x : Inquiry LedgerRead LedgerRead.Answer α) (l : Ledger)
    (gaps : List History) : l ∈ (x.runAmid l gaps).2 := by
  induction x generalizing l gaps with
  | done a => exact List.mem_singleton_self l
  | ask r next ih =>
    cases hgap : gaps.headD [] with
    | nil =>
      simp only [runAmid, hgap]
      exact List.mem_append_right _ (ih _ l gaps.tail)
    | cons e h =>
      simp only [runAmid, hgap]
      exact List.mem_append_left _ List.mem_cons_self

end Inquiry

/-- A run that reads and succeeds: the read was answered, and the rest of the run succeeded from
the ledger that answered it. -/
theorem LedgerRead.runAmid_ask_bind {α : Type} {r : LedgerRead} {next : r.Result → LedgerInquiry α}
    {l : Ledger} {gaps : List History} {a : α} {ledgers : List Ledger}
    (h : (r.ask >>= next).run.runAmid l gaps = (.ok a, ledgers)) :
    ∃ x rest, (l.replay (gaps.headD [])).lookup r = .ok x ∧
      (next x).run.runAmid (l.replay (gaps.headD [])) gaps.tail = (.ok a, rest) ∧
      ledgers = l.passing (gaps.headD []) ++ rest := by
  have hrun : (r.ask >>= next).run = Inquiry.ask r (ExceptT.bindCont next) := rfl
  rw [hrun] at h
  simp only [Inquiry.runAmid, Prod.mk.injEq] at h
  generalize l.replay (gaps.headD []) = later at h ⊢
  cases hx : later.answer r with
  | error e =>
    rw [hx] at h
    cases h.1
  | ok x =>
    rw [hx] at h
    refine ⟨x, ((next x).run.runAmid later gaps.tail).2, ?_, Prod.ext h.1 rfl, h.2.symm⟩
    unfold Ledger.answer at hx
    split at hx
    · cases hx
    · exact hx

theorem LedgerRead.runAmid_ask_bind_of_lookup {α : Type} {r : LedgerRead} {x : r.Result}
    {l : Ledger} {gap : History} {gaps : List History} {b : Except TransportError α}
    {ledgers : List Ledger} {next : r.Result → LedgerInquiry α}
    (hl : (l.replay gap).failure = none) (hx : (l.replay gap).lookup r = .ok x)
    (hnext : (next x).run.runAmid (l.replay gap) gaps = (b, ledgers)) :
    (r.ask >>= next).run.runAmid l (gap :: gaps) = (b, l.passing gap ++ ledgers) := by
  have hanswer : (l.replay gap).answer r = .ok x := (Ledger.answer_of_working hl r).trans hx
  have hrun : (r.ask >>= next).run = Inquiry.ask r (ExceptT.bindCont next) := rfl
  have hcont : ExceptT.bindCont next (.ok x) = (next x).run := rfl
  rw [hrun]
  simp only [Inquiry.runAmid, List.headD_cons, List.tail_cons]
  rw [hanswer, hcont, hnext]

theorem LedgerRead.runAmid_ask_bind_quiet {α : Type} {r : LedgerRead} {x : r.Result} {l : Ledger}
    {gaps : List History} {b : Except TransportError α} {ledgers : List Ledger}
    {next : r.Result → LedgerInquiry α} (hl : l.failure = none) (hx : l.lookup r = .ok x)
    (hnext : (next x).run.runAmid l gaps = (b, ledgers)) :
    (r.ask >>= next).run.runAmid l ([] :: gaps) = (b, ledgers) :=
  LedgerRead.runAmid_ask_bind_of_lookup hl hx hnext

theorem Inquiry.runAmid_bind_pure {α β : Type} {x : LedgerInquiry α} {next : α → LedgerInquiry β}
    {g : α → β} (hnext : ∀ a, next a = pure (g a)) {l : Ledger} {gaps : List History} {b : β}
    {ledgers : List Ledger} (h : (x >>= next).run.runAmid l gaps = (.ok b, ledgers)) :
    ∃ a, x.run.runAmid l gaps = (.ok a, ledgers) ∧ g a = b := by
  have hrun : (x >>= next).run = x.run.bind (ExceptT.bindCont next) := rfl
  rw [hrun] at h
  generalize x.run = y at h ⊢
  induction y generalizing l gaps ledgers with
  | done result =>
    cases result with
    | error e => cases h
    | ok a =>
      have hpure : ExceptT.bindCont next (.ok a) =
          (Inquiry.done (.ok (g a)) : Inquiry LedgerRead LedgerRead.Answer _) := hnext a
      rw [Inquiry.done_bind, hpure] at h
      cases h
      exact ⟨a, rfl, rfl⟩
  | ask r more ih =>
    simp only [Inquiry.ask_bind, Inquiry.runAmid, Prod.mk.injEq] at h ⊢
    obtain ⟨a, ha, hb⟩ := ih _ (Prod.ext h.1 rfl)
    exact ⟨a, ⟨congrArg Prod.fst ha, by rw [← h.2, congrArg Prod.snd ha]⟩, hb⟩

theorem Inquiry.runAmid_bind_of_ok {α β : Type} {x : LedgerInquiry α} {next : α → LedgerInquiry β}
    {l : Ledger} {gaps : List History} {a : α} {b : β} {ledgers : List Ledger}
    (hx : x.run.runAmid l gaps = (.ok a, ledgers)) (hnext : next a = pure b) :
    (x >>= next).run.runAmid l gaps = (.ok b, ledgers) := by
  have hrun : (x >>= next).run = x.run.bind (ExceptT.bindCont next) := rfl
  rw [hrun]
  generalize x.run = y at hx ⊢
  induction y generalizing l gaps ledgers with
  | done result =>
    obtain ⟨rfl, rfl⟩ := Prod.mk.inj hx
    have hpure : ExceptT.bindCont next (.ok a) =
        (Inquiry.done (.ok b) : Inquiry LedgerRead LedgerRead.Answer _) := hnext
    rw [Inquiry.done_bind, hpure]
    rfl
  | ask r more ih =>
    simp only [Inquiry.ask_bind, Inquiry.runAmid, Prod.mk.injEq] at hx ⊢
    have hmore := ih _ (Prod.ext hx.1 rfl)
    exact ⟨congrArg Prod.fst hmore, by rw [hmore, ← hx.2]⟩

theorem headD_eq_getD (gaps : List History) : gaps.headD [] = gaps.getD 0 [] := by
  cases gaps <;> rfl

theorem getD_tail (gaps : List History) (k : Nat) : gaps.tail.getD k [] = gaps.getD (k + 1) [] := by
  cases gaps <;> rfl

theorem Ledger.replay_take_succ (l : Ledger) (gaps : List History) (k : Nat) :
    l.replay (gaps.take (k + 1)).flatten =
      (l.replay (gaps.headD [])).replay (gaps.tail.take k).flatten := by
  cases gaps with
  | nil => simp [Ledger.replay]
  | cons gap gaps => simp [Ledger.replay_append]

end LedgerLogin
