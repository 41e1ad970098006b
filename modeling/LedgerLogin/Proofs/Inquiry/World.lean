import LedgerLogin.Inquiry

/-!
# Inquiries in a world

A world answers questions from a state, and may change it while it does. `Inquiry.runIn` runs an
inquiry in a world and keeps what was asked and answered. Where the answers are fixed it is
`Inquiry.run` (`runIn_fixed`).

A world may answer questions by asking others (`World.through`). An inquiry whose questions are
answered so is run as in that world (`runIn_via`), and what is asked on its way is asked to answer
one of its questions (`exists_of_mem_answers_via`).

Some answers are failures. An inquiry stops at failures (`StopsAt`) if after the first of them it
asks nothing more and its result is that failure. Two inquiries in turn stop at failures if both do
(`StopsAt.bind_exceptT`). What such an inquiry gives in a world that withholds answers of another
world is what it gives in the other one, or a failure that it met (`StopsAt.runIn_withheld`). In two
worlds that differ in some failures only it runs the same, unless it meets such a failure in both
(`StopsAt.runIn_differsIn`).
-/

namespace LedgerLogin

variable {Q : Type} {A : Q → Type} {σ α β ε : Type}

/-- Answers that depend on a state, and the state after each. -/
abbrev World (σ : Type) (A : Q → Type) : Type := (q : Q) → σ → A q × σ

/-- What an inquiry leaves that was run in a world: its result, the state of the world, and the
questions with their answers. -/
structure Run (σ : Type) (A : Q → Type) (α : Type) where
  result : α
  state : σ
  answers : List ((q : Q) × A q)

def Run.failures (failure? : (q : Q) → A q → Option ε) (r : Run σ A α) : List ε :=
  r.answers.filterMap fun x => failure? x.1 x.2

/-- A world that in every state gives the answer of another one, or else a failure. -/
def Withholds (failure? : (q : Q) → A q → Option ε) (w₁ w₂ : World σ A) : Prop :=
  ∀ q s, w₂ q s = w₁ q s ∨ (failure? q (w₂ q s).1).isSome

/-- Two worlds that in every state give the same answer, or both a failure with a property. -/
def DiffersIn (failure? : (q : Q) → A q → Option ε) (p : ε → Prop) (w₁ w₂ : World σ A) : Prop :=
  ∀ q s, w₂ q s = w₁ q s ∨ ∃ e₁ e₂, p e₁ ∧ p e₂ ∧
    failure? q (w₁ q s).1 = some e₁ ∧ failure? q (w₂ q s).1 = some e₂

namespace Inquiry

def runIn (w : World σ A) : Inquiry Q A α → σ → Run σ A α
  | done a, s => ⟨a, s, []⟩
  | ask q next, s =>
    let r := (next (w q s).1).runIn w (w q s).2
    ⟨r.result, r.state, ⟨q, (w q s).1⟩ :: r.answers⟩

end Inquiry

/-- The world that answers questions by asking others. -/
def World.through {R : Type} {B : R → Type} (how : (q : Q) → Inquiry R B (A q)) (w : World σ B) :
    World σ A :=
  fun q s => (((how q).runIn w s).result, ((how q).runIn w s).state)

namespace Inquiry

theorem runIn_bind (w : World σ A) (x : Inquiry Q A α) (f : α → Inquiry Q A β) (s : σ) :
    (x.bind f).runIn w s =
      ⟨((f (x.runIn w s).result).runIn w (x.runIn w s).state).result,
        ((f (x.runIn w s).result).runIn w (x.runIn w s).state).state,
        (x.runIn w s).answers ++ ((f (x.runIn w s).result).runIn w (x.runIn w s).state).answers⟩ := by
  induction x generalizing s with
  | done a => rfl
  | ask q next ih =>
    simp only [ask_bind, runIn]
    rw [ih]
    rfl

theorem runIn_bind_of_ok {w : World σ A} {x : ExceptT ε (Inquiry Q A) α} {s : σ} {a : α}
    (h : (x.run.runIn w s).result = .ok a) (f : α → ExceptT ε (Inquiry Q A) β) :
    (x >>= f).run.runIn w s =
      ⟨((f a).run.runIn w (x.run.runIn w s).state).result,
        ((f a).run.runIn w (x.run.runIn w s).state).state,
        (x.run.runIn w s).answers ++ ((f a).run.runIn w (x.run.runIn w s).state).answers⟩ := by
  show (x.run.bind (ExceptT.bindCont f)).runIn w s = _
  rw [runIn_bind, h]
  rfl

theorem runIn_bind_of_error {w : World σ A} {x : ExceptT ε (Inquiry Q A) α} {s : σ} {e : ε}
    (h : (x.run.runIn w s).result = .error e) (f : α → ExceptT ε (Inquiry Q A) β) :
    (x >>= f).run.runIn w s =
      ⟨.error e, (x.run.runIn w s).state, (x.run.runIn w s).answers⟩ := by
  show (x.run.bind (ExceptT.bindCont f)).runIn w s = _
  rw [runIn_bind, h]
  show Run.mk _ _ (_ ++ []) = _
  rw [List.append_nil]
  rfl

/-- Of two inquiries in turn the second is run in the state that the first leaves. -/
theorem result_bind (w : World σ A) (x : ExceptT ε (Inquiry Q A) α)
    (f : α → ExceptT ε (Inquiry Q A) β) (s : σ) :
    ((x >>= f).run.runIn w s).result = (x.run.runIn w s).result >>= fun a =>
      ((f a).run.runIn w (x.run.runIn w s).state).result := by
  cases hx : (x.run.runIn w s).result with
  | error e =>
    rw [runIn_bind_of_error hx]
    rfl
  | ok a =>
    rw [runIn_bind_of_ok hx]
    rfl

theorem runIn_fixed (answer : (q : Q) → A q) (x : Inquiry Q A α) (s : σ) :
    (x.runIn (fun q s => (answer q, s)) s).result = x.run answer := by
  induction x with
  | done a => rfl
  | ask q next ih => exact ih (answer q)

/-- What is answered in a run is what the world answers in some state. -/
theorem exists_state_of_mem_answers {w : World σ A} {x : Inquiry Q A α} {s : σ} {y : (q : Q) × A q}
    (h : y ∈ (x.runIn w s).answers) : ∃ t, y.2 = (w y.1 t).1 := by
  induction x generalizing s with
  | done a => cases h
  | ask q next ih =>
    rcases List.mem_cons.1 h with rfl | hlater
    · exact ⟨s, rfl⟩
    · exact ih (w q s).1 hlater

theorem failures_runIn_eq_nil {failure? : (q : Q) → A q → Option ε} {w : World σ A}
    (h : ∀ q t, failure? q (w q t).1 = none) (x : Inquiry Q A α) (s : σ) :
    (x.runIn w s).failures failure? = [] := by
  refine List.filterMap_eq_nil_iff.2 ?_
  intro y hy
  obtain ⟨t, ht⟩ := exists_state_of_mem_answers hy
  rw [ht]
  exact h y.1 t

/-- An inquiry runs as in the world that its questions are answered through. -/
theorem runIn_via {R : Type} {B : R → Type} (how : (q : Q) → Inquiry R B (A q)) (w : World σ B)
    (x : Inquiry Q A α) (s : σ) :
    ((x.via how).runIn w s).result = (x.runIn (w.through how) s).result ∧
    ((x.via how).runIn w s).state = (x.runIn (w.through how) s).state := by
  induction x generalizing s with
  | done a => exact ⟨rfl, rfl⟩
  | ask q next ih =>
    show (((how q).bind fun a => (next a).via how).runIn w s).result = _ ∧
      (((how q).bind fun a => (next a).via how).runIn w s).state = _
    rw [runIn_bind]
    exact ih _ _

/-- Everything that is asked on the way is asked to answer one of the inquiry's questions. -/
theorem exists_of_mem_answers_via {R : Type} {B : R → Type} {how : (q : Q) → Inquiry R B (A q)}
    {w : World σ B} {x : Inquiry Q A α} {s : σ} {z : (r : R) × B r}
    (h : z ∈ ((x.via how).runIn w s).answers) :
    ∃ y ∈ (x.runIn (w.through how) s).answers, ∃ t,
      y.2 = ((how y.1).runIn w t).result ∧ z ∈ ((how y.1).runIn w t).answers := by
  induction x generalizing s with
  | done a => cases h
  | ask q next ih =>
    have hsplit : z ∈ (((how q).bind fun a => (next a).via how).runIn w s).answers := h
    rw [runIn_bind] at hsplit
    rcases List.mem_append.1 hsplit with hfirst | hlater
    · exact ⟨_, List.mem_cons_self, s, rfl, hfirst⟩
    · obtain ⟨y, hy, hz⟩ := ih _ hlater
      exact ⟨y, List.mem_cons_of_mem _ hy, hz⟩

/-- An inquiry that at the first failure it meets asks nothing more and gives what the failure
makes of it. -/
def StopsAt (failure? : (q : Q) → A q → Option ε) (stopped : ε → α) : Inquiry Q A α → Prop
  | done _ => True
  | ask q next => ∀ a, (∀ e, failure? q a = some e → next a = done (stopped e)) ∧
      (next a).StopsAt failure? stopped

namespace StopsAt

variable {failure? : (q : Q) → A q → Option ε} {stopped : ε → α}

theorem done (a : α) : (Inquiry.done a : Inquiry Q A α).StopsAt failure? stopped := trivial

theorem map {x : Inquiry Q A α} (hx : x.StopsAt failure? stopped) (f : α → β) :
    (x.bind fun a => Inquiry.done (f a)).StopsAt failure? fun e => f (stopped e) := by
  induction x with
  | done a => trivial
  | ask q next ih =>
    intro a
    obtain ⟨hstop, hnext⟩ := hx a
    refine ⟨?_, ih a hnext⟩
    intro e he
    show (next a).bind _ = _
    rw [hstop e he]
    rfl

/-- Of two inquiries that may fail the second is not begun if the first stops. -/
theorem bind_exceptT {x : ExceptT ε (Inquiry Q A) α} {f : α → ExceptT ε (Inquiry Q A) β}
    (hx : x.run.StopsAt failure? .error) (hf : ∀ a, (f a).run.StopsAt failure? .error) :
    (x >>= f).run.StopsAt failure? .error := by
  show (x.run.bind (ExceptT.bindCont f)).StopsAt failure? .error
  generalize x.run = y at hx
  induction y with
  | done result =>
    cases result with
    | error e => trivial
    | ok a => exact hf a
  | ask q next ih =>
    intro a
    obtain ⟨hstop, hnext⟩ := hx a
    refine ⟨?_, ih a hnext⟩
    intro e he
    show (next a).bind _ = _
    rw [hstop e he]
    rfl

/-- Where answers are withheld, the inquiry runs as it would, or ends with a failure that it met. -/
theorem runIn_withheld {w₁ w₂ : World σ A} {x : Inquiry Q A α} (hx : x.StopsAt failure? stopped)
    (hw : Withholds failure? w₁ w₂) (s : σ) :
    x.runIn w₂ s = x.runIn w₁ s ∨
      ∃ e ∈ (x.runIn w₂ s).failures failure?, (x.runIn w₂ s).result = stopped e := by
  induction x generalizing s with
  | done a => exact .inl rfl
  | ask q next ih =>
    obtain ⟨hstop, hnext⟩ := hx (w₂ q s).1
    rcases hw q s with hsame | hfails
    · -- The answer is the same, and so is the state; what comes after is run in it.
      rcases ih (w₂ q s).1 hnext (w₂ q s).2 with hrest | ⟨e, he, hresult⟩
      · refine .inl ?_
        simp only [runIn]
        rw [hrest, hsame]
      · refine .inr ⟨e, ?_, hresult⟩
        obtain ⟨x, hx, hfailure⟩ := List.mem_filterMap.1 he
        exact List.mem_filterMap.2 ⟨x, List.mem_cons_of_mem _ hx, hfailure⟩
    · obtain ⟨e, he⟩ := Option.isSome_iff_exists.1 hfails
      refine .inr ⟨e, ?_, ?_⟩
      · exact List.mem_filterMap.2 ⟨⟨q, (w₂ q s).1⟩, List.mem_cons_self, he⟩
      · show ((next (w₂ q s).1).runIn w₂ (w₂ q s).2).result = _
        rw [hstop e he]
        rfl

/-- In worlds that differ in failures only, the inquiry runs the same or ends with a failure in
both. -/
theorem runIn_differsIn {p : ε → Prop} {w₁ w₂ : World σ A} {x : Inquiry Q A α}
    (hx : x.StopsAt failure? stopped) (hw : DiffersIn failure? p w₁ w₂) (s : σ) :
    x.runIn w₂ s = x.runIn w₁ s ∨ ∃ e₁ e₂, p e₁ ∧ p e₂ ∧
      e₁ ∈ (x.runIn w₁ s).failures failure? ∧ (x.runIn w₁ s).result = stopped e₁ ∧
      (x.runIn w₂ s).result = stopped e₂ := by
  induction x generalizing s with
  | done a => exact .inl rfl
  | ask q next ih =>
    rcases hw q s with hsame | ⟨e₁, e₂, hp₁, hp₂, hfails₁, hfails₂⟩
    · -- The answer is the same, and so is the state; what comes after is run in it.
      rcases ih (w₁ q s).1 (hx _).2 (w₁ q s).2 with
        hrest | ⟨e₁, e₂, hp₁, hp₂, hmet, hresult₁, hresult₂⟩
      · refine .inl ?_
        simp only [runIn]
        rw [hsame, hrest]
      · refine .inr ⟨e₁, e₂, hp₁, hp₂, ?_, hresult₁, ?_⟩
        · obtain ⟨y, hy, hfailure⟩ := List.mem_filterMap.1 hmet
          exact List.mem_filterMap.2 ⟨y, List.mem_cons_of_mem _ hy, hfailure⟩
        · simp only [runIn]
          rw [hsame]
          exact hresult₂
    · refine .inr ⟨e₁, e₂, hp₁, hp₂, ?_, ?_, ?_⟩
      · exact List.mem_filterMap.2 ⟨⟨q, (w₁ q s).1⟩, List.mem_cons_self, hfails₁⟩
      · simp only [runIn]
        rw [(hx _).1 e₁ hfails₁]
        rfl
      · simp only [runIn]
        rw [(hx _).1 e₂ hfails₂]
        rfl

/-- After a failed read the result is that failure, whichever of the reads it was. -/
theorem result_of_failure {w : World σ A} {x : Inquiry Q A α} (hx : x.StopsAt failure? stopped)
    {s : σ} {y : (q : Q) × A q} {e : ε} (hy : y ∈ (x.runIn w s).answers)
    (he : failure? y.1 y.2 = some e) : (x.runIn w s).result = stopped e := by
  induction x generalizing s with
  | done a => cases hy
  | ask q next ih =>
    obtain ⟨hstop, hnext⟩ := hx (w q s).1
    rcases List.mem_cons.1 hy with rfl | hlater
    · show ((next (w q s).1).runIn w (w q s).2).result = _
      rw [hstop e he]
      rfl
    · exact ih (w q s).1 hnext hlater

end StopsAt

end Inquiry

end LedgerLogin
