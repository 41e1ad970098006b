import LedgerLogin.Proofs.Inquiry.World

/-!
# What inquiries ensure

An inquiry ensures a property of its result if the result has it whenever every answer on the way
has a property that it relies on. What is ensured holds of every run in every world, as far as the
answers of the run can be relied on (`Ensures.runIn`).

If the questions that an inquiry asks are answered by inquiries that ensure what someone else would
answer, the result is what it would be if that one were asked (`Asks.ensures_via`).
-/

namespace LedgerLogin.Inquiry

variable {Q : Type} {A : Q → Type} {σ α β ε : Type}

/-- With answers that can be relied on, the result has a property. -/
def Ensures (relied : (q : Q) → A q → Prop) (p : α → Prop) : Inquiry Q A α → Prop
  | done a => p a
  | ask q next => ∀ a, relied q a → (next a).Ensures relied p

namespace Ensures

variable {relied : (q : Q) → A q → Prop} {p : α → Prop}

theorem bind {x : Inquiry Q A α} {f : α → Inquiry Q A β} {r : β → Prop}
    (hx : x.Ensures relied p) (hf : ∀ a, p a → (f a).Ensures relied r) :
    (x.bind f).Ensures relied r := by
  induction x with
  | done a => exact hf a hx
  | ask q next ih => exact fun a ha => ih a (hx a ha)

/-- Of inquiries that may fail something is ensured for results only. -/
theorem bind_exceptT {x : ExceptT ε (Inquiry Q A) α} {f : α → ExceptT ε (Inquiry Q A) β}
    {r : β → Prop} (hx : x.run.Ensures relied fun y => ∀ a, y = .ok a → p a)
    (hf : ∀ a, p a → (f a).run.Ensures relied fun y => ∀ b, y = .ok b → r b) :
    (x >>= f).run.Ensures relied fun y => ∀ b, y = .ok b → r b := by
  refine Ensures.bind hx ?_
  intro y hy
  cases y with
  | error e => exact fun b h => nomatch h
  | ok a => exact hf a (hy a rfl)

theorem bind_ok {x : ExceptT ε (Inquiry Q A) α} {f : α → ExceptT ε (Inquiry Q A) β} {a : α}
    {r : Except ε β → Prop} (hx : x.run.Ensures relied fun y => y = .ok a)
    (hf : (f a).run.Ensures relied r) : (x >>= f).run.Ensures relied r := by
  refine Ensures.bind hx ?_
  rintro y rfl
  exact hf

theorem of_forall (h : ∀ a, p a) (x : Inquiry Q A α) : x.Ensures relied p := by
  induction x with
  | done a => exact h a
  | ask q next ih => exact fun a _ => ih a

theorem runIn {x : Inquiry Q A α} (hx : x.Ensures relied p) {w : World σ A} {s : σ}
    (h : ∀ y ∈ (x.runIn w s).answers, relied y.1 y.2) : p (x.runIn w s).result := by
  induction x generalizing s with
  | done a => exact hx
  | ask q next ih =>
    refine ih (w q s).1 (hx _ (h _ List.mem_cons_self)) ?_
    intro y hy
    exact h y (List.mem_cons_of_mem _ hy)

end Ensures

/-- Run against an answer to every question, the inquiry asks only questions with a property. -/
def Asks (answer : (q : Q) → A q) (p : Q → Prop) : Inquiry Q A α → Prop
  | done _ => True
  | ask q next => p q ∧ (next (answer q)).Asks answer p

namespace Asks

variable {answer : (q : Q) → A q} {p : Q → Prop}

theorem bind {x : Inquiry Q A α} {f : α → Inquiry Q A β} (hx : x.Asks answer p)
    (hf : (f (x.run answer)).Asks answer p) : (x.bind f).Asks answer p := by
  induction x with
  | done a => exact hf
  | ask q next ih => exact ⟨hx.1, ih (answer q) hx.2 hf⟩

theorem bind_exceptT {x : ExceptT ε (Inquiry Q A) α} {f : α → ExceptT ε (Inquiry Q A) β}
    (hx : x.run.Asks answer p) (hf : ∀ a, x.run.run answer = .ok a → (f a).run.Asks answer p) :
    (x >>= f).run.Asks answer p := by
  refine Asks.bind hx ?_
  show (ExceptT.bindCont f (x.run.run answer)).Asks answer p
  cases h : x.run.run answer with
  | error e => trivial
  | ok a => exact hf a h

/-- An inquiry whose questions are answered by inquiries of their own has the result that it has
with the answers that these ensure. -/
theorem ensures_via {R : Type} {B : R → Type} {relied : (r : R) → B r → Prop}
    {how : (q : Q) → Inquiry R B (A q)} {x : Inquiry Q A α} (hx : x.Asks answer p)
    (hhow : ∀ q, p q → (how q).Ensures relied fun a => a = answer q) :
    (x.via how).Ensures relied fun result => result = x.run answer := by
  induction x with
  | done a => rfl
  | ask q next ih =>
    refine Ensures.bind (hhow q hx.1) ?_
    rintro a rfl
    exact ih (answer q) hx.2

end Asks

end LedgerLogin.Inquiry
