/-!
# Inquiries

A program that depends on answers from outside is a tree: it is done with a result, or it asks a
question and goes on with the answer. Nothing is said about who answers. An inquiry is run against
a fixed answer to every question, or interpreted in any monad: one with a state, when answers
change while the program runs, or that of inquiries with other questions, when each question is
itself answered by asking.

`run_bind` says that a run of two inquiries in turn is a run of the second after a run of the first.
-/

namespace LedgerLogin

/-- A program that asks questions `q : Q` with answers in `A q` before it gives its result. -/
inductive Inquiry (Q : Type) (A : Q → Type) (α : Type) : Type where
  | done (result : α)
  | ask (question : Q) (next : A question → Inquiry Q A α)

namespace Inquiry

variable {Q : Type} {A : Q → Type} {α β : Type}

def bind : Inquiry Q A α → (α → Inquiry Q A β) → Inquiry Q A β
  | done a, f => f a
  | ask q next, f => ask q fun a => (next a).bind f

instance : Monad (Inquiry Q A) where
  pure := done
  bind := bind

def query (q : Q) : Inquiry Q A (A q) := ask q done

@[simp] theorem pure_eq_done (a : α) : (pure a : Inquiry Q A α) = done a := rfl

@[simp] theorem bind_eq (x : Inquiry Q A α) (f : α → Inquiry Q A β) : x >>= f = x.bind f := rfl

@[simp] theorem done_bind (a : α) (f : α → Inquiry Q A β) : (done a).bind f = f a := rfl

@[simp] theorem ask_bind (q : Q) (next : A q → Inquiry Q A α) (f : α → Inquiry Q A β) :
    (ask q next).bind f = ask q fun a => (next a).bind f := rfl

theorem bind_done (x : Inquiry Q A α) : x.bind done = x := by
  induction x with
  | done => rfl
  | ask q next ih => simp only [bind, ih]

theorem bind_assoc {γ : Type} (x : Inquiry Q A α) (f : α → Inquiry Q A β)
    (g : β → Inquiry Q A γ) : (x.bind f).bind g = x.bind fun a => (f a).bind g := by
  induction x with
  | done => rfl
  | ask q next ih => simp only [bind, ih]

instance : LawfulMonad (Inquiry Q A) := LawfulMonad.mk'
  _ (fun x => bind_done x) (fun _ _ => rfl) (fun x f g => bind_assoc x f g)

/-- The result when every question has a fixed answer. -/
def run (answer : (q : Q) → A q) : Inquiry Q A α → α
  | done a => a
  | ask q next => (next (answer q)).run answer

@[simp] theorem run_done (answer : (q : Q) → A q) (a : α) :
    (done a : Inquiry Q A α).run answer = a := rfl

@[simp] theorem run_query (answer : (q : Q) → A q) (q : Q) :
    (query q : Inquiry Q A (A q)).run answer = answer q := rfl

@[simp] theorem run_bind (answer : (q : Q) → A q) (x : Inquiry Q A α) (f : α → Inquiry Q A β) :
    (x.bind f).run answer = (f (x.run answer)).run answer := by
  induction x with
  | done => rfl
  | ask q next ih => simp only [bind, run, ih]

/-- A run of two inquiries that may fail, in turn: the second is run if the first succeeds. -/
theorem run_bind_exceptT {ε : Type} (answer : (q : Q) → A q) (x : ExceptT ε (Inquiry Q A) α)
    (f : α → ExceptT ε (Inquiry Q A) β) :
    (x >>= f).run.run answer = x.run.run answer >>= fun a => (f a).run.run answer := by
  rw [ExceptT.run_bind, bind_eq, run_bind]
  cases x.run.run answer with
  | error e => rfl
  | ok a => rfl

/-- The result when every question is answered by a step of a monad. -/
def interpret {m : Type → Type} [Monad m] (answer : (q : Q) → m (A q)) : Inquiry Q A α → m α
  | done a => pure a
  | ask q next => do (next (← answer q)).interpret answer

/-- The inquiry with every question answered by an inquiry of its own. -/
def via {R : Type} {B : R → Type} (answer : (q : Q) → Inquiry R B (A q)) (x : Inquiry Q A α) :
    Inquiry R B α :=
  x.interpret answer

theorem run_via {R : Type} {B : R → Type} (answer : (q : Q) → Inquiry R B (A q))
    (outer : (r : R) → B r) (x : Inquiry Q A α) :
    (x.via answer).run outer = x.run fun q => (answer q).run outer := by
  induction x with
  | done => rfl
  | ask q next ih =>
    simp only [via, interpret, bind_eq, run_bind, run] at ih ⊢
    exact ih _

end Inquiry

end LedgerLogin
