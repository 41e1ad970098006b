import LedgerLogin.Proofs.Inquiry.World
import LedgerLogin.Proofs.Outcome

/-!
# Inquiries one after the other

An inquiry for each of a list is run in the state that the one before it leaves (`startsIn`). Its
outcome is known from the outcomes of the single inquiries in these states (`result_mapM`), and if
it succeeds all of them have been made, and nothing else was asked (`answers_mapM`).
-/

namespace LedgerLogin

variable {Q : Type} {A : Q → Type} {σ α β γ ε : Type}

/-- Inquiries that are made one after the other, each with the state in which it is begun. -/
def startsIn (w : World σ A) (inquiry : β → Inquiry Q A α) : List β → σ → List (β × σ)
  | [], _ => []
  | b :: rest, s => (b, s) :: startsIn w inquiry rest ((inquiry b).runIn w s).state

section
variable {w : World σ A} {inquiry : β → Inquiry Q A α}

theorem map_fst_startsIn (items : List β) (s : σ) :
    (startsIn w inquiry items s).map Prod.fst = items := by
  induction items generalizing s with
  | nil => rfl
  | cons b rest ih => rw [startsIn, List.map_cons, ih]

/-- Items that ask nothing can be left out, if the others leave the states that they left. -/
theorem startsIn_filterMap {R : Type} {other : γ → Inquiry Q A R} {f : β → Option γ}
    (hnone : ∀ b s, f b = none → ((inquiry b).runIn w s).state = s)
    (hsome : ∀ b c s, f b = some c →
      ((inquiry b).runIn w s).state = ((other c).runIn w s).state) (items : List β) (s : σ) :
    startsIn w other (items.filterMap f) s =
      (startsIn w inquiry items s).filterMap fun x => (f x.1).map fun c => (c, x.2) := by
  induction items generalizing s with
  | nil => rfl
  | cons b rest ih =>
    rw [startsIn]
    cases hb : f b with
    | none =>
      rw [List.filterMap_cons_none hb, List.filterMap_cons_none (by rw [hb]; rfl), ih,
        hnone b s hb]
    | some c =>
      rw [List.filterMap_cons_some hb, List.filterMap_cons_some (by rw [hb]; rfl), startsIn, ih,
        hsome b c s hb]

end

section
variable {w : World σ A} {inquiry : β → ExceptT ε (Inquiry Q A) α}

theorem result_mapM (w : World σ A) (inquiry : β → ExceptT ε (Inquiry Q A) α) (items : List β)
    (s : σ) :
    ((items.mapM inquiry).run.runIn w s).result =
      (startsIn w (fun b => (inquiry b).run) items s).mapM
        fun x => ((inquiry x.1).run.runIn w x.2).result := by
  induction items generalizing s with
  | nil => rfl
  | cons b rest ih =>
    rw [startsIn, List.mapM_cons, List.mapM_cons, Inquiry.result_bind]
    refine congrArg _ (funext fun a => ?_)
    rw [Inquiry.result_bind, ih]
    rfl

theorem answers_mapM {items : List β} {s : σ} {as : List α}
    (h : ((items.mapM inquiry).run.runIn w s).result = .ok as) :
    ((items.mapM inquiry).run.runIn w s).answers =
      (startsIn w (fun b => (inquiry b).run) items s).flatMap
        fun x => ((inquiry x.1).run.runIn w x.2).answers := by
  induction items generalizing s as with
  | nil => rfl
  | cons b rest ih =>
    rw [List.mapM_cons, Inquiry.result_bind] at h
    obtain ⟨a, ha, h⟩ := bind_eq_ok.1 h
    rw [Inquiry.result_bind] at h
    obtain ⟨as', has, -⟩ := bind_eq_ok.1 h
    rw [List.mapM_cons, Inquiry.runIn_bind_of_ok ha, Inquiry.runIn_bind_of_ok has, startsIn,
      List.flatMap_cons, ih has]
    exact congrArg _ (List.append_nil _)

end

end LedgerLogin
