/-
  Kargain.Base.Erasure — a run, and the same run without some of its steps.

  A law about two runs says that steps of some kind might as well not have
  been taken.  It is shown with a relation of the two states: a step that
  stays is taken on both sides, a step that is erased on one side only,
  and both keep the relation (`erased_run`).  `EachStep` carries a condition
  on the steps of the first run.

  Nothing in this file names a program.
-/
import Mathlib

namespace Kargain.Erasure

variable {σ α : Type} (step : σ → α → σ) (ok : σ → α → Prop)

/-- Every step of the run meets `ok` in the state it is taken in. -/
def EachStep : σ → List α → Prop
  | _, [] => True
  | s, a :: as => ok s a ∧ EachStep (step s a) as

variable {step ok}

/-- **An invariant of a run.** -/
theorem invariant_run (inv : σ → Prop) (hstep : ∀ s a, inv s → ok s a → inv (step s a))
    {s : σ} {as : List α} (hs : inv s) (h : EachStep step ok s as) : inv (as.foldl step s) := by
  induction as generalizing s with
  | nil => exact hs
  | cons a as ih => exact ih (hstep s a hs h.1) h.2

/-- **Erasing steps.** -/
theorem erased_run (visible : α → Bool) (rel : σ → σ → Prop)
    (hboth : ∀ s t a, visible a = true → ok s a → rel s t → rel (step s a) (step t a))
    (hone : ∀ s t a, visible a = false → ok s a → rel s t → rel (step s a) t)
    {s t : σ} {as : List α} (hst : rel s t) (h : EachStep step ok s as) :
    rel (as.foldl step s) ((as.filter visible).foldl step t) := by
  induction as generalizing s t with
  | nil => exact hst
  | cons a as ih =>
    rw [List.foldl_cons, List.filter_cons]
    cases hv : visible a with
    | true => exact ih (hboth s t a hv h.1 hst) h.2
    | false => exact ih (hone s t a hv h.1 hst) h.2

end Kargain.Erasure
