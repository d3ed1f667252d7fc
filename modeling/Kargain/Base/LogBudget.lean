/-
  Kargain.Base.LogBudget — a log with a byte budget.

  A collector takes lines while they fit under a limit; a line that would
  reach it is dropped, though a later one that is smaller may still fit,
  and a notice stands where the first was dropped.  `kept` and `dropped`
  are a partition of the lines (`kept_dropped_perm`); nothing is dropped
  exactly if the lines fit (`dropped_eq_nil_iff`), and then the log is the
  lines (`collect_of_fits`).
-/
import Mathlib

namespace Kargain.LogBudget

variable {α β : Type} (size : α → ℕ) (limit : ℕ) (notice : α)

/-- The log of `lines` when `written` bytes are in it, and the notice or not. -/
def collect : List α → ℕ → Bool → List α
  | [], _, _ => []
  | l :: lines, written, warned =>
    if limit ≤ written + size l then
      if warned then collect lines written true else notice :: collect lines written true
    else l :: collect lines (written + size l) warned

/-- The lines that are written. -/
def kept : List α → ℕ → List α
  | [], _ => []
  | l :: lines, written =>
    if limit ≤ written + size l then kept lines written
    else l :: kept lines (written + size l)

/-- The lines that are not. -/
def dropped : List α → ℕ → List α
  | [], _ => []
  | l :: lines, written =>
    if limit ≤ written + size l then l :: dropped lines written
    else dropped lines (written + size l)

/-- The bytes of a log. -/
def bytes (lines : List α) : ℕ := (lines.map size).sum

variable {size limit notice}

theorem dropped_eq_nil_iff (lines : List α) {written : ℕ} (hw : written < limit) :
    dropped size limit lines written = [] ↔ written + bytes size lines < limit := by
  induction lines generalizing written with
  | nil => simp [dropped, bytes, hw]
  | cons l lines ih =>
    have hcons : bytes size (l :: lines) = size l + bytes size lines := by simp [bytes]
    unfold dropped
    split
    · simp only [reduceCtorEq, hcons, false_iff]
      omega
    · rw [ih (by omega), hcons, Nat.add_assoc]

/-- **A log that fits** is its lines. -/
theorem collect_of_fits (lines : List α) {written : ℕ} (warned : Bool)
    (h : dropped size limit lines written = []) :
    collect size limit notice lines written warned = lines := by
  induction lines generalizing written with
  | nil => rfl
  | cons l lines ih =>
    unfold dropped at h
    split at h
    · cases h
    · next hfit =>
      unfold collect
      rw [if_neg hfit, ih h]

theorem kept_dropped_perm (lines : List α) (written : ℕ) :
    (kept size limit lines written ++ dropped size limit lines written).Perm lines := by
  induction lines generalizing written with
  | nil => exact List.Perm.refl _
  | cons l lines ih =>
    unfold kept dropped
    split
    · exact (List.perm_middle).trans ((ih written).cons l)
    · exact (ih (written + size l)).cons l

/-- What is read of the log, the notice apart, is read of the lines that were written. -/
theorem filterMap_collect {g : α → Option β} (hn : g notice = none) (lines : List α)
    (written : ℕ) (warned : Bool) :
    (collect size limit notice lines written warned).filterMap g =
      (kept size limit lines written).filterMap g := by
  induction lines generalizing written warned with
  | nil => rfl
  | cons l lines ih =>
    unfold collect kept
    split
    · cases warned with
      | true => exact ih written true
      | false =>
        rw [if_neg Bool.false_ne_true, List.filterMap_cons_none hn]
        exact ih written true
    · simp only [List.filterMap_cons, ih]

/-- If nothing is read of what was dropped, nothing is lost. -/
theorem filterMap_kept {g : α → Option β} (lines : List α) (written : ℕ)
    (hd : ∀ l ∈ dropped size limit lines written, g l = none) :
    (kept size limit lines written).filterMap g = lines.filterMap g := by
  induction lines generalizing written with
  | nil => rfl
  | cons l lines ih =>
    unfold dropped at hd
    unfold kept
    split at hd
    · next hfull =>
      rw [if_pos hfull, List.filterMap_cons_none (hd l List.mem_cons_self)]
      exact ih written fun x hx => hd x (List.mem_cons_of_mem l hx)
    · next hfit =>
      rw [if_neg hfit]
      simp only [List.filterMap_cons, ih (written + size l) hd]

theorem mem_collect {lines : List α} {written : ℕ} {warned : Bool} {x : α}
    (h : x ∈ collect size limit notice lines written warned) :
    x = notice ∨ x ∈ kept size limit lines written := by
  induction lines generalizing written warned with
  | nil => cases h
  | cons l lines ih =>
    unfold collect at h
    unfold kept
    split at h
    · next hfull =>
      rw [if_pos hfull]
      split at h
      · exact ih h
      · rcases List.mem_cons.mp h with h | h
        · exact Or.inl h
        · exact ih h
    · next hfit =>
      rw [if_neg hfit]
      rcases List.mem_cons.mp h with rfl | h
      · exact Or.inr List.mem_cons_self
      · exact (ih h).imp_right (List.mem_cons_of_mem l)

end Kargain.LogBudget
