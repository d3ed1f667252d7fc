/-
  Kargain.Base.Runs — runs of a labelled transition system.

  A system is a partial step `step : σ → α → Except ε σ`: the label says
  who does what with which arguments, and a refused label is an error.
  A run is a list of accepted labels.  The one induction over runs is
  made here; an invariant of a system is then two small goals (it holds
  at the start, one step keeps it).

  `Along` carries a side condition on the steps: "in every run whose
  steps all meet `ok`, …" is `Along step ok s as → …`.  `Throughout` is
  its counterpart on a recorded history, newest entry first.

  Nothing in this file names a contract.
-/
import Kargain.Base.Revert

namespace Kargain

variable {σ α ε : Type*}

/-- Run a list of labels from `s`; the run is refused at its first refused label. -/
def run (step : σ → α → Except ε σ) : σ → List α → Except ε σ
  | s, [] => .ok s
  | s, a :: as => step s a >>= fun s' => run step s' as

/-- Every step of the run from `s` meets `ok` in the state it is taken in. -/
def Along (step : σ → α → Except ε σ) (ok : σ → α → Prop) : σ → List α → Prop
  | _, [] => True
  | s, a :: as => ok s a ∧ ∀ s', step s a = .ok s' → Along step ok s' as

instance Along.decidable {step : σ → α → Except ε σ} {ok : σ → α → Prop}
    [∀ s a, Decidable (ok s a)] : (s : σ) → (as : List α) → Decidable (Along step ok s as)
  | _, [] => isTrue trivial
  | s, a :: as =>
    have : Decidable (∀ s', step s a = .ok s' → Along step ok s' as) :=
      match step s a with
      | .error _ => isTrue fun _ h => nomatch h
      | .ok s₁ =>
        have : Decidable (Along step ok s₁ as) := Along.decidable s₁ as
        decidable_of_iff (Along step ok s₁ as) (by simp)
    inferInstanceAs (Decidable (_ ∧ _))

/-- A state some run from an initial state ends in. -/
def Reachable (step : σ → α → Except ε σ) (init : σ → Prop) (s : σ) : Prop :=
  ∃ s₀ as, init s₀ ∧ run step s₀ as = .ok s

section

variable {step : σ → α → Except ε σ} {ok : σ → α → Prop}

theorem run_cons_ok {s s' : σ} {a : α} {as : List α} :
    run step s (a :: as) = .ok s' ↔ ∃ t, step s a = .ok t ∧ run step t as = .ok s' :=
  bind_ok

theorem run_append_ok {s s' : σ} {as bs : List α} :
    run step s (as ++ bs) = .ok s' ↔ ∃ t, run step s as = .ok t ∧ run step t bs = .ok s' := by
  induction as generalizing s with
  | nil => simp [run]
  | cons a as ih =>
    rw [List.cons_append, run_cons_ok]
    constructor
    · rintro ⟨t, ht, hr⟩
      obtain ⟨u, hu, hb⟩ := ih.mp hr
      exact ⟨u, run_cons_ok.mpr ⟨t, ht, hu⟩, hb⟩
    · rintro ⟨u, hu, hb⟩
      obtain ⟨t, ht, hr⟩ := run_cons_ok.mp hu
      exact ⟨t, ht, ih.mpr ⟨u, hr, hb⟩⟩

theorem Along.of_append {s : σ} {as bs : List α} (h : Along step ok s (as ++ bs)) :
    Along step ok s as := by
  induction as generalizing s with
  | nil => trivial
  | cons a as ih => exact ⟨h.1, fun s' hs => ih (h.2 s' hs)⟩

/-- The last step of such a run meets `ok` too. -/
theorem Along.last {s t : σ} {as : List α} {a : α} (h : Along step ok s (as ++ [a]))
    (hr : run step s as = .ok t) : ok t a := by
  induction as generalizing s with
  | nil =>
    obtain rfl : s = t := by simpa [run] using hr
    exact h.1
  | cons b as ih =>
    obtain ⟨u, hu, hr'⟩ := run_cons_ok.mp hr
    exact ih (h.2 u hu) hr'

theorem Along.mono {ok' : σ → α → Prop} (himp : ∀ s a, ok s a → ok' s a) {s : σ}
    {as : List α} (h : Along step ok s as) : Along step ok' s as := by
  induction as generalizing s with
  | nil => trivial
  | cons a as ih => exact ⟨himp _ _ h.1, fun s' hs => ih (h.2 s' hs)⟩

theorem along_true {s : σ} {as : List α} : Along step (fun _ _ => True) s as := by
  induction as generalizing s with
  | nil => trivial
  | cons a as ih => exact ⟨trivial, fun s' _ => ih⟩

/-- **The induction over runs.**  What one step meeting `ok` preserves, a whole
    run of such steps preserves. -/
theorem run_invariant_along {Inv : σ → Prop}
    (hstep : ∀ s a s', Inv s → ok s a → step s a = .ok s' → Inv s')
    {s s' : σ} {as : List α} (h0 : Inv s) (hok : Along step ok s as)
    (hr : run step s as = .ok s') : Inv s' := by
  induction as generalizing s with
  | nil =>
    obtain rfl : s = s' := by simpa [run] using hr
    exact h0
  | cons a as ih =>
    obtain ⟨t, ht, hr'⟩ := run_cons_ok.mp hr
    exact ih (hstep s a t h0 hok.1 ht) (hok.2 t ht) hr'

theorem run_invariant {I : σ → Prop} (hstep : ∀ s a s', I s → step s a = .ok s' → I s')
    {s s' : σ} {as : List α} (h0 : I s) (hr : run step s as = .ok s') : I s' := by
  have hok : Along step (fun _ _ => True) s as := along_true
  exact run_invariant_along (fun s a s' hi _ h => hstep s a s' hi h) h0 hok hr

/-- An invariant of the system holds in every reachable state. -/
theorem Reachable.invariant {init Inv : σ → Prop} (hinit : ∀ s, init s → Inv s)
    (hstep : ∀ s a s', Inv s → step s a = .ok s' → Inv s') {s : σ}
    (h : Reachable step init s) : Inv s := by
  obtain ⟨s₀, as, h0, hr⟩ := h
  exact run_invariant hstep (hinit s₀ h0) hr

theorem Reachable.next {init : σ → Prop} {s s' : σ} {a : α} (h : Reachable step init s)
    (hs : step s a = .ok s') : Reachable step init s' := by
  obtain ⟨s₀, as, h0, hr⟩ := h
  refine ⟨s₀, as ++ [a], h0, run_append_ok.mpr ⟨s, hr, ?_⟩⟩
  exact run_cons_ok.mpr ⟨s', hs, rfl⟩

/-- A relation every step keeps with its own start, kept by a whole run: the
    reflexive, transitive reading of a frame condition. -/
theorem run_frame {R : σ → σ → Prop} (hrefl : ∀ s, R s s)
    (htrans : ∀ {s t u}, R s t → R t u → R s u)
    (hstep : ∀ s a s', step s a = .ok s' → R s s')
    {s s' : σ} {as : List α} (hr : run step s as = .ok s') : R s s' :=
  run_invariant (I := R s) (fun t a t' hi h => htrans hi (hstep t a t' h)) (hrefl s) hr

end

/-- Where an accepted run ends. -/
def finalState (step : σ → α → Except ε σ) (s : σ) (as : List α) : σ :=
  match run step s as with
  | .ok t => t
  | .error _ => s

theorem run_finalState {step : σ → α → Except ε σ} {s : σ} {as : List α}
    (h : (run step s as).isOk = true) : run step s as = .ok (finalState step s as) := by
  unfold finalState
  cases hr : run step s as with
  | ok t => rfl
  | error e =>
    rw [hr] at h
    cases h

/-- Every entry of a history, newest first, meets `ok` given the entries before it. -/
def Throughout (ok : List α → α → Prop) : List α → Prop
  | [] => True
  | a :: older => ok older a ∧ Throughout ok older

instance Throughout.decidable {ok : List α → α → Prop} [∀ older a, Decidable (ok older a)] :
    (l : List α) → Decidable (Throughout ok l)
  | [] => isTrue trivial
  | _ :: older =>
    have : Decidable (Throughout ok older) := Throughout.decidable older
    inferInstanceAs (Decidable (_ ∧ _))

/-- What holds of each entry because of the history before it holds throughout. -/
theorem Throughout.imp {ok ok' : List α → α → Prop} {l : List α} (h : Throughout ok l)
    (himp : ∀ older a, Throughout ok older → ok older a → ok' older a) : Throughout ok' l := by
  induction l with
  | nil => trivial
  | cons a older ih => exact ⟨himp older a h.2 h.1, ih h.2⟩

theorem Throughout.and {ok ok' : List α → α → Prop} {l : List α} (h : Throughout ok l)
    (h' : Throughout ok' l) : Throughout (fun older a => ok older a ∧ ok' older a) l := by
  induction l with
  | nil => trivial
  | cons a older ih => exact ⟨⟨h.1, h'.1⟩, ih h.2 h'.2⟩

end Kargain
