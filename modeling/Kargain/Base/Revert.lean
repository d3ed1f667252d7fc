/-
  Kargain.Base.Revert — reading a reverting computation backwards.

  A contract entry point is a function into `Except ε σ`: it either
  reverts with a named error or returns the next state.  Proofs about
  accepted calls start from `f x = .ok r` and need to know which checks
  were passed on the way.  The lemmas here take such an equation apart,
  one `do` line at a time, without unfolding `bind`.

  Nothing in this file names a contract.
-/
import Mathlib

namespace Kargain

/-! ## §1. The two guards. -/

/-- `if (c) revert e;` -/
def revertIf {ε : Type*} (c : Prop) [Decidable c] (e : ε) : Except ε Unit :=
  if c then .error e else .ok ()

/-- `require(c, e);` -/
def require {ε : Type*} (c : Prop) [Decidable c] (e : ε) : Except ε Unit :=
  if c then .ok () else .error e

/-- Read an optional value, reverting when there is none. -/
def orRevert {ε α : Type*} (o : Option α) (e : ε) : Except ε α :=
  match o with
  | some a => .ok a
  | none => .error e

/-- A call whose failure is swallowed: the state is left as it was. -/
def caught {ε σ : Type*} (s : σ) (r : Except ε σ) : σ :=
  match r with
  | .ok s' => s'
  | .error _ => s

/-! ## §2. Inversion. -/

section Inversion

universe u

variable {ε : Type*} {α β : Type u}

theorem bind_ok {x : Except ε α} {f : α → Except ε β} {b : β} :
    (x >>= f) = .ok b ↔ ∃ a, x = .ok a ∧ f a = .ok b := by
  cases x with
  | error e => simp [bind, Except.bind]
  | ok a => simp [bind, Except.bind]

theorem pure_ok {a b : α} : (pure a : Except ε α) = .ok b ↔ a = b := by
  simp [pure, Except.pure]

theorem revertIf_ok {c : Prop} [Decidable c] {e : ε} {u : Unit} :
    revertIf c e = .ok u ↔ ¬ c := by
  unfold revertIf
  split <;> simp [*]

theorem require_ok {c : Prop} [Decidable c] {e : ε} {u : Unit} :
    require c e = .ok u ↔ c := by
  unfold require
  split <;> simp [*]

theorem orRevert_ok {o : Option α} {e : ε} {a : α} : orRevert o e = .ok a ↔ o = some a := by
  cases o <;> simp [orRevert]

theorem exists_of_isOk {r : Except ε α} (h : r.isOk = true) : ∃ b, r = .ok b := by
  cases r with
  | error e => cases h
  | ok b => exact ⟨b, rfl⟩

/-- A swallowed call either did nothing or was accepted. -/
theorem caught_cases {s : α} {r : Except ε α} : caught s r = s ∨ r = .ok (caught s r) := by
  cases r with
  | error e => exact .inl rfl
  | ok s' => exact .inr rfl

/-- What holds of a state and of every accepted result holds of a swallowed call. -/
theorem caught_of {R : α → α → Prop} {s : α} {r : Except ε α} (hrefl : R s s)
    (hok : ∀ s', r = .ok s' → R s s') : R s (caught s r) := by
  rcases caught_cases (s := s) (r := r) with h | h
  · rw [h]; exact hrefl
  · exact hok _ h

end Inversion

end Kargain
