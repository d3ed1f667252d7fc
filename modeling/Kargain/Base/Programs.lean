/-
  Kargain.Base.Programs — programs that stop half-way.

  A service works step by step on a state that stays when it stops: a call
  it makes may fail, the failure may be handled or end the work, and the
  process may die between any two steps.  A `Prog` is such a piece of
  work: whatever it ends with, it leaves a state.

  `Sound P x Q E` is the triple for it, with one postcondition for a
  value and one for an error.  The rules follow the program text.

  Nothing in this file names a service.
-/
import Mathlib

namespace Kargain

variable {σ ε : Type} {α β : Type}

/-- Work on a state, ending with a value or an error. -/
def Prog (σ ε α : Type) := σ → Except ε α × σ

namespace Prog

instance : Monad (Prog σ ε) where
  pure a s := (.ok a, s)
  bind x f s :=
    match x s with
    | (.ok a, s') => f a s'
    | (.error e, s') => (.error e, s')

def get : Prog σ ε σ := fun s => (.ok s, s)

def modify (f : σ → σ) : Prog σ ε Unit := fun s => (.ok (), f s)

def throw (e : ε) : Prog σ ε α := fun s => (.error e, s)

/-- The outcome of `x` as a value, where its error is one of those `handled`. -/
def attempt (handled : ε → Bool) (x : Prog σ ε α) : Prog σ ε (Except ε α) := fun s =>
  match x s with
  | (.ok a, s') => (.ok (.ok a), s')
  | (.error e, s') => if handled e then (.ok (.error e), s') else (.error e, s')

/-- From a state with `P`, `x` ends with a value and `Q` or with an error and `E`. -/
def Sound (P : σ → Prop) (x : Prog σ ε α) (Q : α → σ → Prop) (E : σ → Prop) : Prop :=
  ∀ s, P s →
    match x s with
    | (.ok a, s') => Q a s'
    | (.error _, s') => E s'

section Rules

variable {P P' : σ → Prop} {Q Q' : α → σ → Prop} {R : β → σ → Prop} {E : σ → Prop}
  {x : Prog σ ε α} {f : α → Prog σ ε β}

theorem Sound.pure {a : α} (h : ∀ s, P s → Q a s) :
    Sound P (Pure.pure a : Prog σ ε α) Q E := fun s hs => h s hs

theorem Sound.get {Q : σ → σ → Prop} (h : ∀ s, P s → Q s s) : Sound P (Prog.get : Prog σ ε σ) Q E :=
  fun s hs => h s hs

theorem Sound.modify {g : σ → σ} {Q : Unit → σ → Prop} (h : ∀ s, P s → Q () (g s)) :
    Sound P (Prog.modify g : Prog σ ε Unit) Q E := fun s hs => h s hs

theorem Sound.throw {e : ε} (h : ∀ s, P s → E s) : Sound P (Prog.throw e : Prog σ ε α) Q E :=
  fun s hs => h s hs

theorem Sound.bind (hx : Sound P x Q E) (hf : ∀ a, Sound (Q a) (f a) R E) :
    Sound P (x >>= f) R E := by
  intro s hs
  have h := hx s hs
  show match (match x s with
    | (.ok a, s') => f a s'
    | (.error e, s') => (.error e, s')) with
    | (.ok a, s') => R a s'
    | (.error _, s') => E s'
  rcases hxs : x s with ⟨_ | a, s'⟩
  · rw [hxs] at h
    exact h
  · rw [hxs] at h
    exact hf a s' h

theorem Sound.imp (hx : Sound P x Q E) (hP : ∀ s, P' s → P s) (hQ : ∀ a s, Q a s → Q' a s) :
    Sound P' x Q' E := by
  intro s hs
  have h := hx s (hP s hs)
  rcases hxs : x s with ⟨_ | a, s'⟩
  · rw [hxs] at h
    exact h
  · rw [hxs] at h
    exact hQ a s' h

theorem Sound.pre (hx : Sound P x Q E) (hP : ∀ s, P' s → P s) : Sound P' x Q E :=
  hx.imp hP fun _ _ h => h

theorem Sound.post (hx : Sound P x Q E) (hQ : ∀ a s, Q a s → Q' a s) : Sound P x Q' E :=
  hx.imp (fun _ h => h) hQ

/-- A weaker account of the errors. -/
theorem Sound.errors {E' : σ → Prop} (hx : Sound P x Q E) (hE : ∀ s, E s → E' s) :
    Sound P x Q E' := by
  intro s hs
  have h := hx s hs
  rcases hxs : x s with ⟨_ | a, s'⟩
  · rw [hxs] at h
    exact hE s' h
  · rw [hxs] at h
    exact h

theorem Sound.ite {c : Prop} [Decidable c] {y : Prog σ ε α} (hx : c → Sound P x Q E)
    (hy : ¬ c → Sound P y Q E) : Sound P (if c then x else y) Q E := by
  split
  · rename_i hc
    exact hx hc
  · rename_i hc
    exact hy hc

/-- What is known of the state beforehand may be used in the proof. -/
theorem Sound.given {p : Prop} (hp : ∀ s, P s → p) (hx : p → Sound P x Q E) : Sound P x Q E :=
  fun s hs => hx (hp s hs) s hs

/-- The state beforehand may be named. -/
theorem Sound.each (hx : ∀ s₀, P s₀ → Sound (fun s => s = s₀) x Q E) : Sound P x Q E :=
  fun s hs => hx s hs s rfl

theorem Sound.attempt {handled : ε → Bool} {Q : Except ε α → σ → Prop}
    (hx : Sound P x (fun a => Q (.ok a)) E) (hE : ∀ e s, E s → Q (.error e) s) :
    Sound P (Prog.attempt handled x) Q E := by
  intro s hs
  have h := hx s hs
  unfold Prog.attempt
  rcases hxs : x s with ⟨e | a, s'⟩
  · rw [hxs] at h
    by_cases hh : handled e = true
    · simp only [hh, if_true]
      exact hE e s' h
    · simp only [hh]
      exact h
  · rw [hxs] at h
    exact h

end Rules

end Prog

end Kargain
