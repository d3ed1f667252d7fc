/-
  Kargain.Base.Countdown — a countdown that can be frozen.

  A countdown runs towards a deadline; frozen, it keeps the time that was
  left, and thawed it runs again towards a deadline that far away.
  `Conserved` counts the time it has run: together with what is left this
  is always the window it was started with, over any number of freezes.

  Nothing in this file names a contract.
-/
import Mathlib

namespace Kargain

inductive Countdown where
  | off
  | running (deadline : ℕ)
  | frozen (remaining : ℕ)
  deriving DecidableEq

namespace Countdown

/-- The time left at `now`; negative once the deadline has passed. -/
def left (now : ℕ) : Countdown → ℤ
  | off => 0
  | running deadline => (deadline : ℤ) - now
  | frozen remaining => remaining

def isRunning : Countdown → Bool
  | running _ => true
  | _ => false

/-- After running for `n` of a window. -/
def Conserved (window now n : ℕ) : Countdown → Prop
  | off => True
  | running deadline => n + deadline = now + window
  | frozen remaining => 0 < remaining ∧ n + remaining = window

variable {window now n d r : ℕ} {c : Countdown}

theorem Conserved.start : Conserved window now 0 (running (now + window)) := Nat.zero_add _

theorem Conserved.freeze (h : Conserved window now n (running d)) (hd : now < d) :
    Conserved window now n (frozen (d - now)) := by
  simp only [Conserved] at h ⊢
  omega

theorem Conserved.thaw (h : Conserved window now n (frozen r)) :
    Conserved window now n (running (now + r)) := by
  simp only [Conserved] at h ⊢
  omega

/-- Time passes for a running countdown only. -/
theorem Conserved.tick (h : Conserved window now n c) (dt : ℕ) :
    Conserved window (now + dt) (if c.isRunning then n + dt else n) c := by
  cases c with
  | off => trivial
  | running deadline =>
    simp only [Conserved] at h
    simp only [isRunning, Conserved, if_true]
    omega
  | frozen remaining => exact h

/-- A countdown is due exactly when its whole window has run. -/
theorem Conserved.due (h : Conserved window now n (running d)) : d ≤ now ↔ window ≤ n := by
  simp only [Conserved] at h
  omega

end Countdown

end Kargain
