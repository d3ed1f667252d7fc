/-
  Kargain.Base.Shares — shares of an amount, rounded down.

  A share is counted in parts of a denominator.  What is left after one
  share grows with the amount; two shares that fit in the denominator fit
  in the amount.
-/
import Mathlib

namespace Kargain

/-- `parts` parts in `denom` of `n`, rounded down. -/
def share (denom n parts : ℕ) : ℕ := n * parts / denom

variable {denom n m parts parts' : ℕ}

theorem share_le (h : parts ≤ denom) : share denom n parts ≤ n :=
  Nat.div_le_of_le_mul (by rw [Nat.mul_comm]; exact Nat.mul_le_mul_right n h)

theorem share_mono (h : n ≤ m) : share denom n parts ≤ share denom m parts :=
  Nat.div_le_div_right (Nat.mul_le_mul_right parts h)

theorem share_mono_parts (h : parts ≤ parts') : share denom n parts ≤ share denom n parts' :=
  Nat.div_le_div_right (Nat.mul_le_mul_left n h)

/-- What is left after a share grows with the amount. -/
theorem rest_mono (hparts : parts ≤ denom) (h : n ≤ m) :
    n - share denom n parts ≤ m - share denom m parts := by
  obtain ⟨k, rfl⟩ := Nat.exists_eq_add_of_le h
  rcases Nat.eq_zero_or_pos denom with hz | hpos
  · simp only [share, hz, Nat.div_zero]
    omega
  · have hk : share denom (n + k) parts ≤ share denom n parts + k := by
      unfold share
      rw [Nat.div_le_iff_le_mul_add_pred hpos, Nat.mul_add]
      have hsplit : (n + k) * parts = n * parts + k * parts := by ring
      have hmod : n * parts ≤ denom * (n * parts / denom) + (denom - 1) := by
        have hdiv := Nat.div_add_mod (n * parts) denom
        have hlt := Nat.mod_lt (n * parts) hpos
        omega
      have hk : k * parts ≤ denom * k := by
        rw [Nat.mul_comm denom k]
        exact Nat.mul_le_mul_left k hparts
      omega
    have hle : share denom n parts ≤ n := share_le hparts
    omega

/-- Two shares that fit in the denominator fit in the amount. -/
theorem shares_le (h : parts + parts' ≤ denom) :
    share denom n parts + share denom n parts' ≤ n := by
  have hsum : share denom n parts + share denom n parts' ≤ share denom n (parts + parts') := by
    unfold share
    rw [Nat.mul_add]
    exact Nat.div_add_div_le_add_div
  exact hsum.trans (share_le h)

end Kargain
