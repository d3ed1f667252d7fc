/-
  Kargain.Base.Reserve — one balance backing many liabilities.

  A pooled balance `b` stands behind a family `owed : ι → ℕ` of
  liabilities indexed by an unbounded type, of which only finitely many
  are ever nonzero.  `Covers b owed x` says that the balance is enough
  for every finite set of liabilities on top of `x` units that are in
  flight: taken off the books and not yet paid out.

  A payout is then read as two moves, `park` (a liability becomes
  in-flight units) and `spend` (in-flight units leave the balance), or
  `park` and `book` (the units become another liability); the total is
  never computed.

  Nothing in this file names a contract.
-/
import Mathlib

namespace Kargain

open Finset Function

variable {ι : Type*}

/-- The balance `b` covers every finite set of liabilities and `x` units in flight. -/
def Covers (b : ℕ) (owed : ι → ℕ) (x : ℕ) : Prop :=
  ∀ S : Finset ι, ∑ i ∈ S, owed i + x ≤ b

namespace Covers

variable {b x : ℕ} {owed owed' : ι → ℕ}

theorem zero : Covers b (fun _ : ι => 0) 0 := by
  intro S
  simp

theorem mono (h : Covers b owed x) (hle : ∀ i, owed' i ≤ owed i) : Covers b owed' x := by
  intro S
  have hsum : ∑ i ∈ S, owed' i ≤ ∑ i ∈ S, owed i := sum_le_sum fun i _ => hle i
  have := h S
  omega

theorem congr (h : Covers b owed x) (heq : ∀ i, owed' i = owed i) : Covers b owed' x :=
  h.mono fun i => (heq i).le

/-- The balance may always be larger, and less may be in flight. -/
theorem weaken {b' x' : ℕ} (h : Covers b owed x) (hb : b ≤ b') (hx : x' ≤ x) :
    Covers b' owed x' := by
  intro S
  have := h S
  omega

/-- Value received is in flight until it is booked. -/
theorem deposit (h : Covers b owed x) (v : ℕ) : Covers (b + v) owed (x + v) := by
  intro S
  have := h S
  omega

/-- In-flight units leave the balance. -/
theorem spend {a : ℕ} (h : Covers b owed (x + a)) : Covers (b - a) owed x := by
  intro S
  have := h S
  omega

theorem inFlight_le (h : Covers b owed x) : x ≤ b := by
  have := h ∅
  simpa using this

section Update

variable [DecidableEq ι]

theorem sum_update (owed : ι → ℕ) (S : Finset ι) (i : ι) (v : ℕ) :
    ∑ j ∈ S, update owed i v j ≤ ∑ j ∈ S.erase i, owed j + v := by
  by_cases hi : i ∈ S
  · rw [← add_sum_erase S _ hi, update_self, add_comm]
    refine Nat.add_le_add_right (le_of_eq (sum_congr rfl fun j hj => ?_)) v
    exact update_of_ne (ne_of_mem_erase hj) v owed
  · rw [erase_eq_of_notMem hi]
    refine le_trans (le_of_eq (sum_congr rfl fun j hj => ?_)) (Nat.le_add_right _ v)
    exact update_of_ne (ne_of_mem_of_not_mem hj hi) v owed

/-- Move a liability, or a part of it, in flight. -/
theorem park {i : ι} {v : ℕ} (h : Covers b owed x) (hv : v ≤ owed i) :
    Covers b (update owed i v) (x + (owed i - v)) := by
  intro S
  have hsum := sum_update owed S i v
  have hins := h (insert i (S.erase i))
  rw [sum_insert (notMem_erase i S)] at hins
  omega

/-- Book in-flight units as a liability. -/
theorem book {i : ι} {a : ℕ} (h : Covers b owed (x + a)) :
    Covers b (update owed i (owed i + a)) x := by
  intro S
  by_cases hi : i ∈ S
  · have hsum := sum_update owed S i (owed i + a)
    have hS := h S
    rw [← add_sum_erase S _ hi] at hS
    omega
  · have hsame : ∑ j ∈ S, update owed i (owed i + a) j = ∑ j ∈ S, owed j :=
      sum_congr rfl fun j hj => update_of_ne (ne_of_mem_of_not_mem hj hi) (owed i + a) owed
    have hS := h S
    omega

end Update

/-- Only finitely many liabilities of a covered family are nonzero. -/
theorem support_finite (h : Covers b owed x) : (support owed).Finite := by
  by_contra hinf
  obtain ⟨S, hS, hcard⟩ := (Set.not_finite.mp hinf).exists_subset_card_eq (b + 1)
  have hone : ∑ _i ∈ S, 1 ≤ ∑ i ∈ S, owed i :=
    sum_le_sum fun i hi => Nat.one_le_iff_ne_zero.mpr (hS hi)
  have := h S
  rw [sum_const, smul_eq_mul, mul_one, hcard] at hone
  omega

/-- **A covered family sums to at most the balance.** -/
theorem finsum_le (h : Covers b owed x) : ∑ᶠ i, owed i + x ≤ b := by
  rw [finsum_eq_sum owed h.support_finite]
  exact h _

end Covers

end Kargain
