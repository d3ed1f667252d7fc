/-
  Kargain.Base.Tally — a counter that follows a sum.

  `Tallies f n` says that `n` is the sum of a family `f` of which only
  finitely many members are nonzero, over an index type of any size.  It
  is kept when one member is rewritten and the counter is corrected by
  the difference.

  Nothing in this file names a contract.
-/
import Mathlib

namespace Kargain

open Finset Function

variable {ι : Type*}

def Tallies (f : ι → ℕ) (n : ℕ) : Prop :=
  ∃ S : Finset ι, (∀ i, i ∉ S → f i = 0) ∧ ∑ i ∈ S, f i = n

namespace Tallies

variable {f : ι → ℕ} {n : ℕ}

theorem zero : Tallies (fun _ : ι => 0) 0 := ⟨∅, fun _ _ => rfl, rfl⟩

theorem support_finite (h : Tallies f n) : (support f).Finite := by
  obtain ⟨S, hS, -⟩ := h
  refine S.finite_toSet.subset fun i hi => ?_
  by_contra hn
  exact hi (hS i hn)

theorem le (h : Tallies f n) (i : ι) : f i ≤ n := by
  obtain ⟨S, hS, hsum⟩ := h
  by_cases hi : i ∈ S
  · rw [← hsum]
    exact single_le_sum (fun _ _ => Nat.zero_le _) hi
  · rw [hS i hi]
    exact Nat.zero_le n

variable [DecidableEq ι]

/-- Rewriting one member. -/
theorem update (h : Tallies f n) (i : ι) (v : ℕ) :
    Tallies (Function.update f i v) (n - f i + v) := by
  obtain ⟨S, hS, hsum⟩ := h
  refine ⟨insert i S, fun j hj => ?_, ?_⟩
  · have hji : j ≠ i := fun e => hj (e ▸ mem_insert_self i S)
    rw [update_of_ne hji]
    exact hS j fun hm => hj (mem_insert_of_mem hm)
  · have hrest : ∑ j ∈ S.erase i, Function.update f i v j = ∑ j ∈ S.erase i, f j :=
      sum_congr rfl fun j hj => update_of_ne (ne_of_mem_erase hj) v f
    have hwhole : ∑ j ∈ S.erase i, f j + f i = n := by
      by_cases hi : i ∈ S
      · rw [← hsum, ← add_sum_erase S f hi, add_comm]
      · rw [erase_eq_of_notMem hi, hS i hi, hsum, Nat.add_zero]
    have hins : insert i S = insert i (S.erase i) := by
      ext j
      by_cases hj : j = i <;> simp [hj]
    rw [hins, sum_insert (notMem_erase i S), update_self, hrest]
    omega

end Tallies

end Kargain
