/-
  Kargain.Base.Indexed — an array and the map back to its positions.

  A set is kept as an array of its members, and a map sends each member
  to its position, counted from 1; everything else is sent to 0.  A new
  member is pushed, and a member is removed by moving the last one to its
  place.  `Inverse` says that the map is the inverse of the array; it is
  kept by both (`Inverse.push`, `Inverse.swapPop`).

  Nothing in this file names a contract.
-/
import Mathlib

namespace Kargain.Indexed

open Function (update)

variable {α : Type} [DecidableEq α]

/-- The map sends exactly the members to their positions. -/
def Inverse (items : List α) (index : α → ℕ) : Prop :=
  ∀ a i, index a = i + 1 ↔ items[i]? = some a

/-- The array after the member at `i` has been removed. -/
def swapPop (items : List α) (i : ℕ) (moved : α) : List α := (items.set i moved).dropLast

variable {items : List α} {index : α → ℕ}

omit [DecidableEq α] in
theorem Inverse.start : Inverse ([] : List α) fun _ => 0 := by
  intro a i
  simp

omit [DecidableEq α] in
theorem Inverse.index_eq_zero (h : Inverse items index) {a : α} : index a = 0 ↔ a ∉ items := by
  rw [List.mem_iff_getElem?]
  constructor
  · intro hzero ⟨i, hi⟩
    have hpos := (h a i).mpr hi
    omega
  · intro hout
    by_contra hne
    exact hout ⟨index a - 1, (h a (index a - 1)).mp (by omega)⟩

omit [DecidableEq α] in
theorem Inverse.nodup (h : Inverse items index) : items.Nodup := by
  rw [List.nodup_iff_injective_get]
  intro i j hij
  have hi := (h (items.get i) i).mpr (by simp)
  have hj := (h (items.get j) j).mpr (by simp)
  rw [hij] at hi
  exact Fin.ext (by omega)

/-- A member is sent to the place where it stands. -/
theorem Inverse.index_eq (h : Inverse items index) (a : α) :
    index a = if a ∈ items then items.idxOf a + 1 else 0 := by
  split
  · next hin =>
    have hlt := List.idxOf_lt_length_of_mem hin
    refine (h a _).mpr ?_
    rw [List.getElem?_eq_getElem hlt, List.getElem_idxOf hlt]
  · next hout => exact h.index_eq_zero.mpr hout

/-- **Pushing** a new member. -/
theorem Inverse.push (h : Inverse items index) {a : α} (ha : index a = 0) :
    Inverse (items ++ [a]) (update index a (items.length + 1)) := by
  intro b i
  by_cases hb : b = a
  · subst hb
    rw [Function.update_self]
    constructor
    · intro heq
      have hi : i = items.length := by omega
      simp [hi]
    · intro hat
      rcases Nat.lt_or_ge i items.length with hlt | hge
      · rw [List.getElem?_append_left hlt] at hat
        have hpos := (h b i).mpr hat
        omega
      · have hlen : i < (items ++ [b]).length := (List.getElem?_eq_some_iff.mp hat).1
        simp only [List.length_append, List.length_singleton] at hlen
        omega
  · rw [Function.update_of_ne hb, h b i]
    rcases Nat.lt_trichotomy i items.length with hlt | heq | hgt
    · rw [List.getElem?_append_left hlt]
    · subst heq
      simp [Ne.symm hb]
    · rw [List.getElem?_eq_none (by omega), List.getElem?_eq_none (by simp; omega)]

omit [DecidableEq α] in
theorem getElem?_swapPop {items : List α} {i j : ℕ} {moved : α} : (swapPop items i moved)[j]? =
    if j < items.length - 1 then if i = j then some moved else items[j]? else none := by
  unfold swapPop
  rw [List.getElem?_dropLast, List.length_set]
  split
  · next hlt =>
    rw [List.getElem?_set]
    split
    · rw [if_pos (by omega)]
    · rfl
  · rfl

/-- **Removing** a member: the last one takes its place, and both are booked. -/
theorem Inverse.swapPop (h : Inverse items index) {a moved : α} {i : ℕ} (ha : index a = i + 1)
    (hmoved : items[items.length - 1]? = some moved) :
    Inverse (swapPop items i moved) (update (update index moved (i + 1)) a 0) := by
  have hat := (h a i).mp ha
  have hlt : i < items.length := (List.getElem?_eq_some_iff.mp hat).1
  have hlast := (h moved _).mpr hmoved
  intro b j
  rw [getElem?_swapPop]
  by_cases hb : b = a
  · -- the removed member is nowhere
    subst hb
    rw [Function.update_self]
    refine ⟨fun heq => by omega, fun hin => ?_⟩
    split at hin
    · next hj =>
      split at hin
      · next hij =>
        have heq : moved = b := Option.some.inj hin
        subst heq
        omega
      · next hij =>
        have hpos := (h b j).mpr hin
        omega
    · cases hin
  · rw [Function.update_of_ne hb]
    by_cases hm : b = moved
    · subst hm
      rw [Function.update_self]
      have hne : i ≠ items.length - 1 := by
        intro heq
        rw [heq, hmoved] at hat
        exact hb (Option.some.inj hat)
      constructor
      · intro heq
        have hij : i = j := by omega
        rw [if_pos (by omega), if_pos hij]
      · intro hin
        split at hin
        · split at hin
          · omega
          · have hpos := (h b j).mpr hin
            omega
        · cases hin
    · rw [Function.update_of_ne hm, h b j]
      split
      · next hj =>
        split
        · next hij =>
          subst hij
          rw [hat]
          simp [Ne.symm hb, Ne.symm hm]
        · rfl
      · next hj =>
        -- past the end, or the place of the last member
        refine ⟨fun hin => ?_, fun hin => by cases hin⟩
        have hend : j = items.length - 1 := by
          have := (List.getElem?_eq_some_iff.mp hin).1
          omega
        rw [hend, hmoved] at hin
        exact absurd (Option.some.inj hin).symm hm

end Kargain.Indexed
