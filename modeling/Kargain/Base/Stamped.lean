/-
  Kargain.Base.Stamped — the newest of what arrived.

  Values carry a stamp.  One that arrives takes the place of the one that
  is kept if its stamp is greater, so of equally new values the first
  stays (`arrive`).  The value kept is newest (`newest_arrive`); where one
  starts matters only if nothing newer arrives (`arrive_start`).

  In a list sorted by falling stamps the first value of a kind is newest
  of its kind (`newest_find`), and any newest value of the kind can be the
  one that is found (`find_sorted`).
-/
import Mathlib

namespace Kargain.Stamped

variable {α : Type} (stamp : α → ℤ)

/-- None of the list is newer, and the value is of the list. -/
def Newest (xs : List α) (x : α) : Prop := x ∈ xs ∧ ∀ y ∈ xs, stamp y ≤ stamp x

def arrive (kept : Option α) (x : α) : Option α :=
  match kept with
  | none => some x
  | some y => if stamp y < stamp x then some x else some y

def arrived (kept : Option α) (xs : List α) : Option α := xs.foldl (arrive stamp) kept

variable {stamp}

theorem arrived_append {kept : Option α} {xs : List α} {x : α} :
    arrived stamp kept (xs ++ [x]) = arrive stamp (arrived stamp kept xs) x := by
  unfold arrived
  rw [List.foldl_append]
  rfl

theorem arrived_eq_none {xs : List α} : arrived stamp none xs = none ↔ xs = [] := by
  induction xs using List.reverseRecOn with
  | nil => simp [arrived]
  | append_singleton xs x ih =>
    rw [arrived_append]
    unfold arrive
    split
    · simp
    · split <;> simp

/-- **What is kept is newest.** -/
theorem newest_arrived {xs : List α} {x : α} (h : arrived stamp none xs = some x) :
    Newest stamp xs x := by
  induction xs using List.reverseRecOn generalizing x with
  | nil => cases h
  | append_singleton xs z ih =>
    rw [arrived_append] at h
    cases hk : arrived stamp none xs with
    | none =>
      rw [hk] at h
      have hx : z = x := Option.some.inj h
      subst hx
      rw [arrived_eq_none.mp hk]
      exact ⟨by simp, by simp⟩
    | some y =>
      obtain ⟨hy, hall⟩ := ih hk
      rw [hk] at h
      unfold arrive at h
      simp only at h
      split at h
      · next hlt =>
        have hx : z = x := Option.some.inj h
        subst hx
        refine ⟨by simp, fun w hw => ?_⟩
        rcases List.mem_append.mp hw with hw | hw
        · exact (hall w hw).trans hlt.le
        · rw [List.mem_singleton.mp hw]
      · next hge =>
        have hx : y = x := Option.some.inj h
        subst hx
        refine ⟨List.mem_append_left _ hy, fun w hw => ?_⟩
        rcases List.mem_append.mp hw with hw | hw
        · exact hall w hw
        · rw [List.mem_singleton.mp hw]
          omega

/-- A newest value that arrives first is kept. -/
theorem arrived_first {xs : List α} {x : α} (h : ∀ y ∈ xs, stamp y ≤ stamp x) :
    arrived stamp none (x :: xs) = some x := by
  show arrived stamp (some x) xs = some x
  induction xs with
  | nil => rfl
  | cons y xs ih =>
    have hy := h y (by simp)
    show arrived stamp (if stamp x < stamp y then some y else some x) xs = some x
    rw [if_neg (by omega)]
    exact ih fun z hz => h z (by simp [hz])

/-- **Where one starts** matters only if nothing newer arrives. -/
theorem arrived_start {y : α} {xs : List α} : arrived stamp (some y) xs =
    match arrived stamp none xs with
    | none => some y
    | some x => if stamp y < stamp x then some x else some y := by
  induction xs using List.reverseRecOn with
  | nil => rfl
  | append_singleton xs z ih =>
    rw [arrived_append, arrived_append, ih]
    cases arrived stamp none xs with
    | none => rfl
    | some x =>
      by_cases hxy : stamp y < stamp x <;> by_cases hxz : stamp x < stamp z <;>
        by_cases hyz : stamp y < stamp z <;> simp [arrive, hxy, hxz, hyz] <;> omega

/-! ## Sorted by falling stamps. -/

variable (stamp) in
/-- Newest first; the sort is stable. -/
def sorted (xs : List α) : List α := xs.insertionSort fun x y => stamp y ≤ stamp x

theorem sorted_perm (xs : List α) : (sorted stamp xs).Perm xs := List.perm_insertionSort _ _

theorem sorted_pairwise (xs : List α) :
    (sorted stamp xs).Pairwise fun x y => stamp y ≤ stamp x := by
  have htotal : Std.Total fun x y : α => stamp y ≤ stamp x := ⟨fun x y => le_total (stamp y) (stamp x)⟩
  have htrans : IsTrans α fun x y => stamp y ≤ stamp x := ⟨fun _ _ _ h h' => h'.trans h⟩
  exact List.pairwise_insertionSort _ xs

/-- **The first of a kind** is the newest of its kind. -/
theorem newest_find {xs : List α} {kind : α → Bool} {x : α}
    (hs : xs.Pairwise fun x y => stamp y ≤ stamp x) (h : xs.find? kind = some x) :
    kind x = true ∧ x ∈ xs ∧ ∀ y ∈ xs, kind y = true → stamp y ≤ stamp x := by
  induction xs with
  | nil => cases h
  | cons z xs ih =>
    rw [List.pairwise_cons] at hs
    rw [List.find?_cons] at h
    split at h
    · next hz =>
      have hx : z = x := Option.some.inj h
      subst hx
      refine ⟨hz, by simp, fun y hy _ => ?_⟩
      rcases List.mem_cons.mp hy with rfl | hy
      · exact le_rfl
      · exact hs.1 y hy
    · next hz =>
      obtain ⟨hkind, hin, hall⟩ := ih hs.2 h
      refine ⟨hkind, by simp [hin], fun y hy hky => ?_⟩
      rcases List.mem_cons.mp hy with rfl | hy
      · exact absurd hky (by simp [hz])
      · exact hall y hy hky

/-- A newest value of a kind that stands first is the one that is found. -/
theorem find_sorted {xs : List α} {kind : α → Bool} {x : α} (hx : kind x = true)
    (h : ∀ y ∈ xs, kind y = true → stamp y ≤ stamp x) :
    (sorted stamp (x :: xs)).find? kind = some x := by
  unfold sorted
  rw [List.insertionSort_cons_eq_take_drop, List.find?_append]
  have hbefore : (((xs.insertionSort fun x y => stamp y ≤ stamp x).takeWhile
      fun b => ¬ stamp b ≤ stamp x).find? kind) = none := by
    rw [List.find?_eq_none]
    intro y hy hky
    have hlt : ¬ stamp y ≤ stamp x := by simpa using List.mem_takeWhile_imp hy
    have hin : y ∈ xs := (List.perm_insertionSort _ xs).mem_iff.mp (List.takeWhile_subset _ hy)
    exact hlt (h y hin hky)
  rw [hbefore]
  simp [hx]

end Kargain.Stamped
