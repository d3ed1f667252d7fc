/-
  Kargain.Base.Separated — lists cut at a doubled separator.

  `splitPair x` cuts a list at every two adjacent `x`, from the left, as
  cutting a text at `::` does.  Where an `x` never follows an `x`
  nothing is cut (`splitPair_single`), and a first pair cuts what stands
  before it off (`splitPair_append`).  Parts without `x`, none of them
  empty, stay single when joined by `x` (`single_joined`).
-/
import Mathlib

namespace Kargain.Separated

variable {α : Type} (x : α)

def splitPair [DecidableEq α] : List α → List (List α)
  | [] => [[]]
  | [a] => [[a]]
  | a :: b :: rest =>
    if a = x ∧ b = x then [] :: splitPair rest else (splitPair (b :: rest)).modifyHead (a :: ·)

/-- No `x` follows an `x`. -/
def Single (xs : List α) : Prop := xs.IsChain fun a b => ¬ (a = x ∧ b = x)

/-- Parts, joined by `x`. -/
def joined (parts : List (List α)) : List α := [x].intercalate parts

variable {x}

theorem splitPair_single [DecidableEq α] {xs : List α} (h : Single x xs) : splitPair x xs = [xs] := by
  induction xs with
  | nil => rfl
  | cons a xs ih =>
    cases xs with
    | nil => rfl
    | cons b rest =>
      unfold Single at h
      rw [List.isChain_cons_cons] at h
      unfold splitPair
      rw [if_neg h.1, ih h.2]
      rfl

/-- The first pair. -/
theorem splitPair_append [DecidableEq α] {xs ys : List α} (h : Single x (xs ++ [x])) :
    splitPair x (xs ++ x :: x :: ys) = xs :: splitPair x ys := by
  induction xs with
  | nil =>
    show splitPair x (x :: x :: ys) = _
    rw [splitPair, if_pos ⟨rfl, rfl⟩]
  | cons a xs ih =>
    cases xs with
    | nil =>
      unfold Single at h
      rw [List.cons_append, List.nil_append, List.isChain_cons_cons] at h
      show splitPair x (a :: x :: x :: ys) = _
      rw [splitPair, if_neg h.1]
      have hrest : splitPair x (x :: x :: ys) = [] :: splitPair x ys := ih (List.isChain_singleton _)
      rw [hrest]
      rfl
    | cons b rest =>
      unfold Single at h
      rw [List.cons_append, List.cons_append, List.isChain_cons_cons] at h
      show splitPair x (a :: b :: (rest ++ x :: x :: ys)) = _
      rw [splitPair, if_neg h.1]
      have hrest : splitPair x (b :: (rest ++ x :: x :: ys)) = (b :: rest) :: splitPair x ys := ih h.2
      rw [hrest]
      rfl

theorem single_of_not_mem {xs : List α} (h : x ∉ xs) : Single x xs := by
  unfold Single
  induction xs with
  | nil => exact List.isChain_nil
  | cons a xs ih =>
    rw [List.mem_cons, not_or] at h
    cases xs with
    | nil => exact List.isChain_singleton _
    | cons b rest => exact List.isChain_cons_cons.mpr ⟨fun hab => h.1 hab.1.symm, ih h.2⟩

/-- Parts that are not empty keep the separators apart. -/
theorem single_joined {parts : List (List α)} (h : ∀ p ∈ parts, p ≠ [] ∧ x ∉ p) (hne : parts ≠ []) :
    Single x (joined x parts ++ [x]) := by
  unfold joined Single
  induction parts with
  | nil => exact absurd rfl hne
  | cons p parts ih =>
    have hp := h p (by simp)
    have hlast : ∀ a ∈ p.getLast?, ∀ b ∈ (x :: []).head?, ¬ (a = x ∧ b = x) := by
      intro a ha b _ hab
      exact hp.2 (hab.1 ▸ List.mem_of_getLast? ha)
    cases parts with
    | nil =>
      rw [List.intercalate_singleton]
      exact List.isChain_append.mpr ⟨single_of_not_mem hp.2, List.isChain_singleton _, hlast⟩
    | cons q parts =>
      have hrest := ih (fun r hr => h r (List.mem_cons_of_mem _ hr)) (by simp)
      rw [List.intercalate_cons_cons, List.append_assoc, List.append_assoc]
      refine List.isChain_append.mpr ⟨single_of_not_mem hp.2, ?_, hlast⟩
      -- What follows the separator begins with a part, which is not empty.
      have hq := h q (by simp)
      obtain ⟨c, cs, hc⟩ := List.exists_cons_of_ne_nil hq.1
      cases hw : [x].intercalate (q :: parts) ++ [x] with
      | nil => simp at hw
      | cons d ds =>
        rw [hw] at hrest
        refine List.isChain_cons_cons.mpr ⟨fun hxd => ?_, hrest⟩
        have hd : d = c := by
          cases parts with
          | nil =>
            rw [List.intercalate_singleton, hc, List.cons_append] at hw
            exact (List.cons.inj hw).1.symm
          | cons r parts =>
            rw [List.intercalate_cons_cons, hc] at hw
            exact (List.cons.inj hw).1.symm
        exact hq.2 (by rw [hc, ← hd, hxd.2]; simp)

theorem mem_joined {parts : List (List α)} {c : α} (h : c ∈ joined x parts) :
    c = x ∨ ∃ part ∈ parts, c ∈ part := by
  unfold joined at h
  induction parts with
  | nil => simp at h
  | cons p parts ih =>
    cases parts with
    | nil =>
      rw [List.intercalate_singleton] at h
      exact Or.inr ⟨p, by simp, h⟩
    | cons q parts =>
      rw [List.intercalate_cons_cons, List.append_assoc] at h
      rcases List.mem_append.mp h with h | h
      · exact Or.inr ⟨p, by simp, h⟩
      · rcases List.mem_append.mp h with h | h
        · exact Or.inl (List.mem_singleton.mp h)
        · rcases ih h with h | ⟨part, hpart, hc⟩
          · exact Or.inl h
          · exact Or.inr ⟨part, List.mem_cons_of_mem _ hpart, hc⟩

theorem single_of_append {xs ys : List α} (h : Single x (xs ++ ys)) : Single x xs :=
  (List.isChain_append.mp h).1

end Kargain.Separated
