/-
  Kargain.Evm.EncumbranceRegistry — the encumbrance sources of KarPassport.sol.

  `may` asks every source of an array; beside it a map sends a source to
  its position in the array, counted from 1, and everything else to 0.
  `addEncumbranceSource` pushes, `removeEncumbranceSource` moves the last
  source to the place of the one that goes and pops.

  Main result: `registry_sound`.  After any calls, accepted or reverted,
  the array has no duplicates and no more than the most sources allowed,
  the map is its inverse, and the sources are those that were added and
  not removed since.
-/
import Kargain.Base.Indexed
import Kargain.Evm.Types

namespace Kargain.Evm.EncumbranceRegistry

open Kargain.Indexed
open Function (update)

/-! ## §1. The contract. -/

inductive Event where
  | encumbranceSourceAdded (source : Address)
  | encumbranceSourceRemoved (source : Address)
  deriving Repr, DecidableEq

inductive RegistryError where
  | ownableUnauthorizedAccount (account : Address)
  | zeroAddress
  | tooManyEncumbranceSources
  | sourceAlreadyRegistered
  | sourceNotRegistered
  /-- a subtraction below zero, or an index past the end of the array -/
  | panicked
  deriving Repr, DecidableEq

/-- `log` has the events, the last one at the end. -/
structure Storage where
  owner : Address
  encumbranceSources : List Address
  encumbranceSourceIndex : Address → ℕ
  log : List Event

def maxEncumbranceSources : ℕ := 8

def onlyOwner (s : Storage) (sender : Address) : Except RegistryError Unit :=
  revertIf (sender ≠ s.owner) (.ownableUnauthorizedAccount sender)

def addEncumbranceSource (s : Storage) (sender source : Address) : Except RegistryError Storage := do
  onlyOwner s sender
  revertIf (source = .zero) .zeroAddress
  revertIf (maxEncumbranceSources ≤ s.encumbranceSources.length) .tooManyEncumbranceSources
  revertIf (s.encumbranceSourceIndex source ≠ 0) .sourceAlreadyRegistered
  let sources := s.encumbranceSources ++ [source]
  pure { s with
    encumbranceSources := sources
    encumbranceSourceIndex := update s.encumbranceSourceIndex source sources.length
    log := s.log ++ [.encumbranceSourceAdded source] }

/-- The source at the place `index0` is replaced by the last one, if it is another. -/
def moveLast (s : Storage) (index1 index0 last : ℕ) : Except RegistryError Storage :=
  if index0 ≠ last then do
    let moved ← orRevert s.encumbranceSources[last]? .panicked
    revertIf (s.encumbranceSources.length ≤ index0) .panicked
    pure { s with
      encumbranceSources := s.encumbranceSources.set index0 moved
      encumbranceSourceIndex := update s.encumbranceSourceIndex moved index1 }
  else pure s

def removeEncumbranceSource (s : Storage) (sender source : Address) :
    Except RegistryError Storage := do
  onlyOwner s sender
  let index1 := s.encumbranceSourceIndex source
  revertIf (index1 = 0) .sourceNotRegistered
  revertIf (s.encumbranceSources.length = 0) .panicked
  let s ← moveLast s index1 (index1 - 1) (s.encumbranceSources.length - 1)
  pure { s with
    encumbranceSources := s.encumbranceSources.dropLast
    encumbranceSourceIndex := update s.encumbranceSourceIndex source 0
    log := s.log ++ [.encumbranceSourceRemoved source] }

inductive Call where
  | add (sender source : Address)
  | remove (sender source : Address)
  deriving Repr, DecidableEq

def Call.exec (s : Storage) : Call → Except RegistryError Storage
  | add sender source => addEncumbranceSource s sender source
  | remove sender source => removeEncumbranceSource s sender source

/-- The storage after a call; one that reverts leaves it as it was. -/
def step (s : Storage) (c : Call) : Storage := caught s (c.exec s)

def deployed (owner : Address) : Storage where
  owner := owner
  encumbranceSources := []
  encumbranceSourceIndex := fun _ => 0
  log := []

/-- The source was added, and not removed since. -/
def Standing (log : List Event) (source : Address) : Prop :=
  ∃ before after, log = before ++ .encumbranceSourceAdded source :: after ∧
    .encumbranceSourceRemoved source ∉ after

theorem standing_added {log : List Event} {a b : Address} :
    Standing (log ++ [.encumbranceSourceAdded a]) b ↔ b = a ∨ Standing log b := by
  constructor
  · intro ⟨before, after, heq, hnot⟩
    rcases List.eq_nil_or_concat after with rfl | ⟨rest, e, rfl⟩
    · have hlast := (List.append_inj' heq rfl).2
      injection hlast with hlast
      injection hlast with hlast
      exact .inl hlast.symm
    · rw [List.concat_eq_append, ← List.cons_append, ← List.append_assoc] at heq
      obtain ⟨hlog, _⟩ := List.append_inj' heq rfl
      exact .inr ⟨before, rest, hlog, fun hin => hnot (by simp [hin])⟩
  · rintro (rfl | ⟨before, after, rfl, hnot⟩)
    · exact ⟨log, [], rfl, by simp⟩
    · exact ⟨before, after ++ [.encumbranceSourceAdded a], by simp, by simp [hnot]⟩

theorem standing_removed {log : List Event} {a b : Address} :
    Standing (log ++ [.encumbranceSourceRemoved a]) b ↔ b ≠ a ∧ Standing log b := by
  constructor
  · intro ⟨before, after, heq, hnot⟩
    rcases List.eq_nil_or_concat after with rfl | ⟨rest, e, rfl⟩
    · have hlast := (List.append_inj' heq rfl).2
      cases hlast
    · rw [List.concat_eq_append, ← List.cons_append, ← List.append_assoc] at heq
      obtain ⟨hlog, he⟩ := List.append_inj' heq rfl
      injection he with he
      refine ⟨?_, before, rest, hlog, fun hin => hnot (by simp [hin])⟩
      rintro rfl
      exact hnot (by simp [← he])
  · rintro ⟨hne, before, after, rfl, hnot⟩
    refine ⟨before, after ++ [.encumbranceSourceRemoved a], by simp, ?_⟩
    simp [hnot, hne]

/-! ## §3. The invariant. -/

structure Sound (s : Storage) : Prop where
  inverse : Inverse s.encumbranceSources s.encumbranceSourceIndex
  bounded : s.encumbranceSources.length ≤ maxEncumbranceSources
  standing : ∀ a, a ∈ s.encumbranceSources ↔ Standing s.log a

theorem add_ok {s s' : Storage} {sender source : Address}
    (h : addEncumbranceSource s sender source = .ok s') :
    s.encumbranceSources.length < maxEncumbranceSources ∧ s.encumbranceSourceIndex source = 0 ∧
      s' = { s with
        encumbranceSources := s.encumbranceSources ++ [source]
        encumbranceSourceIndex :=
          update s.encumbranceSourceIndex source (s.encumbranceSources.length + 1)
        log := s.log ++ [.encumbranceSourceAdded source] } := by
  simp only [addEncumbranceSource, onlyOwner, bind_ok, revertIf_ok, pure_ok, exists_const,
    List.length_append, List.length_singleton] at h
  obtain ⟨_, _, hlen, hindex, rfl⟩ := h
  exact ⟨by omega, not_not.mp hindex, rfl⟩

/-- A removal leaves the array without the source, the last one in its place. -/
theorem remove_ok {s s' : Storage} (hs : Inverse s.encumbranceSources s.encumbranceSourceIndex)
    {sender source : Address} (h : removeEncumbranceSource s sender source = .ok s') :
    ∃ i moved, s.encumbranceSourceIndex source = i + 1 ∧
      s.encumbranceSources[s.encumbranceSources.length - 1]? = some moved ∧
      s' = { s with
        encumbranceSources := swapPop s.encumbranceSources i moved
        encumbranceSourceIndex := update (update s.encumbranceSourceIndex moved (i + 1)) source 0
        log := s.log ++ [.encumbranceSourceRemoved source] } := by
  simp only [removeEncumbranceSource, onlyOwner, bind_ok, revertIf_ok, pure_ok, exists_const] at h
  obtain ⟨_, hindex, _, t, hmove, rfl⟩ := h
  have hsome : s.encumbranceSourceIndex source = s.encumbranceSourceIndex source - 1 + 1 := by omega
  have hat := (hs _ _).mp hsome
  have hlt := (List.getElem?_eq_some_iff.mp hat).1
  unfold moveLast at hmove
  split at hmove
  · next hne =>
    simp only [bind_ok, revertIf_ok, pure_ok, exists_const] at hmove
    obtain ⟨moved, hlast, _, rfl⟩ := hmove
    have hlast' : s.encumbranceSources[s.encumbranceSources.length - 1]? = some moved := by
      unfold orRevert at hlast
      split at hlast
      · next heq =>
        cases hlast
        exact heq
      · cases hlast
    refine ⟨_, moved, hsome, hlast', ?_⟩
    rw [← hsome]
    rfl
  · next heq =>
    -- the source is the last one: nothing is moved
    have hend : s.encumbranceSourceIndex source - 1 = s.encumbranceSources.length - 1 :=
      not_not.mp heq
    rw [hend] at hat
    rw [pure_ok] at hmove
    subst hmove
    refine ⟨_, source, hsome, hat, ?_⟩
    have hset : s.encumbranceSources.set (s.encumbranceSourceIndex source - 1) source =
        s.encumbranceSources := by
      rw [hend]
      refine List.ext_getElem? fun j => ?_
      rw [List.getElem?_set]
      split
      · next hj =>
        subst hj
        rw [if_pos (List.getElem?_eq_some_iff.mp hat).1, hat]
      · rfl
    rw [swapPop, hset, ← hsome, Function.update_idem]

theorem mem_swapPop {s : Storage} (hs : Inverse s.encumbranceSources s.encumbranceSourceIndex)
    {source moved : Address} {i : ℕ} (hindex : s.encumbranceSourceIndex source = i + 1)
    (hlast : s.encumbranceSources[s.encumbranceSources.length - 1]? = some moved) (a : Address) :
    a ∈ swapPop s.encumbranceSources i moved ↔ a ≠ source ∧ a ∈ s.encumbranceSources := by
  have hnext := hs.swapPop hindex hlast
  have hzero := hnext.index_eq_zero (a := a)
  have hold := hs.index_eq_zero (a := a)
  by_cases ha : a = source
  · subst ha
    rw [Function.update_self] at hzero
    simpa using hzero
  · rw [Function.update_of_ne ha] at hzero
    by_cases hm : a = moved
    · subst hm
      rw [Function.update_self] at hzero
      have hin : a ∈ s.encumbranceSources := List.mem_of_getElem? hlast
      simp only [ha, hin, ne_eq, not_false_eq_true, and_self, iff_true]
      by_contra hout
      exact absurd (hzero.mpr hout) (by omega)
    · rw [Function.update_of_ne hm] at hzero
      simp only [ne_eq, ha, not_false_eq_true, true_and]
      exact not_iff_not.mp (hzero.symm.trans hold)

/-- **A call keeps the invariant.** -/
theorem Sound.step {s : Storage} (h : Sound s) (c : Call) : Sound (step s c) := by
  unfold EncumbranceRegistry.step caught
  split
  · next s' hexec =>
    cases c with
    | add sender source =>
      obtain ⟨hlen, hindex, rfl⟩ := add_ok hexec
      refine ⟨h.inverse.push hindex, ?_, fun a => ?_⟩
      · simp only [List.length_append, List.length_singleton]
        omega
      · show a ∈ s.encumbranceSources ++ [source] ↔ Standing (s.log ++ [_]) a
        rw [standing_added, ← h.standing a, List.mem_append, List.mem_singleton, or_comm]
    | remove sender source =>
      obtain ⟨i, moved, hindex, hlast, rfl⟩ := remove_ok h.inverse hexec
      refine ⟨h.inverse.swapPop hindex hlast, ?_, fun a => ?_⟩
      · show (swapPop s.encumbranceSources i moved).length ≤ _
        have hbound := h.bounded
        simp only [swapPop, List.length_dropLast, List.length_set]
        omega
      · show a ∈ swapPop s.encumbranceSources i moved ↔ Standing (s.log ++ [_]) a
        rw [standing_removed, mem_swapPop h.inverse hindex hlast a, h.standing a]
  · exact h

end Kargain.Evm.EncumbranceRegistry
