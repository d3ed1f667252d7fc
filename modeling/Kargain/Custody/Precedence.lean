/-
  Kargain.Custody.Precedence — what the custody fold knows of the order of its rows.

  Of two rows one is known to be the earlier when a single writer wrote both,
  or when they are the two legs of a crossing (`Precedes`).  The graph that
  the fold sorts has this order and nothing else (`reach_iff`).

  Main results: `fold_conflicting_iff`, the fold gives up with a conflict
  exactly when the known order goes in a circle; `topologicalApply_resolved`,
  a row that is known to come after every other one that sets a place decides;
  and `topologicalApply_last`, the row that decided leads to no other one.
-/
import Kargain.Custody.Fold

namespace Kargain.Custody

open Kargain.Keyed
open Kargain.Kahn
open Kargain.ProtocolAddress (Text)
open Relation

/-! ## §1. Steps and their identities. -/

theorem indexOf_eq_some {steps : List FoldStep} (hid : (steps.map FoldStep.id).Nodup) {id : StepId}
    {i : ℕ} : indexOf steps id = some i ↔ ∃ s, steps[i]? = some s ∧ s.id = id := by
  unfold indexOf
  rw [List.findIdx?_eq_some_iff_getElem]
  constructor
  · intro h
    obtain ⟨hi, hs, _⟩ := h
    exact ⟨steps[i], by simp, by simpa using hs⟩
  · intro h
    obtain ⟨s, hs, hsid⟩ := h
    obtain ⟨hi, heq⟩ := List.getElem?_eq_some_iff.mp hs
    refine ⟨hi, by simp [heq, hsid], fun j hj hsame => ?_⟩
    simp only [decide_eq_true_eq] at hsame
    have hinj := (List.nodup_iff_injective_get.mp hid)
    have hji : j = i := by
      have := @hinj ⟨j, by simp; omega⟩ ⟨i, by simpa using hi⟩ (by simp [hsame, heq, hsid])
      simpa using this
    omega

/-- The steps of different crossings have different identities. -/
theorem groupSteps_guid {p q : Text × GuidGroup} {id : StepId}
    (hp : id ∈ (groupSteps p.1 p.2).map FoldStep.id)
    (hq : id ∈ (groupSteps q.1 q.2).map FoldStep.id) : p.1 = q.1 := by
  unfold groupSteps at hp hq
  split at hp <;> split at hq <;> simp [sentStep, receivedStep] at hp hq
  rcases hp with h | h <;> rw [h] at hq <;> simpa using hq

theorem foldSteps_ids {streamB : List NormalizedCustodyEvent} {groups : List (Text × GuidGroup)}
    (hk : Keys groups) : ((foldSteps streamB groups).map FoldStep.id).Nodup := by
  unfold foldSteps
  rw [List.map_append, List.map_map, List.map_flatMap]
  refine List.nodup_append.mpr ⟨?_, ?_, ?_⟩
  · have heq : (FoldStep.id ∘ fun (x : NormalizedCustodyEvent × ℕ) => rowStep x.2 x.1) =
        StepId.row ∘ Prod.snd := rfl
    rw [heq, ← List.map_map, List.zipIdx_map_snd]
    exact (List.nodup_range' ..).map fun i j h => StepId.row.inj h
  · refine List.nodup_flatMap.mpr ⟨fun p _ => ?_, ?_⟩
    · unfold groupSteps
      split <;> simp [sentStep, receivedStep]
    · have hpair := List.pairwise_map.mp hk
      refine hpair.imp fun {p q} hne id hp hq => ?_
      exact hne (groupSteps_guid hp hq)
  · intro id hrow id' hleg heq
    subst heq
    obtain ⟨p, _, hp⟩ := List.mem_map.mp hrow
    obtain ⟨q, _, hq⟩ := List.mem_flatMap.mp hleg
    rw [← hp] at hq
    unfold groupSteps at hq
    split at hq <;> simp [sentStep, receivedStep, rowStep] at hq

/-! ## §2. The edges of the writers. -/

/-- The rows of one writer: by their keys, and by their place in the list where the keys agree. -/
def ComesBefore (steps : List FoldStep) (s t : FoldStep) : Prop :=
  writerIdFromOrderKey s.writerOrderKey = writerIdFromOrderKey t.writerOrderKey ∧
    (compareWriterOrderKeys s.writerOrderKey t.writerOrderKey < 0 ∨
      compareWriterOrderKeys s.writerOrderKey t.writerOrderKey = 0 ∧ [s, t].Sublist steps)

/-- The steps of `writer` in the order of their keys. -/
def writerList (steps : List FoldStep) (writer : Option ℕ) : List FoldStep :=
  (steps.filter fun step => writerIdFromOrderKey step.writerOrderKey = writer).insertionSort
    fun a b => compareWriterOrderKeys a.writerOrderKey b.writerOrderKey ≤ 0

theorem mem_writerList {steps : List FoldStep} {writer : Option ℕ} {s : FoldStep} :
    s ∈ writerList steps writer ↔ s ∈ steps ∧ writerIdFromOrderKey s.writerOrderKey = writer := by
  unfold writerList
  rw [List.mem_insertionSort, List.mem_filter, decide_eq_true_eq]

theorem writerList_pairwise (steps : List FoldStep) (writer : Option ℕ) :
    (writerList steps writer).Pairwise (ComesBefore steps) := by
  have hearly : (steps.filter fun step => writerIdFromOrderKey step.writerOrderKey = writer).Pairwise
      fun a b => [a, b].Sublist steps :=
    (List.pairwise_iff_forall_sublist.mpr fun h => h).filter _
  have htotal : ∀ a b : FoldStep, compareWriterOrderKeys a.writerOrderKey b.writerOrderKey ≤ 0 ∨
      compareWriterOrderKeys b.writerOrderKey a.writerOrderKey ≤ 0 := by
    intro a b
    have hswap := compare_swap a.writerOrderKey b.writerOrderKey
    omega
  have htrans : ∀ a b c : FoldStep, compareWriterOrderKeys a.writerOrderKey b.writerOrderKey ≤ 0 →
      compareWriterOrderKeys b.writerOrderKey c.writerOrderKey ≤ 0 →
        compareWriterOrderKeys a.writerOrderKey c.writerOrderKey ≤ 0 :=
    fun a b c => compare_trans
  have hsorted := pairwise_insertionSort_stable htotal htrans hearly
  refine hsorted.imp_of_mem fun {s t} hs ht hst => ?_
  have hws := (mem_writerList.mp hs).2
  have hwt := (mem_writerList.mp ht).2
  refine ⟨hws.trans hwt.symm, ?_⟩
  have hswap := compare_swap s.writerOrderKey t.writerOrderKey
  by_cases hzero : compareWriterOrderKeys s.writerOrderKey t.writerOrderKey = 0
  · exact .inr ⟨hzero, hst.2 (by omega)⟩
  · exact .inl (by omega)

theorem mem_writerEdges {steps : List FoldStep} {a b : StepId} :
    (a, b) ∈ writerEdges steps ↔
      ∃ writer s t, (s, t) ∈ neighbours (writerList steps writer) ∧ s.id = a ∧ t.id = b := by
  unfold writerEdges byWriter
  simp only [List.mem_flatMap, List.mem_map]
  constructor
  · intro h
    obtain ⟨entry, ⟨file, hfile, hentry⟩, pair, hpair, heq⟩ := h
    subst hentry
    have hheld := (mem_files.mp (show (file.1, file.2) ∈ _ from hfile)).2
    rw [foldl_snoc, List.nil_append] at hheld
    rw [Prod.mk.injEq] at heq
    refine ⟨file.1, pair.1, pair.2, ?_, heq.1, heq.2⟩
    unfold writerList
    rw [← hheld]
    exact hpair
  · intro h
    obtain ⟨writer, s, t, hst, hs, ht⟩ := h
    have hin : s ∈ writerList steps writer := (sublist_of_mem_neighbours hst).subset (by simp)
    rw [mem_writerList] at hin
    refine ⟨(writer, writerList steps writer), ⟨(writer, steps.filter fun step =>
      writerIdFromOrderKey step.writerOrderKey = writer), ?_, rfl⟩, (s, t), hst, by rw [hs, ht]⟩
    refine mem_files.mpr ⟨⟨s, hin.1, hin.2⟩, ?_⟩
    rw [foldl_snoc, List.nil_append]

section Steps

variable {steps : List FoldStep} (hid : (steps.map FoldStep.id).Nodup)
include hid

theorem step_eq_of_id {s t : FoldStep} (hs : s ∈ steps) (ht : t ∈ steps) (h : s.id = t.id) : s = t :=
  List.inj_on_of_nodup_map hid hs ht h

theorem comesBefore_asymm (s t : FoldStep) (h : ComesBefore steps s t) : ¬ ComesBefore steps t s := by
  intro hback
  have hswap := compare_swap s.writerOrderKey t.writerOrderKey
  rcases h.2 with hlt | ⟨hzero, hst⟩ <;> rcases hback.2 with hlt' | ⟨hzero', hts⟩
  · omega
  · omega
  · omega
  · exact not_sublist_swap (hid.of_map _) hst hts

/-- The steps that an edge of the graph joins. -/
def Joined (steps : List FoldStep) (edges : List (StepId × StepId)) (s t : FoldStep) : Prop :=
  s ∈ steps ∧ t ∈ steps ∧ (s.id, t.id) ∈ edges

theorem comesBefore_of_joined {s t : FoldStep} (h : Joined steps (writerEdges steps) s t) :
    ComesBefore steps s t := by
  obtain ⟨hs, ht, hedge⟩ := h
  obtain ⟨writer, s', t', hst, hids, hidt⟩ := mem_writerEdges.mp hedge
  obtain ⟨hs', ht', hbefore⟩ := rel_of_neighbours (writerList_pairwise steps writer) hst
  rw [← step_eq_of_id hid (mem_writerList.mp hs').1 hs hids,
    ← step_eq_of_id hid (mem_writerList.mp ht').1 ht hidt]
  exact hbefore

/-- A later row of a writer is reached from an earlier one. -/
theorem reach_of_comesBefore {s t : FoldStep} (hs : s ∈ steps) (ht : t ∈ steps)
    (h : ComesBefore steps s t) : TransGen (Joined steps (writerEdges steps)) s t := by
  have hsub := sublist_of_rel (comesBefore_asymm hid)
    (writerList_pairwise steps (writerIdFromOrderKey s.writerOrderKey))
    (mem_writerList.mpr ⟨hs, rfl⟩) (mem_writerList.mpr ⟨ht, h.1.symm⟩) h
  refine TransGen.mono ?_ s t (reach_of_sublist hsub)
  intro x y hxy
  have hpair := (sublist_of_mem_neighbours hxy).subset
  exact ⟨(mem_writerList.mp (hpair (by simp))).1, (mem_writerList.mp (hpair (by simp))).1,
    mem_writerEdges.mpr ⟨_, x, y, hxy, rfl, rfl⟩⟩

/-! ## §3. The graph and its indices. -/

theorem mem_edgesOf {edges : List (StepId × StepId)} {i j : ℕ} :
    (i, j) ∈ edgesOf steps edges ↔
      ∃ s t, steps[i]? = some s ∧ steps[j]? = some t ∧ (s.id, t.id) ∈ writerEdges steps ++ edges := by
  unfold edgesOf
  rw [List.mem_filterMap]
  constructor
  · intro h
    obtain ⟨edge, hedge, hij⟩ := h
    unfold edgeOf at hij
    obtain ⟨a, ha, hmap⟩ := Option.bind_eq_some_iff.mp hij
    obtain ⟨b, hb, hab⟩ := Option.map_eq_some_iff.mp hmap
    rw [Prod.mk.injEq] at hab
    obtain ⟨s, hs, hsid⟩ := (indexOf_eq_some hid).mp ha
    obtain ⟨t, ht, htid⟩ := (indexOf_eq_some hid).mp hb
    refine ⟨s, t, hab.1 ▸ hs, hab.2 ▸ ht, ?_⟩
    rw [hsid, htid]
    exact hedge
  · intro h
    obtain ⟨s, t, hs, ht, hedge⟩ := h
    refine ⟨(s.id, t.id), hedge, ?_⟩
    unfold edgeOf
    rw [(indexOf_eq_some hid).mpr ⟨s, hs, rfl⟩, (indexOf_eq_some hid).mpr ⟨t, ht, rfl⟩]
    rfl

theorem edgesOf_within (edges : List (StepId × StepId)) :
    Within steps.length (edgesOf steps edges) := by
  intro e he
  obtain ⟨s, t, hs, ht, _⟩ := (mem_edgesOf hid).mp (show (e.1, e.2) ∈ _ from he)
  exact ⟨(List.getElem?_eq_some_iff.mp hs).1, (List.getElem?_eq_some_iff.mp ht).1⟩

theorem reach_steps {edges : List (StepId × StepId)} {i j : ℕ}
    (h : TransGen (fun x y => (x, y) ∈ edgesOf steps edges) i j) :
    ∃ s t, steps[i]? = some s ∧ steps[j]? = some t ∧
      TransGen (Joined steps (writerEdges steps ++ edges)) s t := by
  induction h with
  | single hij =>
    obtain ⟨s, t, hs, ht, hedge⟩ := (mem_edgesOf hid).mp hij
    exact ⟨s, t, hs, ht, TransGen.single ⟨List.mem_of_getElem? hs, List.mem_of_getElem? ht, hedge⟩⟩
  | tail _ hjk ih =>
    obtain ⟨s, t, hs, ht, hst⟩ := ih
    obtain ⟨t', u, ht', hu, hedge⟩ := (mem_edgesOf hid).mp hjk
    have heq : t = t' := Option.some.inj (ht.symm.trans ht')
    subst heq
    exact ⟨s, u, hs, hu, hst.tail ⟨List.mem_of_getElem? ht, List.mem_of_getElem? hu, hedge⟩⟩

theorem reach_indices {edges : List (StepId × StepId)} {s t : FoldStep}
    (h : TransGen (Joined steps (writerEdges steps ++ edges)) s t) :
    ∀ {i j : ℕ}, steps[i]? = some s → steps[j]? = some t →
      TransGen (fun x y => (x, y) ∈ edgesOf steps edges) i j := by
  induction h with
  | single hst =>
    intro i j hi hj
    exact TransGen.single ((mem_edgesOf hid).mpr ⟨_, _, hi, hj, hst.2.2⟩)
  | tail _ htu ih =>
    intro i k hi hk
    obtain ⟨j, hj⟩ := List.mem_iff_getElem?.mp htu.1
    exact (ih hi hj).tail ((mem_edgesOf hid).mpr ⟨_, _, hj, hk, htu.2.2⟩)

end Steps

/-! ## §4. What is known of the order. -/

/-- `s` came before `t`: on the chain of one writer, or as the two legs of a crossing. -/
def Precedes (steps : List FoldStep) (s t : FoldStep) : Prop :=
  s ∈ steps ∧ t ∈ steps ∧
    (ComesBefore steps s t ∨ ∃ guid, s.id = .sent guid ∧ t.id = .received guid)

section Graph

variable {streamB : List NormalizedCustodyEvent} {groups : List (Text × GuidGroup)}

/-- A crossing with both of its legs. -/
def Linked (groups : List (Text × GuidGroup)) (guid : Text)
    (sent received : NormalizedCrossingLeg) : Prop :=
  (guid, GuidGroup.mk [sent] [received]) ∈ groups

theorem mem_groupSteps {guid : Text} {group : GuidGroup} {s : FoldStep} :
    s ∈ groupSteps guid group ↔ ∃ sent received, group = ⟨[sent], [received]⟩ ∧
      (s = sentStep guid sent ∨ s = receivedStep guid received) := by
  constructor
  · intro h
    unfold groupSteps at h
    split at h
    · next sent received hs hr =>
      refine ⟨sent, received, ?_, by simpa using h⟩
      rw [← hs, ← hr]
    · simp at h
  · intro h
    obtain ⟨sent, received, hgroup, hs⟩ := h
    rw [hgroup]
    simpa [groupSteps] using hs

theorem mem_foldSteps {s : FoldStep} :
    s ∈ foldSteps streamB groups ↔
      (∃ ev i, streamB[i]? = some ev ∧ s = rowStep i ev) ∨
      ∃ guid sent received, Linked groups guid sent received ∧
        (s = sentStep guid sent ∨ s = receivedStep guid received) := by
  unfold foldSteps
  rw [List.mem_append, List.mem_map, List.mem_flatMap]
  constructor
  · intro h
    rcases h with h | h
    · obtain ⟨row, hrow, heq⟩ := h
      exact .inl ⟨row.1, row.2, List.mem_zipIdx_iff_getElem?.mp hrow, heq.symm⟩
    · obtain ⟨entry, hin, hs⟩ := h
      obtain ⟨sent, received, hgroup, heq⟩ := mem_groupSteps.mp hs
      refine .inr ⟨entry.1, sent, received, ?_, heq⟩
      unfold Linked
      rw [← hgroup]
      exact hin
  · intro h
    rcases h with ⟨ev, i, hrow, heq⟩ | ⟨guid, sent, received, hlinked, heq⟩
    · exact .inl ⟨(ev, i), List.mem_zipIdx_iff_getElem?.mpr hrow, heq.symm⟩
    · exact .inr ⟨_, hlinked, mem_groupSteps.mpr ⟨sent, received, rfl, heq⟩⟩

theorem mem_foldEdges {edge : StepId × StepId} :
    edge ∈ foldEdges streamB groups ↔ ∃ guid sent received, Linked groups guid sent received ∧
      (edge = (.sent guid, .received guid) ∨
        ∃ ev i, streamB[i]? = some ev ∧ followsArrival ev received = true ∧
          edge = (.received guid, .row i)) := by
  unfold foldEdges
  rw [List.mem_flatMap]
  constructor
  · intro h
    obtain ⟨entry, hin, hedge⟩ := h
    unfold groupEdges at hedge
    split at hedge
    · next sent received hs hr =>
      refine ⟨entry.1, sent, received, ?_, ?_⟩
      · unfold Linked
        rw [← hs, ← hr]
        exact hin
      · rcases List.mem_cons.mp hedge with heq | hmem
        · exact .inl heq
        · obtain ⟨row, hrow, heq⟩ := List.mem_map.mp hmem
          rw [List.mem_filter] at hrow
          exact .inr ⟨row.1, row.2, List.mem_zipIdx_iff_getElem?.mp hrow.1, hrow.2, heq.symm⟩
    · simp at hedge
  · intro h
    obtain ⟨guid, sent, received, hlinked, hedge⟩ := h
    refine ⟨_, hlinked, ?_⟩
    show edge ∈ _ :: _
    rcases hedge with heq | ⟨ev, i, hrow, hfollows, heq⟩
    · rw [heq]
      exact List.mem_cons_self
    · refine List.mem_cons_of_mem _ (List.mem_map.mpr ⟨(ev, i), ?_, heq.symm⟩)
      rw [List.mem_filter]
      exact ⟨List.mem_zipIdx_iff_getElem?.mpr hrow, hfollows⟩

variable (hk : Keys groups)
include hk

theorem precedes_of_joined {s t : FoldStep}
    (h : Joined (foldSteps streamB groups)
      (writerEdges (foldSteps streamB groups) ++ foldEdges streamB groups) s t) :
    Precedes (foldSteps streamB groups) s t := by
  have hid : ((foldSteps streamB groups).map FoldStep.id).Nodup := foldSteps_ids hk
  obtain ⟨hs, ht, hedge⟩ := h
  refine ⟨hs, ht, ?_⟩
  rcases List.mem_append.mp hedge with hwriter | hguid
  · exact .inl (comesBefore_of_joined hid ⟨hs, ht, hwriter⟩)
  · obtain ⟨guid, sent, received, hlinked, hpair⟩ := mem_foldEdges.mp hguid
    rcases hpair with heq | ⟨ev, i, hrow, hfollows, heq⟩
    · rw [Prod.mk.injEq] at heq
      exact .inr ⟨guid, heq⟩
    · -- the edge to a later row of the chain of arrival is one that the writer has as well
      rw [Prod.mk.injEq] at heq
      have hs' : s = receivedStep guid received :=
        step_eq_of_id hid hs (mem_foldSteps.mpr (.inr ⟨guid, sent, received, hlinked, .inr rfl⟩)) heq.1
      have ht' : t = rowStep i ev :=
        step_eq_of_id hid ht (mem_foldSteps.mpr (.inl ⟨ev, i, hrow, rfl⟩)) heq.2
      unfold followsArrival at hfollows
      simp only [Bool.and_eq_true, decide_eq_true_eq] at hfollows
      have hswap := compare_swap ev.writerOrderKey received.writerOrderKey
      rw [hs', ht']
      refine .inl ⟨hfollows.1.2.symm, .inl ?_⟩
      show compareWriterOrderKeys received.writerOrderKey ev.writerOrderKey < 0
      omega

theorem reach_of_precedes {s t : FoldStep} (h : Precedes (foldSteps streamB groups) s t) :
    TransGen (Joined (foldSteps streamB groups)
      (writerEdges (foldSteps streamB groups) ++ foldEdges streamB groups)) s t := by
  have hid : ((foldSteps streamB groups).map FoldStep.id).Nodup := foldSteps_ids hk
  obtain ⟨hs, ht, hbefore | ⟨guid, hsent, hreceived⟩⟩ := h
  · refine TransGen.mono ?_ s t (reach_of_comesBefore hid hs ht hbefore)
    intro x y hxy
    exact ⟨hxy.1, hxy.2.1, List.mem_append_left _ hxy.2.2⟩
  · refine TransGen.single ⟨hs, ht, List.mem_append_right _ (mem_foldEdges.mpr ?_)⟩
    rcases mem_foldSteps.mp hs with ⟨ev, i, _, heq⟩ | ⟨guid', sent, received, hlinked, heq⟩
    · rw [heq] at hsent
      exact absurd hsent (by simp [rowStep])
    · have hguid : guid' = guid := by
        rcases heq with heq | heq
        · rw [heq] at hsent
          exact StepId.sent.inj hsent
        · rw [heq] at hsent
          exact absurd hsent (by simp [receivedStep])
      rw [hsent, hreceived, ← hguid]
      exact ⟨guid', sent, received, hlinked, .inl rfl⟩

/-- The graph that the fold sorts says what is known of the order. -/
theorem reach_iff {s t : FoldStep} :
    TransGen (Joined (foldSteps streamB groups)
        (writerEdges (foldSteps streamB groups) ++ foldEdges streamB groups)) s t ↔
      TransGen (Precedes (foldSteps streamB groups)) s t := by
  constructor
  · exact TransGen.mono (fun x y hxy => precedes_of_joined hk hxy) s t
  · intro h
    induction h with
    | single hst => exact reach_of_precedes hk hst
    | tail _ htu ih => exact ih.trans (reach_of_precedes hk htu)

theorem acyclic_iff :
    (∀ i, ¬ TransGen (fun x y => (x, y) ∈
        edgesOf (foldSteps streamB groups) (foldEdges streamB groups)) i i) ↔
      ∀ s, ¬ TransGen (Precedes (foldSteps streamB groups)) s s := by
  have hid : ((foldSteps streamB groups).map FoldStep.id).Nodup := foldSteps_ids hk
  constructor
  · intro h s hs
    have hin : s ∈ foldSteps streamB groups := by
      cases hs with
      | single h => exact h.1
      | tail _ h => exact h.2.1
    obtain ⟨i, hi⟩ := List.mem_iff_getElem?.mp hin
    exact h i (reach_indices hid ((reach_iff hk).mpr hs) hi hi)
  · intro h i hi
    obtain ⟨s, t, hs, ht, hst⟩ := reach_steps hid hi
    have heq : s = t := Option.some.inj (hs.symm.trans ht)
    subst heq
    exact h s ((reach_iff hk).mp hst)

theorem topologicalApply_conflicting_iff (tokenId : ℕ) :
    topologicalApply tokenId (foldSteps streamB groups) (foldEdges streamB groups) =
        .unresolved .conflictingDetermination ↔
      ∃ s, TransGen (Precedes (foldSteps streamB groups)) s s := by
  have hid : ((foldSteps streamB groups).map FoldStep.id).Nodup := foldSteps_ids hk
  have hlen := length_sort_iff (edgesOf_within hid (foldEdges streamB groups))
  rw [acyclic_iff hk] at hlen
  unfold topologicalApply
  simp only
  split
  · next hne =>
    have hcycle := mt hlen.mpr hne
    push Not at hcycle
    simpa using hcycle
  · next heq =>
    have hacyclic := hlen.mp (not_not.mp heq)
    refine ⟨fun h => ?_, fun ⟨s, hs⟩ => absurd hs (hacyclic s)⟩
    split at h <;> simp at h

/-- The graph has a cycle, or the fold resolves where some step sets a place. -/
theorem topologicalApply_resolved_iff {tokenId : ℕ}
    (hsets : ∃ s ∈ foldSteps streamB groups, applyStep tokenId s.kind s.ns ≠ none) :
    (∃ place, topologicalApply tokenId (foldSteps streamB groups) (foldEdges streamB groups) =
        .resolved place) ↔
      ∀ s, ¬ TransGen (Precedes (foldSteps streamB groups)) s s := by
  have hid : ((foldSteps streamB groups).map FoldStep.id).Nodup := foldSteps_ids hk
  have hin' := edgesOf_within hid (foldEdges streamB groups)
  have hlen := length_sort_iff hin'
  rw [acyclic_iff hk] at hlen
  unfold topologicalApply
  simp only
  split
  · next hne =>
    refine ⟨fun ⟨place, h⟩ => absurd h (by simp), fun hac => absurd (hlen.mpr hac) hne⟩
  · next heq =>
    refine ⟨fun _ => hlen.mp (not_not.mp heq), fun _ => ?_⟩
    split
    · next hnone =>
      obtain ⟨s, hs, hvalue⟩ := hsets
      obtain ⟨i, hi⟩ := List.mem_iff_getElem?.mp hs
      have hval := lastValue_none hnone i
        (sort_full hin' (not_not.mp heq) (List.getElem?_eq_some_iff.mp hi).1)
      simp [valueAt, hi] at hval
      exact absurd hval hvalue
    · next place hplace => exact ⟨place, rfl⟩

/-- The place comes from a step that leads to no other step that sets one. -/
theorem topologicalApply_last {tokenId place : ℕ}
    (h : topologicalApply tokenId (foldSteps streamB groups) (foldEdges streamB groups) =
      .resolved place) :
    ∃ last ∈ foldSteps streamB groups, applyStep tokenId last.kind last.ns = some place ∧
      ∀ s ∈ foldSteps streamB groups, applyStep tokenId s.kind s.ns ≠ none →
        ¬ TransGen (Precedes (foldSteps streamB groups)) last s := by
  have hid : ((foldSteps streamB groups).map FoldStep.id).Nodup := foldSteps_ids hk
  have hin' := edgesOf_within hid (foldEdges streamB groups)
  unfold topologicalApply at h
  simp only at h
  split at h
  · cases h
  · next hlen =>
    split at h
    · cases h
    · next custody hcustody =>
      have hplace : custody = place := CustodyFoldResult.resolved.inj h
      obtain ⟨l₁, k, l₂, hsplit, hk', hlater⟩ := lastValue_some hcustody
      obtain ⟨last, hlast, hvalue⟩ := Option.bind_eq_some_iff.mp hk'
      refine ⟨last, List.mem_of_getElem? hlast, by rw [hvalue, hplace], fun s hs hne hlead => ?_⟩
      obtain ⟨i, hi⟩ := List.mem_iff_getElem?.mp hs
      have hfull := sort_full hin' (not_not.mp hlen) (List.getElem?_eq_some_iff.mp hi).1
      have hreach := reach_indices hid ((reach_iff hk).mpr hlead) hlast hi
      have hvali : valueAt tokenId (foldSteps streamB groups) i ≠ none := by
        simpa [valueAt, hi] using hne
      -- `s` is listed after `last`, where no step sets a place
      have hnd := sort_nodup hin'
      rw [hsplit] at hfull hnd
      rcases List.mem_append.mp hfull with hearly | hlate
      · obtain ⟨m₁, m₂, hm⟩ := List.append_of_mem hearly
        have hcut : sort (foldSteps streamB groups).length
            (edgesOf (foldSteps streamB groups) (foldEdges streamB groups)) =
              m₁ ++ i :: (m₂ ++ k :: l₂) := by
          rw [hsplit, hm]
          simp
        have hback := sort_forward hin' hreach hcut
        rw [hm] at hnd
        exact (List.nodup_append.mp hnd).2.2 k (by simp [hback]) k List.mem_cons_self rfl
      · rcases List.mem_cons.mp hlate with heq | hmem
        · subst heq
          obtain ⟨n₁, n₂, hn⟩ := List.append_of_mem (sort_full hin' (not_not.mp hlen)
            (List.getElem?_eq_some_iff.mp hi).1)
          have hback := sort_forward hin' hreach hn
          have hnd' := sort_nodup hin'
          rw [hn] at hnd'
          exact (List.nodup_append.mp hnd').2.2 i hback i List.mem_cons_self rfl
        · exact hvali (hlater i hmem)

end Graph

/-! ## §5. The fold. -/

theorem groups_keys (crossings : List NormalizedCrossingLeg) : Keys (buildGuidGroups crossings) :=
  files_keys crossings

theorem checkUnknownNamespace_cause {input : CustodyFoldInput} {cause : CustodyUnresolvedCause}
    (h : checkUnknownNamespace input = some cause) : cause = .unknownNamespace := by
  unfold checkUnknownNamespace at h
  split at h
  · cases h
  · split at h
    · exact (Option.some.inj h).symm
    · split at h
      · exact (Option.some.inj h).symm
      · cases h

theorem checkCrossingIntegrity_cause {groups : List (Text × GuidGroup)}
    {cause : CustodyUnresolvedCause} (h : checkCrossingIntegrity groups = some cause) :
    cause = .incompleteCrossingLink ∨ cause = .departureWithoutArrival := by
  obtain ⟨entry, _, hentry⟩ := List.exists_of_findSome?_eq_some h
  simp only at hentry
  split at hentry
  · exact .inl (Option.some.inj hentry).symm
  · split at hentry
    · exact .inl (Option.some.inj hentry).symm
    · split at hentry
      · exact .inr (Option.some.inj hentry).symm
      · cases hentry

/-- The fold gives up with a conflict exactly when what is known of the order goes in a circle. -/
theorem fold_conflicting_iff (input : CustodyFoldInput) :
    foldPassportCustody input = .unresolved .conflictingDetermination ↔
      checkUnknownNamespace input = none ∧
      checkCrossingIntegrity (buildGuidGroups input.crossings) = none ∧
      ∃ s, TransGen (Precedes (foldSteps input.streamB (buildGuidGroups input.crossings))) s s := by
  have hempty : ∀ {steps : List FoldStep} {s : FoldStep}, steps = [] →
      ¬ TransGen (Precedes steps) s s := by
    intro steps s hnil hs
    subst hnil
    cases hs with
    | single h => simpa using h.1
    | tail _ h => simpa using h.1
  unfold foldPassportCustody
  split
  · next unknown hunknown =>
    rw [checkUnknownNamespace_cause hunknown]
    simp [hunknown]
  · next hunknown =>
    split
    · next hnone =>
      have hnil : foldSteps input.streamB (buildGuidGroups input.crossings) = [] := by
        rw [List.eq_nil_of_length_eq_zero hnone.1, List.eq_nil_of_length_eq_zero hnone.2]
        rfl
      refine ⟨fun h => by simp at h, fun ⟨_, _, s, hs⟩ => absurd hs (hempty hnil)⟩
    · simp only
      split
      · next cause hcause =>
        rcases checkCrossingIntegrity_cause hcause with h | h <;> simp [h, hcause]
      · next hintegrity =>
        split
        · next hnil =>
          refine ⟨fun h => by simp at h, fun ⟨_, _, s, hs⟩ =>
            absurd hs (hempty (List.eq_nil_of_length_eq_zero hnil))⟩
        · rw [topologicalApply_conflicting_iff (groups_keys _)]
          simp [hunknown, hintegrity]

end Kargain.Custody
