/-
  Kargain.Custody.Agreement — what the order of the rows may change.

  The tables return their rows in any order.  Where no two rows of a chain
  have the same key, whether the fold resolves and whether it finds a conflict
  depends on the rows alone, and so does the place where the rows that set one
  are ordered by what is known of them.

  Main result: `fold_perm`.
-/
import Kargain.Custody.Journey

namespace Kargain.Custody

open Kargain.Keyed
open Kargain.Kahn
open Kargain.ProtocolAddress (Text)
open Relation

/-! ## §1. The order of entries. -/

/-- `a` is known to be earlier than `b`, by their keys or as the legs of a crossing. -/
def Ordered (es : List Entry) (a b : Entry) : Prop :=
  a ∈ es ∧ b ∈ es ∧
    ((writerIdFromOrderKey a.key = writerIdFromOrderKey b.key ∧
        compareWriterOrderKeys a.key b.key < 0) ∨
      ∃ sent received, a = .leg sent ∧ b = .leg received ∧ sent.direction = .sent ∧
        received.direction = .received ∧ sent.guid = received.guid)

/-- No two entries of a writer have the same key. -/
def Apart (es : List Entry) : Prop :=
  es.Pairwise fun a b => writerIdFromOrderKey a.key = writerIdFromOrderKey b.key →
    compareWriterOrderKeys a.key b.key ≠ 0

theorem apart_keys {es : List Entry} (h : Apart es) : (es.map Entry.key).Nodup := by
  refine List.pairwise_map.mpr (h.imp fun {a b} hab heq => ?_)
  exact hab (by rw [heq]) (by rw [heq, compare_self])

theorem Apart.eq {es : List Entry} (h : Apart es) {a b : Entry} (ha : a ∈ es) (hb : b ∈ es)
    (hw : writerIdFromOrderKey a.key = writerIdFromOrderKey b.key)
    (hzero : compareWriterOrderKeys a.key b.key = 0) : a = b := by
  by_contra hne
  have hswap := compare_swap a.key b.key
  rcases sublist_or_sublist ha hb hne with hab | hba
  · exact List.pairwise_iff_forall_sublist.mp h hab hw hzero
  · exact List.pairwise_iff_forall_sublist.mp h hba hw.symm (by omega)

/-! ## §2. Entries and steps. -/

section Reading

variable {es : List Entry} {streamB : List NormalizedCustodyEvent}
  {crossings : List NormalizedCrossingLeg}
  (hapart : Apart es) (hcomplete : ∀ guid, Complete crossings guid)
  (hrows : streamB.Perm (rowsOf es)) (hlegs : crossings.Perm (legsOf es))

include hapart hrows

theorem precedes_iff_ordered {s t : FoldStep} {a b : Entry}
    (hs : s ∈ foldSteps streamB (buildGuidGroups crossings))
    (ht : t ∈ foldSteps streamB (buildGuidGroups crossings)) (ha : a ∈ es) (hb : b ∈ es)
    (hsa : Records s a) (htb : Records t b) :
    Precedes (foldSteps streamB (buildGuidGroups crossings)) s t ↔ Ordered es a b := by
  constructor
  · intro h
    refine ⟨ha, hb, ?_⟩
    rcases h.2.2 with ⟨hw, hcompare⟩ | ⟨guid, hsent, hreceived⟩
    · rw [hsa.key, htb.key] at hw hcompare
      refine .inl ⟨hw, ?_⟩
      rcases hcompare with hlt | ⟨hzero, hst⟩
      · exact hlt
      · -- equal keys would make the two one step
        have heq := hapart.eq ha hb hw hzero
        subst heq
        exact absurd hst (not_sublist_records hrows (apart_keys hapart) hs ht hsa htb)
    · obtain ⟨sent, heq, hdir, hguid⟩ := hsa.sent_iff.mp hsent
      obtain ⟨received, heq', hdir', hguid'⟩ := htb.received_iff.mp hreceived
      exact .inr ⟨sent, received, heq, heq', hdir, hdir', hguid.trans hguid'.symm⟩
  · intro h
    refine ⟨hs, ht, ?_⟩
    rcases h.2.2 with ⟨hw, hlt⟩ | ⟨sent, received, hsent, hreceived, hdir, hdir', hguid⟩
    · refine .inl ⟨?_, .inl ?_⟩
      · rw [hsa.key, htb.key]
        exact hw
      · rw [hsa.key, htb.key]
        exact hlt
    · exact .inr ⟨sent.guid, hsa.sent_iff.mpr ⟨sent, hsent, hdir, rfl⟩,
        htb.received_iff.mpr ⟨received, hreceived, hdir', hguid.symm⟩⟩

include hlegs

theorem ordered_of_reach {s t : FoldStep} {a : Entry} (ha : a ∈ es) (hsa : Records s a)
    (h : TransGen (Precedes (foldSteps streamB (buildGuidGroups crossings))) s t) :
    ∀ {b : Entry}, b ∈ es → Records t b → TransGen (Ordered es) a b := by
  induction h with
  | single hst =>
    intro b hb htb
    exact TransGen.single
      ((precedes_iff_ordered hapart hrows hst.1 hst.2.1 ha hb hsa htb).mp hst)
  | tail _ htu ih =>
    intro c hc huc
    obtain ⟨b, hb, htb⟩ := exists_entry hrows hlegs htu.1
    exact (ih hb htb).tail
      ((precedes_iff_ordered hapart hrows htu.1 htu.2.1 hb hc htb huc).mp htu)

include hcomplete

theorem reach_of_ordered {s : FoldStep} {a b : Entry}
    (hs : s ∈ foldSteps streamB (buildGuidGroups crossings)) (hsa : Records s a)
    (h : TransGen (Ordered es) a b) :
    ∀ {t : FoldStep}, t ∈ foldSteps streamB (buildGuidGroups crossings) → Records t b →
      TransGen (Precedes (foldSteps streamB (buildGuidGroups crossings))) s t := by
  induction h with
  | single hab =>
    intro t ht htb
    exact TransGen.single
      ((precedes_iff_ordered hapart hrows hs ht hab.1 hab.2.1 hsa htb).mpr hab)
  | tail _ hbc ih =>
    intro u hu huc
    obtain ⟨t, ht, htb⟩ := exists_step hrows hlegs hcomplete hbc.1
    exact (ih ht htb).tail
      ((precedes_iff_ordered hapart hrows ht hu hbc.1 hbc.2.1 htb huc).mpr hbc)

theorem acyclic_iff_ordered :
    (∀ s, ¬ TransGen (Precedes (foldSteps streamB (buildGuidGroups crossings))) s s) ↔
      ∀ a, ¬ TransGen (Ordered es) a a := by
  constructor
  · intro h a ha
    have hin : a ∈ es := by
      cases ha with
      | single hab => exact hab.1
      | tail _ hbc => exact hbc.2.1
    obtain ⟨s, hs, hsa⟩ := exists_step hrows hlegs hcomplete hin
    exact h s (reach_of_ordered hapart hcomplete hrows hlegs hs hsa ha hs hsa)
  · intro h s hs
    have hin : s ∈ foldSteps streamB (buildGuidGroups crossings) := by
      cases hs with
      | single hst => exact hst.1
      | tail _ htu => exact htu.2.1
    obtain ⟨a, ha, hsa⟩ := exists_entry hrows hlegs hin
    exact h a (ordered_of_reach hapart hrows hlegs ha hsa hs ha hsa)

end Reading

/-! ## §3. Checks. -/

theorem complete_of_check {legs : List NormalizedCrossingLeg}
    (h : checkCrossingIntegrity (buildGuidGroups legs) = none) (guid : Text) : Complete legs guid := by
  by_cases hleg : ∃ leg ∈ legs, leg.guid = guid
  · have hin : (guid, GuidGroup.mk (sentOf legs guid) (receivedOf legs guid)) ∈
        buildGuidGroups legs := mem_guidGroups.mpr ⟨hleg, rfl⟩
    have hpass := List.findSome?_eq_none_iff.mp h _ hin
    simp only at hpass
    split at hpass
    · cases hpass
    · next hlone =>
      split at hpass
      · cases hpass
      · next hmany =>
        split at hpass
        · cases hpass
        · next hopen =>
          by_cases hzero : (sentOf legs guid).length = 0
          · refine .inl ⟨List.eq_nil_of_length_eq_zero hzero,
              List.eq_nil_of_length_eq_zero ?_⟩
            omega
          · obtain ⟨sent, hsent⟩ := List.length_eq_one_iff.mp
              (show (sentOf legs guid).length = 1 by omega)
            obtain ⟨received, hreceived⟩ := List.length_eq_one_iff.mp
              (show (receivedOf legs guid).length = 1 by omega)
            exact .inr ⟨sent, received, hsent, hreceived⟩
  · refine .inl ⟨List.filter_eq_nil_iff.mpr fun leg hin => ?_,
      List.filter_eq_nil_iff.mpr fun leg hin => ?_⟩
    · simp only [decide_eq_true_eq]
      exact fun heq => hleg ⟨leg, hin, heq.1⟩
    · simp only [decide_eq_true_eq]
      exact fun heq => hleg ⟨leg, hin, heq.1⟩

theorem check_none_iff {legs : List NormalizedCrossingLeg} :
    checkCrossingIntegrity (buildGuidGroups legs) = none ↔ ∀ guid, Complete legs guid :=
  ⟨complete_of_check, checkCrossingIntegrity_none⟩

theorem complete_perm {legs legs' : List NormalizedCrossingLeg} (h : legs'.Perm legs) :
    (∀ guid, Complete legs guid) ↔ ∀ guid, Complete legs' guid :=
  ⟨fun hall => Crossings.perm (w := .on 0) hall h, fun hall => Crossings.perm (w := .on 0) hall h.symm⟩

theorem checkUnknownNamespace_perm {input input' : CustodyFoldInput}
    (hreg : input'.isRegisteredNamespace = input.isRegisteredNamespace)
    (hrows : input'.streamB.Perm input.streamB) (hlegs : input'.crossings.Perm input.crossings) :
    checkUnknownNamespace input' = checkUnknownNamespace input := by
  unfold checkUnknownNamespace
  rw [hreg]
  split
  · rfl
  · rw [hrows.any_eq, hlegs.any_eq]

/-! ## §4. The fold by its entries. -/

/-- The place that an entry sets, if it sets one. -/
def placeOf (tokenId : ℕ) : Entry → Option ℕ
  | .row ev => applyStep tokenId (.determination ev.kind) ev.ns
  | .leg crossed =>
    applyStep tokenId
      (if crossed.direction = .received then .crossingArrival else .crossingDeparture)
      crossed.observerNamespace

theorem Records.placeOf {s : FoldStep} {e : Entry} (h : Records s e) (tokenId : ℕ) :
    Custody.applyStep tokenId s.kind s.ns = Custody.placeOf tokenId e := by
  cases e with
  | row ev =>
    obtain ⟨i, hs⟩ := h
    rw [hs]
    rfl
  | leg crossed =>
    rcases h with ⟨hdir, hs⟩ | ⟨hdir, hs⟩ <;> rw [hs] <;>
      simp [Custody.placeOf, sentStep, receivedStep, hdir]

/-- Where there is a step, some step sets a place. -/
theorem exists_setting {streamB : List NormalizedCustodyEvent} {groups : List (Text × GuidGroup)}
    (tokenId : ℕ) (h : foldSteps streamB groups ≠ []) :
    ∃ s ∈ foldSteps streamB groups, applyStep tokenId s.kind s.ns ≠ none := by
  obtain ⟨s, hs⟩ := List.exists_mem_of_ne_nil _ h
  rcases mem_foldSteps.mp hs with ⟨ev, i, hrow, heq⟩ | ⟨guid, sent, received, hlinked, _⟩
  · refine ⟨s, hs, ?_⟩
    rw [heq]
    show applyStep tokenId (.determination ev.kind) ev.ns ≠ none
    cases ev.kind <;> simp [applyStep]
  · exact ⟨receivedStep guid received,
      mem_foldSteps.mpr (.inr ⟨guid, sent, received, hlinked, .inr rfl⟩),
      by simp [applyStep, receivedStep]⟩

theorem fold_resolved_iff (input : CustodyFoldInput) :
    (∃ place, foldPassportCustody input = .resolved place) ↔
      checkUnknownNamespace input = none ∧
      checkCrossingIntegrity (buildGuidGroups input.crossings) = none ∧
      foldSteps input.streamB (buildGuidGroups input.crossings) ≠ [] ∧
      ∀ s, ¬ TransGen (Precedes (foldSteps input.streamB (buildGuidGroups input.crossings))) s s := by
  unfold foldPassportCustody
  split
  · next unknown hunknown => simp [hunknown]
  · next hunknown =>
    split
    · next hnone =>
      have hnil : foldSteps input.streamB (buildGuidGroups input.crossings) = [] := by
        rw [List.eq_nil_of_length_eq_zero hnone.1, List.eq_nil_of_length_eq_zero hnone.2]
        rfl
      simp [hnil]
    · simp only
      split
      · next cause hcause => simp [hcause]
      · next hintegrity =>
        split
        · next hnil => simp [List.eq_nil_of_length_eq_zero hnil]
        · next hsome =>
          have hne : foldSteps input.streamB (buildGuidGroups input.crossings) ≠ [] := by
            intro hnil
            rw [hnil] at hsome
            exact hsome rfl
          rw [topologicalApply_resolved_iff (groups_keys _) (exists_setting input.tokenId hne)]
          simp [hunknown, hintegrity, hne]

theorem fold_resolved_apply {input : CustodyFoldInput} {place : ℕ}
    (h : foldPassportCustody input = .resolved place) :
    topologicalApply input.tokenId (foldSteps input.streamB (buildGuidGroups input.crossings))
      (foldEdges input.streamB (buildGuidGroups input.crossings)) = .resolved place := by
  unfold foldPassportCustody at h
  split at h
  · cases h
  · split at h
    · cases h
    · simp only at h
      split at h
      · cases h
      · split at h
        · cases h
        · exact h

section Entries

variable {es : List Entry} {input : CustodyFoldInput} (hapart : Apart es)
  (hrows : input.streamB.Perm (rowsOf es)) (hlegs : input.crossings.Perm (legsOf es))
include hapart hrows hlegs

theorem fold_resolved_iff_entries :
    (∃ place, foldPassportCustody input = .resolved place) ↔
      checkUnknownNamespace input = none ∧ (∀ guid, Complete (legsOf es) guid) ∧ es ≠ [] ∧
        ∀ a, ¬ TransGen (Ordered es) a a := by
  rw [fold_resolved_iff, check_none_iff, ← complete_perm hlegs]
  refine and_congr_right fun _ => and_congr_right fun hcomplete => ?_
  have hcomplete' := (complete_perm hlegs).mp hcomplete
  rw [acyclic_iff_ordered hapart hcomplete' hrows hlegs]
  refine and_congr_left fun _ => not_congr ⟨fun hnil => ?_, fun hnil => ?_⟩
  · by_contra hne
    obtain ⟨e, he⟩ := List.exists_mem_of_ne_nil _ hne
    obtain ⟨s, hs, _⟩ := exists_step hrows hlegs hcomplete' he
    rw [hnil] at hs
    cases hs
  · by_contra hne
    obtain ⟨s, hs⟩ := List.exists_mem_of_ne_nil _ hne
    obtain ⟨e, he, _⟩ := exists_entry hrows hlegs hs
    rw [hnil] at he
    cases he

theorem fold_conflicting_iff_entries :
    foldPassportCustody input = .unresolved .conflictingDetermination ↔
      checkUnknownNamespace input = none ∧ (∀ guid, Complete (legsOf es) guid) ∧
        ∃ a, TransGen (Ordered es) a a := by
  rw [fold_conflicting_iff, check_none_iff, ← complete_perm hlegs]
  refine and_congr_right fun _ => and_congr_right fun hcomplete => ?_
  have hcomplete' := (complete_perm hlegs).mp hcomplete
  have hacyclic := acyclic_iff_ordered hapart hcomplete' hrows hlegs
  rw [← not_iff_not]
  push Not
  exact hacyclic

theorem fold_place {place : ℕ} (h : foldPassportCustody input = .resolved place) :
    ∃ a ∈ es, placeOf input.tokenId a = some place ∧
      ∀ b ∈ es, placeOf input.tokenId b ≠ none → ¬ TransGen (Ordered es) a b := by
  have hcomplete := ((fold_resolved_iff_entries hapart hrows hlegs).mp ⟨place, h⟩).2.1
  have hcomplete' := (complete_perm hlegs).mp hcomplete
  obtain ⟨last, hlast, hplace, hall⟩ := topologicalApply_last (groups_keys _) (fold_resolved_apply h)
  obtain ⟨a, ha, hrec⟩ := exists_entry hrows hlegs hlast
  refine ⟨a, ha, by rw [← hrec.placeOf, hplace], fun b hb hne hlead => ?_⟩
  obtain ⟨s, hs, hsb⟩ := exists_step hrows hlegs hcomplete' hb
  refine hall s hs (by rwa [hsb.placeOf]) ?_
  exact reach_of_ordered hapart hcomplete' hrows hlegs hlast hrec hlead hs hsb

end Entries

/-- The entries that a fold is given. -/
def entriesOf (input : CustodyFoldInput) : List Entry :=
  input.streamB.map .row ++ input.crossings.map .leg

theorem rowsOf_entriesOf (input : CustodyFoldInput) : rowsOf (entriesOf input) = input.streamB := by
  unfold rowsOf entriesOf
  rw [List.filterMap_append, List.filterMap_map, List.filterMap_map]
  have hrow : Entry.row? ∘ Entry.row = some := rfl
  have hleg : Entry.row? ∘ Entry.leg = fun _ => none := rfl
  rw [hrow, hleg]
  simp

theorem legsOf_entriesOf (input : CustodyFoldInput) : legsOf (entriesOf input) = input.crossings := by
  unfold legsOf entriesOf
  rw [List.filterMap_append, List.filterMap_map, List.filterMap_map]
  have hrow : Entry.leg? ∘ Entry.row = fun _ => none := rfl
  have hleg : Entry.leg? ∘ Entry.leg = some := rfl
  rw [hrow, hleg]
  simp

/-- **The order of the rows.**  Where the keys of each writer differ, whether the fold resolves and
    whether it finds a conflict does not depend on the order of the rows; and neither does the place,
    where of two rows that set one it is known which came first. -/
theorem fold_perm {input input' : CustodyFoldInput} (hid : input'.tokenId = input.tokenId)
    (hreg : input'.isRegisteredNamespace = input.isRegisteredNamespace)
    (hrows : input'.streamB.Perm input.streamB) (hlegs : input'.crossings.Perm input.crossings)
    (hapart : Apart (entriesOf input)) :
    ((∃ place, foldPassportCustody input = .resolved place) ↔
      ∃ place, foldPassportCustody input' = .resolved place) ∧
    (foldPassportCustody input = .unresolved .conflictingDetermination ↔
      foldPassportCustody input' = .unresolved .conflictingDetermination) ∧
    ((∀ a ∈ entriesOf input, ∀ b ∈ entriesOf input, placeOf input.tokenId a ≠ none →
        placeOf input.tokenId b ≠ none → a ≠ b →
          TransGen (Ordered (entriesOf input)) a b ∨ TransGen (Ordered (entriesOf input)) b a) →
      ∀ place place', foldPassportCustody input = .resolved place →
        foldPassportCustody input' = .resolved place' → place = place') := by
  have hunknown := checkUnknownNamespace_perm hreg hrows hlegs
  rw [← rowsOf_entriesOf input] at hrows
  rw [← legsOf_entriesOf input] at hlegs
  have hrows₀ : input.streamB.Perm (rowsOf (entriesOf input)) := by rw [rowsOf_entriesOf]
  have hlegs₀ : input.crossings.Perm (legsOf (entriesOf input)) := by rw [legsOf_entriesOf]
  refine ⟨?_, ?_, ?_⟩
  · rw [fold_resolved_iff_entries hapart hrows₀ hlegs₀, fold_resolved_iff_entries hapart hrows hlegs,
      hunknown]
  · rw [fold_conflicting_iff_entries hapart hrows₀ hlegs₀,
      fold_conflicting_iff_entries hapart hrows hlegs, hunknown]
  · intro hknown place place' h h'
    obtain ⟨a, ha, hplace, hlast⟩ := fold_place hapart hrows₀ hlegs₀ h
    obtain ⟨b, hb, hplace', hlast'⟩ := fold_place hapart hrows hlegs h'
    rw [hid] at hplace' hlast'
    by_cases hab : a = b
    · subst hab
      exact Option.some.inj (hplace.symm.trans hplace')
    · rcases hknown a ha b hb (by simp [hplace]) (by simp [hplace']) hab with hlead | hlead
      · exact absurd hlead (hlast b hb (by simp [hplace']))
      · exact absurd hlead (hlast' a ha (by simp [hplace]))

/-- A passport that went abroad, its rows in two orders. -/
theorem fold_perm_abroad :
    (∃ place, foldPassportCustody
      { tokenId := 7 <<< 128
        streamB := [⟨7, .nativeMint, [7, 1, 0]⟩, ⟨9, .bridgeArrival, [9, 2, 0]⟩]
        crossings := [⟨['a'], .sent, 7, some 9, false, [7, 1, 1]⟩,
          ⟨['a'], .received, 9, some 7, false, [9, 2, 1]⟩]
        isRegisteredNamespace := none } = .resolved place) ↔
    ∃ place, foldPassportCustody
      { tokenId := 7 <<< 128
        streamB := [⟨9, .bridgeArrival, [9, 2, 0]⟩, ⟨7, .nativeMint, [7, 1, 0]⟩]
        crossings := [⟨['a'], .received, 9, some 7, false, [9, 2, 1]⟩,
          ⟨['a'], .sent, 7, some 9, false, [7, 1, 1]⟩]
        isRegisteredNamespace := none } = .resolved place :=
  (fold_perm rfl rfl (by decide) (by decide) (by
    simp [Apart, entriesOf, Entry.key, writerIdFromOrderKey, compareWriterOrderKeys,
      compareFrom])).1

end Kargain.Custody
