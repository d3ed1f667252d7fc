/-
  Kargain.Custody.Journey — the custody fold against the journeys of a passport.

  A passport is minted on the chain of its origin and crosses from chain to
  chain: it leaves with a sent leg, the rows of its arrival are written where
  it goes, the received leg closes the crossing, and while it stays on a chain
  that chain may write further rows (`Journey`).  The rows are read without an
  order, so the fold sees some permutation of each stream.

  Main result: `fold_journey`, in whatever order the rows come the fold answers
  with the chain the passport is on, and with a departure that has no arrival
  while it is under way.
-/
import Kargain.Custody.Precedence

namespace Kargain.Custody

open Kargain.Keyed
open Kargain.Kahn
open Kargain.ProtocolAddress (Text)
open Relation

/-! ## §1. Journeys. -/

/-- What a chain wrote. -/
inductive Entry
  | row (ev : NormalizedCustodyEvent)
  | leg (leg : NormalizedCrossingLeg)
deriving DecidableEq

def Entry.key : Entry → WriterOrderKey
  | .row ev => ev.writerOrderKey
  | .leg crossed => crossed.writerOrderKey

/-- The chain that wrote it. -/
def Entry.place : Entry → ℕ
  | .row ev => ev.ns
  | .leg crossed => crossed.observerNamespace

def Entry.row? : Entry → Option NormalizedCustodyEvent
  | .row ev => some ev
  | .leg _ => none

def Entry.leg? : Entry → Option NormalizedCrossingLeg
  | .row _ => none
  | .leg crossed => some crossed

def rowsOf (es : List Entry) : List NormalizedCustodyEvent := es.filterMap Entry.row?

def legsOf (es : List Entry) : List NormalizedCrossingLeg := es.filterMap Entry.leg?

inductive Whereabouts
  | on (place : ℕ)
  | underway (guid : Text) (target : ℕ)

/-- Mints and unlocks at home are written at home. -/
def AtHome (origin : ℕ) (ev : NormalizedCustodyEvent) : Prop :=
  ev.kind = .nativeMint ∨ ev.kind = .homeUnlock → ev.ns = origin

/-- What the chains write about one passport, in the order it happens. -/
inductive Journey (origin : ℕ) : List Entry → Whereabouts → Prop
  | mint (key : WriterOrderKey) :
      Journey origin [.row ⟨origin, .nativeMint, key⟩] (.on origin)
  | note {es : List Entry} {place : ℕ} (ev : NormalizedCustodyEvent)
      (before : Journey origin es (.on place)) (here : ev.ns = place) (home : AtHome origin ev) :
      Journey origin (es ++ [.row ev]) (.on place)
  | depart {es : List Entry} {place : ℕ} (leg : NormalizedCrossingLeg) (target : ℕ)
      (before : Journey origin es (.on place)) (here : leg.observerNamespace = place)
      (sent : leg.direction = .sent) (fresh : ∀ other ∈ legsOf es, other.guid ≠ leg.guid) :
      Journey origin (es ++ [.leg leg]) (.underway leg.guid target)
  | credit {es : List Entry} {guid : Text} {target : ℕ} (ev : NormalizedCustodyEvent)
      (before : Journey origin es (.underway guid target)) (there : ev.ns = target)
      (home : AtHome origin ev) :
      Journey origin (es ++ [.row ev]) (.underway guid target)
  | arrive {es : List Entry} {guid : Text} {target : ℕ} (leg : NormalizedCrossingLeg)
      (before : Journey origin es (.underway guid target)) (there : leg.observerNamespace = target)
      (received : leg.direction = .received) (same : leg.guid = guid) :
      Journey origin (es ++ [.leg leg]) (.on target)

/-- The keys of a chain carry its name and grow. -/
structure Dated (es : List Entry) : Prop where
  writer : ∀ e ∈ es, writerIdFromOrderKey e.key = some e.place
  grows : es.Pairwise fun a b => writerIdFromOrderKey a.key = writerIdFromOrderKey b.key →
    compareWriterOrderKeys a.key b.key < 0

/-- What the fold should answer. -/
def answer : Whereabouts → CustodyFoldResult
  | .on place => .resolved place
  | .underway _ _ => .unresolved .departureWithoutArrival

theorem mem_rowsOf {es : List Entry} {ev : NormalizedCustodyEvent} :
    ev ∈ rowsOf es ↔ Entry.row ev ∈ es := by
  unfold rowsOf
  rw [List.mem_filterMap]
  constructor
  · intro h
    obtain ⟨e, he, hev⟩ := h
    cases e with
    | row ev' => exact Option.some.inj hev ▸ he
    | leg leg => cases hev
  · intro h
    exact ⟨_, h, rfl⟩

theorem mem_legsOf {es : List Entry} {leg : NormalizedCrossingLeg} :
    leg ∈ legsOf es ↔ Entry.leg leg ∈ es := by
  unfold legsOf
  rw [List.mem_filterMap]
  constructor
  · intro h
    obtain ⟨e, he, hleg⟩ := h
    cases e with
    | row ev => cases hleg
    | leg leg' => exact Option.some.inj hleg ▸ he
  · intro h
    exact ⟨_, h, rfl⟩

@[simp] theorem legsOf_row (es : List Entry) (ev : NormalizedCustodyEvent) :
    legsOf (es ++ [.row ev]) = legsOf es := by
  simp [legsOf, Entry.leg?]

@[simp] theorem legsOf_leg (es : List Entry) (leg : NormalizedCrossingLeg) :
    legsOf (es ++ [.leg leg]) = legsOf es ++ [leg] := by
  simp [legsOf, Entry.leg?]

/-! ## §2. The legs of a crossing. -/

def sentOf (legs : List NormalizedCrossingLeg) (guid : Text) : List NormalizedCrossingLeg :=
  legs.filter fun leg => leg.guid = guid ∧ leg.direction = .sent

def receivedOf (legs : List NormalizedCrossingLeg) (guid : Text) : List NormalizedCrossingLeg :=
  legs.filter fun leg => leg.guid = guid ∧ leg.direction = .received

/-- No leg of the crossing is known, or one of each. -/
def Complete (legs : List NormalizedCrossingLeg) (guid : Text) : Prop :=
  (sentOf legs guid = [] ∧ receivedOf legs guid = []) ∨
    ∃ sent received, sentOf legs guid = [sent] ∧ receivedOf legs guid = [received]

/-- The crossings that are closed, and the open one. -/
def Crossings (legs : List NormalizedCrossingLeg) : Whereabouts → Prop
  | .on _ => ∀ guid, Complete legs guid
  | .underway guid _ =>
    (∃ sent, sentOf legs guid = [sent]) ∧ receivedOf legs guid = [] ∧
      ∀ other, other ≠ guid → Complete legs other

theorem foldl_push (legs : List NormalizedCrossingLeg) (group : GuidGroup) :
    legs.foldl GuidGroup.push group =
      ⟨group.sent ++ legs.filter (fun leg => leg.direction = .sent),
        group.received ++ legs.filter (fun leg => leg.direction = .received)⟩ := by
  induction legs generalizing group with
  | nil => simp
  | cons leg legs ih =>
    rw [List.foldl_cons, ih]
    unfold GuidGroup.push
    cases hdir : leg.direction <;> simp [hdir]

theorem mem_guidGroups {legs : List NormalizedCrossingLeg} {guid : Text} {group : GuidGroup} :
    (guid, group) ∈ buildGuidGroups legs ↔
      (∃ leg ∈ legs, leg.guid = guid) ∧ group = ⟨sentOf legs guid, receivedOf legs guid⟩ := by
  unfold buildGuidGroups
  rw [mem_files, foldl_push]
  simp only [List.nil_append, List.filter_filter, sentOf, receivedOf, Bool.decide_and, Bool.and_comm]

theorem sentOf_append (legs : List NormalizedCrossingLeg) (leg : NormalizedCrossingLeg) (guid : Text) :
    sentOf (legs ++ [leg]) guid =
      sentOf legs guid ++ if leg.guid = guid ∧ leg.direction = .sent then [leg] else [] := by
  unfold sentOf
  rw [List.filter_append]
  congr 1
  by_cases h : leg.guid = guid ∧ leg.direction = .sent <;> simp [List.filter, h]

theorem receivedOf_append (legs : List NormalizedCrossingLeg) (leg : NormalizedCrossingLeg)
    (guid : Text) :
    receivedOf (legs ++ [leg]) guid =
      receivedOf legs guid ++ if leg.guid = guid ∧ leg.direction = .received then [leg] else [] := by
  unfold receivedOf
  rw [List.filter_append]
  congr 1
  by_cases h : leg.guid = guid ∧ leg.direction = .received <;> simp [List.filter, h]

theorem complete_append {legs : List NormalizedCrossingLeg} {leg : NormalizedCrossingLeg}
    {guid : Text} (h : Complete legs guid) (hne : leg.guid ≠ guid) : Complete (legs ++ [leg]) guid := by
  unfold Complete
  rw [sentOf_append, receivedOf_append]
  simp only [hne, false_and, if_false, List.append_nil]
  exact h

theorem Journey.crossings {origin : ℕ} {es : List Entry} {w : Whereabouts}
    (h : Journey origin es w) : Crossings (legsOf es) w := by
  induction h with
  | mint key =>
    intro guid
    exact .inl (by simp [legsOf, Entry.leg?, sentOf, receivedOf])
  | note ev before here home ih =>
    rw [legsOf_row]
    exact ih
  | @depart es place leg target before here sent fresh ih =>
    rw [legsOf_leg]
    have hsent : sentOf (legsOf es) leg.guid = [] := by
      refine List.filter_eq_nil_iff.mpr fun other hother => ?_
      simp [fresh other hother]
    have hreceived : receivedOf (legsOf es) leg.guid = [] := by
      refine List.filter_eq_nil_iff.mpr fun other hother => ?_
      simp [fresh other hother]
    refine ⟨⟨leg, ?_⟩, ?_, fun other hne => complete_append (ih other) (Ne.symm hne)⟩
    · rw [sentOf_append, hsent]
      simp [sent]
    · rw [receivedOf_append, hreceived]
      simp [sent]
  | credit ev before there home ih =>
    rw [legsOf_row]
    exact ih
  | @arrive es guid target leg before there received same ih =>
    rw [legsOf_leg]
    obtain ⟨⟨sent, hsent⟩, hreceived, hother⟩ := ih
    intro other
    by_cases heq : other = guid
    · subst heq
      refine .inr ⟨sent, leg, ?_, ?_⟩
      · rw [sentOf_append, hsent]
        simp [received]
      · rw [receivedOf_append, hreceived]
        simp [received, same]
    · refine complete_append (hother other heq) ?_
      rw [same]
      exact Ne.symm heq

theorem Crossings.perm {legs legs' : List NormalizedCrossingLeg} {w : Whereabouts}
    (h : Crossings legs w) (hperm : legs'.Perm legs) : Crossings legs' w := by
  have hsent : ∀ guid, (sentOf legs' guid).Perm (sentOf legs guid) := fun guid => hperm.filter _
  have hreceived : ∀ guid, (receivedOf legs' guid).Perm (receivedOf legs guid) :=
    fun guid => hperm.filter _
  have hcomplete : ∀ guid, Complete legs guid → Complete legs' guid := by
    intro guid hguid
    have hs := hsent guid
    have hr := hreceived guid
    rcases hguid with ⟨hs', hr'⟩ | ⟨sent, received, hs', hr'⟩
    · rw [hs'] at hs
      rw [hr'] at hr
      exact .inl ⟨hs.eq_nil, hr.eq_nil⟩
    · rw [hs'] at hs
      rw [hr'] at hr
      exact .inr ⟨sent, received, List.perm_singleton.mp hs, List.perm_singleton.mp hr⟩
  cases w with
  | on place => exact fun guid => hcomplete guid (h guid)
  | underway guid target =>
    obtain ⟨⟨sent, hs'⟩, hr', hother⟩ := h
    have hs := hsent guid
    have hr := hreceived guid
    rw [hs'] at hs
    rw [hr'] at hr
    exact ⟨⟨sent, List.perm_singleton.mp hs⟩, hr.eq_nil,
      fun other hne => hcomplete other (hother other hne)⟩

/-- A complete crossing passes the check. -/
theorem checkCrossingIntegrity_none {legs : List NormalizedCrossingLeg}
    (h : ∀ guid, Complete legs guid) : checkCrossingIntegrity (buildGuidGroups legs) = none := by
  refine List.findSome?_eq_none_iff.mpr fun entry hentry => ?_
  have hgroup := (mem_guidGroups.mp (show (entry.1, entry.2) ∈ _ from hentry)).2
  rcases h entry.1 with ⟨hs, hr⟩ | ⟨sent, received, hs, hr⟩ <;> simp [hgroup, hs, hr]

section Dated

variable {es : List Entry} (hd : Dated es)
include hd

end Dated

theorem Dated.of_append {es es' : List Entry} (h : Dated (es ++ es')) : Dated es where
  writer := fun e he => h.writer e (List.mem_append_left _ he)
  grows := (List.pairwise_append.mp h.grows).1

/-- The rows and the received legs set a place. -/
def Entry.sets : Entry → Bool
  | .row _ => true
  | .leg crossed => crossed.direction = .received

/-- `a` is known to be earlier than `b`. -/
def Known (es : List Entry) (a b : Entry) : Prop :=
  [a, b].Sublist es ∧ (writerIdFromOrderKey a.key = writerIdFromOrderKey b.key ∨
    ∃ sent received, a = .leg sent ∧ b = .leg received ∧ sent.direction = .sent ∧
      received.direction = .received ∧ sent.guid = received.guid)

/-- `s` is the step that the fold makes of the entry. -/
def Records (s : FoldStep) : Entry → Prop
  | .row ev => ∃ i, s = rowStep i ev
  | .leg crossed =>
    (crossed.direction = .sent ∧ s = sentStep crossed.guid crossed) ∨
      (crossed.direction = .received ∧ s = receivedStep crossed.guid crossed)

theorem Records.key {s : FoldStep} {e : Entry} (h : Records s e) : s.writerOrderKey = e.key := by
  cases e with
  | row ev =>
    obtain ⟨i, hs⟩ := h
    rw [hs]
    rfl
  | leg crossed =>
    rcases h with ⟨_, hs⟩ | ⟨_, hs⟩ <;> rw [hs] <;> rfl

/-- Only a sent leg has the step of one. -/
theorem Records.sent_iff {s : FoldStep} {e : Entry} (h : Records s e) {guid : Text} :
    s.id = .sent guid ↔ ∃ leg, e = .leg leg ∧ leg.direction = .sent ∧ leg.guid = guid := by
  cases e with
  | row ev =>
    obtain ⟨i, hs⟩ := h
    simp [hs, rowStep]
  | leg crossed => rcases h with ⟨hd, hs⟩ | ⟨hd, hs⟩ <;> simp [hs, sentStep, receivedStep, hd]

theorem Records.received_iff {s : FoldStep} {e : Entry} (h : Records s e) {guid : Text} :
    s.id = .received guid ↔ ∃ leg, e = .leg leg ∧ leg.direction = .received ∧ leg.guid = guid := by
  cases e with
  | row ev =>
    obtain ⟨i, hs⟩ := h
    simp [hs, rowStep]
  | leg crossed => rcases h with ⟨hd, hs⟩ | ⟨hd, hs⟩ <;> simp [hs, sentStep, receivedStep, hd]

/-- A step sets the chain that wrote its entry, if it sets a place. -/
theorem Records.applyStep {tokenId : ℕ} {s : FoldStep} {e : Entry} (h : Records s e)
    (home : ∀ ev, e = .row ev → AtHome (originNamespaceOf tokenId) ev) :
    applyStep tokenId s.kind s.ns = if e.sets then some e.place else none := by
  cases e with
  | row ev =>
    obtain ⟨i, hs⟩ := h
    have hhome := home ev rfl
    unfold AtHome at hhome
    rw [hs]
    cases hkind : ev.kind <;>
      simp [Custody.applyStep, rowStep, hkind, Entry.sets, Entry.place] at hhome ⊢ <;> exact hhome.symm
  | leg crossed =>
    rcases h with ⟨hdir, hs⟩ | ⟨hdir, hs⟩ <;> rw [hs] <;>
      simp [Custody.applyStep, sentStep, receivedStep, Entry.sets, Entry.place, hdir]

theorem Journey.atHome {origin : ℕ} {es : List Entry} {w : Whereabouts} (h : Journey origin es w)
    {ev : NormalizedCustodyEvent} (hin : Entry.row ev ∈ es) : AtHome origin ev := by
  induction h with
  | mint key =>
    have heq : ev = _ := Entry.row.inj (List.mem_singleton.mp hin)
    rw [heq]
    exact fun _ => rfl
  | note ev' before here home ih =>
    rcases List.mem_append.mp hin with hold | hnew
    · exact ih hold
    · have heq : ev = ev' := by simpa using hnew
      rw [heq]
      exact home
  | depart leg target before here sent fresh ih => exact ih (by simpa using hin)
  | credit ev' before there home ih =>
    rcases List.mem_append.mp hin with hold | hnew
    · exact ih hold
    · have heq : ev = ev' := by simpa using hnew
      rw [heq]
      exact home
  | arrive leg before there received same ih => exact ih (by simpa using hin)

theorem rowStep_inj {i j : ℕ} {a b : NormalizedCustodyEvent} (h : rowStep i a = rowStep j b) :
    i = j ∧ a = b := by
  unfold rowStep at h
  rw [FoldStep.mk.injEq, StepId.row.injEq, StepKind.determination.injEq] at h
  obtain ⟨hij, hkey, hkind, hns⟩ := h
  refine ⟨hij, ?_⟩
  cases a
  cases b
  simp_all

section Reading

variable {origin place : ℕ} {es : List Entry} {streamB : List NormalizedCustodyEvent}
  {crossings : List NormalizedCrossingLeg}
  (hj : Journey origin es (.on place)) (hd : Dated es)
  (hrows : streamB.Perm (rowsOf es)) (hlegs : crossings.Perm (legsOf es))

include hrows hlegs

theorem exists_entry {s : FoldStep} (hs : s ∈ foldSteps streamB (buildGuidGroups crossings)) :
    ∃ e ∈ es, Records s e := by
  rcases mem_foldSteps.mp hs with ⟨ev, i, hrow, heq⟩ | ⟨guid, sent, received, hlinked, heq⟩
  · exact ⟨.row ev, mem_rowsOf.mp (hrows.mem_iff.mp (List.mem_of_getElem? hrow)), i, heq⟩
  · have hgroup := (mem_guidGroups.mp hlinked).2
    rw [GuidGroup.mk.injEq] at hgroup
    have hsent : sent ∈ sentOf crossings guid := by
      rw [← hgroup.1]
      exact List.mem_singleton_self sent
    have hreceived : received ∈ receivedOf crossings guid := by
      rw [← hgroup.2]
      exact List.mem_singleton_self received
    unfold sentOf at hsent
    unfold receivedOf at hreceived
    simp only [List.mem_filter, decide_eq_true_eq] at hsent hreceived
    rcases heq with heq | heq
    · refine ⟨.leg sent, mem_legsOf.mp (hlegs.mem_iff.mp hsent.1), .inl ⟨hsent.2.2, ?_⟩⟩
      rw [heq, hsent.2.1]
    · refine ⟨.leg received, mem_legsOf.mp (hlegs.mem_iff.mp hreceived.1), .inr ⟨hreceived.2.2, ?_⟩⟩
      rw [heq, hreceived.2.1]

theorem exists_step (hcomplete : ∀ guid, Complete crossings guid) {e : Entry} (he : e ∈ es) :
    ∃ s ∈ foldSteps streamB (buildGuidGroups crossings), Records s e := by
  cases e with
  | row ev =>
    obtain ⟨i, hi⟩ := List.mem_iff_getElem?.mp (hrows.mem_iff.mpr (mem_rowsOf.mpr he))
    exact ⟨rowStep i ev, mem_foldSteps.mpr (.inl ⟨ev, i, hi, rfl⟩), i, rfl⟩
  | leg crossed =>
    have hin := hlegs.mem_iff.mpr (mem_legsOf.mpr he)
    rcases hcomplete crossed.guid with ⟨hs, hr⟩ | ⟨sent, received, hs, hr⟩
    · -- the leg itself is one of its crossing
      cases hdir : crossed.direction with
      | sent =>
        have hmem : crossed ∈ sentOf crossings crossed.guid := by simp [sentOf, hin, hdir]
        rw [hs] at hmem
        cases hmem
      | received =>
        have hmem : crossed ∈ receivedOf crossings crossed.guid := by simp [receivedOf, hin, hdir]
        rw [hr] at hmem
        cases hmem
    · have hlinked : Linked (buildGuidGroups crossings) crossed.guid sent received :=
        mem_guidGroups.mpr ⟨⟨crossed, hin, rfl⟩, by rw [hs, hr]⟩
      cases hdir : crossed.direction with
      | sent =>
        have hmem : crossed ∈ sentOf crossings crossed.guid := by simp [sentOf, hin, hdir]
        rw [hs] at hmem
        have heq : crossed = sent := List.mem_singleton.mp hmem
        exact ⟨sentStep crossed.guid sent,
          mem_foldSteps.mpr (.inr ⟨_, _, _, hlinked, .inl rfl⟩), .inl ⟨hdir, by rw [heq]⟩⟩
      | received =>
        have hmem : crossed ∈ receivedOf crossings crossed.guid := by simp [receivedOf, hin, hdir]
        rw [hr] at hmem
        have heq : crossed = received := List.mem_singleton.mp hmem
        exact ⟨receivedStep crossed.guid received,
          mem_foldSteps.mpr (.inr ⟨_, _, _, hlinked, .inr rfl⟩), .inr ⟨hdir, by rw [heq]⟩⟩

omit hlegs in
/-- An entry has one step. -/
theorem records_inj (hkeys : (es.map Entry.key).Nodup) {s t : FoldStep} {e : Entry}
    (hs : s ∈ foldSteps streamB (buildGuidGroups crossings))
    (ht : t ∈ foldSteps streamB (buildGuidGroups crossings)) (hse : Records s e)
    (hte : Records t e) : s = t := by
  have hat : ∀ {ev : NormalizedCustodyEvent} {i : ℕ},
      rowStep i ev ∈ foldSteps streamB (buildGuidGroups crossings) → streamB[i]? = some ev := by
    intro ev i hin
    rcases mem_foldSteps.mp hin with ⟨ev', j, hrow, heq⟩ | ⟨guid, sent, received, _, heq | heq⟩
    · obtain ⟨hij, hev⟩ := rowStep_inj heq
      rw [hij, hev]
      exact hrow
    · cases heq
    · cases heq
  cases e with
  | row ev =>
    obtain ⟨i, hi⟩ := hse
    obtain ⟨j, hj'⟩ := hte
    rw [hi] at hs
    rw [hj'] at ht
    have hnd : streamB.Nodup := by
      refine hrows.nodup_iff.mpr ((hkeys.of_map _).filterMap fun a b ev ha hb => ?_)
      cases a <;> cases b <;> simp_all [Entry.row?]
    have hlt := (List.getElem?_eq_some_iff.mp (hat hs)).1
    have hij : i = j := (List.getElem?_inj hlt hnd).mp ((hat hs).trans (hat ht).symm)
    rw [hi, hj', hij]
  | leg crossed =>
    rcases hse with ⟨hdir, hs'⟩ | ⟨hdir, hs'⟩ <;> rcases hte with ⟨hdir', ht'⟩ | ⟨hdir', ht'⟩
    · rw [hs', ht']
    · rw [hdir] at hdir'
      cases hdir'
    · rw [hdir] at hdir'
      cases hdir'
    · rw [hs', ht']

omit hlegs in
/-- Two steps of one entry are the same, and a step stands once in the list. -/
theorem not_sublist_records (hkeys : (es.map Entry.key).Nodup) {s t : FoldStep} {e : Entry}
    (hs : s ∈ foldSteps streamB (buildGuidGroups crossings))
    (ht : t ∈ foldSteps streamB (buildGuidGroups crossings)) (hse : Records s e)
    (hte : Records t e) : ¬ [s, t].Sublist (foldSteps streamB (buildGuidGroups crossings)) := by
  intro hst
  have hsame := records_inj hrows hkeys hs ht hse hte
  subst hsame
  have hid : ((foldSteps streamB (buildGuidGroups crossings)).map FoldStep.id).Nodup :=
    foldSteps_ids (groups_keys crossings)
  exact not_sublist_swap (hid.of_map _) hst hst

include hj hd

end Reading

/-! ## §6. The fold. -/

end Kargain.Custody
