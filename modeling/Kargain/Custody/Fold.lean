/-
  Kargain.Custody.Fold — lib/custody/fold.ts, writer-order.ts, origin.ts and the types of
  normalized-event.ts.

  Where is a passport?  Its history comes as two streams of rows: the events
  that determine custody on a chain, and the legs of its crossings between
  chains.  The rows of one chain are ordered by their keys; rows of different
  chains are ordered by nothing but the two legs of a crossing.  The fold
  sorts them by what is known and lets each one set the place.
-/
import Kargain.Base.Kahn
import Kargain.Base.Keyed
import Kargain.Wire.ProtocolAddress

namespace Kargain.Custody

open Kargain.Keyed
open Kargain.Kahn
open Kargain.ProtocolAddress (Text)

/-! ## §1. Writers and their order. -/

/-- `a-b-c` is the list of its segments. -/
abbrev WriterOrderKey := List ℕ

def evmWriterOrderKey (chainId blockNumber logIndex : ℕ) : WriterOrderKey :=
  [chainId, blockNumber, logIndex]

def writerIdFromOrderKey (writerOrderKey : WriterOrderKey) : Option ℕ := writerOrderKey.head?

/-- The loop over the segments from `i` on; a segment that is missing counts as zero. -/
def compareFrom (pa pb : WriterOrderKey) : ℕ → ℕ → ℤ
  | 0, _ => 0
  | len + 1, i =>
    let da := pa.getD i 0
    let db := pb.getD i 0
    if da ≠ db then (da : ℤ) - db else compareFrom pa pb len (i + 1)

/-- Total order within one writer. -/
def compareWriterOrderKeys (a b : WriterOrderKey) : ℤ :=
  compareFrom a b (max a.length b.length) 0

theorem compareFrom_swap (a b : WriterOrderKey) :
    ∀ len i, compareFrom b a len i = -compareFrom a b len i
  | 0, _ => rfl
  | len + 1, i => by
    unfold compareFrom
    simp only
    by_cases h : a.getD i 0 = b.getD i 0
    · simp only [h, ne_eq, not_true, if_false]
      exact compareFrom_swap a b len (i + 1)
    · simp only [ne_eq, h, Ne.symm h, not_false_eq_true, if_true]
      omega

theorem compare_swap (a b : WriterOrderKey) :
    compareWriterOrderKeys b a = -compareWriterOrderKeys a b := by
  unfold compareWriterOrderKeys
  rw [max_comm]
  exact compareFrom_swap a b _ 0

theorem compare_self (key : WriterOrderKey) : compareWriterOrderKeys key key = 0 := by
  have hswap := compare_swap key key
  omega

/-- Past the end of both keys nothing differs. -/
theorem compareFrom_past {a b : WriterOrderKey} :
    ∀ (len i : ℕ), a.length ≤ i → b.length ≤ i → compareFrom a b len i = 0
  | 0, _, _, _ => rfl
  | len + 1, i, ha, hb => by
    unfold compareFrom
    simp only [List.getD_eq_default a 0 ha, List.getD_eq_default b 0 hb, ne_eq, not_true, if_false]
    exact compareFrom_past len (i + 1) (by omega) (by omega)

theorem compareFrom_more {a b : WriterOrderKey} (more : ℕ) :
    ∀ (len i : ℕ), a.length ≤ i + len → b.length ≤ i + len →
      compareFrom a b (len + more) i = compareFrom a b len i
  | 0, i, ha, hb => by
    rw [Nat.zero_add]
    exact compareFrom_past more i ha hb
  | len + 1, i, ha, hb => by
    rw [Nat.add_right_comm]
    unfold compareFrom
    simp only
    rw [compareFrom_more more len (i + 1) (by omega) (by omega)]

theorem compare_eq {a b : WriterOrderKey} {len : ℕ} (ha : a.length ≤ len) (hb : b.length ≤ len) :
    compareWriterOrderKeys a b = compareFrom a b len 0 := by
  obtain ⟨more, hmore⟩ := Nat.exists_eq_add_of_le (max_le ha hb)
  rw [hmore, compareFrom_more more _ 0 (by omega) (by omega)]
  rfl

theorem compareFrom_trans {a b c : WriterOrderKey} :
    ∀ {len i : ℕ}, compareFrom a b len i ≤ 0 → compareFrom b c len i ≤ 0 → compareFrom a c len i ≤ 0
  | 0, _, _, _ => le_rfl
  | len + 1, i, hab, hbc => by
    unfold compareFrom at hab hbc ⊢
    simp only at hab hbc ⊢
    have hrest := @compareFrom_trans a b c len (i + 1)
    split at hab <;> split at hbc <;> split <;> omega

theorem compare_trans {a b c : WriterOrderKey} (hab : compareWriterOrderKeys a b ≤ 0)
    (hbc : compareWriterOrderKeys b c ≤ 0) : compareWriterOrderKeys a c ≤ 0 := by
  have hlen : ∀ k ∈ [a, b, c], k.length ≤ a.length + b.length + c.length := by
    intro k hk
    simp only [List.mem_cons, List.not_mem_nil, or_false] at hk
    rcases hk with h | h | h <;> rw [h] <;> omega
  rw [compare_eq (hlen a (by simp)) (hlen b (by simp))] at hab
  rw [compare_eq (hlen b (by simp)) (hlen c (by simp))] at hbc
  rw [compare_eq (hlen a (by simp)) (hlen c (by simp))]
  exact compareFrom_trans hab hbc

/-- `tokenId >> 128`. -/
def originNamespaceOf (tokenId : ℕ) : ℕ := tokenId >>> 128

/-! ## §2. Rows. -/

inductive CustodyDeterminationKind
  | nativeMint
  | bridgeArrival
  | custodyUnlock
  | homeUnlock
deriving DecidableEq

structure NormalizedCustodyEvent where
  ns : ℕ
  kind : CustodyDeterminationKind
  writerOrderKey : WriterOrderKey
deriving DecidableEq

inductive Direction
  | sent
  | received
deriving DecidableEq

structure NormalizedCrossingLeg where
  guid : Text
  direction : Direction
  observerNamespace : ℕ
  peerNamespace : Option ℕ
  /-- `peerNamespaceRefusal` is `unknown_endpoint_id`. -/
  unknownEndpointId : Bool
  writerOrderKey : WriterOrderKey
deriving DecidableEq

inductive CustodyUnresolvedCause
  | emptyHistory
  | departureWithoutArrival
  | incompleteCrossingLink
  | unknownNamespace
  | conflictingDetermination
deriving DecidableEq

inductive CustodyFoldResult
  | resolved (custodyNamespace : ℕ)
  | unresolved (cause : CustodyUnresolvedCause)
deriving DecidableEq

structure CustodyFoldInput where
  tokenId : ℕ
  streamB : List NormalizedCustodyEvent
  crossings : List NormalizedCrossingLeg
  isRegisteredNamespace : Option (ℕ → Bool)

/-! ## §3. Checks. -/

def namespaceAllowed (ns : ℕ) (isRegistered : ℕ → Bool) : Bool := isRegistered ns

structure GuidGroup where
  sent : List NormalizedCrossingLeg
  received : List NormalizedCrossingLeg
deriving DecidableEq

def GuidGroup.push (group : GuidGroup) (leg : NormalizedCrossingLeg) : GuidGroup :=
  match leg.direction with
  | .sent => { group with sent := group.sent ++ [leg] }
  | .received => { group with received := group.received ++ [leg] }

def buildGuidGroups (crossings : List NormalizedCrossingLeg) : List (Text × GuidGroup) :=
  files NormalizedCrossingLeg.guid GuidGroup.push ⟨[], []⟩ crossings

def checkCrossingIntegrity (groups : List (Text × GuidGroup)) : Option CustodyUnresolvedCause :=
  groups.findSome? fun entry =>
    let group := entry.2
    if group.received.length > 0 ∧ group.sent.length = 0 then some .incompleteCrossingLink
    else if group.sent.length > 1 ∨ group.received.length > 1 then some .incompleteCrossingLink
    else if group.sent.length = 1 ∧ group.received.length = 0 then some .departureWithoutArrival
    else none

def checkUnknownNamespace (input : CustodyFoldInput) : Option CustodyUnresolvedCause :=
  match input.isRegisteredNamespace with
  | none => none
  | some reg =>
    if input.streamB.any fun ev => !namespaceAllowed ev.ns reg then some .unknownNamespace
    else if input.crossings.any fun leg =>
        !namespaceAllowed leg.observerNamespace reg || leg.unknownEndpointId ||
          (leg.peerNamespace.any fun peer => !namespaceAllowed peer reg) then
      some .unknownNamespace
    else none

/-! ## §4. Steps. -/

inductive StepKind
  | determination (kind : CustodyDeterminationKind)
  | crossingArrival
  | crossingDeparture
deriving DecidableEq

/-- `b-idx`, `x-guid-sent` and `x-guid-received`. -/
inductive StepId
  | row (idx : ℕ)
  | sent (guid : Text)
  | received (guid : Text)
deriving DecidableEq

structure FoldStep where
  id : StepId
  writerOrderKey : WriterOrderKey
  kind : StepKind
  ns : ℕ
deriving DecidableEq

/-- The place that a step sets, if it sets one. -/
def applyStep (tokenId : ℕ) (kind : StepKind) (ns : ℕ) : Option ℕ :=
  match kind with
  | .crossingDeparture => none
  | .determination .nativeMint => some (originNamespaceOf tokenId)
  | .determination .homeUnlock => some (originNamespaceOf tokenId)
  | .determination .bridgeArrival => some ns
  | .determination .custodyUnlock => some ns
  | .crossingArrival => some ns

def rowStep (idx : ℕ) (ev : NormalizedCustodyEvent) : FoldStep :=
  { id := .row idx, writerOrderKey := ev.writerOrderKey, kind := .determination ev.kind, ns := ev.ns }

def sentStep (guid : Text) (leg : NormalizedCrossingLeg) : FoldStep :=
  { id := .sent guid, writerOrderKey := leg.writerOrderKey, kind := .crossingDeparture,
    ns := leg.observerNamespace }

def receivedStep (guid : Text) (leg : NormalizedCrossingLeg) : FoldStep :=
  { id := .received guid, writerOrderKey := leg.writerOrderKey, kind := .crossingArrival,
    ns := leg.observerNamespace }

/-- The two steps of a crossing that has both of its legs. -/
def groupSteps (guid : Text) (group : GuidGroup) : List FoldStep :=
  match group.sent, group.received with
  | [sent], [received] => [sentStep guid sent, receivedStep guid received]
  | _, _ => []

/-- The row is on the chain of arrival and was written after the received leg. -/
def followsArrival (ev : NormalizedCustodyEvent) (received : NormalizedCrossingLeg) : Bool :=
  ev.ns = received.observerNamespace &&
    writerIdFromOrderKey ev.writerOrderKey = writerIdFromOrderKey received.writerOrderKey &&
      compareWriterOrderKeys ev.writerOrderKey received.writerOrderKey > 0

def groupEdges (streamB : List NormalizedCustodyEvent) (guid : Text) (group : GuidGroup) :
    List (StepId × StepId) :=
  match group.sent, group.received with
  | [_], [received] =>
    (.sent guid, .received guid) ::
      (streamB.zipIdx.filter fun row => followsArrival row.1 received).map fun row =>
        (.received guid, .row row.2)
  | _, _ => []

/-- What `index.get` finds. -/
def indexOf (steps : List FoldStep) (id : StepId) : Option ℕ :=
  steps.findIdx? fun step => step.id = id

def edgeOf (steps : List FoldStep) (edge : StepId × StepId) : Option (ℕ × ℕ) :=
  (indexOf steps edge.1).bind fun source => (indexOf steps edge.2).map fun target => (source, target)

/-- The steps of each writer in the order of their keys; the sort is stable. -/
def byWriter (steps : List FoldStep) : List (Option ℕ × List FoldStep) :=
  (files (fun step : FoldStep => writerIdFromOrderKey step.writerOrderKey)
    (fun list step => list ++ [step]) [] steps).map fun entry =>
      (entry.1, entry.2.insertionSort fun a b =>
        compareWriterOrderKeys a.writerOrderKey b.writerOrderKey ≤ 0)

def writerEdges (steps : List FoldStep) : List (StepId × StepId) :=
  (byWriter steps).flatMap fun entry => (neighbours entry.2).map fun pair => (pair.1.id, pair.2.id)

def edgesOf (steps : List FoldStep) (guidEdges : List (StepId × StepId)) : List (ℕ × ℕ) :=
  (writerEdges steps ++ guidEdges).filterMap (edgeOf steps)

/-- The place that the step at `i` sets. -/
def valueAt (tokenId : ℕ) (steps : List FoldStep) (i : ℕ) : Option ℕ :=
  steps[i]?.bind fun step => applyStep tokenId step.kind step.ns

def topologicalApply (tokenId : ℕ) (steps : List FoldStep) (guidEdges : List (StepId × StepId)) :
    CustodyFoldResult :=
  let order := sort steps.length (edgesOf steps guidEdges)
  if order.length ≠ steps.length then .unresolved .conflictingDetermination
  else match lastValue (valueAt tokenId steps) order with
    | none => .unresolved .emptyHistory
    | some custody => .resolved custody

/-! ## §5. The fold. -/

def foldSteps (streamB : List NormalizedCustodyEvent) (groups : List (Text × GuidGroup)) :
    List FoldStep :=
  (streamB.zipIdx.map fun row => rowStep row.2 row.1) ++
    groups.flatMap fun entry => groupSteps entry.1 entry.2

def foldEdges (streamB : List NormalizedCustodyEvent) (groups : List (Text × GuidGroup)) :
    List (StepId × StepId) :=
  groups.flatMap fun entry => groupEdges streamB entry.1 entry.2

def foldPassportCustody (input : CustodyFoldInput) : CustodyFoldResult :=
  match checkUnknownNamespace input with
  | some unknown => .unresolved unknown
  | none =>
    if input.streamB.length = 0 ∧ input.crossings.length = 0 then .unresolved .emptyHistory
    else
      let groups := buildGuidGroups input.crossings
      match checkCrossingIntegrity groups with
      | some cause => .unresolved cause
      | none =>
        let steps := foldSteps input.streamB groups
        if steps.length = 0 then .unresolved .emptyHistory
        else topologicalApply input.tokenId steps (foldEdges input.streamB groups)

end Kargain.Custody
