/-
  Kargain.Commons.Assemble — lib/vincent-commons/assemble.ts, queue.ts and the threshold of
  wmi-claim.ts.

  The assembler asks the relays for the reviews of the claims that were
  derived or proposed, keeps the newest of each author, and of these the
  ones whose author is bound to the attester (the first gate) and whose
  attester is an active verifier (the second).  A claim is accepted when
  none of them rejects it and the first accepts that meet the threshold
  are old enough.

  Main result: `assemble_perm`, the batch does not depend on the order in
  which observations and events arrive.
-/
import Kargain.Commons.Reviews

namespace Kargain.Commons

open Kargain.Keyed
open Kargain.ProtocolAddress (Text trim)

/-! ## §1. Candidates and thresholds. -/

structure CommonsCandidate where
  claimHash : Text
  wmi : Text
  year : ℤ
  vds : Text
  attr : Text
  code : Text
  tokenIds : List Text
deriving DecidableEq

/-- The group of a schema: the last binding of it. -/
def groupBySchema (claims : List Claim) (schema : Text) : Option (Text × ℤ) :=
  claims.reverse.findSome? fun
    | .vdsBinding _ wmi yearFrom _ schema' => if schema' = schema then some (wmi, yearFrom) else none
    | _ => none

def buildCommonsCandidates (hash : Claim → Text) (claims : List Claim)
    (sources : List (Text × List Text)) : List CommonsCandidate :=
  claims.filterMap fun claim =>
    match claim with
    | .vdsPattern _ schema vds _ attr code =>
      let group := groupBySchema claims schema
      some { claimHash := hash claim, wmi := (group.map Prod.fst).getD [],
             year := (group.map Prod.snd).getD 0, vds := vds, attr := attr, code := code,
             tokenIds := (get (hash claim) sources).getD [] }
    | _ => none

/-- `address.trim().toLowerCase()`. -/
def normal (t : Text) : Text := toLowerCase (trim t)

/-- `verifierByTokenId` has the verifier of record of each token. -/
def candidateRecordVerifiers (candidate : CommonsCandidate) (verifierByTokenId : Text → Option Text) :
    List Text :=
  sortTexts (distinct ((candidate.tokenIds.filterMap fun tokenId =>
    (verifierByTokenId tokenId).map normal).filter fun verifier => verifier ≠ []))

structure CommonsThreshold where
  required : ℕ
  met : Bool
  recordVerifierAccepted : Bool

def candidateThreshold (candidate : CommonsCandidate) (verifierByTokenId : Text → Option Text)
    (endorsers : List Text) : CommonsThreshold :=
  let record := candidateRecordVerifiers candidate verifierByTokenId
  if endorsers.any fun address => normal address ∈ record then
    { required := 1, met := true, recordVerifierAccepted := true }
  else
    { required := 2, met := 2 ≤ (distinct (endorsers.map normal)).length,
      recordVerifierAccepted := false }

structure WmiProposalEndorser where
  address : Text
  pubkey : Text

structure WmiProposalThreshold where
  met : Bool
  proposerEndorsed : Bool
  independentAccepts : ℕ

/-- `byAddress`: the last key of each address. -/
def byAddress (endorsers : List WmiProposalEndorser) : List (Text × WmiProposalEndorser) :=
  collect (fun e => normal e.address) (fun e _ => e)
    (endorsers.filter fun e => normal e.address ≠ [])

def wmiProposalThreshold (proposalAuthorPubkey : Text) (endorsers : List WmiProposalEndorser) :
    WmiProposalThreshold :=
  let proposer := normal proposalAuthorPubkey
  let pubkeys := (byAddress endorsers).map fun p => normal p.2.pubkey
  let proposerEndorsed : Bool := pubkeys.any fun pubkey => pubkey = proposer
  let independentAccepts := pubkeys.countP fun pubkey => pubkey ≠ proposer
  { met := proposerEndorsed && decide (1 ≤ independentAccepts)
    proposerEndorsed := proposerEndorsed
    independentAccepts := independentAccepts }

/-! ## §2. The decision about one claim. -/

structure GatedVerdict where
  entry : CommonsReviewEntry
  attester : Text
deriving DecidableEq

inductive ClaimType | vdsPattern | wmi
deriving DecidableEq

inductive AssemblyExclusion
  | rejected (hash : Text) (claimType : ClaimType) (rejecters : List Text)
  | inactiveAttester (hash : Text) (claimType : ClaimType) (inactiveAttesters : List Text)
  | unattestedAttester (hash : Text) (claimType : ClaimType) (unattestedAttesters : List Text)
  | belowThreshold (hash : Text) (claimType : ClaimType) (acceptCount : ℕ)
  | inWindow (hash : Text) (claimType : ClaimType) (tMet remainingSeconds : ℤ)
deriving DecidableEq

def AssemblyExclusion.claimHash : AssemblyExclusion → Text
  | rejected hash .. | inactiveAttester hash .. | unattestedAttester hash .. | belowThreshold hash ..
  | inWindow hash .. => hash

inductive ClaimDecision
  | accepted (tMet : ℤ) (endorsers : List Text)
  | excluded (exclusion : AssemblyExclusion)

def newerVerdict (a b : CommonsReviewEntry) : CommonsReviewEntry :=
  if a.createdAt ≠ b.createdAt then if b.createdAt < a.createdAt then a else b
  else if units a.eventId < units b.eventId then a else b

/-- `standingVerdicts(entries).get(hash)`: one verdict for each attester; nothing is the empty map. -/
def standingVerdicts (entries : List CommonsReviewEntry) (hash : Text) :
    List (Text × CommonsReviewEntry) :=
  collect CommonsReviewEntry.attester newerVerdict (entries.filter fun e => e.review.claim = hash)

def verdictKey (a : GatedVerdict) : ℤ ×ₗ List ℕ :=
  toLex (a.entry.createdAt, units a.entry.eventId)

def sortedAccepts (perAttester : List (Text × CommonsReviewEntry)) : List GatedVerdict :=
  sortBy verdictKey ((perAttester.filter fun p => p.2.review.kind = .endorse).map fun p =>
    { entry := p.2, attester := p.1 })

def standingRejecters (perAttester : List (Text × CommonsReviewEntry)) : List Text :=
  sortTexts ((perAttester.filter fun p => p.2.review.kind = .reject).map Prod.fst)

/-- The time of the first accept with which those so far meet the threshold. -/
def firstMet (thresholdMet : List GatedVerdict → Bool) (before : List GatedVerdict) :
    List GatedVerdict → Option ℤ
  | [] => none
  | a :: rest =>
    if thresholdMet (before ++ [a]) then some a.entry.createdAt
    else firstMet thresholdMet (before ++ [a]) rest

def attesterNames (accepts : List GatedVerdict) : List Text :=
  sortTexts (accepts.map GatedVerdict.attester)

def decideClaim (hash : Text) (claimType : ClaimType) (gated : List (Text × CommonsReviewEntry))
    (inactiveAccepts unattestedAccepts : List GatedVerdict)
    (thresholdMet : List GatedVerdict → Bool) (nowSeconds windowSeconds : ℤ) : ClaimDecision :=
  let rejecters := standingRejecters gated
  if 0 < rejecters.length then .excluded (.rejected hash claimType rejecters)
  else
    let accepts := sortedAccepts gated
    match firstMet thresholdMet [] accepts with
    | none =>
      let unattestedOnly := unattestedAccepts.filter fun a =>
        a.attester ∉ accepts.map GatedVerdict.attester
      if 0 < inactiveAccepts.length ∧ thresholdMet (accepts ++ inactiveAccepts) then
        .excluded (.inactiveAttester hash claimType (attesterNames inactiveAccepts))
      else if 0 < unattestedOnly.length ∧ thresholdMet (accepts ++ unattestedOnly) then
        .excluded (.unattestedAttester hash claimType (attesterNames unattestedOnly))
      else .excluded (.belowThreshold hash claimType accepts.length)
    | some tMet =>
      if nowSeconds < tMet + windowSeconds then
        .excluded (.inWindow hash claimType tMet (tMet + windowSeconds - nowSeconds))
      else .accepted tMet (attesterNames accepts)

/-! ## §3. The batch. -/

def secondsPerDay : ℤ := 86400

/-- The relays, the wallet bindings of the attesters and the snapshot of the active verifiers. -/
structure AssembleDeps where
  queryEvents : Filter → List Event
  attestedPubkey : Text → Option Text
  isActiveVerifier : Text → Bool

structure AssembleInput where
  observations : List VincentObservation
  verifierByTokenId : Text → Option Text
  nowSeconds : ℤ
  windowDays : ℤ
  baselineHashes : List Text
  deps : AssembleDeps

structure AssemblyAcceptedEntry where
  claimHash : Text
  claimType : ClaimType
  tMet : ℤ
  endorsers : List Text
deriving DecidableEq

structure ArchivedProposal where
  claim : Claim
  eventId : Text
  authorPubkey : Text
  createdAt : ℤ
deriving DecidableEq

structure AttestationArchiveEntry where
  reviews : List CommonsReviewEntry
  proposal : Option ArchivedProposal
deriving DecidableEq

structure AssemblyReport where
  nowSeconds : ℤ
  windowDays : ℤ
  windowSeconds : ℤ
  observations : ℕ
  patternCandidates : ℕ
  wmiProposals : ℕ
  reviewEvents : ℕ
  countedReviews : ℕ
  vdsSchema : ℕ
  vdsBinding : ℕ
  vdsPattern : ℕ
  wmi : ℕ
  total : ℕ
  accepted : List AssemblyAcceptedEntry
  excluded : List AssemblyExclusion
  conflicts : List DeriveConflict
  published : ℕ
  subtracted : ℕ
deriving DecidableEq

structure AssemblyResult where
  acceptedClaims : List Claim
  archive : List (Text × AttestationArchiveEntry)
  report : AssemblyReport
deriving DecidableEq

section Batch

variable (v : Protocol) (input : AssembleInput)

/-- Events of the future are dropped before the merge. -/
def asOfNow (nowSeconds : ℤ) (events : List Event) : List Event :=
  events.filter fun e => e.createdAt ≤ nowSeconds

/-- Step b: the proposals for the unknown WMIs. -/
def proposalsFrom (nowSeconds : ℤ) (unknownWmis : List Text) (events : List Event) :
    List CommonsWmiProposalEntry :=
  sortBy (fun p => units p.claimHash)
    ((dedupeCommonsWmiProposalEntries
      ((mergeLatestPerAuthorPerD (asOfNow nowSeconds events)).filterMap
        (commonsWmiProposalEntryFromEvent v))).filter fun entry => entry.wmi ∈ unknownWmis)

def proposalsFor (unknownWmis : List Text) : List CommonsWmiProposalEntry :=
  if 0 < unknownWmis.length then
    proposalsFrom v input.nowSeconds unknownWmis
      (input.deps.queryEvents (commonsClaimProposalFilterForWmis unknownWmis))
  else []

def reviewTargets (candidates : List CommonsCandidate) (proposals : List CommonsWmiProposalEntry) :
    List Text :=
  sortTexts (distinct (candidates.map CommonsCandidate.claimHash ++
    proposals.map CommonsWmiProposalEntry.claimHash))

def reviewEventsFor (targets : List Text) : List Event :=
  if 0 < targets.length then input.deps.queryEvents (commonsReviewFilterForClaims targets) else []

def reviewEntriesFrom (nowSeconds : ℤ) (targets : List Text) (events : List Event) :
    List CommonsReviewEntry :=
  ((mergeLatestPerAuthorPerD (asOfNow nowSeconds events)).filterMap
    (commonsReviewEntryFromEvent v)).filter fun entry => entry.review.claim ∈ targets

/-- Gate 1: the author of the event is the attested key of the attester. -/
def bound (deps : AssembleDeps) (entry : CommonsReviewEntry) : Bool :=
  match deps.attestedPubkey entry.attester with
  | some pubkey => pubkey ≠ [] ∧ pubkey = entry.authorPubkey
  | none => false

/-- Gates 1 and 2. -/
def gate1Entries (deps : AssembleDeps) (entries : List CommonsReviewEntry) : List CommonsReviewEntry :=
  entries.filter fun entry => bound deps entry && deps.isActiveVerifier entry.attester

def inactiveEntries (deps : AssembleDeps) (entries : List CommonsReviewEntry) :
    List CommonsReviewEntry :=
  entries.filter fun entry => bound deps entry && !deps.isActiveVerifier entry.attester

def unattestedEntries (deps : AssembleDeps) (entries : List CommonsReviewEntry) :
    List CommonsReviewEntry :=
  entries.filter fun entry => !bound deps entry

/-- A claim under review. -/
inductive Target
  | candidate (c : CommonsCandidate)
  | proposal (p : CommonsWmiProposalEntry)

def Target.hash : Target → Text
  | candidate c => c.claimHash
  | proposal p => p.claimHash

def Target.claimType : Target → ClaimType
  | candidate _ => .vdsPattern
  | proposal _ => .wmi

def Target.thresholdMet (verifierByTokenId : Text → Option Text) (t : Target)
    (accepts : List GatedVerdict) : Bool :=
  match t with
  | candidate c =>
    (candidateThreshold c verifierByTokenId (accepts.map GatedVerdict.attester)).met
  | proposal p =>
    (wmiProposalThreshold p.authorPubkey
      (accepts.map fun a => { address := a.attester, pubkey := a.entry.authorPubkey })).met

/-- Step d for one target. -/
def decideTarget (entries : List CommonsReviewEntry) (t : Target) : ClaimDecision :=
  decideClaim t.hash t.claimType (standingVerdicts (gate1Entries input.deps entries) t.hash)
    (sortedAccepts (standingVerdicts (inactiveEntries input.deps entries) t.hash))
    (sortedAccepts (standingVerdicts (unattestedEntries input.deps entries) t.hash))
    (t.thresholdMet input.verifierByTokenId) input.nowSeconds (input.windowDays * secondsPerDay)

/-- The values of `patternByHash`, in the order of the hashes, and the proposals. -/
def targetsOf (candidates : List CommonsCandidate) (proposals : List CommonsWmiProposalEntry) :
    List Target :=
  (sortBy (fun c => units c.claimHash)
    ((collect CommonsCandidate.claimHash (fun c _ => c) candidates).map Prod.snd)).map .candidate ++
  proposals.map .proposal

def acceptedEntry (entries : List CommonsReviewEntry) (t : Target) : Option AssemblyAcceptedEntry :=
  match decideTarget input entries t with
  | .accepted tMet endorsers =>
    some { claimHash := t.hash, claimType := t.claimType, tMet := tMet, endorsers := endorsers }
  | .excluded _ => none

def exclusion (entries : List CommonsReviewEntry) (t : Target) : Option AssemblyExclusion :=
  match decideTarget input entries t with
  | .accepted .. => none
  | .excluded e => some e

/-- The hashes of the accepted claims of a type. -/
def acceptedHashes (accepted : List AssemblyAcceptedEntry) (type : ClaimType) : List Text :=
  (accepted.filter fun e => e.claimType = type).map AssemblyAcceptedEntry.claimHash

/-- The values of `acceptedWmiByHash`. -/
def acceptedWmi (proposals : List CommonsWmiProposalEntry) (accepted : List AssemblyAcceptedEntry) :
    List CommonsWmiProposalEntry :=
  proposals.filter fun p => p.claimHash ∈ acceptedHashes accepted .wmi

def acceptedSchemaRefs (claims : List Claim) (accepted : List AssemblyAcceptedEntry) : List Text :=
  claims.filterMap fun claim =>
    match claim with
    | .vdsPattern _ schema .. =>
      if v.claimHash claim ∈ acceptedHashes accepted .vdsPattern then some schema else none
    | _ => none

/-- The claims of the output before the baseline is subtracted. -/
def outputSet (claims : List Claim) (proposals : List CommonsWmiProposalEntry)
    (accepted : List AssemblyAcceptedEntry) : List Claim :=
  (claims.filter fun claim =>
    match claim with
    | .vdsPattern .. => v.claimHash claim ∈ acceptedHashes accepted .vdsPattern
    | .vdsSchema .. => v.claimHash claim ∈ acceptedSchemaRefs v claims accepted
    | .vdsBinding _ _ _ _ schema => schema ∈ acceptedSchemaRefs v claims accepted
    | .wmi .. => false) ++
  (acceptedWmi proposals accepted).map CommonsWmiProposalEntry.claim

/-- The reviews that counted for an accepted claim, and the proposal. -/
def archiveEntry (entries : List CommonsReviewEntry) (accepted : List CommonsWmiProposalEntry)
    (hash : Text) : AttestationArchiveEntry where
  reviews := (sortBy (fun p => units p.1)
    (standingVerdicts (gate1Entries input.deps entries) hash)).map Prod.snd
  proposal := (accepted.find? fun p => p.claimHash = hash).map fun p =>
    { claim := p.claim, eventId := p.eventId, authorPubkey := p.authorPubkey,
      createdAt := p.createdAt }

/-- Steps d and e, for what was derived, proposed and reviewed. -/
def decideBatch (derived : DeriveResult) (candidates : List CommonsCandidate)
    (proposals : List CommonsWmiProposalEntry) (reviewEvents : ℕ)
    (entries : List CommonsReviewEntry) : AssemblyResult :=
  let decided := targetsOf candidates proposals
  let accepted := sortBy (fun e => units e.claimHash) (decided.filterMap (acceptedEntry input entries))
  let output := outputSet v derived.claims proposals accepted
  let acceptedClaims := sortClaimsForJsonl v.claimHash
    (output.filter fun c => v.claimHash c ∉ input.baselineHashes)
  { acceptedClaims := acceptedClaims
    archive := (accepted.filter fun e => e.claimHash ∈ acceptedClaims.map v.claimHash).map fun e =>
      (e.claimHash, archiveEntry input entries (acceptedWmi proposals accepted) e.claimHash)
    report := {
      nowSeconds := input.nowSeconds
      windowDays := input.windowDays
      windowSeconds := input.windowDays * secondsPerDay
      observations := input.observations.length
      patternCandidates := candidates.length
      wmiProposals := proposals.length
      reviewEvents := reviewEvents
      countedReviews := (gate1Entries input.deps entries).length
      vdsSchema := countType "vds-schema" acceptedClaims
      vdsBinding := countType "vds-binding" acceptedClaims
      vdsPattern := countType "vds-pattern" acceptedClaims
      wmi := countType "wmi" acceptedClaims
      total := acceptedClaims.length
      accepted := accepted
      excluded := sortBy (fun e => units e.claimHash) (decided.filterMap (exclusion input entries))
      conflicts := derived.report.conflicts
      published := (distinct input.baselineHashes).length
      subtracted := (output.filter fun c => v.claimHash c ∈ input.baselineHashes).length } }

/-- Steps b and c: the proposals and the reviews are asked for. -/
def batchOf (derived : DeriveResult) : AssemblyResult :=
  let candidates := buildCommonsCandidates v.claimHash derived.claims derived.sources
  let proposals := proposalsFor v input (derived.report.unknownWmiCandidates.map UnknownWmiCandidate.wmi)
  let targets := reviewTargets candidates proposals
  let reviewEvents := reviewEventsFor input targets
  decideBatch v input derived candidates proposals reviewEvents.length
    (reviewEntriesFrom v input.nowSeconds targets reviewEvents)

def assembleCommunityBatch : Option AssemblyResult :=
  (deriveClaims v.toVincent input.observations).map (batchOf v input)

end Batch

/-! ## §4. The order of arrival. -/

/-- The same input, with its observations and its events in another order. -/
def AssembleInput.reordered (input : AssembleInput) (observations : List VincentObservation)
    (queryEvents : Filter → List Event) : AssembleInput :=
  { input with observations := observations, deps := { input.deps with queryEvents := queryEvents } }

/-- An event id names one entry. -/
def EntriesApart (entries : List CommonsReviewEntry) : Prop :=
  ∀ e ∈ entries, ∀ e' ∈ entries, e.eventId = e'.eventId → e = e'

def atLeastAsNew (e x : CommonsReviewEntry) : Prop :=
  x.createdAt < e.createdAt ∨ (x.createdAt = e.createdAt ∧ units e.eventId ≤ units x.eventId)

theorem picks_newerVerdict : Picks newerVerdict atLeastAsNew where
  one := by
    intro x y
    unfold newerVerdict
    split <;> split <;> simp
  left := by
    intro x y
    unfold newerVerdict atLeastAsNew
    split
    · split
      · exact .inr ⟨rfl, le_rfl⟩
      · exact .inl (by omega)
    · next hat =>
      split
      · exact .inr ⟨rfl, le_rfl⟩
      · next hid => exact .inr ⟨by omega, not_lt.mp hid⟩
  right := by
    intro x y
    unfold newerVerdict atLeastAsNew
    split
    · split
      · next hlt => exact .inl hlt
      · exact .inr ⟨rfl, le_rfl⟩
    · next hat =>
      split
      · next hid => exact .inr ⟨by omega, hid.le⟩
      · exact .inr ⟨rfl, le_rfl⟩
  self := fun _ => .inr ⟨rfl, le_rfl⟩
  chain := by
    intro x y z hxy hyz
    unfold atLeastAsNew at *
    rcases hxy with hxy | ⟨hxy, hid⟩ <;> rcases hyz with hyz | ⟨hyz, hid'⟩
    · exact .inl (by omega)
    · exact .inl (by omega)
    · exact .inl (by omega)
    · exact .inr ⟨by omega, hid.trans hid'⟩

theorem EntriesApart.strict {entries : List CommonsReviewEntry} (h : EntriesApart entries)
    (hash : Text) : Strict CommonsReviewEntry.attester atLeastAsNew
      (entries.filter fun e => e.review.claim = hash) := by
  intro e he e' he' _ hee' he'e
  unfold atLeastAsNew at hee' he'e
  have hid : e.eventId = e'.eventId := by
    rcases hee' with hlt | ⟨_, hle⟩ <;> rcases he'e with hlt' | ⟨_, hle'⟩
    · omega
    · omega
    · omega
    · exact units_inj (le_antisymm hle hle')
  exact h e (List.mem_filter.mp he).1 e' (List.mem_filter.mp he').1 hid

theorem EntriesApart.filter {entries : List CommonsReviewEntry} (h : EntriesApart entries)
    (p : CommonsReviewEntry → Bool) : EntriesApart (entries.filter p) :=
  fun e he e' he' => h e (List.mem_filter.mp he).1 e' (List.mem_filter.mp he').1

/-- **A standing verdict** is the newest entry of its attester on the claim. -/
theorem mem_standingVerdicts {entries : List CommonsReviewEntry} (h : EntriesApart entries)
    {hash attester : Text} {e : CommonsReviewEntry} :
    (attester, e) ∈ standingVerdicts entries hash ↔
      (e ∈ entries ∧ e.review.claim = hash) ∧ e.attester = attester ∧
        ∀ x ∈ entries, x.review.claim = hash → x.attester = attester → atLeastAsNew e x := by
  unfold standingVerdicts
  rw [mem_collect picks_newerVerdict (h.strict hash)]
  simp only [List.mem_filter, decide_eq_true_eq, and_imp]

section Perm

variable {entries entries' : List CommonsReviewEntry} (hapart : EntriesApart entries)
  (hperm : entries.Perm entries')

include hapart hperm

theorem standingVerdicts_perm (hash : Text) :
    (standingVerdicts entries hash).Perm (standingVerdicts entries' hash) :=
  collect_perm picks_newerVerdict (hapart.strict hash) (hperm.filter _)

theorem sortedAccepts_eq (hash : Text) :
    sortedAccepts (standingVerdicts entries hash) = sortedAccepts (standingVerdicts entries' hash) := by
  refine sortBy_perm ?_ (((standingVerdicts_perm hapart hperm hash).filter _).map _)
  intro a ha b hb hkey
  obtain ⟨⟨k, e⟩, hin, rfl⟩ := List.mem_map.mp ha
  obtain ⟨⟨k', e'⟩, hin', rfl⟩ := List.mem_map.mp hb
  obtain ⟨⟨he, _⟩, hk, _⟩ := (mem_standingVerdicts hapart).mp (List.mem_filter.mp hin).1
  obtain ⟨⟨he', _⟩, hk', _⟩ := (mem_standingVerdicts hapart).mp (List.mem_filter.mp hin').1
  have hid : e.createdAt = e'.createdAt ∧ e.eventId = e'.eventId := by
    have hunits : e.createdAt = e'.createdAt ∧ units e.eventId = units e'.eventId := by
      simpa [verdictKey, toLex_inj] using hkey
    exact ⟨hunits.1, units_inj hunits.2⟩
  have heq := hapart e he e' he' hid.2
  subst heq
  rw [← hk, ← hk']

theorem standingRejecters_eq (hash : Text) : standingRejecters (standingVerdicts entries hash) =
    standingRejecters (standingVerdicts entries' hash) :=
  sortTexts_perm (((standingVerdicts_perm hapart hperm hash).filter _).map _)

theorem archivedReviews_eq (hash : Text) : sortBy (fun p => units p.1) (standingVerdicts entries hash) =
    sortBy (fun p => units p.1) (standingVerdicts entries' hash) := by
  refine sortBy_perm ?_ (standingVerdicts_perm hapart hperm hash)
  intro p hp q hq hkey
  have hkeys := (best_collect CommonsReviewEntry.attester picks_newerVerdict
    (entries.filter fun e => e.review.claim = hash)).keys
  exact key_inj hkeys hp hq (units_inj hkey)

end Perm

theorem decideTarget_eq (input : AssembleInput) {entries entries' : List CommonsReviewEntry}
    (hapart : EntriesApart entries) (hperm : entries.Perm entries') (t : Target) :
    decideTarget input entries t = decideTarget input entries' t := by
  unfold decideTarget decideClaim gate1Entries inactiveEntries unattestedEntries
  rw [sortedAccepts_eq (hapart.filter _) (hperm.filter _),
    sortedAccepts_eq (hapart.filter _) (hperm.filter _),
    sortedAccepts_eq (hapart.filter _) (hperm.filter _),
    standingRejecters_eq (hapart.filter _) (hperm.filter _)]

theorem entry_of_mem {v : Protocol} {now : ℤ} {targets : List Text} {events : List Event}
    {entry : CommonsReviewEntry} (h : entry ∈ reviewEntriesFrom v now targets events) :
    ∃ e ∈ mergeLatestPerAuthorPerD (asOfNow now events),
      commonsReviewEntryFromEvent v e = some entry ∧ entry.review.claim ∈ targets := by
  obtain ⟨hin, htarget⟩ := List.mem_filter.mp h
  obtain ⟨e, he, hentry⟩ := List.mem_filterMap.mp hin
  exact ⟨e, he, hentry, by simpa using htarget⟩

theorem IdsApart.asOfNow {events : List Event} (h : IdsApart events) (now : ℤ) :
    IdsApart (Commons.asOfNow now events) :=
  fun e he e' he' => h e (List.mem_filter.mp he).1 e' (List.mem_filter.mp he').1

theorem reviewEntries_apart {v : Protocol} {now : ℤ} {targets : List Text} {events : List Event}
    (h : IdsApart events) : EntriesApart (reviewEntriesFrom v now targets events) := by
  intro e he e' he' hid
  obtain ⟨x, hx, hex, _⟩ := entry_of_mem he
  obtain ⟨x', hx', hex', _⟩ := entry_of_mem he'
  have hin := ((mem_mergeLatest (h.asOfNow now)).mp hx).1
  have hin' := ((mem_mergeLatest (h.asOfNow now)).mp hx').1
  obtain ⟨_, _, _, heid, _⟩ := entry_spec hex
  obtain ⟨_, _, _, heid', _⟩ := entry_spec hex'
  have hsame : x = x' := h.asOfNow now x hin x' hin' (heid.symm.trans (hid.trans heid'))
  rw [hsame, hex'] at hex
  exact (Option.some.inj hex).symm

theorem reviewEntries_perm {v : Protocol} {now : ℤ} {targets : List Text} {events events' : List Event}
    (h : IdsApart events) (hperm : events.Perm events') :
    (reviewEntriesFrom v now targets events).Perm (reviewEntriesFrom v now targets events') :=
  ((mergeLatest_perm (h.asOfNow now) (hperm.filter _)).filterMap _).filter _

theorem proposalEntry_spec {v : Protocol} {event : Event} {entry : CommonsWmiProposalEntry}
    (h : commonsWmiProposalEntryFromEvent v event = some entry) :
    entry.eventId = event.id ∧ entry.claimHash = v.claimHash entry.claim := by
  unfold commonsWmiProposalEntryFromEvent at h
  split at h
  · cases h
  · simp only [Option.bind_eq_bind, Option.bind_eq_some_iff] at h
    obtain ⟨json, _, claim, _, wmi, _, h⟩ := h
    split at h
    · cases h
    · split at h
      · cases h
      · cases h
        exact ⟨rfl, rfl⟩

theorem proposalsFrom_eq {v : Protocol} {now : ℤ} {wmis : List Text} {events events' : List Event}
    (h : IdsApart events) (hperm : events.Perm events') :
    proposalsFrom v now wmis events = proposalsFrom v now wmis events' := by
  have hmerged := (mergeLatest_perm (h.asOfNow now) (hperm.filter _)).filterMap
    (commonsWmiProposalEntryFromEvent v)
  have hstrict : Strict CommonsWmiProposalEntry.claimHash (fun e x => keepsFirst x e)
      ((mergeLatestPerAuthorPerD (asOfNow now events)).filterMap
        (commonsWmiProposalEntryFromEvent v)) := by
    intro e he e' he' _ hee' he'e
    obtain ⟨x, hx, hex⟩ := List.mem_filterMap.mp he
    obtain ⟨x', hx', hex'⟩ := List.mem_filterMap.mp he'
    have hid : e.eventId = e'.eventId := by
      unfold keepsFirst at hee' he'e
      rcases hee' with hlt | ⟨_, hle⟩ <;> rcases he'e with hlt' | ⟨_, hle'⟩
      · omega
      · omega
      · omega
      · exact units_inj (le_antisymm hle hle')
    have hin := ((mem_mergeLatest (h.asOfNow now)).mp hx).1
    have hin' := ((mem_mergeLatest (h.asOfNow now)).mp hx').1
    have hsame : x = x' := h.asOfNow now x hin x' hin'
      ((proposalEntry_spec hex).1.symm.trans (hid.trans (proposalEntry_spec hex').1))
    rw [hsame, hex'] at hex
    exact (Option.some.inj hex).symm
  refine sortBy_perm ?_ (((collect_perm picks_earlierEntry hstrict hmerged).map _).filter _)
  intro e he e' he' hkey
  exact value_inj picks_earlierEntry (List.mem_filter.mp he).1 (List.mem_filter.mp he').1
    (units_inj hkey)

theorem decideBatch_perm (v : Protocol) (input : AssembleInput) (derived : DeriveResult)
    (candidates : List CommonsCandidate) (proposals : List CommonsWmiProposalEntry) (n : ℕ)
    {entries entries' : List CommonsReviewEntry} (hapart : EntriesApart entries)
    (hperm : entries.Perm entries') :
    decideBatch v input derived candidates proposals n entries =
      decideBatch v input derived candidates proposals n entries' := by
  have hdecide := decideTarget_eq input hapart hperm
  have haccepted : acceptedEntry input entries = acceptedEntry input entries' := by
    funext t
    unfold acceptedEntry
    rw [hdecide t]
  have hexclusion : exclusion input entries = exclusion input entries' := by
    funext t
    unfold exclusion
    rw [hdecide t]
  have harchive : archiveEntry input entries = archiveEntry input entries' := by
    funext accepted hash
    unfold archiveEntry gate1Entries
    rw [archivedReviews_eq (hapart.filter _) (hperm.filter _)]
  have hcounted : (gate1Entries input.deps entries).length =
      (gate1Entries input.deps entries').length := (hperm.filter _).length_eq
  unfold decideBatch
  rw [haccepted, hexclusion, harchive, hcounted]

/-- Deciding asks no relay. -/
theorem decideBatch_reordered (v : Protocol) (input : AssembleInput) (derived : DeriveResult)
    (candidates : List CommonsCandidate) (proposals : List CommonsWmiProposalEntry) (n : ℕ)
    (entries : List CommonsReviewEntry) {observations : List VincentObservation}
    (queryEvents : Filter → List Event) (hobs : input.observations.Perm observations) :
    decideBatch v (input.reordered observations queryEvents) derived candidates proposals n entries =
      decideBatch v input derived candidates proposals n entries := by
  have hlen : (input.reordered observations queryEvents).observations.length =
      input.observations.length := hobs.length_eq.symm
  unfold decideBatch
  rw [hlen]
  rfl

theorem proposalsFor_eq (v : Protocol) {input : AssembleInput}
    (hids : ∀ f, IdsApart (input.deps.queryEvents f)) (observations : List VincentObservation)
    {queryEvents : Filter → List Event} (hquery : ∀ f, (input.deps.queryEvents f).Perm (queryEvents f))
    (wmis : List Text) : proposalsFor v (input.reordered observations queryEvents) wmis =
      proposalsFor v input wmis := by
  unfold proposalsFor
  split
  · exact (proposalsFrom_eq (hids _) (hquery _)).symm
  · rfl

theorem reviewEventsFor_perm {input : AssembleInput} (observations : List VincentObservation)
    {queryEvents : Filter → List Event} (hquery : ∀ f, (input.deps.queryEvents f).Perm (queryEvents f))
    (targets : List Text) : (reviewEventsFor input targets).Perm
      (reviewEventsFor (input.reordered observations queryEvents) targets) := by
  unfold reviewEventsFor
  split
  · exact hquery _
  · exact .refl _

theorem reviewEventsFor_apart {input : AssembleInput}
    (hids : ∀ f, IdsApart (input.deps.queryEvents f)) (targets : List Text) :
    IdsApart (reviewEventsFor input targets) := by
  unfold reviewEventsFor
  split
  · exact hids _
  · intro e he
    simp at he

/-- **The batch does not depend on the order of arrival**, of the observations or of the events. -/
theorem assemble_perm {v : Protocol} {input : AssembleInput} (hv : LookupByWmi v.toVincent)
    (hapart : HashesApart v.toVincent input.observations)
    (hids : ∀ f, IdsApart (input.deps.queryEvents f)) {observations : List VincentObservation}
    {queryEvents : Filter → List Event} (hobs : input.observations.Perm observations)
    (hquery : ∀ f, (input.deps.queryEvents f).Perm (queryEvents f)) :
    assembleCommunityBatch v (input.reordered observations queryEvents) =
      assembleCommunityBatch v input := by
  have hbatch : batchOf v (input.reordered observations queryEvents) = batchOf v input := by
    funext derived
    unfold batchOf
    -- the proposals are the same, and the entries differ in their order only
    simp only [proposalsFor_eq v hids observations hquery]
    have hevents := reviewEventsFor_perm observations hquery
    simp only [← (hevents _).length_eq]
    rw [decideBatch_reordered v input _ _ _ _ _ queryEvents hobs]
    exact (decideBatch_perm v input _ _ _ _ (reviewEntries_apart (reviewEventsFor_apart hids _))
      (reviewEntries_perm (reviewEventsFor_apart hids _) (hevents _))).symm
  unfold assembleCommunityBatch
  rw [hbatch]
  show (deriveClaims v.toVincent observations).map _ = _
  rw [← deriveClaims_perm hv hapart hobs]

def sampleAttester : Text := '0' :: 'x' :: List.replicate 40 'a'

def sampleReview (hash : Text) : CommonsReview where
  claim := hash
  attester := sampleAttester
  kind := .endorse
  signature := '0' :: 'x' :: List.replicate 130 '0'

def sampleProtocol : Protocol where
  toVincent := sampleVincent
  jsonParse hash := some (.object [("schemaVersion".toList, .string "1.0".toList),
    ("claim".toList, .string hash), ("attester".toList, .string sampleAttester),
    ("kind".toList, .string "endorse".toList),
    ("signature".toList, .string ('0' :: 'x' :: List.replicate 130 '0'))])
  parseClaimJson _ := none
  verifyAttestation _ := true
  isValidChecksumAddress _ := true
  canonicalize _ := []
  recoverPersonalSignAddress _ _ := none

def sampleCandidate : CommonsCandidate where
  claimHash := sampleHash (patternClaim sampleVincent (['V', 'F', '3'], 2020)
    (['A', 'B', 'C', 'D', 'E', 'F'], .model) ['M'])
  wmi := ['V', 'F', '3']
  year := 2020
  vds := ['A', 'B', 'C', 'D', 'E', 'F']
  attr := "model".toList
  code := ['M']
  tokenIds := [['1'], ['2']]

/-- The endorsement of the verifier of record, on the one relay. -/
def sampleEvent : Event where
  id := ['e']
  pubkey := ['k']
  kind := commonsReviewKind
  createdAt := 100
  tags := [["d".toList, sampleCandidate.claimHash]]
  content := sampleCandidate.claimHash

def sampleInput : AssembleInput where
  observations := sampleObservations
  verifierByTokenId _ := some sampleAttester
  nowSeconds := 1000000
  windowDays := 7
  baselineHashes := []
  deps := {
    queryEvents := fun f => [sampleEvent].filter f.matches
    attestedPubkey := fun _ => some ['k']
    isActiveVerifier := fun _ => true }

theorem assemble_two : assembleCommunityBatch sampleProtocol
    (sampleInput.reordered sampleObservations.reverse fun f => (sampleInput.deps.queryEvents f).reverse) =
      assembleCommunityBatch sampleProtocol sampleInput := by
  have hv : LookupByWmi sampleProtocol.toVincent := sample_lookup
  have hapart : HashesApart sampleProtocol.toVincent sampleInput.observations := sample_apart
  have hids : ∀ f, IdsApart (sampleInput.deps.queryEvents f) := by
    intro f e he e' he' _
    rw [List.mem_singleton.mp (List.mem_filter.mp he).1,
      List.mem_singleton.mp (List.mem_filter.mp he').1]
  exact assemble_perm hv hapart hids (List.reverse_perm _).symm fun f => (List.reverse_perm _).symm

end Kargain.Commons
