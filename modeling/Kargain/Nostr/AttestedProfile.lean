/-
  Kargain.Nostr.AttestedProfile — lib/nostr/resolve-attested-profile.ts.

  A wallet's profile is a kind 0 event whose content carries a signature
  of the wallet.  The author of the event that was taken is pinned, with
  its time.  Events are resolved in one batch (`pickWithPin`), which keeps
  the best of the pinned author and the best challenger apart, or one by
  one as a subscription hands them over (`handleEvent`), which keeps the
  newest and moves the pin to whatever is newer.

  Main result: `one_rule_iff`, for which pin and events the batch takes
  the newest event it may take and the two paths end alike, in every
  order.
-/
import Kargain.Base.Stamped
import Kargain.Wire.ProtocolAddress

namespace Kargain.Nostr.Profile

open Kargain.Stamped
open Kargain.ProtocolAddress (Text trim)

/-! ## §1. Events. -/

structure Event where
  id : Text
  pubkey : Text
  createdAt : ℤ
  tags : List (List Text)
  content : Text
deriving DecidableEq

/-- `loadCachedPubkeyBinding`: the pin of a wallet. -/
structure CachedPubkeyBinding where
  pubkey : Text
  boundCreatedAt : ℤ
deriving DecidableEq

/-- What is read of an event: `verifyProfileAttestation` recovers the signer of the content, and
    `parseProfileContent` is `none` where nothing parses. -/
structure Deps (Profile : Type) where
  verifyProfileAttestation : Event → Text → Bool
  parseProfileContent : Text → Option Profile
  emptyProfile : Profile

variable {Profile : Type} (d : Deps Profile)

def normalizeProfileAddress (address : Text) : Text := (trim address).map Char.toLower

def attestedProfileCreatedAtSkewSeconds : ℤ := 3600

def isCreatedAtWithinReadSkew (createdAt nowSec : ℤ) : Bool :=
  createdAt ≤ nowSec + attestedProfileCreatedAtSkewSeconds

def ethereumPrefix : Text := "ethereum:".toList

/-- The first `i` tag that names an address. -/
def ethereumAddressFromEvent (event : Event) : Option Text :=
  event.tags.findSome? fun tag =>
    match tag with
    | name :: value :: _ =>
      if name = "i".toList ∧ ethereumPrefix <+: value then
        let addr := trim (value.drop ethereumPrefix.length)
        if addr = [] then none else some (normalizeProfileAddress addr)
      else none
    | _ => none

structure PickedVerified (Profile : Type) where
  event : Event
  profile : Profile

def PickedVerified.createdAt (p : PickedVerified Profile) : ℤ := p.event.createdAt

def verifyEventForAddress (event : Event) (expectedAddress : Text) : Option (PickedVerified Profile) :=
  if ethereumAddressFromEvent event ≠ some expectedAddress then none
  else if d.verifyProfileAttestation event expectedAddress then
    some { event := event, profile := (d.parseProfileContent event.content).getD d.emptyProfile }
  else none

/-! ## §2. One batch. -/

def filterEventsBySkew (events : List Event) (nowSec : ℤ) : List Event :=
  events.filter fun e => isCreatedAtWithinReadSkew e.createdAt nowSec

/-- After the loop. -/
def pickBest (pin : Option CachedPubkeyBinding) (bestPinned bestChallenger : Option (PickedVerified Profile)) :
    Option (PickedVerified Profile × CachedPubkeyBinding) :=
  match bestChallenger with
  | some c => some (c, { pubkey := c.event.pubkey, boundCreatedAt := c.event.createdAt })
  | none =>
    bestPinned.map fun p => (p, {
      pubkey := p.event.pubkey
      boundCreatedAt := max ((pin.map CachedPubkeyBinding.boundCreatedAt).getD 0) p.event.createdAt })

/-- The loop over the events, newest first. -/
def pickLoop (expectedAddress : Text) (pin : Option CachedPubkeyBinding) :
    List Event → (bestPinned bestChallenger : Option (PickedVerified Profile)) →
    Option (PickedVerified Profile × CachedPubkeyBinding)
  | [], bestPinned, bestChallenger => pickBest pin bestPinned bestChallenger
  | event :: rest, bestPinned, bestChallenger =>
    match verifyEventForAddress d event expectedAddress with
    | none => pickLoop expectedAddress pin rest bestPinned bestChallenger
    | some verified =>
      match pin with
      | some b =>
        if verified.event.pubkey = b.pubkey then
          pickLoop expectedAddress pin rest (bestPinned <|> some verified) bestChallenger
        else if b.boundCreatedAt < verified.event.createdAt then
          match bestChallenger with
          | none => pickLoop expectedAddress pin rest bestPinned (some verified)
          | some c =>
            if c.event.createdAt < verified.event.createdAt then
              pickLoop expectedAddress pin rest bestPinned (some verified)
            else pickLoop expectedAddress pin rest bestPinned (some c)
        else pickLoop expectedAddress pin rest bestPinned bestChallenger
      | none =>
        some (verified, { pubkey := verified.event.pubkey, boundCreatedAt := verified.event.createdAt })

def pickWithPin (events : List Event) (expectedAddress : Text) (pin : Option CachedPubkeyBinding)
    (nowSec : ℤ) : Option (PickedVerified Profile × CachedPubkeyBinding) :=
  pickLoop d expectedAddress pin (sorted Event.createdAt (filterEventsBySkew events nowSec)) none none

/-- The pins by wallet, and the profiles that are shown. -/
structure Session (Profile : Type) where
  pins : Text → Option CachedPubkeyBinding
  byAddress : Text → Option (PickedVerified Profile)

/-- What the relays gave for the two filters: that of the author is asked first, where one is
    pinned, and that of the address if it gave nothing. -/
structure Coverage where
  forAuthor : List Event
  forAddress : List Event

def coverageEvents (coverage : Coverage) (pin : Option CachedPubkeyBinding) : List Event :=
  match pin with
  | some b =>
    if b.pubkey ≠ [] ∧ coverage.forAuthor ≠ [] then coverage.forAuthor else coverage.forAddress
  | none => coverage.forAddress

/-- What `resolveAddressInternal` makes of its events: a result is pinned. -/
def resolve (events : List Event) (wallet : Text) (nowSec : ℤ)
    (pins : Text → Option CachedPubkeyBinding) :
    Option (PickedVerified Profile) × (Text → Option CachedPubkeyBinding) :=
  match pickWithPin d events wallet (pins wallet) nowSec with
  | none => (none, pins)
  | some (picked, nextPin) => (some picked, Function.update pins wallet (some nextPin))

def resolveAddressInternal (coverage : Coverage) (wallet : Text) (nowSec : ℤ)
    (pins : Text → Option CachedPubkeyBinding) :
    Option (PickedVerified Profile) × (Text → Option CachedPubkeyBinding) :=
  resolve d (coverageEvents coverage (pins wallet)) wallet nowSec pins

/-! ## §3. One by one. -/

/-- `verifyIncomingProfileEvent`: the address and the entry. -/
def verifyIncomingProfileEvent (event : Event) (nowSec : ℤ) : Option (Text × PickedVerified Profile) :=
  if ¬ isCreatedAtWithinReadSkew event.createdAt nowSec then none
  else
    match ethereumAddressFromEvent event with
    | none => none
    | some address =>
      if d.verifyProfileAttestation event address then
        some (address,
          { event := event, profile := (d.parseProfileContent event.content).getD d.emptyProfile })
      else none

/-- `recordVerifiedBindingFromEntry`: what is saved for the wallet of the entry. -/
def nextBinding (pin : Option CachedPubkeyBinding) (entry : PickedVerified Profile) :
    Option CachedPubkeyBinding :=
  let saved : CachedPubkeyBinding :=
    { pubkey := entry.event.pubkey, boundCreatedAt := entry.event.createdAt }
  match pin with
  | none => some saved
  | some b =>
    if entry.event.pubkey = b.pubkey then
      if b.boundCreatedAt < entry.event.createdAt then some saved else pin
    else if b.boundCreatedAt < entry.event.createdAt then some saved
    else pin

/-- `applyVerifiedProfileEntry`. -/
def nextEntry (existing : Option (PickedVerified Profile)) (entry : PickedVerified Profile) :
    Option (PickedVerified Profile) :=
  match existing with
  | none => some entry
  | some e => if entry.event.createdAt ≤ e.event.createdAt then existing else some entry

/-- The subscription's handler. -/
def handleEvent (nowSec : ℤ) (s : Session Profile) (event : Event) : Session Profile :=
  match verifyIncomingProfileEvent d event nowSec with
  | none => s
  | some (address, entry) =>
    { pins := Function.update s.pins address (nextBinding (s.pins address) entry)
      byAddress := Function.update s.byAddress address (nextEntry (s.byAddress address) entry) }

/-- The live path: the events one by one, with the stored pins. -/
def live (events : List Event) (nowSec : ℤ) (pins : Text → Option CachedPubkeyBinding) :
    Session Profile :=
  events.foldl (handleEvent d nowSec) { pins := pins, byAddress := fun _ => none }

/-! ## §4. What each path computes. -/

/-- The events of the wallet that verify. -/
def verifying (events : List Event) (wallet : Text) (nowSec : ℤ) : List (PickedVerified Profile) :=
  (filterEventsBySkew events nowSec).filterMap fun e => verifyEventForAddress d e wallet

def binding (p : PickedVerified Profile) : CachedPubkeyBinding where
  pubkey := p.event.pubkey
  boundCreatedAt := p.event.createdAt

variable {d} {wallet : Text} {nowSec : ℤ} {pins : Text → Option CachedPubkeyBinding}

theorem verified_event {event : Event} {p : PickedVerified Profile}
    (h : verifyEventForAddress d event wallet = some p) : p.event = event := by
  unfold verifyEventForAddress at h
  split at h
  · cases h
  · split at h
    · cases h
      rfl
    · cases h

theorem incoming_eq (event : Event) (p : PickedVerified Profile) :
    verifyIncomingProfileEvent d event nowSec = some (wallet, p) ↔
      isCreatedAtWithinReadSkew event.createdAt nowSec = true ∧
        verifyEventForAddress d event wallet = some p := by
  unfold verifyIncomingProfileEvent verifyEventForAddress
  cases isCreatedAtWithinReadSkew event.createdAt nowSec with
  | false => simp
  | true =>
    cases ethereumAddressFromEvent event with
    | none => simp
    | some address =>
      by_cases hw : address = wallet
      · subst hw
        cases hv : d.verifyProfileAttestation event address <;> simp [hv]
      · cases d.verifyProfileAttestation event address <;> simp [hw]

theorem nextEntry_eq (kept : Option (PickedVerified Profile)) (p : PickedVerified Profile) :
    nextEntry kept p = arrive PickedVerified.createdAt kept p := by
  cases kept with
  | none => rfl
  | some e =>
    unfold nextEntry arrive PickedVerified.createdAt
    simp only
    split <;> split <;> first | rfl | omega

theorem nextBinding_eq (pin : Option CachedPubkeyBinding) (p : PickedVerified Profile) :
    nextBinding pin p = arrive CachedPubkeyBinding.boundCreatedAt pin (binding p) := by
  cases pin with
  | none => rfl
  | some b =>
    unfold nextBinding arrive binding
    simp only
    split <;> rfl

/-- **The live path** keeps the newest entry, and the newest of it and the pin. -/
theorem live_eq (events : List Event) :
    (live d events nowSec pins).byAddress wallet =
        arrived PickedVerified.createdAt none (verifying d events wallet nowSec) ∧
      (live d events nowSec pins).pins wallet =
        arrived CachedPubkeyBinding.boundCreatedAt (pins wallet)
          ((verifying d events wallet nowSec).map binding) := by
  induction events using List.reverseRecOn with
  | nil => exact ⟨rfl, rfl⟩
  | append_singleton events e ih =>
    obtain ⟨hentry, hpin⟩ := ih
    have hlive : live d (events ++ [e]) nowSec pins =
        handleEvent d nowSec (live d events nowSec pins) e := by
      unfold live
      rw [List.foldl_append]
      rfl
    have hverifying : verifying d (events ++ [e]) wallet nowSec =
        verifying d events wallet nowSec ++ verifying d [e] wallet nowSec := by
      simp [verifying, filterEventsBySkew]
    rw [hlive, hverifying]
    unfold handleEvent
    cases hin : verifyIncomingProfileEvent d e nowSec with
    | none =>
      have hnone : verifying d [e] wallet nowSec = [] := by
        have hno : ∀ p, ¬ (isCreatedAtWithinReadSkew e.createdAt nowSec = true ∧
            verifyEventForAddress d e wallet = some p) := by
          intro p hp
          rw [(incoming_eq e p).mpr hp] at hin
          cases hin
        unfold verifying filterEventsBySkew
        cases hskew : isCreatedAtWithinReadSkew e.createdAt nowSec with
        | false => simp [hskew]
        | true =>
          cases hv : verifyEventForAddress d e wallet with
          | none => simp [hskew, hv]
          | some p => exact absurd ⟨hskew, hv⟩ (hno p)
      rw [hnone, List.append_nil]
      exact ⟨hentry, hpin⟩
    | some found =>
      obtain ⟨address, p⟩ := found
      by_cases hw : address = wallet
      · subst hw
        obtain ⟨hskew, hv⟩ := (incoming_eq e p).mp hin
        have hone : verifying d [e] address nowSec = [p] := by
          simp [verifying, filterEventsBySkew, hskew, hv]
        rw [hone, List.map_append, List.map_singleton, arrived_append, arrived_append, ← hentry, ← hpin]
        simp only [Function.update_self]
        exact ⟨nextEntry_eq _ _, nextBinding_eq _ _⟩
      · have hnone : verifying d [e] wallet nowSec = [] := by
          unfold verifying filterEventsBySkew
          cases hskew : isCreatedAtWithinReadSkew e.createdAt nowSec with
          | false => simp [hskew]
          | true =>
            cases hv : verifyEventForAddress d e wallet with
            | none => simp [hskew, hv]
            | some q =>
              have hother := (incoming_eq e q).mpr ⟨hskew, hv⟩
              rw [hin] at hother
              exact absurd (Prod.mk.inj (Option.some.inj hother)).1 hw
        rw [hnone, List.append_nil]
        simp only [Function.update_of_ne (Ne.symm hw)]
        exact ⟨hentry, hpin⟩

/-- The pin after the newest entry `p`. -/
def pinAfter (pin : Option CachedPubkeyBinding) (p : PickedVerified Profile) : CachedPubkeyBinding :=
  match pin with
  | none => binding p
  | some b => if b.boundCreatedAt < p.event.createdAt then binding p else b

theorem arrived_map (ps : List (PickedVerified Profile)) :
    arrived CachedPubkeyBinding.boundCreatedAt none (ps.map binding) =
      (arrived PickedVerified.createdAt none ps).map binding := by
  induction ps using List.reverseRecOn with
  | nil => rfl
  | append_singleton ps p ih =>
    rw [List.map_append, List.map_singleton, arrived_append, arrived_append, ih]
    cases arrived PickedVerified.createdAt none ps with
    | none => rfl
    | some q =>
      show arrive CachedPubkeyBinding.boundCreatedAt (some (binding q)) (binding p) =
        (arrive PickedVerified.createdAt (some q) p).map binding
      unfold arrive
      simp only
      unfold binding PickedVerified.createdAt
      simp only
      split <;> rfl

theorem live_pin (events : List Event) : (live d events nowSec pins).pins wallet =
    match arrived PickedVerified.createdAt none (verifying d events wallet nowSec) with
    | none => pins wallet
    | some p => some (pinAfter (pins wallet) p) := by
  rw [(live_eq events).2]
  cases hpin : pins wallet with
  | none =>
    rw [arrived_map]
    cases arrived PickedVerified.createdAt none (verifying d events wallet nowSec) <;> rfl
  | some b =>
    rw [arrived_start, arrived_map]
    cases arrived PickedVerified.createdAt none (verifying d events wallet nowSec) with
    | none => rfl
    | some p =>
      simp only [Option.map_some, pinAfter]
      unfold binding
      simp only
      split <;> rfl

/-! ## §5. The batch. -/

/-- The kinds the batch keeps apart. -/
def ofPinned (b : CachedPubkeyBinding) (p : PickedVerified Profile) : Bool := p.event.pubkey = b.pubkey

def challenges (b : CachedPubkeyBinding) (p : PickedVerified Profile) : Bool :=
  p.event.pubkey ≠ b.pubkey ∧ b.boundCreatedAt < p.event.createdAt

variable (d wallet nowSec) in
/-- The first of a kind among the verifying events, newest first. -/
def firstOf (kind : PickedVerified Profile → Bool) (events : List Event) :
    Option (PickedVerified Profile) :=
  ((sorted Event.createdAt (filterEventsBySkew events nowSec)).filterMap
    fun e => verifyEventForAddress d e wallet).find? kind

theorem verified_pairwise {events : List Event}
    (h : events.Pairwise fun x y => y.createdAt ≤ x.createdAt) :
    (events.filterMap fun e => verifyEventForAddress d e wallet).Pairwise
      fun p q => q.createdAt ≤ p.createdAt := by
  refine List.Pairwise.filterMap _ (fun e e' hle p hp q hq => ?_) h
  show q.event.createdAt ≤ p.event.createdAt
  rw [verified_event hp, verified_event hq]
  exact hle

/-- Without a pin the first that verifies is taken. -/
theorem pickLoop_unpinned (events : List Event) : pickLoop d wallet none events none none =
    ((events.filterMap fun e => verifyEventForAddress d e wallet).find? fun _ => true).map
      fun p => (p, binding p) := by
  induction events with
  | nil => rfl
  | cons e events ih =>
    unfold pickLoop
    cases hv : verifyEventForAddress d e wallet with
    | none => simpa [hv] using ih
    | some p => simp [hv, binding]

/-- With a pin the loop keeps the first of each kind: a challenger is never replaced, as none
    that comes later is newer. -/
theorem pickLoop_pinned (b : CachedPubkeyBinding) (events : List Event)
    (bestPinned bestChallenger : Option (PickedVerified Profile))
    (hs : (events.filterMap fun e => verifyEventForAddress d e wallet).Pairwise
      fun p q => q.createdAt ≤ p.createdAt)
    (hc : ∀ c ∈ bestChallenger, ∀ p ∈ events.filterMap fun e => verifyEventForAddress d e wallet,
      p.createdAt ≤ c.createdAt) :
    pickLoop d wallet (some b) events bestPinned bestChallenger =
      pickBest (some b)
        (bestPinned <|> (events.filterMap fun e => verifyEventForAddress d e wallet).find? (ofPinned b))
        (bestChallenger <|>
          (events.filterMap fun e => verifyEventForAddress d e wallet).find? (challenges b)) := by
  induction events generalizing bestPinned bestChallenger with
  | nil => cases bestPinned <;> cases bestChallenger <;> rfl
  | cons e events ih =>
    unfold pickLoop
    cases hv : verifyEventForAddress d e wallet with
    | none =>
      have hcons : (e :: events).filterMap (fun e => verifyEventForAddress d e wallet) =
          events.filterMap fun e => verifyEventForAddress d e wallet := List.filterMap_cons_none hv
      rw [hcons] at hs hc ⊢
      exact ih _ _ hs hc
    | some p =>
      have hcons : (e :: events).filterMap (fun e => verifyEventForAddress d e wallet) =
          p :: events.filterMap fun e => verifyEventForAddress d e wallet :=
        List.filterMap_cons_some hv
      rw [hcons] at hs hc ⊢
      rw [List.pairwise_cons] at hs
      have hrest : ∀ c ∈ bestChallenger, ∀ q ∈ events.filterMap fun e => verifyEventForAddress d e wallet,
          q.createdAt ≤ c.createdAt := fun c hin q hq => hc c hin q (List.mem_cons_of_mem _ hq)
      rw [List.find?_cons, List.find?_cons]
      simp only
      by_cases hauthor : p.event.pubkey = b.pubkey
      · have hpinned : ofPinned b p = true := by simp [ofPinned, hauthor]
        have hno : challenges b p = false := by simp [challenges, hauthor]
        rw [if_pos hauthor, hpinned, hno, ih _ _ hs.2 hrest]
        cases bestPinned <;> simp
      · have hpinned : ofPinned b p = false := by simp [ofPinned, hauthor]
        rw [if_neg hauthor, hpinned]
        by_cases hnew : b.boundCreatedAt < p.event.createdAt
        · have hyes : challenges b p = true := by simp [challenges, hauthor, hnew]
          rw [if_pos hnew, hyes]
          cases bestChallenger with
          | none =>
            simp only
            rw [ih _ _ hs.2 (fun c hin q hq => by
              have hcp : c = p := (Option.mem_some.mp hin).symm
              subst hcp
              exact hs.1 q hq)]
            simp
          | some c =>
            have hle : ¬ c.event.createdAt < p.event.createdAt := by
              have := hc c rfl p (by simp)
              unfold PickedVerified.createdAt at this
              omega
            simp only
            rw [if_neg hle, ih _ _ hs.2 hrest]
            simp
        · have hno : challenges b p = false := by simp [challenges, hnew]
          rw [if_neg hnew, hno, ih _ _ hs.2 hrest]

/-- **The batch** takes the first that verifies; with a pin, the first challenger and else the
    first of the pinned author. -/
theorem resolve_found (events : List Event) : (resolve d events wallet nowSec pins).1 =
    match pins wallet with
    | none => firstOf d wallet nowSec (fun _ => true) events
    | some b => (firstOf d wallet nowSec (challenges b) events <|>
        firstOf d wallet nowSec (ofPinned b) events) := by
  unfold resolve pickWithPin firstOf
  cases hpin : pins wallet with
  | none =>
    simp only
    rw [pickLoop_unpinned]
    cases List.find? _ _ <;> rfl
  | some b =>
    simp only
    rw [pickLoop_pinned b _ _ _ (verified_pairwise (sorted_pairwise _)) (by simp)]
    unfold pickBest
    cases List.find? (challenges b) _ with
    | some c => simp
    | none => cases List.find? (ofPinned b) _ <;> simp

/-- The pin the batch leaves after it took `p`. -/
def pinOf (pin : Option CachedPubkeyBinding) (p : PickedVerified Profile) : CachedPubkeyBinding :=
  match pin with
  | none => binding p
  | some b =>
    if challenges b p then binding p
    else { pubkey := p.event.pubkey, boundCreatedAt := max b.boundCreatedAt p.event.createdAt }

theorem resolve_pin (events : List Event) : (resolve d events wallet nowSec pins).2 wallet =
    match (resolve d events wallet nowSec pins).1 with
    | none => pins wallet
    | some p => some (pinOf (pins wallet) p) := by
  unfold resolve pickWithPin
  cases hpin : pins wallet with
  | none =>
    rw [pickLoop_unpinned]
    cases List.find? _ _ with
    | none => simp [hpin]
    | some p => simp [pinOf]
  | some b =>
    rw [pickLoop_pinned b _ _ _ (verified_pairwise (sorted_pairwise _)) (by simp)]
    unfold pickBest
    cases hc : List.find? (challenges b) _ with
    | some c =>
      have hkind := List.find?_some hc
      simp [pinOf, hkind, binding]
    | none =>
      cases hp : List.find? (ofPinned b) _ with
      | none => simp [hpin]
      | some p =>
        have hkind : p.event.pubkey = b.pubkey := by
          have := List.find?_some hp
          simpa [ofPinned] using this
        simp [pinOf, challenges, hkind]

/-! ## §6. Orders. -/

theorem verifying_perm {events events' : List Event} (h : events'.Perm events) :
    (verifying d events' wallet nowSec).Perm (verifying d events wallet nowSec) :=
  (h.filter _).filterMap _

variable (d wallet nowSec) in
/-- The events in the order the loop sees them. -/
theorem looked_perm (events : List Event) :
    ((sorted Event.createdAt (filterEventsBySkew events nowSec)).filterMap
      fun e => verifyEventForAddress d e wallet).Perm (verifying d events wallet nowSec) :=
  (sorted_perm _).filterMap _

theorem firstOf_some {kind : PickedVerified Profile → Bool} {events events' : List Event}
    (h : events'.Perm events) {p : PickedVerified Profile}
    (hp : firstOf d wallet nowSec kind events' = some p) :
    Newest PickedVerified.createdAt ((verifying d events wallet nowSec).filter kind) p := by
  obtain ⟨hkind, hin, hall⟩ := newest_find (verified_pairwise (sorted_pairwise _)) hp
  have hperm := (looked_perm d wallet nowSec events').trans (verifying_perm h)
  refine ⟨List.mem_filter.mpr ⟨hperm.mem_iff.mp hin, hkind⟩, fun q hq => ?_⟩
  obtain ⟨hq, hkq⟩ := List.mem_filter.mp hq
  exact hall q (hperm.mem_iff.mpr hq) hkq

theorem firstOf_none {kind : PickedVerified Profile → Bool} {events events' : List Event}
    (h : events'.Perm events) :
    firstOf d wallet nowSec kind events' = none ↔
      ∀ p ∈ verifying d events wallet nowSec, kind p = false := by
  have hperm := (looked_perm d wallet nowSec events').trans (verifying_perm h)
  unfold firstOf
  rw [List.find?_eq_none]
  constructor
  · intro hno p hp
    have := hno p (hperm.mem_iff.mpr hp)
    simpa using this
  · intro hno p hp
    simp [hno p (hperm.mem_iff.mp hp)]

theorem mem_verifying {events : List Event} {p : PickedVerified Profile}
    (h : p ∈ verifying d events wallet nowSec) : p.event ∈ events ∧
      isCreatedAtWithinReadSkew p.event.createdAt nowSec = true ∧
      verifyEventForAddress d p.event wallet = some p := by
  obtain ⟨e, he, hv⟩ := List.mem_filterMap.mp h
  have hevent := verified_event hv
  subst hevent
  obtain ⟨hin, hskew⟩ := List.mem_filter.mp he
  exact ⟨hin, hskew, hv⟩

/-- The events with that of `p` first. -/
theorem leading {events : List Event} {p : PickedVerified Profile}
    (h : p ∈ verifying d events wallet nowSec) :
    ∃ rest, (p.event :: rest).Perm events ∧
      verifying d (p.event :: rest) wallet nowSec = p :: verifying d rest wallet nowSec := by
  obtain ⟨hin, hskew, hv⟩ := mem_verifying h
  refine ⟨events.erase p.event, (List.perm_cons_erase hin).symm, ?_⟩
  have hcons : (p.event :: events.erase p.event).filter
      (fun e => isCreatedAtWithinReadSkew e.createdAt nowSec) = p.event ::
        (events.erase p.event).filter fun e => isCreatedAtWithinReadSkew e.createdAt nowSec :=
    List.filter_cons_of_pos hskew
  unfold verifying filterEventsBySkew
  rw [hcons]
  exact List.filterMap_cons_some hv

/-- **Any newest of a kind** is first of the kind in some order. -/
theorem firstOf_leading {kind : PickedVerified Profile → Bool} {events : List Event}
    {p : PickedVerified Profile}
    (h : Newest PickedVerified.createdAt ((verifying d events wallet nowSec).filter kind) p) :
    ∃ batch, batch.Perm events ∧ firstOf d wallet nowSec kind batch = some p := by
  obtain ⟨hin, hall⟩ := h
  obtain ⟨hin, hkind⟩ := List.mem_filter.mp hin
  obtain ⟨rest, hperm, -⟩ := leading hin
  obtain ⟨-, hskew, hv⟩ := mem_verifying hin
  refine ⟨p.event :: rest, hperm, ?_⟩
  unfold firstOf filterEventsBySkew
  have hcons : (p.event :: rest).filter (fun e => isCreatedAtWithinReadSkew e.createdAt nowSec) =
      p.event :: rest.filter fun e => isCreatedAtWithinReadSkew e.createdAt nowSec :=
    List.filter_cons_of_pos hskew
  rw [List.find?_filterMap, hcons]
  have hfirst : (sorted Event.createdAt (p.event :: rest.filter
      fun e => isCreatedAtWithinReadSkew e.createdAt nowSec)).find?
        (fun e => (verifyEventForAddress d e wallet).any kind) = some p.event := by
    refine find_sorted (by simp [hv, hkind]) fun e he hke => ?_
    obtain ⟨he, hse⟩ := List.mem_filter.mp he
    cases hve : verifyEventForAddress d e wallet with
    | none => simp [hve] at hke
    | some q =>
      have hkq : kind q = true := by simpa [hve] using hke
      have hq : q ∈ verifying d events wallet nowSec :=
        List.mem_filterMap.mpr ⟨e, List.mem_filter.mpr
          ⟨hperm.mem_iff.mp (List.mem_cons_of_mem _ he), hse⟩, hve⟩
      have hle := hall q (List.mem_filter.mpr ⟨hq, hkq⟩)
      unfold PickedVerified.createdAt at hle
      rw [verified_event hve] at hle
      exact hle
  rw [hfirst]
  exact hv

/-- **Any newest** is what the live path ends with in some order. -/
theorem arrived_leading {events : List Event} {p : PickedVerified Profile}
    (h : Newest PickedVerified.createdAt (verifying d events wallet nowSec) p) :
    ∃ arrivals, arrivals.Perm events ∧
      arrived PickedVerified.createdAt none (verifying d arrivals wallet nowSec) = some p := by
  obtain ⟨rest, hperm, hcons⟩ := leading h.1
  refine ⟨p.event :: rest, hperm, ?_⟩
  rw [hcons]
  refine arrived_first fun q hq => h.2 q ?_
  have hin : q ∈ verifying d (p.event :: rest) wallet nowSec := by
    rw [hcons]
    exact List.mem_cons_of_mem _ hq
  exact (verifying_perm hperm).mem_iff.mp hin

theorem newest_of_perm {ps qs : List (PickedVerified Profile)} (h : ps.Perm qs)
    {p : PickedVerified Profile} (hp : Newest PickedVerified.createdAt ps p) :
    Newest PickedVerified.createdAt qs p :=
  ⟨h.mem_iff.mp hp.1, fun q hq => hp.2 q (h.mem_iff.mpr hq)⟩

/-! ## §7. One rule. -/

/-- What may be taken: the events of the pinned author, and those of others newer than the pin. -/
def eligible (pin : Option CachedPubkeyBinding) (ps : List (PickedVerified Profile)) :
    List (PickedVerified Profile) :=
  match pin with
  | none => ps
  | some b => ps.filter fun p => ofPinned b p || challenges b p

/-- The batch took the newest event that may be taken, and the live path ends with the same pin
    and profile. -/
def Agree (events : List Event) (wallet : Text) (nowSec : ℤ) (pins : Text → Option CachedPubkeyBinding)
    (batch : Option (PickedVerified Profile) × (Text → Option CachedPubkeyBinding))
    (shown : Session Profile) : Prop :=
  (match batch.1 with
    | none => eligible (pins wallet) (verifying d events wallet nowSec) = []
    | some p => Newest PickedVerified.createdAt
        (eligible (pins wallet) (verifying d events wallet nowSec)) p) ∧
  shown.pins wallet = batch.2 wallet ∧
  (shown.byAddress wallet).map PickedVerified.profile = batch.1.map PickedVerified.profile

variable (d pins) in
/-- However the relays gave the events to the batch, and in every order of arrival. -/
def OneRule (events : List Event) (wallet : Text) (nowSec : ℤ) : Prop :=
  ∀ coverage arrivals, (coverageEvents coverage (pins wallet)).Perm events → arrivals.Perm events →
    Agree (d := d) events wallet nowSec pins (resolveAddressInternal d coverage wallet nowSec pins)
      (live d arrivals nowSec pins)

/-- Every batch can be what the relays gave. -/
theorem oneRule_batch {events : List Event} : OneRule d pins events wallet nowSec ↔
    ∀ batch arrivals, batch.Perm events → arrivals.Perm events →
      Agree (d := d) events wallet nowSec pins (resolve d batch wallet nowSec pins)
        (live d arrivals nowSec pins) := by
  constructor
  · intro h batch arrivals hbatch harrivals
    have hcovered : coverageEvents ⟨[], batch⟩ (pins wallet) = batch := by
      unfold coverageEvents
      split <;> simp
    have hagree := h ⟨[], batch⟩ arrivals (hcovered.symm ▸ hbatch) harrivals
    unfold resolveAddressInternal at hagree
    rwa [hcovered] at hagree
  · intro h coverage arrivals hcovered harrivals
    exact h _ arrivals hcovered harrivals

/-- The newest events tell the same profile of the same author.  If they are newer than the pin
    and of its author, no other author has an event newer than the pin; if they are not newer
    than the pin, its author has an event, and its newest tell the same profile. -/
def Settled (pin : Option CachedPubkeyBinding) (ps : List (PickedVerified Profile)) : Prop :=
  match pin with
  | none => ∀ p q, Newest PickedVerified.createdAt ps p → Newest PickedVerified.createdAt ps q →
      p.profile = q.profile ∧ p.event.pubkey = q.event.pubkey
  | some b => ∀ p, Newest PickedVerified.createdAt ps p →
      if b.boundCreatedAt < p.event.createdAt then
        (∀ q, Newest PickedVerified.createdAt ps q →
          p.profile = q.profile ∧ p.event.pubkey = q.event.pubkey) ∧
        (p.event.pubkey = b.pubkey → ∀ c ∈ ps, challenges b c = false)
      else
        (∃ q ∈ ps, ofPinned b q = true) ∧
        ∀ q, Newest PickedVerified.createdAt (ps.filter (ofPinned b)) q → q.profile = p.profile

/-- Equally new bindings of one author are equal. -/
theorem binding_eq {ps : List (PickedVerified Profile)} {p q : PickedVerified Profile}
    (hp : Newest PickedVerified.createdAt ps p) (hq : Newest PickedVerified.createdAt ps q)
    (h : p.event.pubkey = q.event.pubkey) : binding p = binding q := by
  have h1 := hp.2 q hq.1
  have h2 := hq.2 p hp.1
  unfold PickedVerified.createdAt at h1 h2
  have ht : p.event.createdAt = q.event.createdAt := le_antisymm h2 h1
  unfold binding
  rw [h, ht]

theorem arrived_newest {events arrivals : List Event} (h : arrivals.Perm events)
    {p : PickedVerified Profile}
    (hp : arrived PickedVerified.createdAt none (verifying d arrivals wallet nowSec) = some p) :
    Newest PickedVerified.createdAt (verifying d events wallet nowSec) p :=
  newest_of_perm (verifying_perm h) (newest_arrived hp)

theorem arrived_none {events arrivals : List Event} (h : arrivals.Perm events) :
    arrived PickedVerified.createdAt none (verifying d arrivals wallet nowSec) = none ↔
      verifying d events wallet nowSec = [] := by
  rw [arrived_eq_none]
  constructor
  · intro hnil
    exact List.nil_perm.mp (hnil ▸ verifying_perm h)
  · intro hnil
    exact List.perm_nil.mp (hnil ▸ verifying_perm h)

theorem found_unpinned (hpin : pins wallet = none) (batch : List Event) :
    (resolve d batch wallet nowSec pins).1 = firstOf d wallet nowSec (fun _ => true) batch := by
  rw [resolve_found, hpin]

theorem unpinned_iff {events : List Event} (hpin : pins wallet = none) :
    OneRule d pins events wallet nowSec ↔ Settled none (verifying d events wallet nowSec) := by
  rw [oneRule_batch]
  constructor
  · intro h p q hp hq
    -- The batch is led by `p`, the arrivals by `q`.
    have hp' : Newest PickedVerified.createdAt
        ((verifying d events wallet nowSec).filter fun _ => true) p := by
      rwa [List.filter_true]
    obtain ⟨batch, hbatch, hfirst⟩ := firstOf_leading hp'
    obtain ⟨arrivals, harrivals, hshown⟩ := arrived_leading hq
    obtain ⟨-, hpins, hprofile⟩ := h batch arrivals hbatch harrivals
    have hfound := (found_unpinned hpin batch).trans hfirst
    rw [live_pin, resolve_pin, hshown, hfound, hpin] at hpins
    rw [(live_eq arrivals).1, hshown, hfound] at hprofile
    have hbinding : binding q = binding p := Option.some.inj hpins
    exact ⟨(Option.some.inj hprofile).symm, (congrArg CachedPubkeyBinding.pubkey hbinding).symm⟩
  · intro h batch arrivals hbatch harrivals
    unfold Agree
    rw [live_pin, resolve_pin, (live_eq arrivals).1, hpin]
    rw [found_unpinned hpin batch]
    cases hfirst : firstOf d wallet nowSec (fun _ => true) batch with
    | none =>
      have hnil : verifying d events wallet nowSec = [] := by
        have hno := (firstOf_none hbatch).mp hfirst
        exact List.eq_nil_iff_forall_not_mem.mpr fun p hp => by simpa using hno p hp
      rw [(arrived_none harrivals).mpr hnil]
      exact ⟨hnil, rfl, rfl⟩
    | some p =>
      have hp := firstOf_some hbatch hfirst
      rw [List.filter_true] at hp
      cases hshown : arrived PickedVerified.createdAt none (verifying d arrivals wallet nowSec) with
      | none =>
        rw [(arrived_none harrivals).mp hshown] at hp
        cases hp.1
      | some q =>
        have hq := arrived_newest harrivals hshown
        obtain ⟨hprofile, hauthor⟩ := h q p hq hp
        refine ⟨hp, ?_, congrArg some hprofile⟩
        exact congrArg some (binding_eq hq hp hauthor)

/-- None is newer than the pin: nobody challenges. -/
theorem unchallenged {b : CachedPubkeyBinding} {ps : List (PickedVerified Profile)}
    {p : PickedVerified Profile} (hp : Newest PickedVerified.createdAt ps p)
    (hold : ¬ b.boundCreatedAt < p.event.createdAt) : ∀ c ∈ ps, challenges b c = false := by
  intro c hc
  have hle := hp.2 c hc
  unfold PickedVerified.createdAt at hle
  have hno : ¬ b.boundCreatedAt < c.event.createdAt := by omega
  simp [challenges, hno]

theorem found_challenger {b : CachedPubkeyBinding} {batch : List Event}
    {c : PickedVerified Profile} (hpin : pins wallet = some b)
    (h : firstOf d wallet nowSec (challenges b) batch = some c) :
    (resolve d batch wallet nowSec pins).1 = some c := by
  rw [resolve_found, hpin]
  simp only
  rw [h]
  rfl

theorem found_unchallenged {b : CachedPubkeyBinding} {events batch : List Event}
    (hpin : pins wallet = some b) (hbatch : batch.Perm events)
    (h : ∀ c ∈ verifying d events wallet nowSec, challenges b c = false) :
    (resolve d batch wallet nowSec pins).1 = firstOf d wallet nowSec (ofPinned b) batch := by
  rw [resolve_found, hpin]
  simp only
  rw [(firstOf_none hbatch).mpr h]
  rfl

theorem eligible_unchallenged {b : CachedPubkeyBinding} {ps : List (PickedVerified Profile)}
    (h : ∀ c ∈ ps, challenges b c = false) :
    eligible (some b) ps = ps.filter (ofPinned b) := by
  unfold eligible
  refine List.filter_congr fun p hp => ?_
  rw [h p hp, Bool.or_false]

theorem newest_eligible {pin : Option CachedPubkeyBinding} {ps : List (PickedVerified Profile)}
    {p : PickedVerified Profile} (hp : Newest PickedVerified.createdAt ps p)
    (hin : p ∈ eligible pin ps) : Newest PickedVerified.createdAt (eligible pin ps) p := by
  refine ⟨hin, fun q hq => hp.2 q ?_⟩
  unfold eligible at hq
  split at hq
  · exact hq
  · exact (List.mem_filter.mp hq).1

theorem pinned_only_if {b : CachedPubkeyBinding} {events : List Event} (hpin : pins wallet = some b)
    (h : OneRule d pins events wallet nowSec) :
    Settled (some b) (verifying d events wallet nowSec) := by
  rw [oneRule_batch] at h
  intro p hp
  obtain ⟨arrivals, harrivals, hshown⟩ := arrived_leading hp
  split
  · next hnew =>
    refine ⟨fun q hq => ?_, fun hauthor c hc => ?_⟩
    · -- Led by `p` or by `q`, the arrivals must agree with one and the same batch.
      obtain ⟨arrivals', harrivals', hshown'⟩ := arrived_leading hq
      obtain ⟨-, hpins, hprofile⟩ := h events arrivals (List.Perm.refl _) harrivals
      obtain ⟨-, hpins', hprofile'⟩ := h events arrivals' (List.Perm.refl _) harrivals'
      rw [← hpins', live_pin, live_pin, hshown, hshown', hpin] at hpins
      rw [← hprofile', (live_eq arrivals).1, (live_eq arrivals').1, hshown, hshown'] at hprofile
      have hle := hq.2 p hp.1
      unfold PickedVerified.createdAt at hle
      have hnew' : b.boundCreatedAt < q.event.createdAt := by omega
      have hbinding : pinAfter (some b) p = pinAfter (some b) q := Option.some.inj hpins
      unfold pinAfter at hbinding
      simp only at hbinding
      rw [if_pos hnew, if_pos hnew'] at hbinding
      exact ⟨Option.some.inj hprofile, congrArg CachedPubkeyBinding.pubkey hbinding⟩
    · by_contra hchallenge
      obtain ⟨-, hpins, -⟩ := h events arrivals (List.Perm.refl _) harrivals
      cases hfirst : firstOf d wallet nowSec (challenges b) events with
      | none => exact hchallenge ((firstOf_none (List.Perm.refl _)).mp hfirst c hc)
      | some c' =>
        have hfound := found_challenger hpin hfirst
        have hkind : challenges b c' = true :=
          (List.mem_filter.mp (firstOf_some (List.Perm.refl _) hfirst).1).2
        rw [live_pin, resolve_pin, hshown, hfound, hpin] at hpins
        have hbinding : pinAfter (some b) p = pinOf (some b) c' := Option.some.inj hpins
        unfold pinAfter pinOf at hbinding
        simp only at hbinding
        rw [if_pos hnew, if_pos hkind] at hbinding
        have hsame : p.event.pubkey = c'.event.pubkey :=
          congrArg CachedPubkeyBinding.pubkey hbinding
        have hother : c'.event.pubkey ≠ b.pubkey := by
          simp only [challenges, decide_eq_true_eq] at hkind
          exact hkind.1
        exact hother (hsame ▸ hauthor)
  · next hold =>
    have hno := unchallenged hp hold
    refine ⟨?_, fun q hq => ?_⟩
    · obtain ⟨-, -, hprofile⟩ := h events arrivals (List.Perm.refl _) harrivals
      rw [(live_eq arrivals).1, hshown, found_unchallenged hpin (List.Perm.refl _) hno] at hprofile
      cases hfirst : firstOf d wallet nowSec (ofPinned b) events with
      | none =>
        rw [hfirst] at hprofile
        cases hprofile
      | some q =>
        have hq := (firstOf_some (List.Perm.refl _) hfirst).1
        exact ⟨q, List.mem_filter.mp hq⟩
    · obtain ⟨batch, hbatch, hfirst⟩ := firstOf_leading hq
      obtain ⟨-, -, hprofile⟩ := h batch arrivals hbatch harrivals
      rw [(live_eq arrivals).1, hshown, found_unchallenged hpin hbatch hno, hfirst] at hprofile
      exact (Option.some.inj hprofile).symm

theorem pinned_if {b : CachedPubkeyBinding} {events : List Event} (hpin : pins wallet = some b)
    (h : Settled (some b) (verifying d events wallet nowSec)) : OneRule d pins events wallet nowSec := by
  rw [oneRule_batch]
  intro batch arrivals hbatch harrivals
  unfold Agree
  rw [live_pin, resolve_pin, (live_eq arrivals).1, hpin]
  cases hshown : arrived PickedVerified.createdAt none (verifying d arrivals wallet nowSec) with
  | none =>
    have hnil := (arrived_none harrivals).mp hshown
    rw [found_unchallenged hpin hbatch (by simp [hnil]), (firstOf_none hbatch).mpr (by simp [hnil])]
    refine ⟨?_, rfl, rfl⟩
    rw [hnil]
    rfl
  | some q =>
    have hq := arrived_newest harrivals hshown
    have hset := h q hq
    split at hset
    · next hnew =>
      obtain ⟨hsame, hown⟩ := hset
      -- Whatever is as new as `q` will do.
      have hpinq : pinAfter (some b) q = binding q := by
        unfold pinAfter
        simp only
        rw [if_pos hnew]
      cases hfirst : firstOf d wallet nowSec (challenges b) batch with
      | some c =>
        have hfound := found_challenger hpin hfirst
        obtain ⟨hin, hall⟩ := firstOf_some hbatch hfirst
        obtain ⟨hin, hkind⟩ := List.mem_filter.mp hin
        have hother : q.event.pubkey ≠ b.pubkey := fun hauthor => by
          rw [hown hauthor c hin] at hkind
          cases hkind
        have hqc : challenges b q = true := by simp [challenges, hother, hnew]
        have hle := hall q (List.mem_filter.mpr ⟨hq.1, hqc⟩)
        have hc : Newest PickedVerified.createdAt (verifying d events wallet nowSec) c :=
          ⟨hin, fun x hx => (hq.2 x hx).trans hle⟩
        obtain ⟨hprofile, hauthor⟩ := hsame c hc
        rw [hfound]
        refine ⟨newest_eligible hc (List.mem_filter.mpr ⟨hin, by simp [hkind]⟩), ?_,
          congrArg some hprofile⟩
        show some (pinAfter (some b) q) = some (pinOf (some b) c)
        have hpinc : pinOf (some b) c = binding c := by
          unfold pinOf
          simp only
          rw [if_pos hkind]
        rw [hpinq, hpinc, binding_eq hq hc hauthor]
      | none =>
        have hno := (firstOf_none hbatch).mp hfirst
        rw [found_unchallenged hpin hbatch hno]
        have hqown : ofPinned b q = true := by
          have hc := hno q hq.1
          simp only [challenges, decide_eq_false_iff_not, not_and] at hc
          by_contra hne
          exact hc (by simpa [ofPinned] using hne) hnew
        cases hp : firstOf d wallet nowSec (ofPinned b) batch with
        | none =>
          rw [(firstOf_none hbatch).mp hp q hq.1] at hqown
          cases hqown
        | some p =>
          obtain ⟨hin, hall⟩ := firstOf_some hbatch hp
          obtain ⟨hin, hkind⟩ := List.mem_filter.mp hin
          have hle := hall q (List.mem_filter.mpr ⟨hq.1, hqown⟩)
          have hpnew : Newest PickedVerified.createdAt (verifying d events wallet nowSec) p :=
            ⟨hin, fun x hx => (hq.2 x hx).trans hle⟩
          obtain ⟨hprofile, hauthor⟩ := hsame p hpnew
          refine ⟨newest_eligible hpnew (List.mem_filter.mpr ⟨hin, by simp [hkind]⟩), ?_,
            congrArg some hprofile⟩
          show some (pinAfter (some b) q) = some (pinOf (some b) p)
          have hbound : max b.boundCreatedAt p.event.createdAt = p.event.createdAt := by
            unfold PickedVerified.createdAt at hle
            omega
          have hpinp : pinOf (some b) p = binding p := by
            unfold pinOf
            simp only
            rw [hno p hin, hbound]
            rfl
          rw [hpinq, hpinp, binding_eq hq hpnew hauthor]
    · next hold =>
      obtain ⟨⟨o, ho, hown⟩, hsame⟩ := hset
      have hno := unchallenged hq hold
      rw [found_unchallenged hpin hbatch hno]
      cases hp : firstOf d wallet nowSec (ofPinned b) batch with
      | none =>
        rw [(firstOf_none hbatch).mp hp o ho] at hown
        cases hown
      | some p =>
        have hpnew := firstOf_some hbatch hp
        obtain ⟨hin, hkind⟩ := List.mem_filter.mp hpnew.1
        have hauthor : p.event.pubkey = b.pubkey := by simpa [ofPinned] using hkind
        have hle := hq.2 p hin
        refine ⟨?_, ?_, congrArg some (hsame p hpnew).symm⟩
        · rw [eligible_unchallenged hno]
          exact hpnew
        · show some (pinAfter (some b) q) = some (pinOf (some b) p)
          have hbound : max b.boundCreatedAt p.event.createdAt = b.boundCreatedAt := by
            unfold PickedVerified.createdAt at hle
            omega
          have hpinp : pinOf (some b) p = b := by
            unfold pinOf
            simp only
            rw [hno p hin, hbound, hauthor]
            rfl
          have hpinb : pinAfter (some b) q = b := by
            unfold pinAfter
            simp only
            rw [if_neg hold]
          rw [hpinb, hpinp]

/-- **One rule**: for every pin and all events of a wallet, the batch takes the newest event that
    may be taken and the live path ends with its pin and profile, in all orders, exactly if the
    events are `Settled`. -/
theorem one_rule_iff (d : Deps Profile) (pins : Text → Option CachedPubkeyBinding)
    (events : List Event) (wallet : Text) (nowSec : ℤ) :
    OneRule d pins events wallet nowSec ↔
      Settled (pins wallet) (verifying d events wallet nowSec) := by
  cases hpin : pins wallet with
  | none => exact unpinned_iff hpin
  | some b => exact ⟨pinned_only_if hpin, pinned_if hpin⟩

/-! ### The author of the pin is passed over. -/

def sampleWallet : Text := "0xa".toList

/-- An event with a key for its author, its content and its id. -/
def byKey (key : String) (createdAt : ℤ) : Event where
  id := key.toList
  pubkey := key.toList
  createdAt := createdAt
  tags := [["i".toList, "ethereum:0xa".toList]]
  content := key.toList

def sampleDeps : Deps Text where
  verifyProfileAttestation _ _ := true
  parseProfileContent content := some content
  emptyProfile := []

def pinnedToA : Text → Option CachedPubkeyBinding := fun _ =>
  some { pubkey := "a".toList, boundCreatedAt := 100 }

/-- The pin is of author `a`, who has the newest event; the batch takes the older event of `b`. -/
theorem passed_over : ¬ OneRule sampleDeps pinnedToA [byKey "b" 150, byKey "a" 200] sampleWallet 1000 := by
  intro h
  have hlaw := (h ⟨[], [byKey "b" 150, byKey "a" 200]⟩ _ (List.Perm.refl _) (List.Perm.refl _)).2.2
  revert hlaw
  decide +kernel

end Kargain.Nostr.Profile
