/-
  Kargain.Commons.Reviews — lib/vincent-commons/review.ts, lib/nostr/commons-reviews.ts,
  lib/nostr/commons-claims.ts and mergeLatestPerAuthorPerD of lib/nostr/app-event-store.ts.

  A review is a signed verdict on a claim, sent as a Nostr event whose `d`
  tag is the hash of the claim.  Of the events of one author and one `d` tag
  the newest counts.  A relay answers a filter with the newest events that
  match, and with no more of them than the limit of the filter.

  Main results: `mem_mergeLatest`, what the merge keeps, `mergeLatest_perm`,
  that it does not depend on the order of the events, and
  `Answer.complete`, that a relay withholds nothing when what matches fits
  the limit.
-/
import Kargain.Commons.DeriveClaims

namespace Kargain.Commons

open Kargain.Keyed
open Kargain.ProtocolAddress (Text trim trim_eq_self jsWhiteSpace)

/-! ## §1. Events and relays. -/

/-- A Nostr event. -/
structure Event where
  id : Text
  pubkey : Text
  kind : ℕ
  createdAt : ℤ
  tags : List (List Text)
  content : Text
deriving DecidableEq

def commonsReviewKind : ℕ := 31860

def commonsClaimProposalKind : ℕ := 31861

/-- The value of the first tag of a name. -/
def Event.tag (e : Event) (name : String) : Option Text :=
  (e.tags.find? fun tag => tag.head? = some name.toList).bind fun tag => tag[1]?

/-- A filter with one list of tag values. -/
structure Filter where
  kind : ℕ
  tagName : String
  values : List Text
  limit : ℕ

def Filter.matches (f : Filter) (e : Event) : Bool :=
  e.kind = f.kind ∧
    e.tags.any fun tag => tag.head? = some f.tagName.toList ∧ f.values.any fun x => tag[1]? = some x

def maxReviewQueryLimit : ℕ := 2000

def commonsReviewFilterForClaims (claimHashes : List Text) : Filter where
  kind := commonsReviewKind
  tagName := "d"
  values := distinct claimHashes
  limit := min (max (distinct claimHashes).length 1 * 8) maxReviewQueryLimit

def maxProposalQueryLimit : ℕ := 2000

def commonsClaimProposalFilterForWmis (wmis : List Text) : Filter where
  kind := commonsClaimProposalKind
  tagName := "w"
  values := distinct wmis
  limit := min (max (distinct wmis).length 1 * 8) maxProposalQueryLimit

/-- What a relay that stores `stored` may answer: the newest of what matches, up to the limit. -/
structure Answer (f : Filter) (stored answer : List Event) : Prop where
  sub : answer.Subperm (stored.filter f.matches)
  len : answer.length = min f.limit (stored.filter f.matches).length
  newest : ∀ e ∈ answer, ∀ e' ∈ stored, f.matches e' → e' ∉ answer → e'.createdAt ≤ e.createdAt

/-- What `pool.querySync` returns: every event of every answer, once. -/
def Served (f : Filter) (relays : List (List Event)) (events : List Event) : Prop :=
  events.Nodup ∧ ∃ answers, List.Forall₂ (Answer f) relays answers ∧
    ∀ e, e ∈ events ↔ ∃ answer ∈ answers, e ∈ answer

/-- **Nothing is withheld** where what matches fits the limit. -/
theorem Answer.complete {f : Filter} {stored answer : List Event} (h : Answer f stored answer)
    (hfits : (stored.filter f.matches).length ≤ f.limit) {e : Event} (he : e ∈ stored)
    (hmatch : f.matches e) : e ∈ answer := by
  have hlen : (stored.filter f.matches).length ≤ answer.length := by
    rw [h.len]
    omega
  have hperm := h.sub.perm_of_length_le hlen
  exact hperm.mem_iff.mpr (List.mem_filter.mpr ⟨he, hmatch⟩)

theorem Answer.mem_stored {f : Filter} {stored answer : List Event} (h : Answer f stored answer) {e : Event}
    (he : e ∈ answer) : e ∈ stored ∧ f.matches e := by
  have hin := h.sub.subset he
  exact List.mem_filter.mp hin

theorem exists_left {α β : Type} {R : α → β → Prop} {xs : List α} {ys : List β}
    (h : List.Forall₂ R xs ys) {y : β} (hy : y ∈ ys) : ∃ x ∈ xs, R x y := by
  induction h with
  | nil => simp at hy
  | cons hR _ ih =>
    rcases List.mem_cons.mp hy with rfl | hy
    · exact ⟨_, by simp, hR⟩
    · obtain ⟨x, hx, hRx⟩ := ih hy
      exact ⟨x, by simp [hx], hRx⟩

theorem exists_right {α β : Type} {R : α → β → Prop} {xs : List α} {ys : List β}
    (h : List.Forall₂ R xs ys) {x : α} (hx : x ∈ xs) : ∃ y ∈ ys, R x y :=
  exists_left h.flip hx

/-- All the events on the relays. -/
def pool (relays : List (List Event)) : List Event := relays.flatten

theorem Served.mem {f : Filter} {relays : List (List Event)} {events : List Event}
    (h : Served f relays events) {e : Event} (he : e ∈ events) : e ∈ pool relays ∧ f.matches e := by
  obtain ⟨_, answers, hans, hmem⟩ := h
  obtain ⟨answer, hin, hea⟩ := (hmem e).mp he
  obtain ⟨stored, hs, hrel⟩ := exists_left hans hin
  exact ⟨List.mem_flatten.mpr ⟨stored, hs, (hrel.mem_stored hea).1⟩, (hrel.mem_stored hea).2⟩

/-- **What fits the limits is served whole.** -/
theorem Served.complete {f : Filter} {relays : List (List Event)} {events : List Event}
    (h : Served f relays events)
    (hfits : ∀ stored ∈ relays, (stored.filter f.matches).length ≤ f.limit) {e : Event}
    (he : e ∈ pool relays) (hmatch : f.matches e) : e ∈ events := by
  obtain ⟨_, answers, hans, hmem⟩ := h
  obtain ⟨stored, hs, hes⟩ := List.mem_flatten.mp he
  obtain ⟨answer, hin, hrel⟩ := exists_right hans hs
  exact (hmem e).mpr ⟨answer, hin, hrel.complete (hfits stored hs) hes hmatch⟩

/-- A relay with no more than the limit may answer with all of it. -/
theorem Served.one {f : Filter} {stored : List Event} (hnodup : stored.Nodup)
    (hfits : (stored.filter f.matches).length ≤ f.limit) :
    Served f [stored] (stored.filter f.matches) := by
  refine ⟨hnodup.filter _, [stored.filter f.matches], .cons ⟨List.Subperm.refl _, ?_, ?_⟩ .nil, ?_⟩
  · rw [Nat.min_eq_right hfits]
  · intro e _ e' he' hmatch hnot
    exact absurd (List.mem_filter.mpr ⟨he', hmatch⟩) hnot
  · simp

/-! ## §2. The newest of each author and `d` tag. -/

def Event.authorD (e : Event) : Text × Text := (e.pubkey, (e.tag "d").getD [])

/-- `event` replaces `prev`: it is newer, or as new and its id is lower. -/
def replaces (event prev : Event) : Prop :=
  prev.createdAt < event.createdAt ∨ (event.createdAt = prev.createdAt ∧ units event.id < units prev.id)

instance (event prev : Event) : Decidable (replaces event prev) :=
  inferInstanceAs (Decidable (_ ∨ _))

def newerEvent (event prev : Event) : Event := if replaces event prev then event else prev

def mergeLatestPerAuthorPerD (events : List Event) : List Event :=
  (collect Event.authorD newerEvent events).map Prod.snd

theorem picks_newerEvent : Picks newerEvent fun e x => ¬ replaces x e where
  one := by
    intro x y
    unfold newerEvent
    split <;> simp
  left := by
    intro x y
    unfold newerEvent
    split
    · unfold replaces
      simp
    · assumption
  right := by
    intro x y
    unfold newerEvent
    split
    · next h =>
      unfold replaces at *
      rintro (h' | ⟨h', hid'⟩) <;> rcases h with h | ⟨h, hid⟩
      · omega
      · omega
      · omega
      · exact absurd hid (not_lt.mpr hid'.le)
    · unfold replaces
      simp
  self := by
    intro x
    unfold replaces
    simp
  chain := by
    intro x y z hxy hyz
    unfold replaces at *
    rintro (h | ⟨h, hid⟩)
    · exact hxy (.inl (by by_contra; exact hyz (.inl (by omega))))
    · by_cases hy : y.createdAt = z.createdAt
      · -- all three are as new, and the ids decide
        have hyz' : ¬ units z.id < units y.id := fun hlt => hyz (.inr ⟨hy.symm, hlt⟩)
        exact hxy (.inr ⟨by omega, (not_lt.mp hyz').trans_lt hid⟩)
      · exact hxy (.inl (by by_contra; exact hyz (.inl (by omega))))

/-- An id names one event. -/
def IdsApart (events : List Event) : Prop := ∀ e ∈ events, ∀ e' ∈ events, e.id = e'.id → e = e'

theorem strict_authorD {events : List Event} (h : IdsApart events) :
    Strict Event.authorD (fun e x => ¬ replaces x e) events := by
  intro e he e' he' _ hee' he'e
  unfold replaces at hee' he'e
  push Not at hee' he'e
  have hat : e.createdAt = e'.createdAt := le_antisymm he'e.1 hee'.1
  exact h e he e' he' (units_inj (le_antisymm (hee'.2 hat.symm) (he'e.2 hat)))

/-- **What the merge keeps**: the events that none of their author and tag replaces. -/
theorem mem_mergeLatest {events : List Event} (h : IdsApart events) {e : Event} :
    e ∈ mergeLatestPerAuthorPerD events ↔
      e ∈ events ∧ ∀ x ∈ events, x.authorD = e.authorD → ¬ replaces x e := by
  unfold mergeLatestPerAuthorPerD
  rw [List.mem_map]
  constructor
  · rintro ⟨⟨k, e'⟩, hin, rfl⟩
    obtain ⟨he, rfl, hbest⟩ := (mem_collect picks_newerEvent (strict_authorD h)).mp hin
    exact ⟨he, hbest⟩
  · intro ⟨he, hbest⟩
    exact ⟨(e.authorD, e),
      (mem_collect picks_newerEvent (strict_authorD h)).mpr ⟨he, rfl, hbest⟩, rfl⟩

theorem mergeLatest_perm {events events' : List Event} (h : IdsApart events)
    (hperm : events.Perm events') :
    (mergeLatestPerAuthorPerD events).Perm (mergeLatestPerAuthorPerD events') :=
  (collect_perm picks_newerEvent (strict_authorD h) hperm).map _

/-! ## §3. Reviews. -/

inductive Json
  | null
  | bool (b : Bool)
  | number (n : ℤ)
  | string (s : Text)
  | array (items : List Json)
  | object (members : List (Text × Json))

inductive CommonsReviewKind | endorse | reject
deriving DecidableEq

def CommonsReviewKind.text : CommonsReviewKind → Text
  | .endorse => "endorse".toList
  | .reject => "reject".toList

/-- `schemaVersion` is `"1.0"`. -/
structure UnsignedCommonsReview where
  claim : Text
  attester : Text
  kind : CommonsReviewKind
deriving DecidableEq

structure CommonsReview extends UnsignedCommonsReview where
  signature : Text
deriving DecidableEq

/-- What else the package provides, and `JSON.parse`.  `parseClaimJson` is `parseClaim` of a value
    that was read; `verifyAttestation` parses an endorsement and checks its signature;
    `recoverPersonalSignAddress` is `none` where it throws. -/
structure Protocol extends Vincent where
  jsonParse : Text → Option Json
  parseClaimJson : Json → Option Claim
  verifyAttestation : CommonsReview → Bool
  isValidChecksumAddress : Text → Bool
  canonicalize : UnsignedCommonsReview → Text
  recoverPersonalSignAddress : Text → Text → Option Text

def isHex (c : Char) : Bool := c.isDigit || ('a' ≤ c && c ≤ 'f') || ('A' ≤ c && c ≤ 'F')

def isLowerHex (c : Char) : Bool := c.isDigit || ('a' ≤ c && c ≤ 'f')

/-- `CLAIM_HASH_RE`. -/
def claimHashRe (t : Text) : Bool :=
  t.take 7 = "sha256:".toList ∧ (t.drop 7).length = 64 ∧ (t.drop 7).all isLowerHex

/-- `ADDRESS_RE` and `SIGNATURE_RE`, by the number of digits. -/
def hexRe (digits : ℕ) (t : Text) : Bool :=
  t.take 2 = "0x".toList ∧ (t.drop 2).length = digits ∧ (t.drop 2).all isHex

def reviewKeysSorted : List Text :=
  ["attester".toList, "claim".toList, "kind".toList, "schemaVersion".toList, "signature".toList]

def memberText (members : List (Text × Json)) (name : String) : Option Text :=
  match members.find? fun m => m.1 = name.toList with
  | some (_, .string s) => some s
  | _ => none

def parseCommonsReview (json : Json) : Except String CommonsReview :=
  match json with
  | .object members =>
    if sortTexts (members.map Prod.fst) ≠ reviewKeysSorted then .error "unexpected-keys"
    else if memberText members "schemaVersion" ≠ some "1.0".toList then .error "schema-version"
    else
      match memberText members "claim" with
      | none => .error "invalid-claim"
      | some claim =>
        if ¬ claimHashRe claim then .error "invalid-claim"
        else
          match memberText members "attester" with
          | none => .error "invalid-attester"
          | some attester =>
            if ¬ hexRe 40 attester then .error "invalid-attester"
            else
              match [CommonsReviewKind.endorse, .reject].find? fun k =>
                  memberText members "kind" = some k.text with
              | none => .error "invalid-kind"
              | some kind =>
                match memberText members "signature" with
                | none => .error "invalid-signature"
                | some signature =>
                  if ¬ hexRe 130 signature then .error "invalid-signature"
                  else .ok { claim := claim, attester := attester, kind := kind,
                             signature := signature }
  | _ => .error "not-an-object"

theorem parsed_claim {json : Json} {review : CommonsReview}
    (h : parseCommonsReview json = .ok review) : review.claim ≠ [] := by
  unfold parseCommonsReview at h
  repeat' split at h
  all_goals cases h
  intro hnil
  simp_all [claimHashRe]

theorem parsed_attester {json : Json} {review : CommonsReview}
    (h : parseCommonsReview json = .ok review) : hexRe 40 review.attester := by
  unfold parseCommonsReview at h
  repeat' split at h
  all_goals cases h
  simp_all

def verifyCommonsReview (v : Protocol) (review : CommonsReview) : Bool :=
  match review.kind with
  | .endorse => v.verifyAttestation review
  | .reject =>
    v.isValidChecksumAddress review.attester &&
      v.recoverPersonalSignAddress (v.canonicalize review.toUnsignedCommonsReview) review.signature =
        some review.attester

def commonsReviewFromEvent (v : Protocol) (event : Event) : Option CommonsReview :=
  if event.kind ≠ commonsReviewKind then none
  else
    match v.jsonParse event.content with
    | none => none
    | some json =>
      match parseCommonsReview json with
      | .error _ => none
      | .ok review =>
        if event.tag "d" ≠ some review.claim then none
        else if verifyCommonsReview v review then some review
        else none

structure CommonsReviewEntry where
  review : CommonsReview
  createdAt : ℤ
  eventId : Text
  authorPubkey : Text
deriving DecidableEq

def commonsReviewEntryFromEvent (v : Protocol) (event : Event) : Option CommonsReviewEntry :=
  (commonsReviewFromEvent v event).map fun review =>
    { review := review, createdAt := event.createdAt, eventId := event.id,
      authorPubkey := event.pubkey }

/-- `toLowerCase`; the letters that matter are those of an address. -/
def toLowerCase (t : Text) : Text := t.map Char.toLower

def CommonsReviewEntry.attester (entry : CommonsReviewEntry) : Text :=
  toLowerCase entry.review.attester

/-- What an entry says of its event. -/
theorem entry_spec {v : Protocol} {event : Event} {entry : CommonsReviewEntry}
    (h : commonsReviewEntryFromEvent v event = some entry) :
    event.kind = commonsReviewKind ∧ event.tag "d" = some entry.review.claim ∧
      entry.createdAt = event.createdAt ∧ entry.eventId = event.id ∧
      entry.authorPubkey = event.pubkey ∧ hexRe 40 entry.review.attester ∧
      entry.review.claim ≠ [] := by
  obtain ⟨review, hreview, rfl⟩ := Option.map_eq_some_iff.mp h
  unfold commonsReviewFromEvent at hreview
  split at hreview
  · cases hreview
  · next hkind =>
    split at hreview
    · cases hreview
    · split at hreview
      · cases hreview
      · next parsed hparse =>
        split at hreview
        · cases hreview
        · next htag =>
          split at hreview
          · cases hreview
            exact ⟨not_not.mp hkind, not_not.mp htag, rfl, rfl, rfl,
              parsed_attester hparse, parsed_claim hparse⟩
          · cases hreview

/-! ## §4. Proposals. -/

structure CommonsWmiProposalEntry where
  claim : Claim
  wmi : Text
  claimHash : Text
  createdAt : ℤ
  eventId : Text
  authorPubkey : Text
deriving DecidableEq

/-- The key of a `wmi` claim. -/
def Claim.wmiKey : Claim → Option Text
  | .wmi _ key _ _ _ _ => some key
  | _ => none

/-- `commonsWmiProposalFromEvent`, with the data of the event. -/
def commonsWmiProposalEntryFromEvent (v : Protocol) (event : Event) :
    Option CommonsWmiProposalEntry :=
  if event.kind ≠ commonsClaimProposalKind then none
  else do
    let claim ← v.parseClaimJson (← v.jsonParse event.content)
    let wmi ← claim.wmiKey
    if event.tag "d" ≠ some (v.claimHash claim) then none
    else if event.tag "w" ≠ some wmi then none
    else some { claim := claim, wmi := wmi, claimHash := v.claimHash claim,
                createdAt := event.createdAt, eventId := event.id, authorPubkey := event.pubkey }

/-- `prev` was earlier, or as early and its id is no higher. -/
def keepsFirst (entry prev : CommonsWmiProposalEntry) : Prop :=
  prev.createdAt < entry.createdAt ∨
    (prev.createdAt = entry.createdAt ∧ units prev.eventId ≤ units entry.eventId)

instance (entry prev : CommonsWmiProposalEntry) : Decidable (keepsFirst entry prev) :=
  inferInstanceAs (Decidable (_ ∨ _))

def earlierEntry (entry prev : CommonsWmiProposalEntry) : CommonsWmiProposalEntry :=
  if keepsFirst entry prev then prev else entry

def dedupeCommonsWmiProposalEntries (entries : List CommonsWmiProposalEntry) :
    List CommonsWmiProposalEntry :=
  (collect CommonsWmiProposalEntry.claimHash earlierEntry entries).map Prod.snd

theorem picks_earlierEntry : Picks earlierEntry fun e x => keepsFirst x e where
  one := by
    intro x y
    unfold earlierEntry
    split <;> simp
  left := by
    intro x y
    unfold earlierEntry
    split
    · assumption
    · exact .inr ⟨rfl, le_rfl⟩
  right := by
    intro x y
    unfold earlierEntry
    split
    · exact .inr ⟨rfl, le_rfl⟩
    · next h =>
      unfold keepsFirst at *
      push Not at h
      by_cases hat : x.createdAt = y.createdAt
      · exact .inr ⟨hat, (h.2 hat.symm).le⟩
      · exact .inl (by omega)
  self := fun _ => .inr ⟨rfl, le_rfl⟩
  chain := by
    intro x y z hxy hyz
    unfold keepsFirst at *
    rcases hxy with hxy | ⟨hxy, hid⟩ <;> rcases hyz with hyz | ⟨hyz, hid'⟩
    · exact .inl (by omega)
    · exact .inl (by omega)
    · exact .inl (by omega)
    · exact .inr ⟨by omega, hid.trans hid'⟩

end Kargain.Commons
