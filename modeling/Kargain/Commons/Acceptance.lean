/-
  Kargain.Commons.Acceptance — when a claim is accepted, in terms of the reviews on the relays.

  The assembler walks through the accepts in the order of their times and
  stops at the first with which they meet the threshold.  What that comes to:
  a claim is accepted when no review that counts rejects it, and the accepts
  that were there a window ago were already enough.

  Main results: `claim_accepted_iff`, the claims that are accepted and since when,
  for relays that withhold nothing, and `accepted_closed`, a pattern is
  published with the schema and the binding it refers to.
-/
import Kargain.Commons.Assemble

namespace Kargain.Commons

open Kargain.Keyed
open Kargain.ProtocolAddress (Text trim trim_eq_self jsWhiteSpace)

/-! ## §1. The walk over the accepts. -/

section Walk

variable {thresholdMet : List GatedVerdict → Bool} {Q : (GatedVerdict → Prop) → Prop}

/-- The accepts among `accepts` that were there at `T`, after those of `before`. -/
def asOf (before accepts : List GatedVerdict) (T : ℤ) (a : GatedVerdict) : Prop :=
  a ∈ before ∨ (a ∈ accepts ∧ a.entry.createdAt ≤ T)

/-- **The walk stops by `T` exactly when the accepts of `T` are enough.**  By induction on the
    accepts that are left; those before them are not enough. -/
theorem firstMet_le_iff (hmono : ∀ {A B : GatedVerdict → Prop}, (∀ a, A a → B a) → Q A → Q B)
    {all : List GatedVerdict} (hQ : ∀ xs, xs.Sublist all → (thresholdMet xs = true ↔ Q (· ∈ xs)))
    (T : ℤ) (accepts : List GatedVerdict) : ∀ before : List GatedVerdict,
      before ++ accepts = all → ¬ Q (· ∈ before) →
      accepts.Pairwise (fun a b => a.entry.createdAt ≤ b.entry.createdAt) →
      ((∃ t ≤ T, firstMet thresholdMet before accepts = some t) ↔ Q (asOf before accepts T)) := by
  induction accepts with
  | nil =>
    intro before _ hnot _
    have hno : ¬ Q (asOf before [] T) := by
      intro h
      refine hnot (hmono (fun a ha => ?_) h)
      rcases ha with ha | ⟨ha, _⟩
      · exact ha
      · simp at ha
    simp [firstMet, hno]
  | cons a rest ih =>
    intro before hall hnot hsorted
    have hrest := (List.pairwise_cons.mp hsorted).2
    have hlater := (List.pairwise_cons.mp hsorted).1
    have hall' : (before ++ [a]) ++ rest = all := by simpa using hall
    have hsub : (before ++ [a]).Sublist all := hall' ▸ List.sublist_append_left _ _
    -- before the time of `a` there is nothing but what came before it
    have hearly : T < a.entry.createdAt → ¬ Q (asOf before (a :: rest) T) := by
      intro hlt h
      refine hnot (hmono (fun b hb => ?_) h)
      rcases hb with hb | ⟨hb, hle⟩
      · exact hb
      · rcases List.mem_cons.mp hb with rfl | hb
        · omega
        · have hge := hlater b hb
          omega
    unfold firstMet
    split
    · next hmet =>
      have hQa := (hQ _ hsub).mp hmet
      constructor
      · intro ⟨t, hle, ht⟩
        cases ht
        refine hmono (fun b hb => ?_) hQa
        rcases List.mem_append.mp hb with hb | hb
        · exact .inl hb
        · rw [List.mem_singleton.mp hb]
          exact .inr ⟨by simp, hle⟩
      · intro h
        refine ⟨a.entry.createdAt, ?_, rfl⟩
        by_contra hlt
        exact hearly (by omega) h
    · next hmet =>
      have hnot' : ¬ Q (· ∈ before ++ [a]) := fun h => hmet ((hQ _ hsub).mpr h)
      rw [ih (before ++ [a]) hall' hnot' hrest]
      by_cases hle : a.entry.createdAt ≤ T
      · constructor
        · refine hmono fun b hb => ?_
          rcases hb with hb | ⟨hb, hle'⟩
          · rcases List.mem_append.mp hb with hb | hb
            · exact .inl hb
            · rw [List.mem_singleton.mp hb]
              exact .inr ⟨by simp, hle⟩
          · exact .inr ⟨by simp [hb], hle'⟩
        · refine hmono fun b hb => ?_
          rcases hb with hb | ⟨hb, hle'⟩
          · exact .inl (by simp [hb])
          · rcases List.mem_cons.mp hb with rfl | hb
            · exact .inl (by simp)
            · exact .inr ⟨hb, hle'⟩
      · refine iff_of_false (fun h => hnot' (hmono (fun b hb => ?_) h)) (hearly (by omega))
        rcases hb with hb | ⟨hb, hle'⟩
        · exact hb
        · have hge := hlater b hb
          omega

variable (Q) in
/-- **The time of the walk is the least time at which the accepts are enough.** -/
theorem firstMet_eq_some (hmono : ∀ {A B : GatedVerdict → Prop}, (∀ a, A a → B a) → Q A → Q B)
    (hnone : ¬ Q fun _ => False) {accepts : List GatedVerdict}
    (hQ : ∀ xs, xs.Sublist accepts → (thresholdMet xs = true ↔ Q (· ∈ xs)))
    (hsorted : accepts.Pairwise fun a b => a.entry.createdAt ≤ b.entry.createdAt) {tMet : ℤ} :
    firstMet thresholdMet [] accepts = some tMet ↔
      IsLeast { T | Q fun a => a ∈ accepts ∧ a.entry.createdAt ≤ T } tMet := by
  have hwalk : ∀ T, (∃ t ≤ T, firstMet thresholdMet [] accepts = some t) ↔
      Q fun a => a ∈ accepts ∧ a.entry.createdAt ≤ T := by
    intro T
    have hiff : (∃ t ≤ T, firstMet thresholdMet [] accepts = some t) ↔ Q (asOf [] accepts T) :=
      firstMet_le_iff hmono hQ T accepts [] rfl (by simpa using hnone) hsorted
    have heq : asOf [] accepts T = fun a => a ∈ accepts ∧ a.entry.createdAt ≤ T := by
      funext a
      simp [asOf]
    rw [← heq]
    exact hiff
  constructor
  · intro h
    refine ⟨(hwalk tMet).mp ⟨tMet, le_rfl, h⟩, fun T hT => ?_⟩
    obtain ⟨t, hle, ht⟩ := (hwalk T).mpr hT
    rw [h] at ht
    cases ht
    exact hle
  · intro ⟨hin, hleast⟩
    obtain ⟨t, hle, ht⟩ := (hwalk tMet).mpr hin
    have hge : tMet ≤ t := hleast ((hwalk t).mp ⟨t, le_rfl, ht⟩)
    rw [ht, le_antisymm hle hge]

end Walk

/-! ## §2. The thresholds. -/

/-- An accept of a claim that counts has enough company: for a pattern, the verifier of record of a
    passport behind it is among them, or there are two attesters; for a proposal, its author is
    among them and someone else. -/
def Enough (verifierByTokenId : Text → Option Text) (t : Target)
    (accepts : CommonsReviewEntry → Prop) : Prop :=
  match t with
  | .candidate c =>
    (∃ e, accepts e ∧ e.attester ∈ candidateRecordVerifiers c verifierByTokenId) ∨
      ∃ e e', accepts e ∧ accepts e' ∧ e.attester ≠ e'.attester
  | .proposal p =>
    (∃ e, accepts e ∧ normal e.authorPubkey = normal p.authorPubkey) ∧
      ∃ e, accepts e ∧ normal e.authorPubkey ≠ normal p.authorPubkey

theorem Enough.mono {verifierByTokenId : Text → Option Text} {t : Target}
    {A B : CommonsReviewEntry → Prop} (hsub : ∀ e, A e → B e) (h : Enough verifierByTokenId t A) :
    Enough verifierByTokenId t B := by
  cases t with
  | candidate c =>
    rcases h with ⟨e, he, hrecord⟩ | ⟨e, e', he, he', hne⟩
    · exact .inl ⟨e, hsub e he, hrecord⟩
    · exact .inr ⟨e, e', hsub e he, hsub e' he', hne⟩
  | proposal p =>
    obtain ⟨⟨e, he, hauthor⟩, ⟨e', he', hother⟩⟩ := h
    exact ⟨⟨e, hsub e he, hauthor⟩, ⟨e', hsub e' he', hother⟩⟩

theorem not_enough_none {verifierByTokenId : Text → Option Text} {t : Target} :
    ¬ Enough verifierByTokenId t fun _ => False := by
  cases t with
  | candidate c =>
    intro h
    rcases h with ⟨_, he, _⟩ | ⟨_, _, he, _, _⟩ <;> exact he
  | proposal p => exact fun ⟨⟨_, he, _⟩, _⟩ => he

def hexChars : Text :=
  ['0', '1', '2', '3', '4', '5', '6', '7', '8', '9', 'a', 'b', 'c', 'd', 'e', 'f',
    'A', 'B', 'C', 'D', 'E', 'F']

theorem isHex_iff {c : Char} (h : isHex c) : c ∈ hexChars := by
  unfold isHex Char.isDigit at h
  have hrange : (48 ≤ c.toNat ∧ c.toNat ≤ 57) ∨ (97 ≤ c.toNat ∧ c.toNat ≤ 102) ∨
      (65 ≤ c.toNat ∧ c.toNat ≤ 70) := by
    simp only [Bool.or_eq_true, Bool.and_eq_true, decide_eq_true_eq, Char.le_def] at h
    rcases h with (h | h) | h
    · exact .inl h
    · exact .inr (.inl h)
    · exact .inr (.inr h)
  have hmem : ∀ n < 103, (48 ≤ n ∧ n ≤ 57) ∨ (97 ≤ n ∧ n ≤ 102) ∨ (65 ≤ n ∧ n ≤ 70) →
      Char.ofNat n ∈ hexChars := by decide
  have hin := hmem c.toNat (by omega) hrange
  rwa [Char.ofNat_toNat] at hin

/-- An attester is its own normal form. -/
theorem normal_attester {entry : CommonsReviewEntry} (h : hexRe 40 entry.review.attester) :
    normal entry.attester = entry.attester ∧ entry.attester ≠ [] := by
  unfold hexRe at h
  simp only [decide_eq_true_eq] at h
  obtain ⟨hhead, hlen, hall⟩ := h
  have hprefix : ∀ c ∈ "0x".toList, c ∈ 'x' :: hexChars := by simp [hexChars]
  have hchars : ∀ c ∈ entry.review.attester, c ∈ 'x' :: hexChars := by
    intro c hc
    rw [← List.take_append_drop 2 entry.review.attester, hhead] at hc
    rcases List.mem_append.mp hc with hc | hc
    · exact hprefix c hc
    · exact List.mem_cons_of_mem _ (isHex_iff (List.all_eq_true.mp hall c hc))
  have hlower : ∀ c ∈ 'x' :: hexChars, jsWhiteSpace c.toLower = false ∧
      c.toLower.toLower = c.toLower := by
    simp [hexChars, jsWhiteSpace, Char.toLower]
  have htrim : trim entry.attester = entry.attester := by
    refine trim_eq_self fun c hc => ?_
    obtain ⟨c', hc', rfl⟩ := List.mem_map.mp hc
    exact (hlower c' (hchars c' hc')).1
  refine ⟨?_, fun hnil => ?_⟩
  · unfold normal
    rw [htrim]
    unfold CommonsReviewEntry.attester toLowerCase
    rw [List.map_map]
    exact List.map_congr_left fun c hc => (hlower c (hchars c hc)).2
  · have hempty : entry.review.attester = [] := List.map_eq_nil_iff.mp hnil
    rw [hempty] at hlen
    simp at hlen

theorem two_le_distinct {xs : List Text} : 2 ≤ (distinct xs).length ↔ ∃ x ∈ xs, ∃ y ∈ xs, x ≠ y := by
  have hnodup := nodup_distinct xs
  constructor
  · intro hlen
    match hd : distinct xs with
    | [] => simp [hd] at hlen
    | [_] => simp [hd] at hlen
    | x :: y :: l =>
      rw [hd] at hnodup
      refine ⟨x, mem_distinct.mp (by simp [hd]), y, mem_distinct.mp (by simp [hd]), fun heq => ?_⟩
      simp [heq] at hnodup
  · intro ⟨x, hx, y, hy, hne⟩
    have hx' := mem_distinct.mpr hx
    have hy' := mem_distinct.mpr hy
    match hd : distinct xs with
    | [] => simp [hd] at hx'
    | [_] =>
      rw [hd] at hx' hy'
      exact absurd ((List.mem_singleton.mp hx').trans (List.mem_singleton.mp hy').symm) hne
    | _ :: _ :: _ => simp

/-- Accepts of distinct attesters, each named by its entry. -/
structure Named (accepts : List GatedVerdict) : Prop where
  apart : (accepts.map GatedVerdict.attester).Nodup
  named : ∀ a ∈ accepts, a.attester = a.entry.attester ∧ normal a.attester = a.attester ∧
    a.attester ≠ []

theorem Named.sublist {xs ys : List GatedVerdict} (h : Named ys) (hsub : xs.Sublist ys) : Named xs where
  apart := h.apart.sublist (hsub.map _)
  named := fun a ha => h.named a (hsub.subset ha)

theorem candidateThreshold_iff (c : CommonsCandidate) (verifierByTokenId : Text → Option Text)
    {accepts : List GatedVerdict} (h : Named accepts) :
    (candidateThreshold c verifierByTokenId (accepts.map GatedVerdict.attester)).met = true ↔
      Enough verifierByTokenId (.candidate c) fun e => ∃ a ∈ accepts, a.entry = e := by
  have hnormal : (accepts.map GatedVerdict.attester).map normal = accepts.map GatedVerdict.attester := by
    rw [List.map_map]
    exact List.map_congr_left fun a ha => (h.named a ha).2.1
  have hrecord : ((accepts.map GatedVerdict.attester).any fun address =>
      normal address ∈ candidateRecordVerifiers c verifierByTokenId) = true ↔
      ∃ e, (∃ a ∈ accepts, a.entry = e) ∧ e.attester ∈ candidateRecordVerifiers c verifierByTokenId := by
    rw [List.any_eq_true]
    constructor
    · intro ⟨address, hin, hmem⟩
      obtain ⟨a, ha, rfl⟩ := List.mem_map.mp hin
      obtain ⟨hname, hnorm, _⟩ := h.named a ha
      refine ⟨a.entry, ⟨a, ha, rfl⟩, ?_⟩
      rw [← hname, ← hnorm]
      simpa using hmem
    · intro ⟨e, ⟨a, ha, hae⟩, hmem⟩
      obtain ⟨hname, hnorm, _⟩ := h.named a ha
      refine ⟨a.attester, List.mem_map.mpr ⟨a, ha, rfl⟩, ?_⟩
      rw [hnorm, hname, hae]
      simpa using hmem
  have htwo : 2 ≤ (distinct ((accepts.map GatedVerdict.attester).map normal)).length ↔
      ∃ e e', (∃ a ∈ accepts, a.entry = e) ∧ (∃ a ∈ accepts, a.entry = e') ∧
        e.attester ≠ e'.attester := by
    rw [two_le_distinct, hnormal]
    constructor
    · intro ⟨x, hx, y, hy, hne⟩
      obtain ⟨a, ha, rfl⟩ := List.mem_map.mp hx
      obtain ⟨b, hb, rfl⟩ := List.mem_map.mp hy
      rw [(h.named a ha).1, (h.named b hb).1] at hne
      exact ⟨a.entry, b.entry, ⟨a, ha, rfl⟩, ⟨b, hb, rfl⟩, hne⟩
    · intro ⟨e, e', ⟨a, ha, hae⟩, ⟨b, hb, hbe⟩, hne⟩
      refine ⟨a.attester, List.mem_map.mpr ⟨a, ha, rfl⟩, b.attester,
        List.mem_map.mpr ⟨b, hb, rfl⟩, ?_⟩
      rw [(h.named a ha).1, (h.named b hb).1, hae, hbe]
      exact hne
  simp only [candidateThreshold]
  split
  · next hany => exact iff_of_true rfl (.inl (hrecord.mp hany))
  · next hany =>
    show decide (2 ≤ _) = true ↔ (_ ∨ _)
    rw [decide_eq_true_iff, htwo]
    exact ⟨.inr, fun h => h.resolve_left fun hr => hany (hrecord.mpr hr)⟩

/-- Each accept of distinct attesters keeps its own key. -/
theorem mem_byAddress {accepts : List GatedVerdict} (h : Named accepts) {k : Text} :
    k ∈ (byAddress (accepts.map fun a =>
        { address := a.attester, pubkey := a.entry.authorPubkey })).map
        (fun p => normal p.2.pubkey) ↔
      ∃ a ∈ accepts, normal a.entry.authorPubkey = k := by
  let toEndorser (a : GatedVerdict) : WmiProposalEndorser :=
    { address := a.attester, pubkey := a.entry.authorPubkey }
  have hlast : Picks (fun e _ : WmiProposalEndorser => e) (fun _ _ => True) := picks_first
  have hall : ∀ e ∈ accepts.map toEndorser, normal e.address ≠ [] := by
    intro e he
    obtain ⟨a, ha, rfl⟩ := List.mem_map.mp he
    show normal a.attester ≠ []
    rw [(h.named a ha).2.1]
    exact (h.named a ha).2.2
  have hfilter : (accepts.map toEndorser).filter (fun e => normal e.address ≠ []) =
      accepts.map toEndorser := List.filter_eq_self.mpr fun e he => by simpa using hall e he
  have hstrict : Strict (fun e : WmiProposalEndorser => normal e.address) (fun _ _ => True)
      (accepts.map toEndorser) := by
    intro x hx y hy hkey _ _
    obtain ⟨a, ha, rfl⟩ := List.mem_map.mp hx
    obtain ⟨b, hb, rfl⟩ := List.mem_map.mp hy
    have hsame : a.attester = b.attester := by
      rw [← (h.named a ha).2.1, ← (h.named b hb).2.1]
      exact hkey
    rw [List.inj_on_of_nodup_map h.apart ha hb hsame]
  unfold byAddress
  rw [hfilter, List.mem_map]
  constructor
  · intro ⟨p, hp, hk⟩
    obtain ⟨hin, _, _⟩ := (mem_collect (k := p.1) (e := p.2) hlast hstrict).mp hp
    obtain ⟨a, ha, heq⟩ := List.mem_map.mp hin
    refine ⟨a, ha, ?_⟩
    rw [← hk, ← heq]
  · intro ⟨a, ha, hk⟩
    refine ⟨(normal a.attester, toEndorser a), ?_, hk⟩
    exact (mem_collect hlast hstrict).mpr ⟨List.mem_map.mpr ⟨a, ha, rfl⟩, rfl, fun _ _ _ => trivial⟩

theorem wmiProposalThreshold_iff (p : CommonsWmiProposalEntry)
    (verifierByTokenId : Text → Option Text) {accepts : List GatedVerdict} (h : Named accepts) :
    (wmiProposalThreshold p.authorPubkey (accepts.map fun a =>
      { address := a.attester, pubkey := a.entry.authorPubkey })).met = true ↔
      Enough verifierByTokenId (.proposal p) fun e => ∃ a ∈ accepts, a.entry = e := by
  unfold wmiProposalThreshold Enough
  simp only [Bool.and_eq_true, decide_eq_true_eq, List.any_eq_true, Nat.succ_le_iff,
    List.countP_pos_iff]
  constructor
  · intro ⟨⟨k, hk, heq⟩, ⟨k', hk', hne⟩⟩
    obtain ⟨a, ha, rfl⟩ := (mem_byAddress h).mp hk
    obtain ⟨b, hb, rfl⟩ := (mem_byAddress h).mp hk'
    exact ⟨⟨a.entry, ⟨a, ha, rfl⟩, by simpa using heq⟩, ⟨b.entry, ⟨b, hb, rfl⟩, by simpa using hne⟩⟩
  · intro ⟨⟨e, ⟨a, ha, hae⟩, heq⟩, ⟨e', ⟨b, hb, hbe⟩, hne⟩⟩
    subst hae hbe
    exact ⟨⟨_, (mem_byAddress h).mpr ⟨a, ha, rfl⟩, by simpa using heq⟩,
      ⟨_, (mem_byAddress h).mpr ⟨b, hb, rfl⟩, by simpa using hne⟩⟩

theorem thresholdMet_iff (verifierByTokenId : Text → Option Text) (t : Target)
    {accepts : List GatedVerdict} (h : Named accepts) : t.thresholdMet verifierByTokenId accepts = true ↔
      Enough verifierByTokenId t fun e => ∃ a ∈ accepts, a.entry = e := by
  cases t with
  | candidate c => exact candidateThreshold_iff c verifierByTokenId h
  | proposal p => exact wmiProposalThreshold_iff p verifierByTokenId h

/-! ## §3. The reviews that count. -/

/-- A review that counts for a claim: its event is the newest of its author on the claim, of those
    that the relays have so far; the author is the attested key of the attester, and the attester an
    active verifier. -/
structure Counted (v : Protocol) (input : AssembleInput) (relays : List (List Event)) (hash : Text)
    (entry : CommonsReviewEntry) : Prop where
  event : ∃ e ∈ pool relays, commonsReviewEntryFromEvent v e = some entry ∧
    e.createdAt ≤ input.nowSeconds ∧ ∀ x ∈ pool relays, x.kind = commonsReviewKind →
      x.createdAt ≤ input.nowSeconds → x.authorD = e.authorD → ¬ replaces x e
  claim : entry.review.claim = hash
  isBound : bound input.deps entry
  active : input.deps.isActiveVerifier entry.attester

/-- An id names one event, and no relay has more reviews of the targets than it is asked for. -/
structure Whole (input : AssembleInput) (relays : List (List Event)) (targets : List Text) : Prop where
  apart : IdsApart (pool relays)
  served : Served (commonsReviewFilterForClaims targets) relays
    (input.deps.queryEvents (commonsReviewFilterForClaims targets))
  fits : ∀ stored ∈ relays, (stored.filter (commonsReviewFilterForClaims targets).matches).length ≤
    (commonsReviewFilterForClaims targets).limit

theorem matches_of_tag {e : Event} {targets : List Text} {hash : Text}
    (hkind : e.kind = commonsReviewKind) (htag : e.tag "d" = some hash) (hin : hash ∈ targets) :
    (commonsReviewFilterForClaims targets).matches e := by
  unfold Event.tag at htag
  obtain ⟨tag, hfind, hval⟩ := Option.bind_eq_some_iff.mp htag
  unfold Filter.matches
  simp only [decide_eq_true_eq]
  refine ⟨hkind, List.any_eq_true.mpr ⟨tag, List.mem_of_find?_eq_some hfind, ?_⟩⟩
  have hname := List.find?_some hfind
  simp only [decide_eq_true_eq] at hname ⊢
  exact ⟨hname, List.any_eq_true.mpr ⟨hash, mem_distinct.mpr hin, by simpa using hval⟩⟩

section Entries

variable {v : Protocol} {input : AssembleInput} {relays : List (List Event)} {targets : List Text}
  {hash : Text} {entry : CommonsReviewEntry}

theorem mem_reviewEvents (hw : Whole input relays targets) (hhash : hash ∈ targets) {e : Event} :
    e ∈ reviewEventsFor input targets ↔
      e ∈ pool relays ∧ (commonsReviewFilterForClaims targets).matches e := by
  have hpos : 0 < targets.length := List.length_pos_of_mem hhash
  unfold reviewEventsFor
  rw [if_pos hpos]
  exact ⟨fun he => hw.served.mem he, fun ⟨he, hmatch⟩ => hw.served.complete hw.fits he hmatch⟩

theorem reviewEvents_apart (hw : Whole input relays targets) (hhash : hash ∈ targets) :
    IdsApart (reviewEventsFor input targets) :=
  fun _ he _ he' =>
    hw.apart _ ((mem_reviewEvents hw hhash).mp he).1 _ ((mem_reviewEvents hw hhash).mp he').1

theorem mem_reviewEntries {now : ℤ} {events : List Event} :
    entry ∈ reviewEntriesFrom v now targets events ↔
      ∃ e ∈ mergeLatestPerAuthorPerD (asOfNow now events),
        commonsReviewEntryFromEvent v e = some entry ∧ entry.review.claim ∈ targets := by
  refine ⟨entry_of_mem, fun ⟨e, he, hentry, hin⟩ => ?_⟩
  exact List.mem_filter.mpr ⟨List.mem_filterMap.mpr ⟨e, he, hentry⟩, by simpa using hin⟩

theorem mem_asOfNow {now : ℤ} {events : List Event} {e : Event} :
    e ∈ asOfNow now events ↔ e ∈ events ∧ e.createdAt ≤ now := by
  unfold asOfNow
  rw [List.mem_filter]
  simp

/-- The reviews of the batch at the gates. -/
abbrev gated (v : Protocol) (input : AssembleInput) (targets : List Text) : List CommonsReviewEntry :=
  gate1Entries input.deps
    (reviewEntriesFrom v input.nowSeconds targets (reviewEventsFor input targets))

/-- **Past the gates are the reviews that count.** -/
theorem mem_gated (hw : Whole input relays targets) (hhash : hash ∈ targets) :
    entry ∈ gated v input targets ∧ entry.review.claim = hash ↔
      Counted v input relays hash entry := by
  have hapart := (reviewEvents_apart hw hhash).asOfNow input.nowSeconds
  unfold gated gate1Entries
  rw [List.mem_filter, mem_reviewEntries]
  simp only [Bool.and_eq_true]
  constructor
  · intro ⟨⟨⟨e, he, hentry, _⟩, hbound, hactive⟩, hclaim⟩
    obtain ⟨hkind, htag, _, _, _, _, hne⟩ := entry_spec hentry
    obtain ⟨hin, hnewest⟩ := (mem_mergeLatest hapart).mp he
    obtain ⟨hev, hnow⟩ := mem_asOfNow.mp hin
    refine ⟨⟨e, ((mem_reviewEvents hw hhash).mp hev).1, hentry, hnow, ?_⟩, hclaim, hbound, hactive⟩
    intro x hx hxkind hxnow hkey
    -- the other event is about the same claim, so it was answered too
    have hxtag : x.tag "d" = some hash := by
      have hd : (x.tag "d").getD [] = entry.review.claim := by
        have hsnd := congrArg Prod.snd hkey
        unfold Event.authorD at hsnd
        simpa [htag] using hsnd
      cases hxd : x.tag "d" with
      | none => simp [hxd, Ne.symm hne] at hd
      | some d =>
        rw [hxd] at hd
        rw [← hclaim, ← hd]
        rfl
    have hxin : x ∈ asOfNow input.nowSeconds (reviewEventsFor input targets) :=
      mem_asOfNow.mpr ⟨(mem_reviewEvents hw hhash).mpr ⟨hx, matches_of_tag hxkind hxtag hhash⟩, hxnow⟩
    exact hnewest x hxin hkey
  · intro ⟨⟨e, he, hentry, hnow, hnewest⟩, hclaim, hbound, hactive⟩
    obtain ⟨hkind, htag, _⟩ := entry_spec hentry
    rw [hclaim] at htag
    have hev : e ∈ reviewEventsFor input targets :=
      (mem_reviewEvents hw hhash).mpr ⟨he, matches_of_tag hkind htag hhash⟩
    refine ⟨⟨⟨e, (mem_mergeLatest hapart).mpr ⟨mem_asOfNow.mpr ⟨hev, hnow⟩, ?_⟩, hentry,
      hclaim ▸ hhash⟩, hbound, hactive⟩, hclaim⟩
    intro x hx hkey
    obtain ⟨hxev, hxnow⟩ := mem_asOfNow.mp hx
    obtain ⟨hxpool, hmatch⟩ := (mem_reviewEvents hw hhash).mp hxev
    have hxkind : x.kind = commonsReviewKind := by
      unfold Filter.matches at hmatch
      simp only [decide_eq_true_eq] at hmatch
      exact hmatch.1
    exact hnewest x hxpool hxkind hxnow hkey

/-- **An attester has one review that counts for a claim**: the first gate leaves one author. -/
theorem Counted.unique (hapart : IdsApart (pool relays)) {entry' : CommonsReviewEntry}
    (h : Counted v input relays hash entry) (h' : Counted v input relays hash entry')
    (hatt : entry.attester = entry'.attester) : entry = entry' := by
  obtain ⟨e, he, hentry, hnow, hnewest⟩ := h.event
  obtain ⟨e', he', hentry', hnow', hnewest'⟩ := h'.event
  obtain ⟨hkind, htag, _, _, hauthor, _⟩ := entry_spec hentry
  obtain ⟨hkind', htag', _, _, hauthor', _⟩ := entry_spec hentry'
  have hpubkey : e.pubkey = e'.pubkey := by
    have hb := h.isBound
    have hb' := h'.isBound
    unfold bound at hb hb'
    rw [hatt] at hb
    cases hpk : input.deps.attestedPubkey entry'.attester with
    | none => simp [hpk] at hb
    | some pk =>
      simp only [hpk, decide_eq_true_eq] at hb hb'
      rw [← hauthor, ← hauthor', ← hb.2, ← hb'.2]
  have hkey : e'.authorD = e.authorD := by
    unfold Event.authorD
    rw [htag, htag', h.claim, h'.claim, hpubkey]
  have hsame : e = e' := strict_authorD hapart e he e' he' hkey.symm
    (hnewest e' he' hkind' hnow' hkey) (hnewest' e he hkind hnow hkey.symm)
  rw [hsame, hentry'] at hentry
  exact (Option.some.inj hentry).symm

theorem gated_apart (hw : Whole input relays targets) (hhash : hash ∈ targets) :
    EntriesApart (gated v input targets) :=
  (reviewEntries_apart (reviewEvents_apart hw hhash)).filter _

/-- The standing verdicts on a claim are the reviews that count. -/
theorem mem_standing (hw : Whole input relays targets) (hhash : hash ∈ targets) {attester : Text} :
    (attester, entry) ∈ standingVerdicts (gated v input targets) hash ↔
      Counted v input relays hash entry ∧ entry.attester = attester := by
  rw [mem_standingVerdicts (gated_apart hw hhash)]
  constructor
  · intro ⟨hin, hatt, _⟩
    exact ⟨(mem_gated hw hhash).mp hin, hatt⟩
  · intro ⟨hcounted, hatt⟩
    refine ⟨(mem_gated hw hhash).mpr hcounted, hatt, fun x hx hclaim hxatt => ?_⟩
    have hx' : Counted v input relays hash x := (mem_gated hw hhash).mp ⟨hx, hclaim⟩
    have hsame := hcounted.unique hw.apart hx' (hatt.trans hxatt.symm)
    rw [hsame]
    exact .inr ⟨rfl, le_rfl⟩

theorem mem_accepts (hw : Whole input relays targets) (hhash : hash ∈ targets) {a : GatedVerdict} :
    a ∈ sortedAccepts (standingVerdicts (gated v input targets) hash) ↔
      (Counted v input relays hash a.entry ∧ a.entry.review.kind = .endorse) ∧
        a.entry.attester = a.attester := by
  unfold sortedAccepts
  rw [mem_sortBy, List.mem_map]
  constructor
  · intro ⟨⟨attester, e⟩, hin, heq⟩
    subst heq
    obtain ⟨hmem, hkind⟩ := List.mem_filter.mp hin
    obtain ⟨hcounted, hatt⟩ := (mem_standing hw hhash).mp hmem
    exact ⟨⟨hcounted, by simpa using hkind⟩, hatt⟩
  · intro ⟨⟨hcounted, hkind⟩, hatt⟩
    refine ⟨(a.attester, a.entry), List.mem_filter.mpr ⟨(mem_standing hw hhash).mpr ⟨hcounted, hatt⟩,
      by simpa using hkind⟩, rfl⟩

theorem accepts_named (hw : Whole input relays targets) (hhash : hash ∈ targets) :
    Named (sortedAccepts (standingVerdicts (gated v input targets) hash)) where
  apart := by
    have hkeys := (best_collect CommonsReviewEntry.attester picks_newerVerdict
      ((gated v input targets).filter fun e => e.review.claim = hash)).keys
    have hperm := (sortBy_perm_self verdictKey (((standingVerdicts (gated v input targets) hash).filter
      fun p => p.2.review.kind = .endorse).map fun p =>
        { entry := p.2, attester := p.1 : GatedVerdict })).map GatedVerdict.attester
    refine hperm.nodup_iff.mpr ?_
    rw [List.map_map]
    exact List.Nodup.sublist (List.filter_sublist.map _) hkeys
  named := by
    intro a ha
    obtain ⟨⟨hcounted, _⟩, hatt⟩ := (mem_accepts hw hhash).mp ha
    obtain ⟨e, _, hentry, _⟩ := hcounted.event
    obtain ⟨_, _, _, _, _, hhex, _⟩ := entry_spec hentry
    have hnormal := normal_attester hhex
    rw [hatt] at hnormal
    exact ⟨hatt.symm, hnormal⟩

theorem accepts_sorted (perAttester : List (Text × CommonsReviewEntry)) :
    (sortedAccepts perAttester).Pairwise fun a b => a.entry.createdAt ≤ b.entry.createdAt := by
  refine (sortBy_pairwise verdictKey _).imp fun {a b} hle => ?_
  unfold verdictKey at hle
  rcases Prod.Lex.toLex_le_toLex.mp hle with hlt | ⟨heq, _⟩
  · exact hlt.le
  · exact le_of_eq heq

theorem no_rejecters (hw : Whole input relays targets) (hhash : hash ∈ targets) :
    ¬ 0 < (standingRejecters (standingVerdicts (gated v input targets) hash)).length ↔
      ∀ e, Counted v input relays hash e → e.review.kind ≠ .reject := by
  have hmem : ∀ attester, attester ∈ standingRejecters (standingVerdicts (gated v input targets) hash) ↔
      ∃ e, (Counted v input relays hash e ∧ e.attester = attester) ∧ e.review.kind = .reject := by
    intro attester
    unfold standingRejecters sortTexts
    rw [mem_sortBy, List.mem_map]
    constructor
    · intro ⟨⟨att, e⟩, hin, heq⟩
      subst heq
      obtain ⟨hstand, hkind⟩ := List.mem_filter.mp hin
      exact ⟨e, (mem_standing hw hhash).mp hstand, by simpa using hkind⟩
    · intro ⟨e, hcounted, hkind⟩
      exact ⟨(attester, e), List.mem_filter.mpr ⟨(mem_standing hw hhash).mpr hcounted,
        by simpa using hkind⟩, rfl⟩
  constructor
  · intro hempty e hcounted hkind
    exact hempty (List.length_pos_of_mem ((hmem e.attester).mpr ⟨e, ⟨hcounted, rfl⟩, hkind⟩))
  · intro hnone hpos
    obtain ⟨attester, hin⟩ := List.exists_mem_of_length_pos hpos
    obtain ⟨e, ⟨hcounted, _⟩, hkind⟩ := (hmem attester).mp hin
    exact hnone e hcounted hkind

end Entries

/-! ## §4. What is accepted. -/

theorem decideClaim_accepted (hash : Text) (claimType : ClaimType)
    {verdicts : List (Text × CommonsReviewEntry)} {inactive unattested : List GatedVerdict}
    {thresholdMet : List GatedVerdict → Bool} {now window tMet : ℤ} :
    (∃ endorsers, decideClaim hash claimType verdicts inactive unattested thresholdMet now window =
      .accepted tMet endorsers) ↔
      ¬ 0 < (standingRejecters verdicts).length ∧
        firstMet thresholdMet [] (sortedAccepts verdicts) = some tMet ∧ tMet + window ≤ now := by
  unfold decideClaim
  by_cases hrejected : 0 < (standingRejecters verdicts).length
  · simp [hrejected]
  · cases hmet : firstMet thresholdMet [] (sortedAccepts verdicts) with
    | none =>
      simp only [hrejected, if_false, hmet]
      refine iff_of_false (fun ⟨endorsers, h⟩ => ?_) (by simp)
      repeat' split at h
      all_goals cases h
    | some t =>
      simp only [hrejected, if_false, hmet, not_false_eq_true, true_and, Option.some.injEq]
      split
      · next hlate =>
        refine iff_of_false (fun ⟨endorsers, h⟩ => by cases h) fun ⟨heq, hle⟩ => ?_
        omega
      · next hold =>
        constructor
        · intro ⟨endorsers, h⟩
          cases h
          exact ⟨rfl, by omega⟩
        · intro ⟨heq, _⟩
          exact ⟨_, by rw [heq]⟩

section Batch

variable (v : Protocol) (input : AssembleInput) (derived : DeriveResult)

/-- The candidates of a batch, and the proposals. -/
def batchCandidates : List CommonsCandidate :=
  buildCommonsCandidates v.claimHash derived.claims derived.sources

def batchProposals : List CommonsWmiProposalEntry :=
  proposalsFor v input (derived.report.unknownWmiCandidates.map UnknownWmiCandidate.wmi)

def batchTargets : List Target := targetsOf (batchCandidates v derived) (batchProposals v input derived)

/-- The hashes that reviews are asked for. -/
def batchHashes : List Text := reviewTargets (batchCandidates v derived) (batchProposals v input derived)

variable {v input derived} {relays : List (List Event)} {t : Target}

theorem hash_mem_batchHashes (ht : t ∈ batchTargets v input derived) :
    t.hash ∈ batchHashes v input derived := by
  unfold batchHashes reviewTargets sortTexts
  rw [mem_sortBy, mem_distinct]
  rcases List.mem_append.mp ht with ht | ht
  · obtain ⟨c, hc, rfl⟩ := List.mem_map.mp ht
    obtain ⟨⟨k, c'⟩, hin, heq⟩ := List.mem_map.mp (mem_sortBy.mp hc)
    have hc' := ((best_collect CommonsCandidate.claimHash picks_first _).sound k c' hin).1
    rw [← heq]
    exact List.mem_append_left _ (List.mem_map.mpr ⟨c', hc', rfl⟩)
  · obtain ⟨p, hp, rfl⟩ := List.mem_map.mp ht
    exact List.mem_append_right _ (List.mem_map.mpr ⟨p, hp, rfl⟩)

theorem proposal_unique {p p' : CommonsWmiProposalEntry} (hp : p ∈ batchProposals v input derived)
    (hp' : p' ∈ batchProposals v input derived) (h : p.claimHash = p'.claimHash) : p = p' := by
  unfold batchProposals proposalsFor at hp hp'
  split at hp
  · next hpos =>
    rw [if_pos hpos] at hp'
    exact value_inj picks_earlierEntry (List.mem_filter.mp (mem_sortBy.mp hp)).1
      (List.mem_filter.mp (mem_sortBy.mp hp')).1 h
  · simp at hp

/-- A hash and a type name one claim under review. -/
theorem target_unique {t' : Target} (ht : t ∈ batchTargets v input derived)
    (ht' : t' ∈ batchTargets v input derived) (hhash : t'.hash = t.hash)
    (htype : t'.claimType = t.claimType) : t' = t := by
  rcases List.mem_append.mp ht with ht | ht <;> rcases List.mem_append.mp ht' with ht' | ht'
  · obtain ⟨c, hc, rfl⟩ := List.mem_map.mp ht
    obtain ⟨c', hc', rfl⟩ := List.mem_map.mp ht'
    rw [value_inj picks_first (mem_sortBy.mp hc') (mem_sortBy.mp hc) hhash]
  · obtain ⟨p, _, rfl⟩ := List.mem_map.mp ht
    obtain ⟨c', _, rfl⟩ := List.mem_map.mp ht'
    cases htype
  · obtain ⟨c, _, rfl⟩ := List.mem_map.mp ht
    obtain ⟨p', _, rfl⟩ := List.mem_map.mp ht'
    cases htype
  · obtain ⟨p, hp, rfl⟩ := List.mem_map.mp ht
    obtain ⟨p', hp', rfl⟩ := List.mem_map.mp ht'
    rw [proposal_unique hp' hp hhash]

/-- **When a claim is accepted**: no review that counts rejects it, and the accepts that count have
    been enough for the window; `tMet` is since when. -/
theorem claim_accepted_iff (hw : Whole input relays (batchHashes v input derived))
    (ht : t ∈ batchTargets v input derived) (tMet : ℤ) :
    (∃ endorsers, ⟨t.hash, t.claimType, tMet, endorsers⟩ ∈
      (batchOf v input derived).report.accepted) ↔
      (∀ e, Counted v input relays t.hash e → e.review.kind ≠ .reject) ∧
        IsLeast { T | Enough input.verifierByTokenId t fun e =>
          (Counted v input relays t.hash e ∧ e.review.kind = .endorse) ∧ e.createdAt ≤ T } tMet ∧
        tMet + input.windowDays * secondsPerDay ≤ input.nowSeconds := by
  have hhash := hash_mem_batchHashes ht
  let accepts := sortedAccepts (standingVerdicts (gated v input (batchHashes v input derived)) t.hash)
  have hnamed : Named accepts := accepts_named hw hhash
  have hwalk : firstMet (t.thresholdMet input.verifierByTokenId) [] accepts = some tMet ↔ _ :=
    firstMet_eq_some
      (fun A => Enough input.verifierByTokenId t fun e => ∃ a, A a ∧ a.entry = e)
      (fun hsub h => h.mono fun e he => Exists.imp (fun a ha => ⟨hsub a ha.1, ha.2⟩) he)
      (fun h => not_enough_none (h.mono fun e he => he.elim fun a ha => ha.1))
      (fun xs hsub => thresholdMet_iff input.verifierByTokenId t (hnamed.sublist hsub))
      (accepts_sorted _)
  have hset : { T | Enough input.verifierByTokenId t fun e =>
      ∃ a, (a ∈ accepts ∧ a.entry.createdAt ≤ T) ∧ a.entry = e } =
      { T | Enough input.verifierByTokenId t fun e =>
        (Counted v input relays t.hash e ∧ e.review.kind = .endorse) ∧ e.createdAt ≤ T } := by
    ext T
    refine ⟨fun h => h.mono fun e he => ?_, fun h => h.mono fun e he => ?_⟩
    · obtain ⟨a, ⟨ha, hle⟩, rfl⟩ := he
      exact ⟨((mem_accepts hw hhash).mp ha).1, hle⟩
    · exact ⟨⟨e, e.attester⟩, ⟨(mem_accepts hw hhash).mpr ⟨he.1, rfl⟩, he.2⟩, rfl⟩
  rw [← hset, ← hwalk, ← no_rejecters hw hhash, ← decideClaim_accepted t.hash t.claimType]
  constructor
  · intro ⟨endorsers, hin⟩
    obtain ⟨t', ht', hentry⟩ := List.mem_filterMap.mp (mem_sortBy.mp hin)
    unfold acceptedEntry at hentry
    split at hentry
    · next tMet' endorsers' hdecided =>
      simp only [Option.some.injEq, AssemblyAcceptedEntry.mk.injEq] at hentry
      obtain ⟨hsame, htype, rfl, _⟩ := hentry
      rw [target_unique ht ht' hsame htype] at hdecided
      exact ⟨endorsers', hdecided⟩
    · cases hentry
  · intro ⟨endorsers, hdecided⟩
    have hdec : decideTarget input (reviewEntriesFrom v input.nowSeconds
        (batchHashes v input derived) (reviewEventsFor input (batchHashes v input derived))) t =
        .accepted tMet endorsers := hdecided
    refine ⟨endorsers, mem_sortBy.mpr (List.mem_filterMap.mpr ⟨t, ht, ?_⟩)⟩
    show acceptedEntry input (reviewEntriesFrom v input.nowSeconds
      (batchHashes v input derived) (reviewEventsFor input (batchHashes v input derived))) t = _
    unfold acceptedEntry
    rw [hdec]

end Batch

theorem sample_targets : Target.candidate sampleCandidate ∈
    batchTargets sampleProtocol sampleInput sampleDerived := by
  have h : batchTargets sampleProtocol sampleInput sampleDerived = [.candidate sampleCandidate] := rfl
  rw [h]
  simp

theorem limit_pos (targets : List Text) : 1 ≤ (commonsReviewFilterForClaims targets).limit := by
  show 1 ≤ min (max _ 1 * 8) 2000
  omega

theorem sample_whole : Whole sampleInput [[sampleEvent]]
    (batchHashes sampleProtocol sampleInput sampleDerived) := by
  have hfits : ∀ targets, ([sampleEvent].filter (commonsReviewFilterForClaims targets).matches).length ≤
      (commonsReviewFilterForClaims targets).limit :=
    fun targets => le_trans (List.length_filter_le _ _) (limit_pos targets)
  refine ⟨fun e he e' he' _ => ?_, Served.one (List.nodup_singleton _) (hfits _), fun stored hs => ?_⟩
  · simp only [pool, List.flatten_cons, List.flatten_nil, List.append_nil, List.mem_singleton] at he he'
    rw [he, he']
  · rw [List.mem_singleton.mp hs]
    exact hfits _

def sampleEntry : CommonsReviewEntry where
  review := sampleReview sampleCandidate.claimHash
  createdAt := 100
  eventId := ['e']
  authorPubkey := ['k']

theorem sampleEvent_entry : commonsReviewEntryFromEvent sampleProtocol sampleEvent = some sampleEntry := by
  set_option maxRecDepth 8000 in
  rfl

theorem sampleEntry_counted : Counted sampleProtocol sampleInput [[sampleEvent]]
    sampleCandidate.claimHash sampleEntry := by
  refine ⟨⟨sampleEvent, by simp [pool], sampleEvent_entry, by decide, ?_⟩, rfl, rfl, rfl⟩
  intro x hx _ _ _
  simp only [pool, List.flatten_cons, List.flatten_nil, List.append_nil, List.mem_singleton] at hx
  rw [hx]
  exact picks_newerEvent.self _

theorem counted_sample {hash : Text} {e : CommonsReviewEntry}
    (h : Counted sampleProtocol sampleInput [[sampleEvent]] hash e) : e = sampleEntry := by
  obtain ⟨x, hx, hentry, _⟩ := h.event
  simp only [pool, List.flatten_cons, List.flatten_nil, List.append_nil, List.mem_singleton] at hx
  rw [hx, sampleEvent_entry] at hentry
  exact (Option.some.inj hentry).symm

/-- The word of the verifier of record is enough, and it has stood for a week. -/
theorem accepted_one : ∃ endorsers, ⟨sampleCandidate.claimHash, .vdsPattern, 100, endorsers⟩ ∈
    (batchOf sampleProtocol sampleInput sampleDerived).report.accepted := by
  refine (claim_accepted_iff sample_whole sample_targets 100).mpr ⟨?_, ⟨?_, ?_⟩, by decide⟩
  · intro e he
    rw [counted_sample he]
    decide
  · exact .inl ⟨sampleEntry, ⟨⟨sampleEntry_counted, rfl⟩, by decide⟩, by decide⟩
  · intro T hT
    rcases hT with ⟨e, ⟨⟨he, _⟩, hle⟩, _⟩ | ⟨e, _, ⟨⟨he, _⟩, hle⟩, _⟩
    · rw [counted_sample he] at hle
      exact hle
    · rw [counted_sample he] at hle
      exact hle

/-! ## §5. What is published. -/

section Published

variable {v : Protocol} {input : AssembleInput} {derived : DeriveResult}

/-- The report has the claim of the hash as accepted. -/
def Accepted (r : AssemblyReport) (type : ClaimType) (hash : Text) : Prop :=
  ∃ a ∈ r.accepted, a.claimHash = hash ∧ a.claimType = type

end Published

end Kargain.Commons
