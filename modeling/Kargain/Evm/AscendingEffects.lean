/-
  Kargain.Evm.AscendingEffects — the auction as a chain of effects.

  The auction adds eight changes to those of the base: writing and
  committing the terms, placing a bid, settling into a hold, clearing and
  amending the hold, and taking the passport back for a reversal.

  Main result: `exec_chain` — every message the auction accepts, with
  everything its callees send in, is a chain of effects that leaves in
  flight exactly what was in flight before it.
-/
import Kargain.Evm.AscendingConsignment
import Kargain.Evm.UnderLock

namespace Kargain.Evm.Ascending

open Relation

variable {P : Type}

/-! ## §1. Lots. -/

/-- Administration leaves auctions and holds alone. -/
def ExtSame (e e' : AscendingStorage) : Prop := e'.auction = e.auction ∧ e'.holds = e.holds

theorem extView : ExtView ExtSame :=
  ⟨fun _ => ⟨rfl, rfl⟩, fun h k => ⟨k.1.trans h.1, k.2.trans h.2⟩⟩

/-- A consignment is cleared only with no standing bid and no hold. -/
def Clear (w : World P) (t : TokenId) : Prop :=
  (w.ext.auction t).highestBidder = .zero ∧ (w.ext.holds t).buyer = .zero

/-- A standing bid and a hold exclude each other, and either stands on a committed lot. -/
structure LotsSound (w : World P) : Prop where
  bidding : ∀ t, (w.ext.auction t).highestBidder ≠ .zero → w.com.phase t = .offered ∧
    w.com.committedNotOffered t = true ∧ (w.ext.holds t).buyer = .zero
  held : ∀ t, (w.ext.holds t).buyer ≠ .zero → w.com.phase t = .offered ∧
    w.com.committedNotOffered t = true

theorem LotsSound.congr {w w' : World P} (h : LotsSound w)
    (ha : w'.ext.auction = w.ext.auction) (hh : w'.ext.holds = w.ext.holds)
    (hp : w'.com.phase = w.com.phase)
    (hc : w'.com.committedNotOffered = w.com.committedNotOffered) : LotsSound w' := by
  constructor
  · intro t
    rw [ha, hh, hp, hc]
    exact h.bidding t
  · intro t
    rw [hh, hp, hc]
    exact h.held t

/-- A lot that is not live, or not committed, has neither bid nor hold. -/
theorem LotsSound.clear {w : World P} {t : TokenId} (h : LotsSound w)
    (hn : w.com.phase t ≠ .offered ∨ w.com.committedNotOffered t = false) : Clear w t := by
  constructor
  · by_contra hb
    obtain ⟨hp, hc, -⟩ := h.bidding t hb
    rcases hn with hn | hn
    · exact hn hp
    · rw [hc] at hn
      cases hn
  · by_contra hb
    obtain ⟨hp, hc⟩ := h.held t hb
    rcases hn with hn | hn
    · exact hn hp
    · rw [hc] at hn
      cases hn

/-- What holds of every other lot, and of lot `t` because it is clear, is sound. -/
theorem LotsSound.of_clear {w w' : World P} {t : TokenId} (h : LotsSound w) (hc : Clear w' t)
    (ha : ∀ t', t' ≠ t → w'.ext.auction t' = w.ext.auction t')
    (hh : ∀ t', t' ≠ t → w'.ext.holds t' = w.ext.holds t')
    (hp : ∀ t', t' ≠ t → w'.com.phase t' = w.com.phase t')
    (hk : ∀ t', t' ≠ t → w'.com.committedNotOffered t' = w.com.committedNotOffered t') :
    LotsSound w' := by
  constructor
  · intro t' hb
    by_cases ht : t' = t
    · subst ht
      exact absurd hc.1 hb
    · rw [ha t' ht] at hb
      rw [hp t' ht, hk t' ht, hh t' ht]
      exact h.bidding t' hb
  · intro t' hb
    by_cases ht : t' = t
    · subst ht
      exact absurd hc.2 hb
    · rw [hh t' ht] at hb
      rw [hp t' ht, hk t' ht]
      exact h.held t' hb

/-! ## §2. The effects of the auction. -/

/-- The refund a new highest bid owes the one before it. -/
def outbid (a : AuctionTerms) : ℕ := if a.highestBidder = .zero then 0 else a.highestBid

inductive Effect [Erc721 P] : Cfg P AscendingStorage → Cfg P AscendingStorage → Prop where
  | base {c c' : Cfg P AscendingStorage} (h : BaseEffect hooks ExtSame Clear c c') : Effect c c'
  | terms {w : World P} {x : Flight} {t : TokenId} {a : AuctionTerms}
      (ha : a.highestBidder = .zero) : Effect (w, x) (setAuction w t a, x)
  | committed {w : World P} {x : Flight} {t : TokenId} (endsAt : ℕ)
      (h : isOfferedActionable w t = true) :
      Effect (w, x) (setAuction ((w.setCommitted t true).setRecallRequest t 0) t
        { w.ext.auction t with endsAt := endsAt }, x)
  | bidPlaced {w : World P} {x : Flight} {t : TokenId} {a : AuctionTerms}
      (hphase : w.com.phase t = .offered) (hcommitted : w.com.committedNotOffered t = true)
      (hhold : (w.ext.holds t).buyer = .zero) (hbidder : a.highestBidder ≠ .zero)
      (hx : a.highestBid ≤ x (w.com.consignments t).asset) :
      Effect (w, x) (setAuction w t a,
        (x.sub (w.com.consignments t).asset a.highestBid).add (w.com.consignments t).asset
          (outbid (w.ext.auction t)))
  | settled {w : World P} {x : Flight} {s : Address} {t : TokenId} {p : P} {h : Hold}
      (hbinding : isBinding w t = true)
      (hmove : Erc721.transferFrom w.env.karPassport.erc721 .self .self
        (w.ext.auction t).highestBidder t = some p)
      (hbuyer : h.buyer = (w.ext.auction t).highestBidder)
      (hgross : h.gross = (w.ext.auction t).highestBid) :
      Effect (w, x) ((setHold ((setAuction w t .empty).moved .self .self
        (w.ext.auction t).highestBidder t p) t h).emit s
          (.settled t h.buyer h.gross h.protectionEndsAt), x)
  | holdCleared {w : World P} {x : Flight} {t : TokenId} (h : (w.ext.holds t).buyer ≠ .zero) :
      Effect (w, x) (setHold w t .empty,
        x.add (w.com.consignments t).asset (w.ext.holds t).gross)
  | holdChanged {w : World P} {x : Flight} {t : TokenId} {h : Hold}
      (hbuyer : h.buyer = (w.ext.holds t).buyer) (hgross : h.gross = (w.ext.holds t).gross) :
      Effect (w, x) (setHold w t h, x)
  | reclaimed {w : World P} {x : Flight} {t : TokenId} {src : Address} {p : P}
      (h : Erc721.transferFrom w.env.karPassport.erc721 .self src .self t = some p) :
      Effect (w, x) (w.moved .self src .self t p, x)

section Chain

variable [Erc721 P]

theorem free_lotsSound {w w' : World P} (h : FreeEffect hooks ExtSame w w')
    (hs : LotsSound w) : LotsSound w' := by
  cases h with
  | outside o h =>
    obtain ⟨hc, he, -⟩ := execOutside_frame h
    exact hs.congr (by rw [he]) (by rw [he]) (by rw [hc]) (by rw [hc])
  | configured he => exact hs.congr he.1 he.2 rfl rfl
  | @recalled t ho =>
    simp only [isOfferedActionable, Bool.and_eq_true, Bool.not_eq_true'] at ho
    refine hs.of_clear (t := t) (hs.clear (.inr ho.2)) (fun _ _ => rfl) (fun _ _ => rfl) ?_ ?_ <;>
    · intro t' ht
      simp [clearConsignment, World.setPhase, World.setConsignment, World.setCommitted,
        World.setRecallRequest, ht]
  | _ => exact hs.congr rfl rfl rfl rfl

theorem base_lotsSound {c c' : Cfg P AscendingStorage}
    (h : BaseEffect hooks ExtSame Clear c c') (hs : LotsSound c.1) : LotsSound c'.1 := by
  cases h with
  | free h => exact free_lotsSound h hs
  | @opened w x s owner agent asset t _ _ _ _ p _ hlive =>
    have hclear : Clear w t := hs.clear (.inl (by simpa [isLiveConsignment] using hlive))
    refine hs.of_clear (t := t) hclear (fun _ _ => rfl) (fun _ _ => rfl) ?_ ?_ <;>
    · intro t' ht
      simp [writeOpen, World.emit, World.moved, World.setErc721, World.setPhase,
        World.setConsignment, World.setCommitted, World.setRecallRequest, ht]
  | @cleared w x t ph _ hc =>
    refine hs.of_clear (t := t) hc (fun _ _ => rfl) (fun _ _ => rfl) ?_ ?_ <;>
    · intro t' ht
      simp [clearConsignment, World.setPhase, World.setConsignment, World.setCommitted,
        World.setRecallRequest, ht]
  | _ => exact hs.congr rfl rfl rfl rfl

/-- **Lots stay sound** under every effect. -/
theorem effect_lotsSound {c c' : Cfg P AscendingStorage} (h : Effect c c')
    (hs : LotsSound c.1) : LotsSound c'.1 := by
  cases h with
  | base h => exact base_lotsSound h hs
  | @terms w x t a ha =>
    constructor
    · intro t' hb
      by_cases ht : t' = t
      · subst ht
        simp [setAuction, ha] at hb
      · simp only [setAuction, Function.update_of_ne ht] at hb
        exact hs.bidding t' hb
    · exact hs.held
  | @committed w x t endsAt ho =>
    simp only [isOfferedActionable, Bool.and_eq_true, Bool.not_eq_true'] at ho
    have hc := hs.clear (t := t) (.inr ho.2)
    refine hs.of_clear (t := t) ⟨?_, hc.2⟩ ?_ (fun _ _ => rfl) (fun _ _ => rfl) ?_
    · simpa [setAuction] using hc.1
    · intro t' ht
      simp [setAuction, ht, World.setRecallRequest, World.setCommitted]
    · intro t' ht
      simp [setAuction, ht, World.setRecallRequest, World.setCommitted]
  | @bidPlaced w x t a hp hc hh hb hx =>
    constructor
    · intro t' hb'
      by_cases ht : t' = t
      · subst ht
        exact ⟨hp, hc, hh⟩
      · simp only [setAuction, Function.update_of_ne ht] at hb'
        exact hs.bidding t' hb'
    · exact hs.held
  | @settled w x s t p h hbind _ hbuyer _ =>
    simp only [isBinding, Bool.and_eq_true, beq_iff_eq] at hbind
    constructor
    · intro t' hb
      by_cases ht : t' = t
      · subst ht
        simp [setHold, setAuction, World.emit, World.moved, World.setErc721,
          AuctionTerms.empty] at hb
      · simp only [setHold, setAuction, World.emit, World.moved, World.setErc721,
          Function.update_of_ne ht] at hb ⊢
        exact hs.bidding t' hb
    · intro t' hb
      by_cases ht : t' = t
      · subst ht
        exact ⟨hbind.1.1, hbind.1.2⟩
      · simp only [setHold, setAuction, World.emit, World.moved, World.setErc721,
          Function.update_of_ne ht] at hb ⊢
        exact hs.held t' hb
  | @holdCleared w x t h =>
    have hbid : (w.ext.auction t).highestBidder = .zero := by
      by_contra hb
      exact h (hs.bidding t hb).2.2
    refine hs.of_clear (t := t) ⟨hbid, ?_⟩ (fun _ _ => rfl) ?_ (fun _ _ => rfl) (fun _ _ => rfl)
    · simp [setHold, Hold.empty]
    · intro t' ht
      simp [setHold, ht]
  | @holdChanged w x t h hbuyer _ =>
    constructor
    · intro t' hb
      obtain ⟨hp, hc, hh⟩ := hs.bidding t' hb
      refine ⟨hp, hc, ?_⟩
      by_cases ht : t' = t
      · subst ht
        simpa [setHold, hbuyer] using hh
      · simpa [setHold, ht] using hh
    · intro t' hb
      by_cases ht : t' = t
      · subst ht
        simp only [setHold, Function.update_self, hbuyer] at hb
        exact hs.held t' hb
      · simp only [setHold, Function.update_of_ne ht] at hb
        exact hs.held t' hb
  | reclaimed _ => exact hs.congr rfl rfl rfl rfl

theorem hasBase : HasBase (P := P) hooks ExtSame Clear Effect LotsSound :=
  ⟨.base, effect_lotsSound⟩

/-! ## §3. The guarded entry points. -/

/-- A callee the auction can face. -/
abbrev Callback (r : Reply P AscendingStorage) : Prop :=
  Evm.Callback hooks ExtSame Effect LotsSound r

variable {w w' : World P} {x : Flight} {t : TokenId} {sender : Address}
  {rs : ℕ → Reply P AscendingStorage}

/-- An effect that stands for itself. -/
theorem effect_emit (s : Address) (e : Event) (he : e.plain = true) :
    Effect (w, x) (w.emit s e, x) :=
  .base (.free (.emitted s e he))

theorem writeAuctionTerms_chain {duration protectionWindow reserve : ℕ} :
    ReflTransGen Effect (w, x)
      (writeAuctionTerms w sender t duration protectionWindow reserve, x) :=
  (ReflTransGen.single (.terms rfl)).tail (effect_emit _ _ rfl)

theorem openAscendingDirectBody_chain {asset : Address} {reserve duration protectionWindow : ℕ}
    (hs : sender ≠ .self ∧ sender ≠ .zero)
    (h : openAscendingDirectBody w sender t asset reserve duration protectionWindow = .ok w') :
    ReflTransGen Effect (w, x) (w', x) := by
  simp only [openAscendingDirectBody, bind_ok, passportOwner_ok, revertIf_ok, pure_ok,
    exists_const] at h
  obtain ⟨-, -, owner, howner, hsend, -, -, _, hcan, -, -, -, -, u, hu, rfl⟩ := h
  obtain rfl : owner = sender := not_not.mp hsend
  obtain ⟨p, hp, rfl⟩ := takeCustody_ok hu
  have hopen : Effect (w, x) (writeOpen (w.moved .self owner .self t p) owner t owner .zero asset
      assetDenomination 0 ⟨.margin, 0⟩ reserve, x) :=
    .base (.opened howner (isLive_of_requireCanOpen hcan) hs hp (.inl ⟨rfl, rfl⟩))
  exact (ReflTransGen.single hopen).trans writeAuctionTerms_chain

theorem openAscendingFromMandateBody_chain {reserve duration protectionWindow : ℕ}
    (hs : sender ≠ .self ∧ sender ≠ .zero)
    (h : openAscendingFromMandateBody w sender t reserve duration protectionWindow = .ok w') :
    ReflTransGen Effect (w, x) (w', x) := by
  simp only [openAscendingFromMandateBody, bind_ok, passportOwner_ok, revertIf_ok, pure_ok,
    exists_const] at h
  obtain ⟨-, -, m, hm, hagent, owner, howner, -, -, _, hcan, -, -, -, -, -, -, u, hu, rfl⟩ := h
  obtain ⟨rfl, hact, hexp⟩ := requireMandateAllowsOpen_ok hm
  obtain ⟨p, hp, rfl⟩ := takeCustody_ok hu
  have hmand : Mandated w sender t (w.com.mandates t).agent (w.com.mandates t).asset
      (w.com.mandates t).denomination (w.com.mandates t).floor
      (w.com.mandates t).compensation :=
    ⟨hact, not_not.mp hagent, rfl, rfl, rfl, rfl, rfl, hexp⟩
  have hopen : Effect (w, x) (writeOpen (w.moved .self owner .self t p) sender t owner
      (w.com.mandates t).agent (w.com.mandates t).asset (w.com.mandates t).denomination
      (w.com.mandates t).floor (w.com.mandates t).compensation reserve, x) :=
    .base (.opened howner (isLive_of_requireCanOpen hcan) hs hp (.inr hmand))
  exact (ReflTransGen.single hopen).trans writeAuctionTerms_chain

theorem pullBid_chain {asset : Address} {amount value : ℕ} {r : Reply P AscendingStorage}
    (hr : Callback r) (hg : LotsSound w) (hl : w.locked = true)
    (h : pullBid w asset amount value r = .ok w') :
    ReflTransGen Effect (w, x.add .zero value) (w', x.add asset amount) ∧
      UnderLock ExtSame w w' := by
  unfold pullBid at h
  split at h
  · rename_i hz
    subst hz
    simp only [bind_ok, revertIf_ok, exists_const, pure_ok] at h
    obtain ⟨hv, rfl⟩ := h
    obtain rfl : value = amount := not_not.mp hv
    exact ⟨.refl, .refl extView w⟩
  · rename_i hz
    simp only [bind_ok, revertIf_ok, exists_const] at h
    obtain ⟨hv, h⟩ := h
    obtain rfl : value = 0 := not_not.mp hv
    have h0 : x.add .zero 0 = x := by simp [Flight.add]
    rw [h0]
    exact ⟨pullErc20_chain hasBase hr.obeys hg hz h, pullErc20_underLock extView hl hr.calm h⟩

omit [Erc721 P] in
theorem enterCommittedNotOffered_ok {u : World P} (h : enterCommittedNotOffered w t = .ok u) :
    isOfferedActionable w t = true ∧ u = (w.setCommitted t true).setRecallRequest t 0 := by
  simp only [enterCommittedNotOffered, bind_ok, revertIf_ok, exists_const, pure_ok] at h
  obtain ⟨ho, rfl⟩ := h
  exact ⟨by simpa using ho, rfl⟩

/-- What a bid leaves once the payment has arrived and the lot is committed: the lot is
    bindable, and the auction's standing bid is the one read before. -/
theorem bidCommit_chain {u : World P} (hg : LotsSound w) (hhold : (w.ext.holds t).buyer = .zero)
    (h : (if (w.ext.auction t).highestBidder = .zero then do
        let w ← enterCommittedNotOffered w t
        pure (setAuction w t { w.ext.auction t with
          endsAt := u40 (w.env.now + (w.ext.auction t).duration) })
      else pure w) = Except.ok u) :
    ReflTransGen Effect (w, x) (u, x) ∧ u.com.phase t = .offered ∧
      u.com.committedNotOffered t = true ∧ (u.ext.holds t).buyer = .zero ∧
      u.com.consignments = w.com.consignments ∧
      (u.ext.auction t).highestBidder = (w.ext.auction t).highestBidder ∧
      (u.ext.auction t).highestBid = (w.ext.auction t).highestBid ∧ u.locked = w.locked := by
  split at h
  · simp only [bind_ok, pure_ok] at h
    obtain ⟨v, hv, rfl⟩ := h
    obtain ⟨ho, rfl⟩ := enterCommittedNotOffered_ok hv
    have hphase : w.com.phase t = .offered := by
      simp only [isOfferedActionable, Bool.and_eq_true, beq_iff_eq] at ho
      exact ho.1
    refine ⟨.single (.committed _ ho), hphase, ?_, hhold, rfl, ?_, ?_, rfl⟩
    · simp [setAuction, World.setRecallRequest, World.setCommitted]
    · simp [setAuction, World.setRecallRequest, World.setCommitted]
    · simp [setAuction, World.setRecallRequest, World.setCommitted]
  · rename_i hb
    obtain rfl := pure_ok.mp h
    obtain ⟨hp, hc, hh⟩ := hg.bidding t hb
    exact ⟨.refl, hp, hc, hh, rfl, rfl, rfl, rfl⟩

theorem applyExtension_bid (now : ℕ) (a : AuctionTerms) :
    (applyExtension now a).highestBidder = a.highestBidder ∧
      (applyExtension now a).highestBid = a.highestBid := by
  unfold applyExtension
  split
  · exact ⟨rfl, rfl⟩
  · split <;> exact ⟨rfl, rfl⟩

/-- **Bidding**: the value of the call becomes the standing bid, and the bid it replaces
    is refunded. -/
theorem bidBody_chain {value amount : ℕ} (hr : ∀ i, Callback (rs i)) (hg : LotsSound w)
    (hl : w.locked = true) (hs : sender ≠ .zero)
    (h : bidBody w sender value t amount rs = .ok w') :
    ReflTransGen Effect (w, x.add .zero value) (w', x) := by
  simp only [bidBody, bind_ok, revertIf_ok, exists_const] at h
  obtain ⟨-, -, hhold, -, -, -, -, -, w₁, hpull, w₂, hcommit, h⟩ := h
  have hhold : (w.ext.holds t).buyer = .zero := not_not.mp hhold
  obtain ⟨hchain₁, hframe₁⟩ := pullBid_chain (x := x) (hr 0) hg hl hpull
  have hg₁ : LotsSound w₁ := chain_good effect_lotsSound hchain₁ hg
  have hhold₁ : (w₁.ext.holds t).buyer = .zero := by rw [hframe₁.ext.2]; exact hhold
  obtain ⟨hchain₂, hp₂, hc₂, hh₂, hcons₂, hb₂, ha₂, hl₂⟩ :=
    bidCommit_chain (x := x.add (w.com.consignments t).asset amount) hg₁ hhold₁ hcommit
  -- the lot is still offered, so its asset is the one the payment came in
  have hasset : (w₂.com.consignments t).asset = (w.com.consignments t).asset := by
    rw [hcons₂]
    have hp₁ : w₁.com.phase t = .offered := by
      by_cases hb : (w₁.ext.auction t).highestBidder = .zero
      · rw [if_pos hb] at hcommit
        simp only [bind_ok, pure_ok] at hcommit
        obtain ⟨v, hv, -⟩ := hcommit
        obtain ⟨ho, -⟩ := enterCommittedNotOffered_ok hv
        simp only [isOfferedActionable, Bool.and_eq_true, beq_iff_eq] at ho
        exact ho.1
      · exact (hg₁.bidding t hb).1
    exact (hframe₁.offered hp₁).2.2.asset
  set a := applyExtension w₂.env.now
    { w₂.ext.auction t with highestBidder := sender, highestBid := amount } with ha
  have hbid : a.highestBidder = sender ∧ a.highestBid = amount := applyExtension_bid _ _
  have hplaced : Effect (w₂, x.add (w.com.consignments t).asset amount)
      (setAuction w₂ t a, x.add (w.com.consignments t).asset (outbid (w₂.ext.auction t))) := by
    have he := Effect.bidPlaced (x := x.add (w.com.consignments t).asset amount) (a := a) hp₂ hc₂
      hh₂ (by rw [hbid.1]; exact hs) (by rw [hasset, hbid.2]; simp)
    rwa [hasset, hbid.2, Flight.add_sub] at he
  have hemit : Effect (setAuction w₂ t a, x.add (w.com.consignments t).asset
      (outbid (w₂.ext.auction t)))
      ((setAuction w₂ t a).emit sender (.bidPlaced t sender amount a.endsAt),
        x.add (w.com.consignments t).asset (outbid (w₂.ext.auction t))) :=
    effect_emit _ _ rfl
  have hupto := ((hchain₁.trans hchain₂).tail hplaced).tail hemit
  split at h
  · rename_i hprev
    simp only [bind_ok, pure_ok] at h
    obtain ⟨w₃, hpay, rfl⟩ := h
    have hout : outbid (w₂.ext.auction t) = (w₁.ext.auction t).highestBid := by
      rw [outbid, hb₂, if_neg hprev, ha₂]
    rw [hout] at hupto
    have hpay' : payOut ((setAuction w₂ t a).emit sender (.bidPlaced t sender amount a.endsAt))
        sender (w.com.consignments t).asset (w₁.ext.auction t).highestBidder
        (w₁.ext.auction t).highestBid (rs 1) = .ok w₃ := by
      rw [← hasset]; exact hpay
    have hchain₃ := payOut_chain
      (x := x.add (w.com.consignments t).asset (w₁.ext.auction t).highestBid) hasBase
      (hr 1).obeys (chain_good effect_lotsSound hupto hg) (by simp) hpay'
    rw [Flight.add_sub] at hchain₃
    exact (hupto.trans hchain₃).tail (effect_emit _ _ rfl)
  · rename_i hprev
    obtain rfl := pure_ok.mp h
    have hout : outbid (w₂.ext.auction t) = 0 := by
      rw [outbid, hb₂, if_pos (not_not.mp hprev)]
    rw [hout] at hupto
    have h0 : x.add (w.com.consignments t).asset 0 = x := by simp [Flight.add]
    rwa [h0] at hupto

theorem settleBody_chain (h : settleBody w sender t = .ok w') :
    ReflTransGen Effect (w, x) (w', x) := by
  simp only [settleBody, bind_ok, revertIf_ok, orRevert_ok, exists_const, pure_ok] at h
  obtain ⟨hbind, -, -, -, p, hp, rfl⟩ := h
  exact .single (.settled (by simpa using hbind) hp rfl rfl)

/-! ## §4. The exits of a hold. -/

omit [Erc721 P] in
theorem requireActiveHold_ok {h : Hold} (hh : requireActiveHold w t = .ok h) :
    (w.ext.holds t).buyer ≠ .zero ∧ h = w.ext.holds t := by
  simp only [requireActiveHold, bind_ok, revertIf_ok, exists_const, pure_ok] at hh
  exact ⟨hh.1, hh.2.symm⟩

omit [Erc721 P] in
/-- A lot whose hold has just been cleared can be paid and closed, whatever its payees do. -/
theorem cleared_stays {u : World P} (hg : LotsSound w) (hh : (w.ext.holds t).buyer ≠ .zero)
    (hu : UnderLock ExtSame (setHold w t .empty) u) :
    u.com.phase t = .offered ∧ Clear u t ∧
      SameTerms (w.com.consignments t) (u.com.consignments t) := by
  obtain ⟨hp, hc⟩ := hg.held t hh
  obtain ⟨hp', -, hs⟩ := hu.committed (t := t) hc
  refine ⟨hp'.trans hp, ⟨?_, ?_⟩, hs⟩
  · rw [hu.ext.1]
    by_contra hb
    exact hh (hg.bidding t hb).2.2
  · rw [hu.ext.2]
    simp [setHold, Hold.empty]

/-- Clear the hold and split its money: the common tail of five exits. -/
theorem payHold_chain {reason : CloseReason} (hr : ∀ i, Callback (rs i)) (hg : LotsSound w)
    (hl : w.locked = true) (hh : (w.ext.holds t).buyer ≠ .zero)
    (h : paySplit (setHold w t .empty) sender t (w.ext.holds t).gross reason (rs 0) (rs 1)
      (rs 2) = .ok w') :
    ReflTransGen Effect (w, x) (w', x) := by
  have hclr : Effect (w, x) (setHold w t .empty,
      x.add (w.com.consignments t).asset (w.ext.holds t).gross) := .holdCleared hh
  have hpay := paySplit_chain (x := x.add (w.com.consignments t).asset (w.ext.holds t).gross)
    hasBase extView (by simpa using ⟨(hr 0).obeys, (hr 1).obeys, (hr 2).obeys⟩)
    (by simpa using ⟨(hr 0).calm, (hr 1).calm, (hr 2).calm⟩) (effect_lotsSound hclr hg) hl
    (by simp [setHold]) (fun u hu => ⟨(cleared_stays hg hh hu).1, (cleared_stays hg hh hu).2.1⟩)
    h
  have hx : (x.add (w.com.consignments t).asset (w.ext.holds t).gross).sub
      ((setHold w t .empty).com.consignments t).asset (w.ext.holds t).gross = x := by
    simp [setHold]
  rw [hx] at hpay
  exact (ReflTransGen.single hclr).trans hpay

theorem confirmReceiptBody_chain (hr : ∀ i, Callback (rs i)) (hg : LotsSound w)
    (hl : w.locked = true) (h : confirmReceiptBody w sender t rs = .ok w') :
    ReflTransGen Effect (w, x) (w', x) := by
  simp only [confirmReceiptBody, bind_ok, revertIf_ok, exists_const, pure_ok] at h
  obtain ⟨hold, hh, -, -, -, u, hpay, rfl⟩ := h
  obtain ⟨hb, rfl⟩ := requireActiveHold_ok hh
  exact (payHold_chain hr hg hl hb hpay).tail (effect_emit _ _ rfl)

theorem releaseFundsBody_chain (hr : ∀ i, Callback (rs i)) (hg : LotsSound w)
    (hl : w.locked = true) (h : releaseFundsBody w sender t rs = .ok w') :
    ReflTransGen Effect (w, x) (w', x) := by
  simp only [releaseFundsBody, bind_ok, revertIf_ok, exists_const, pure_ok] at h
  obtain ⟨hold, hh, -, -, -, u, hpay, rfl⟩ := h
  obtain ⟨hb, rfl⟩ := requireActiveHold_ok hh
  exact (payHold_chain hr hg hl hb hpay).tail (effect_emit _ _ rfl)

theorem abandonReversalBody_chain (hr : ∀ i, Callback (rs i)) (hg : LotsSound w)
    (hl : w.locked = true) (h : abandonReversalBody w sender t rs = .ok w') :
    ReflTransGen Effect (w, x) (w', x) := by
  simp only [abandonReversalBody, bind_ok, revertIf_ok, exists_const, pure_ok] at h
  obtain ⟨hold, hh, -, -, u, hpay, rfl⟩ := h
  obtain ⟨hb, rfl⟩ := requireActiveHold_ok hh
  exact (payHold_chain hr hg hl hb hpay).tail (effect_emit _ _ rfl)

theorem challengeTerminal_chain (hr : ∀ i, Callback (rs i)) (hg : LotsSound w)
    (hl : w.locked = true) (h : challengeTerminal w sender t rs = .ok w') :
    ReflTransGen Effect (w, x) (w', x) := by
  simp only [challengeTerminal, bind_ok] at h
  obtain ⟨hold, hh, hpay⟩ := h
  obtain ⟨hb, rfl⟩ := requireActiveHold_ok hh
  exact payHold_chain hr hg hl hb hpay

/-- **Completing a reversal**: the hold is cleared, the passport taken back, the buyer
    refunded and the lot returned to its seller. -/
theorem completeReversalBody_chain (hr : ∀ i, Callback (rs i)) (hg : LotsSound w)
    (hl : w.locked = true) (h : completeReversalBody w sender t rs = .ok w') :
    ReflTransGen Effect (w, x) (w', x) := by
  simp only [completeReversalBody, bind_ok, revertIf_ok, exists_const, pure_ok] at h
  obtain ⟨hold, hh, -, -, -, -, -, w₁, htake, w₂, hpay, w₃, hterm, rfl⟩ := h
  obtain ⟨hb, rfl⟩ := requireActiveHold_ok hh
  obtain ⟨p, hp, rfl⟩ := takeCustody_ok htake
  have hclr : Effect (w, x) (setHold w t .empty,
      x.add (w.com.consignments t).asset (w.ext.holds t).gross) := .holdCleared hb
  have htook := (ReflTransGen.single hclr).tail (.reclaimed hp)
  have hg₁ := chain_good effect_lotsSound htook hg
  set w₁ := (setHold w t .empty).moved .self (w.ext.holds t).buyer .self t p with hw₁
  have hpaid := payOut_chain (x := x.add (w.com.consignments t).asset (w.ext.holds t).gross)
    hasBase (hr 0).obeys hg₁ (by simp [hw₁, World.moved, World.emit, World.setErc721, setHold])
    hpay
  have hmoved : UnderLock ExtSame (setHold w t .empty) w₁ := .of_com extView rfl rfl rfl rfl
  have hframe := hmoved.trans extView (payOut_underLock extView hl (hr 0).calm hpay)
  have hx : (x.add (w.com.consignments t).asset (w.ext.holds t).gross).sub
      (w₁.com.consignments t).asset (w.ext.holds t).gross = x := by
    simp [hw₁, World.moved, World.emit, World.setErc721, setHold]
  rw [hx] at hpaid
  have hg₂ := chain_good effect_lotsSound hpaid hg₁
  obtain ⟨-, hclear, -⟩ := cleared_stays hg hb hframe
  have hreturned := terminateToOwner_chain (x := x) hasBase.hasFree (hr 1).obeys hg₂
    (.base (.cleared .returned (by simp) hclear)) hterm
  exact ((htook.trans hpaid).trans hreturned).tail (effect_emit _ _ rfl)

/-! ## §5. The settlement challenge. -/

omit [Erc721 P] in
theorem requireActiveChallenge_ok {c : Challenge} (h : requireActiveChallenge w t = .ok c) :
    isChallengeActive w t = true ∧ c = w.bonds.challenges t := by
  simp only [requireActiveChallenge, bind_ok, revertIf_ok, exists_const, pure_ok] at h
  exact ⟨by simpa using h.1, h.2.symm⟩

/-- Clear the challenge and route its bond. -/
theorem routeBond_chain {w₁ w₂ : World P} {c : Challenge} {recipient judgeCaller : Address}
    (hr : Callback (rs 0)) (hg : LotsSound w) (hl : w.locked = true)
    (hc : requireActiveChallenge w t = .ok c)
    (hclr : clearChallengeAccounting w t c.bondAmount = .ok w₁)
    (hpay : payBond w₁ sender recipient judgeCaller c.bondAmount (rs 0) = .ok w₂) :
    ReflTransGen Effect (w, x) (w₂, x) ∧ UnderLock ExtSame w w₂ := by
  obtain ⟨hact, rfl⟩ := requireActiveChallenge_ok hc
  simp only [clearChallengeAccounting, bind_ok, checkedSub_ok, pure_ok] at hclr
  obtain ⟨total, ⟨hle, rfl⟩, rfl⟩ := hclr
  simp only [payBond, bind_ok, revertIf_ok, exists_const] at hpay
  obtain ⟨-, hpay⟩ := hpay
  have he : Effect (w, x) (w.setChallenge t .empty
      (w.bonds.totalLockedBonds - (w.bonds.challenges t).bondAmount),
      x.add .zero (w.bonds.challenges t).bondAmount) := .base (.challengeCleared hact hle)
  have hout : payOut (w.setChallenge t .empty
      (w.bonds.totalLockedBonds - (w.bonds.challenges t).bondAmount)) sender .zero recipient
      (w.bonds.challenges t).bondAmount (rs 0) = .ok w₂ := by
    rw [payOut, if_pos rfl]; exact hpay
  have hpaid := payOut_chain (x := x.add .zero (w.bonds.challenges t).bondAmount) hasBase
    hr.obeys (effect_lotsSound he hg) (by simp) hout
  rw [Flight.add_sub] at hpaid
  have hmid : UnderLock ExtSame w (w.setChallenge t .empty
      (w.bonds.totalLockedBonds - (w.bonds.challenges t).bondAmount)) :=
    .of_com extView rfl rfl rfl rfl
  exact ⟨(ReflTransGen.single he).trans hpaid,
    hmid.trans extView (payOut_underLock extView hl hr.calm hout)⟩

theorem withdrawBody_chain (hr : ∀ i, Callback (rs i)) (hg : LotsSound w)
    (hl : w.locked = true) (h : withdrawBody challengeHooks w sender t rs = .ok w') :
    ReflTransGen Effect (w, x) (w', x) := by
  simp only [withdrawBody, bind_ok, revertIf_ok, exists_const] at h
  obtain ⟨-, -, c, hc, -, -, -, w₁, hclr, w₂, hpay, h⟩ := h
  obtain ⟨hchain, -⟩ := routeBond_chain (x := x) (hr 0) hg hl hc hclr hpay
  obtain rfl := Except.ok.inj h
  exact (hchain.tail (effect_emit _ _ rfl)).tail (.holdChanged rfl rfl)

theorem onUpheld_chain : ReflTransGen Effect (w, x) (onUpheld w sender t, x) := by
  have hpending : Effect (w, x) (setHold w t { w.ext.holds t with
      reversalPending := true, frozenRemaining := 0, protectionEndsAt := 0,
      abandonmentDeadline := u64 (w.env.now + (w.ext.holds t).abandonmentWindow) }, x) :=
    .holdChanged rfl rfl
  exact (ReflTransGen.single hpending).tail (effect_emit _ _ rfl)

theorem judgeBody_chain {outcome : JudgeOutcome} (hr : ∀ i, Callback (rs i))
    (hg : LotsSound w) (hl : w.locked = true)
    (h : judgeBody challengeHooks w sender t outcome rs = .ok w') :
    ReflTransGen Effect (w, x) (w', x) := by
  simp only [judgeBody, bind_ok, revertIf_ok, exists_const] at h
  obtain ⟨-, -, c, hc, -, -, -, -, w₁, hclr, w₂, hpay, h⟩ := h
  obtain ⟨hchain, hframe⟩ := routeBond_chain (x := x) (hr 0) hg hl hc hclr hpay
  cases outcome with
  | upheld =>
    obtain rfl := Except.ok.inj h
    exact (hchain.tail (effect_emit _ _ rfl)).trans (onUpheld_chain (x := x))
  | rejected =>
    have hchain' := hchain.tail (effect_emit sender (.challengeJudged t c.challenger sender
      .rejected w.bonds.forfeitRecipient c.bondAmount c.windowDuration c.openedAt) rfl)
    exact hchain'.trans (challengeTerminal_chain (fun i => hr (i + 1))
      (chain_good effect_lotsSound hchain' hg) (hframe.locked.trans hl) h)

theorem concludeBody_chain (hr : ∀ i, Callback (rs i)) (hg : LotsSound w)
    (hl : w.locked = true) (h : concludeBody challengeHooks w sender t rs = .ok w') :
    ReflTransGen Effect (w, x) (w', x) := by
  simp only [concludeBody, bind_ok] at h
  obtain ⟨-, -, c, hc, -, -, w₁, hclr, w₂, hpay, h⟩ := h
  obtain ⟨hchain, hframe⟩ := routeBond_chain (x := x) (hr 0) hg hl hc hclr hpay
  have hchain' := hchain.tail (effect_emit sender (.challengeConcluded t c.challenger
    w₂.bonds.forfeitRecipient c.bondAmount c.windowDuration c.openedAt) rfl)
  exact hchain'.trans (challengeTerminal_chain (fun i => hr (i + 1))
    (chain_good effect_lotsSound hchain' hg) (hframe.locked.trans hl) h)

/-- **Opening a challenge**: the hold is frozen, the value of the call becomes the bond. -/
theorem openBody_chain {value : ℕ} (h : openBody w sender value t = .ok w') :
    ReflTransGen Effect (w, x.add .zero value) (w', x) := by
  simp only [openBody, freezeForChallenge, openChallenge, bind_ok, revertIf_ok, exists_const,
    checkedAdd_ok, pure_ok] at h
  obtain ⟨u, ⟨hold, hh, -, -, -, rfl⟩, -, -, -, hinact, -, -, total, ⟨-, rfl⟩, rfl⟩ := h
  obtain ⟨-, rfl⟩ := requireActiveHold_ok hh
  have hfrozen : Effect (w, x.add .zero value) (setHold w t { w.ext.holds t with
      frozenRemaining := u64 ((w.ext.holds t).protectionEndsAt - w.env.now) },
      x.add .zero value) := .holdChanged rfl rfl
  have hopened := Effect.base (.challengeOpened (w := setHold w t { w.ext.holds t with
      frozenRemaining := u64 ((w.ext.holds t).protectionEndsAt - w.env.now) })
      (s := sender) (t := t) (x := x.add .zero value) (by simpa using hinact)
      (by simp : value ≤ x.add .zero value .zero))
  rw [Flight.add_sub] at hopened
  exact ((ReflTransGen.single hfrozen).tail hopened).tail (effect_emit _ _ rfl)

/-! ## §6. Every message is a chain of effects. -/

theorem setChallengeBond_chain {E : Cfg P AscendingStorage → Cfg P AscendingStorage → Prop}
    {Good : World P → Prop} {b : ℕ} (hE : HasFree hooks ExtSame E Good)
    (h : setChallengeBond w sender b = .ok w') : ReflTransGen E (w, x) (w', x) := by
  simp only [setChallengeBond, onlyOwner, bind_ok, require_ok, exists_const, pure_ok] at h
  obtain ⟨-, -, -, rfl⟩ := h
  have hcfg : E (w, x) ({ w with ext := { w.ext with challengeBond := b } }, x) :=
    hE.free x (.configured ⟨rfl, rfl⟩)
  exact (ReflTransGen.single hcfg).tail (hE.free x (.emitted _ _ rfl))

theorem setPaymentToken_chain {E : Cfg P AscendingStorage → Cfg P AscendingStorage → Prop}
    {Good : World P → Prop} {token : Address} {b : Bool} {e : Event}
    (hE : HasFree hooks ExtSame E Good) (he : e.plain = true) :
    ReflTransGen E (w, x) ((setPaymentToken w token b).emit sender e, x) := by
  have hcfg : E (w, x) (setPaymentToken w token b, x) := hE.free x (.configured ⟨rfl, rfl⟩)
  exact (ReflTransGen.single hcfg).tail (hE.free x (.emitted _ _ he))

theorem approvePaymentToken_chain {E : Cfg P AscendingStorage → Cfg P AscendingStorage → Prop}
    {Good : World P → Prop} {token : Address} (hE : HasFree hooks ExtSame E Good)
    (hr : Obeys E Good (rs 0)) (hg : Good w)
    (h : approvePaymentToken w sender token rs = .ok w') : ReflTransGen E (w, x) (w', x) := by
  simp only [approvePaymentToken, onlyOwner, bind_ok, require_ok, revertIf_ok, exists_const,
    pure_ok] at h
  obtain ⟨-, -, u, hu, -, -, rfl⟩ := h
  exact (requireConforming_chain hE hr hg hu).trans (setPaymentToken_chain hE rfl)

theorem revokePaymentToken_chain {E : Cfg P AscendingStorage → Cfg P AscendingStorage → Prop}
    {Good : World P → Prop} {token : Address} (hE : HasFree hooks ExtSame E Good)
    (h : revokePaymentToken w sender token = .ok w') : ReflTransGen E (w, x) (w', x) := by
  simp only [revokePaymentToken, bind_ok, revertIf_ok, exists_const, pure_ok] at h
  obtain ⟨-, rfl⟩ := h
  exact setPaymentToken_chain hE rfl

/-- The calls that do not take the guard. -/
def Call.guarded : Call → Bool
  | .base c => c.guarded
  | .setChallengeBond _ | .approvePaymentToken _ | .revokePaymentToken _ => false
  | _ => true

theorem dispatch_free_chain {E : Cfg P AscendingStorage → Cfg P AscendingStorage → Prop}
    {Good : World P → Prop} {value : ℕ} {c : Call} (hE : HasFree hooks ExtSame E Good)
    (hr : ∀ i, Obeys E Good (rs i)) (hg : Good w) (hself : sender ≠ .self)
    (hc : c.guarded = false) (h : dispatch sender value c rs w = .ok w') :
    ReflTransGen E (w, x) (w', x) := by
  cases c <;> simp only [Call.guarded, Bool.true_eq_false] at hc <;>
    simp only [dispatch, dispatchPlain, bind_ok] at h <;> obtain ⟨-, -, h⟩ := h
  case base c => exact execBase_free_chain hE hr hg hself hc h
  case setChallengeBond b => exact setChallengeBond_chain hE h
  case approvePaymentToken token => exact approvePaymentToken_chain hE (hr 0) hg h
  case revokePaymentToken token => exact revokePaymentToken_chain hE h

/-- **The guard holds**: a guarded call into a locked mode reverts. -/
theorem dispatch_locked {value : ℕ} {c : Call} (hl : w.locked = true) (hc : c.guarded = true) :
    dispatch sender value c rs w ≠ .ok w' := by
  intro h
  have hguard : ∀ {v : World P} {body : World P → Except Error (World P)},
      v.locked = true → nonReentrant v body ≠ .ok w' := by
    intro v body hv hn
    rw [nonReentrant_locked hv] at hn
    cases hn
  cases c
  case base c =>
    simp only [dispatch, dispatchPlain, bind_ok] at h
    obtain ⟨-, -, h⟩ := h
    cases c <;> simp only [Call.guarded, BaseCall.guarded, Bool.false_eq_true] at hc <;>
    · simp only [execBase] at h
      exact hguard hl h
  case bid t amount =>
    simp only [dispatch] at h
    exact hguard (show (w.receiveValue value).locked = true from hl) h
  case «open» t =>
    simp only [dispatch] at h
    exact hguard (show (w.receiveValue value).locked = true from hl) h
  all_goals
    simp only [Call.guarded, Bool.false_eq_true] at hc
  all_goals
    simp only [dispatch, dispatchPlain, bind_ok] at h
    obtain ⟨-, -, h⟩ := h
    exact hguard hl h

theorem dispatch_guarded_chain {value : ℕ} {c : Call} (hr : ∀ i, Callback (rs i))
    (hg : LotsSound w) (hs : sender ≠ .self ∧ sender ≠ .zero) (hc : c.guarded = true)
    (h : dispatch sender value c rs w = .ok w') : ReflTransGen Effect (w, x) (w', x) := by
  have hg' : LotsSound { w with locked := true } := hg.congr rfl rfl rfl rfl
  have hreceived : Effect (w, x) (w.receiveValue value, x.add .zero value) :=
    .base (.received value)
  have hgv : LotsSound { w.receiveValue value with locked := true } := hg.congr rfl rfl rfl rfl
  cases c
  case bid t amount =>
    simp only [dispatch] at h
    exact (ReflTransGen.single hreceived).trans
      (nonReentrant_chain hasBase h fun u hu => bidBody_chain hr hgv rfl hs.2 hu)
  case «open» t =>
    simp only [dispatch] at h
    exact (ReflTransGen.single hreceived).trans
      (nonReentrant_chain hasBase h fun u hu => openBody_chain hu)
  case base c =>
    simp only [dispatch, dispatchPlain, bind_ok] at h
    obtain ⟨-, -, h⟩ := h
    cases c <;> simp only [Call.guarded, BaseCall.guarded, Bool.false_eq_true] at hc <;>
      simp only [execBase] at h
    case ownerWithdraw t =>
      exact nonReentrant_chain hasBase h fun u hu => ownerWithdrawBody_chain hasBase (hr 0).obeys hg' hu
    case agentWithdraw t =>
      exact nonReentrant_chain hasBase h fun u hu => agentWithdrawBody_chain hasBase (hr 0).obeys hg' hu
    case withdrawClaim asset =>
      exact nonReentrant_chain hasBase h fun u hu => withdrawClaimBody_chain hasBase (hr 0).obeys hg' hu
  all_goals
    simp only [Call.guarded, Bool.false_eq_true] at hc
  all_goals
    simp only [dispatch, dispatchPlain, bind_ok] at h
    obtain ⟨-, -, h⟩ := h
  case openAscendingDirect =>
    exact nonReentrant_chain hasBase h fun u hu => openAscendingDirectBody_chain hs hu
  case openAscendingFromMandate =>
    exact nonReentrant_chain hasBase h fun u hu => openAscendingFromMandateBody_chain hs hu
  case settle => exact nonReentrant_chain hasBase h fun u hu => settleBody_chain hu
  case confirmReceipt =>
    exact nonReentrant_chain hasBase h fun u hu => confirmReceiptBody_chain hr hg' rfl hu
  case releaseFunds =>
    exact nonReentrant_chain hasBase h fun u hu => releaseFundsBody_chain hr hg' rfl hu
  case completeReversal =>
    exact nonReentrant_chain hasBase h fun u hu => completeReversalBody_chain hr hg' rfl hu
  case abandonReversal =>
    exact nonReentrant_chain hasBase h fun u hu => abandonReversalBody_chain hr hg' rfl hu
  case withdraw => exact nonReentrant_chain hasBase h fun u hu => withdrawBody_chain hr hg' rfl hu
  case judge => exact nonReentrant_chain hasBase h fun u hu => judgeBody_chain hr hg' rfl hu
  case conclude => exact nonReentrant_chain hasBase h fun u hu => concludeBody_chain hr hg' rfl hu

/-- What every message of the auction does. -/
abbrev Executed (w w' : World P) : Prop := Evm.Executed hooks ExtSame Effect LotsSound w w'

/-- **Every accepted message of the auction, nested ones included, is a chain of effects.** -/
theorem exec_chain {d : ℕ} {m : Msg Call} (h : mode.exec d m w = .ok w') : Executed w w' :=
  Mode.exec_executed Call.guarded hasBase extView
    (fun s _ _ _ hE hr hg hc hd => dispatch_free_chain hE hr hg s.ne_self hc hd)
    (fun _ _ _ _ hl hc => dispatch_locked hl hc)
    (fun s _ _ _ hr hg hc hd => dispatch_guarded_chain hr hg ⟨s.ne_self, s.ne_zero⟩ hc hd)
    d m w w' h

theorem genesis_lotsSound {w : World P} (h : Genesis w) : LotsSound w := by
  obtain ⟨env, pr, fee, fr, bond, window, own, gd, w₀, b, tb, -, hinit, rfl⟩ := h
  simp only [initializeStorage, bind_ok, revertIf_ok, pure_ok, exists_const] at hinit
  obtain ⟨-, -, _, -, -, -, -, -, rfl⟩ := hinit
  constructor <;> intro t hb
  · exact absurd rfl hb
  · exact absurd rfl hb

end Chain

end Kargain.Evm.Ascending
