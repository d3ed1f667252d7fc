/-
  Kargain.Evm.AscendingSolvency — the auction can pay what it owes.

  One ether balance and one balance per payment token stand behind four
  kinds of liabilities: standing highest bids, amounts in the hold,
  recorded claims and challenge bonds.  Per asset the balance covers them
  all together with what the running call has in flight; every effect
  keeps that, hence every run does.

  Main result: `auction_solvent`.
-/
import Kargain.Base.Reserve
import Kargain.Evm.AscendingEffects

namespace Kargain.Evm.Ascending

open Function Relation

variable {P : Type}

/-! ## §1. Liabilities. -/

/-- What the auction may owe to somebody, in one asset. -/
inductive Liability where
  | bid (t : TokenId)
  | held (t : TokenId)
  | claim (account : Address)
  | bond (t : TokenId)
  deriving DecidableEq

/-- The gross of an active hold. -/
def heldGross (h : Hold) : ℕ := if h.buyer = .zero then 0 else h.gross

/-- What the auction owes in `asset`.  A bid and a hold are in the asset of their
    consignment; bonds are in ether. -/
def owed (w : World P) (asset : Address) : Liability → ℕ
  | .bid t => if (w.com.consignments t).asset = asset then outbid (w.ext.auction t) else 0
  | .held t => if (w.com.consignments t).asset = asset then heldGross (w.ext.holds t) else 0
  | .claim account => w.acct.pendingClaims account asset
  | .bond t => if asset = .zero then (w.bonds.challenges t).bondAmount else 0

/-- Ether, and the tokens that move exactly the requested amount or revert. -/
def SoundAsset (w : World P) (asset : Address) : Prop :=
  asset = .zero ∨ w.env.tokenKind asset = .exact

/-- Balances cover what is owed and what is in flight, and have done so at every payout. -/
structure Solvent (c : Cfg P AscendingStorage) : Prop where
  lots : LotsSound c.1
  covers : ∀ a, SoundAsset c.1 a → Covers (c.1.funds a) (owed c.1 a) (c.2 a)
  payouts : ∀ p ∈ c.1.acct.payouts, SoundAsset c.1 p.asset → p.amount ≤ p.available

theorem SoundAsset.of_env {w w' : World P} {a : Address}
    (hk : w'.env.tokenKind = w.env.tokenKind) (h : SoundAsset w' a) : SoundAsset w a := by
  unfold SoundAsset at h ⊢
  rwa [hk] at h

/-- A world that owes no more, has no less and made no payout is as solvent. -/
theorem Solvent.keep {w w' : World P} {x : Flight} (h : Solvent (w, x)) (hl : LotsSound w')
    (hk : w'.env.tokenKind = w.env.tokenKind)
    (hf : ∀ a, SoundAsset w a → w.funds a ≤ w'.funds a)
    (ho : ∀ a l, owed w' a l ≤ owed w a l) (hp : w'.acct.payouts = w.acct.payouts) :
    Solvent (w', x) := by
  refine ⟨hl, fun a ha => ?_, fun p hp' ha => ?_⟩
  · exact ((h.covers a (ha.of_env hk)).mono (ho a)).weaken (hf a (ha.of_env hk)) le_rfl
  · rw [hp] at hp'
    exact h.payouts p hp' (ha.of_env hk)

/-- As `keep`, with one more payout that is covered where it matters. -/
theorem payouts_record {w : World P} {x : Flight} {q : Payout} (h : Solvent (w, x))
    (hq : SoundAsset w q.asset → q.amount ≤ q.available) :
    ∀ p ∈ q :: w.acct.payouts, SoundAsset w p.asset → p.amount ≤ p.available := by
  intro p hp ha
  rcases List.mem_cons.mp hp with rfl | hp
  · exact hq ha
  · exact h.payouts p hp ha

/-- A lot with neither bid nor hold owes nothing, in whatever asset. -/
theorem owed_of_clear {w : World P} {t : TokenId} (h : Clear w t) (a : Address) :
    owed w a (.bid t) = 0 ∧ owed w a (.held t) = 0 := by
  simp [owed, outbid, heldGross, h.1, h.2]

/-- Rewriting the consignment of a clear lot changes nothing that is owed. -/
theorem owed_congr_of_clear {w v : World P} {t : TokenId} (h : Clear w t)
    (he : v.ext = w.ext) (hb : v.bonds = w.bonds) (ha : v.acct = w.acct)
    (hc : ∀ t', t' ≠ t → v.com.consignments t' = w.com.consignments t')
    (a : Address) (l : Liability) : owed v a l = owed w a l := by
  have h' : Clear v t := by rwa [Clear, he]
  cases l with
  | bid t' =>
    by_cases ht : t' = t
    · subst ht
      rw [(owed_of_clear h a).1, (owed_of_clear h' a).1]
    · simp [owed, hc t' ht, he]
  | held t' =>
    by_cases ht : t' = t
    · subst ht
      rw [(owed_of_clear h a).2, (owed_of_clear h' a).2]
    · simp [owed, hc t' ht, he]
  | claim account => simp [owed, ha]
  | bond t' => simp [owed, hb]

theorem owed_clearConsignment {w : World P} {t : TokenId} (h : Clear w t) (ph : Phase)
    (a : Address) (l : Liability) : owed (clearConsignment w t ph) a l = owed w a l := by
  refine owed_congr_of_clear (v := clearConsignment w t ph) h rfl rfl rfl (fun t' ht => ?_) a l
  simp [clearConsignment, World.setPhase, World.setConsignment, World.setCommitted,
    World.setRecallRequest, ht]

/-! ## §2. The effects of the base. -/

section Effects

variable [Erc721 P]

/-- What happens around the auction never lowers its balance of a sound asset. -/
theorem execOutside_funds {w w' : World P} {o : Outside} (h : execOutside hooks w o = .ok w') :
    w'.env.tokenKind = w.env.tokenKind ∧ w'.acct.payouts = w.acct.payouts ∧
      w'.acct.pendingClaims = w.acct.pendingClaims ∧
      ∀ a, SoundAsset w a → w.funds a ≤ w'.funds a := by
  cases o with
  | passport caller c =>
    cases c <;>
      simp only [execOutside, execPassport, bind_ok, orRevert_ok, require_ok, exists_const,
        pure_ok] at h
    case transferFrom => obtain ⟨p, -, rfl⟩ := h; exact ⟨rfl, rfl, rfl, fun _ _ => le_rfl⟩
    case approve => obtain ⟨p, -, rfl⟩ := h; exact ⟨rfl, rfl, rfl, fun _ _ => le_rfl⟩
    case setApprovalForAll => obtain ⟨p, -, rfl⟩ := h; exact ⟨rfl, rfl, rfl, fun _ _ => le_rfl⟩
    case send => obtain ⟨k, -, rfl⟩ := h; exact ⟨rfl, rfl, rfl, fun _ _ => le_rfl⟩
    case receive => obtain ⟨k, -, rfl⟩ := h; exact ⟨rfl, rfl, rfl, fun _ _ => le_rfl⟩
    case mintPassport => obtain ⟨-, p, -, rfl⟩ := h; exact ⟨rfl, rfl, rfl, fun _ _ => le_rfl⟩
  | forceEther n =>
    obtain rfl := Except.ok.inj h
    refine ⟨rfl, rfl, rfl, fun a _ => ?_⟩
    by_cases hz : a = .zero <;> simp [World.funds, hz]
  | donateToken token n =>
    obtain rfl := Except.ok.inj h
    refine ⟨rfl, rfl, rfl, fun a _ => ?_⟩
    by_cases ht : a = token
    · subst ht
      by_cases hz : a = .zero <;> simp [World.funds, hz]
    · simp [World.funds, ht]
  | setToken token n =>
    simp only [execOutside, bind_ok, require_ok, exists_const, pure_ok] at h
    obtain ⟨hother, rfl⟩ := h
    refine ⟨rfl, rfl, rfl, fun a ha => ?_⟩
    rcases ha with rfl | hexact
    · simp [World.funds]
    · have hne : a ≠ token := by
        rintro rfl
        rw [hother] at hexact
        cases hexact
      simp [World.funds, hne]
  | _ => obtain rfl := Except.ok.inj h; exact ⟨rfl, rfl, rfl, fun _ _ => le_rfl⟩

theorem free_solvent {w w' : World P} {x : Flight} (h : FreeEffect hooks ExtSame w w')
    (hs : Solvent (w, x)) : Solvent (w', x) := by
  have hl := free_lotsSound h hs.lots
  cases h with
  | outside o h =>
    obtain ⟨hc, he, -, -, hb⟩ := execOutside_frame h
    obtain ⟨hk, hp, hcl, hf⟩ := execOutside_funds h
    refine hs.keep hl hk hf (fun a l => le_of_eq ?_) hp
    cases l <;> simp [owed, hc, he, hb, hcl]
  | configured he =>
    refine hs.keep hl rfl (fun _ _ => le_rfl) (fun a l => le_of_eq ?_) rfl
    cases l <;> simp [owed, he.1, he.2]
  | @floorLowered s t newFloor _ _ _ _ =>
    refine hs.keep hl rfl (fun _ _ => le_rfl) (fun a l => le_of_eq ?_) rfl
    cases l <;> simp only [owed, World.emit, World.setConsignment, update_apply] <;>
      split <;> simp_all
  | @commissionLowered t newBps =>
    refine hs.keep hl rfl (fun _ _ => le_rfl) (fun a l => le_of_eq ?_) rfl
    cases l <;> simp only [owed, World.setConsignment, update_apply] <;> split <;> simp_all
  | @probed token b paid hb =>
    refine ⟨hl, fun a ha => ?_, payouts_record hs fun _ => Nat.zero_le _⟩
    -- an exact token reports the balance it had
    have hfunds : w.funds a = (w.setAcct ((w.acct.setToken token b).record
        ⟨token, .self, 0, w.acct.tokenBalance token, paid⟩)).funds a := by
      rcases ha with rfl | hexact
      · simp [World.funds, World.setAcct, Account.record, Account.setToken]
      · by_cases ht : a = token
        · subst ht
          by_cases hz : a = .zero <;>
            simp [World.funds, World.setAcct, Account.record, Account.setToken, hz, hb hexact]
        · simp [World.funds, World.setAcct, Account.record, Account.setToken, ht]
    rw [← hfunds]
    exact (hs.covers a ha).congr fun l => by cases l <;> rfl
  | @recalled t ho =>
    have hclear : Clear w t := hs.lots.clear (.inr (by
      simp only [isOfferedActionable, Bool.and_eq_true, Bool.not_eq_true'] at ho
      exact ho.2))
    exact hs.keep hl rfl (fun _ _ => le_rfl)
      (fun a l => (owed_clearConsignment hclear _ a l).le) rfl
  | _ =>
    refine hs.keep hl rfl (fun _ _ => le_rfl) (fun a l => le_of_eq ?_) rfl
    cases l <;> rfl

omit [Erc721 P] in
/-- A payment of in-flight units of a sound asset. -/
theorem covers_paidToken {w : World P} {x : Flight} {token dst : Address} {amount b : ℕ}
    {paid : Bool} (hs : Solvent (w, x)) (hz : token ≠ .zero) (hx : amount ≤ x token)
    (h : w.env.tokenKind token = .exact → amount ≤ w.acct.tokenBalance token ∧
      b = exactAfter (w.acct.tokenBalance token) amount dst ∧ paid = true)
    {a : Address} (ha : SoundAsset w a) :
    Covers ((w.setAcct ((w.acct.setToken token b).record
        ⟨token, dst, amount, w.acct.tokenBalance token, paid⟩)).funds a)
      (owed w a) ((if paid then x.sub token amount else x) a) := by
  have hcov := hs.covers a ha
  by_cases ht : a = token
  · subst ht
    obtain ⟨hle, rfl, rfl⟩ := h (ha.resolve_left hz)
    have hspend : Covers (w.funds a - amount) (owed w a) (x a - amount) :=
      Covers.spend (by rwa [Nat.sub_add_cancel hx])
    have hfunds : w.funds a = w.acct.tokenBalance a := if_neg hz
    rw [if_pos rfl, Flight.sub_self]
    refine hspend.weaken ?_ le_rfl
    rw [hfunds]
    by_cases hd : dst = .self <;>
      simp [World.funds, World.setAcct, Account.record, Account.setToken, exactAfter, hz, hd]
  · have hfunds : (w.setAcct ((w.acct.setToken token b).record
        ⟨token, dst, amount, w.acct.tokenBalance token, paid⟩)).funds a = w.funds a := by
      simp [World.funds, World.setAcct, Account.record, Account.setToken, ht]
    rw [hfunds]
    cases paid with
    | true => rwa [if_pos rfl, Flight.sub_of_ne x amount ht]
    | false => exact hcov

theorem base_solvent {c c' : Cfg P AscendingStorage}
    (h : BaseEffect hooks ExtSame Clear c c') (hs : Solvent c) : Solvent c' := by
  have hl := base_lotsSound h hs.lots
  cases h with
  | free h => exact free_solvent h hs
  | lockSet b =>
    exact hs.keep hl rfl (fun _ _ => le_rfl) (fun a l => by cases l <;> exact le_rfl) rfl
  | @received w x v =>
    refine ⟨hl, fun a ha => ?_, hs.payouts⟩
    have hcov : Covers (w.funds a) (owed (w.receiveValue v) a) (x a) :=
      (hs.covers a ha).congr fun l => by cases l <;> rfl
    by_cases hz : a = .zero
    · subst hz
      simpa [World.funds, World.receiveValue, World.setAcct] using hcov.deposit v
    · simpa [World.funds, World.receiveValue, World.setAcct, hz, Flight.add_of_ne x v hz]
        using hcov
  | @pulled w x token b amount hz hb =>
    refine ⟨hl, fun a ha => ?_, hs.payouts⟩
    have hcov : Covers (w.funds a) (owed (w.setAcct (w.acct.setToken token b)) a) (x a) :=
      (hs.covers a ha).congr fun l => by cases l <;> rfl
    by_cases ht : a = token
    · subst ht
      obtain rfl := hb (ha.resolve_left hz)
      simpa [World.funds, World.setAcct, Account.setToken, hz] using hcov.deposit amount
    · simpa [World.funds, World.setAcct, Account.setToken, ht, Flight.add_of_ne x amount ht]
        using hcov
  | @paidNative w x dst amount hx hb =>
    refine ⟨hl, fun a ha => ?_, payouts_record hs fun _ => hb⟩
    have hcov : Covers (w.funds a) (owed w a) (x a) := hs.covers a ha
    apply @Covers.congr _ _ _ (owed w a) _ ?_ fun l => by cases l <;> rfl
    by_cases hz : a = .zero
    · subst hz
      have hspend : Covers (w.funds .zero - amount) (owed w .zero) (x .zero - amount) :=
        Covers.spend (by rwa [Nat.sub_add_cancel hx])
      simpa [World.funds, World.setAcct, Account.record] using hspend
    · simpa [World.funds, World.setAcct, Account.record, hz, Flight.sub_of_ne x amount hz]
        using hcov
  | @paidToken w x token dst amount b paid hz hx h =>
    refine ⟨hl, fun a ha => ?_, payouts_record hs fun ha => (h (ha.resolve_left hz)).1⟩
    exact (covers_paidToken hs hz hx h ha).congr fun l => by cases l <;> rfl
  | @refused w x asset dst amount hx =>
    refine ⟨hl, fun a ha => ?_, payouts_record hs fun ha => ?_⟩
    · exact (hs.covers a ha).congr fun l => by cases l <;> rfl
    · exact le_trans hx (hs.covers asset ha).inFlight_le
  | @credited w x account asset amount native erc20 s hx =>
    refine ⟨hl, fun a ha => ?_, hs.payouts⟩
    have hcov : Covers (w.funds a) (owed w a) (x a) := hs.covers a ha
    show Covers _ _ (x.sub asset amount a)
    by_cases ht : a = asset
    · subst ht
      rw [← Nat.sub_add_cancel hx] at hcov
      rw [Flight.sub_self]
      refine (hcov.book (i := .claim account)).congr fun l => ?_
      cases l with
      | claim account' =>
        by_cases hacc : account' = account
        · subst hacc
          simp [owed, World.emit, World.setAcct, Account.setClaim]
        · simp [owed, World.emit, World.setAcct, Account.setClaim, hacc]
      | _ => rfl
    · rw [Flight.sub_of_ne x amount ht]
      refine hcov.congr fun l => ?_
      cases l with
      | claim account' =>
        by_cases hacc : account' = account
        · subst hacc
          simp [owed, World.emit, World.setAcct, Account.setClaim, ht]
        · simp [owed, World.emit, World.setAcct, Account.setClaim, hacc]
      | _ => rfl
  | @claimTaken w x account asset native erc20 =>
    refine ⟨hl, fun a ha => ?_, hs.payouts⟩
    have hcov : Covers (w.funds a) (owed w a) (x a) := hs.covers a ha
    show Covers _ _ (x.add asset (w.acct.pendingClaims account asset) a)
    by_cases ht : a = asset
    · subst ht
      rw [Flight.add_self]
      refine (hcov.park (i := .claim account) (Nat.zero_le _)).congr fun l => ?_
      cases l with
      | claim account' =>
        by_cases hacc : account' = account
        · subst hacc
          simp [owed, World.setAcct, Account.setClaim]
        · simp [owed, World.setAcct, Account.setClaim, hacc]
      | _ => rfl
    · rw [Flight.add_of_ne x _ ht]
      refine hcov.congr fun l => ?_
      cases l with
      | claim account' =>
        by_cases hacc : account' = account
        · subst hacc
          simp [owed, World.setAcct, Account.setClaim, ht]
        · simp [owed, World.setAcct, Account.setClaim, hacc]
      | _ => rfl
  | @opened w x s owner agent asset t denomination floor price comp p _ hlive =>
    have hclear : Clear w t := hs.lots.clear (.inl (by simpa [isLiveConsignment] using hlive))
    refine hs.keep hl rfl (fun _ _ => le_rfl) (fun a l => le_of_eq ?_) rfl
    refine owed_congr_of_clear (v := writeOpen (w.moved .self owner .self t p) s t owner agent
      asset denomination floor comp price) hclear rfl rfl rfl (fun t' ht => ?_) a l
    simp [writeOpen, World.emit, World.moved, World.setErc721, World.setPhase,
      World.setConsignment, World.setCommitted, World.setRecallRequest, ht]
  | @cleared w x t ph _ hclear =>
    exact hs.keep hl rfl (fun _ _ => le_rfl)
      (fun a l => (owed_clearConsignment hclear ph a l).le) rfl
  | splitPaid =>
    exact hs.keep hl rfl (fun _ _ => le_rfl) (fun a l => by cases l <;> exact le_rfl) rfl
  | @challengeOpened w x s t value hinactive hx =>
    refine ⟨hl, fun a ha => ?_, hs.payouts⟩
    have hcov : Covers (w.funds a) (owed w a) (x a) := hs.covers a ha
    show Covers _ _ (x.sub .zero value a)
    by_cases hz : a = .zero
    · subst hz
      rw [← Nat.sub_add_cancel hx] at hcov
      rw [Flight.sub_self]
      refine (hcov.book (i := .bond t)).mono fun l => ?_
      cases l with
      | bond t' =>
        by_cases ht : t' = t
        · subst ht
          simp [owed, World.setChallenge]
        · simp [owed, World.setChallenge, ht]
      | _ => exact le_rfl
    · rw [Flight.sub_of_ne x value hz]
      refine hcov.congr fun l => ?_
      cases l with
      | bond t' => simp [owed, hz]
      | _ => rfl
  | @challengeCleared w x t hactive hle =>
    refine ⟨hl, fun a ha => ?_, hs.payouts⟩
    have hcov : Covers (w.funds a) (owed w a) (x a) := hs.covers a ha
    show Covers _ _ (x.add .zero (w.bonds.challenges t).bondAmount a)
    by_cases hz : a = .zero
    · subst hz
      rw [Flight.add_self]
      refine ((hcov.park (i := .bond t) (Nat.zero_le _)).weaken le_rfl ?_).congr fun l => ?_
      · simp [owed]
      · cases l with
        | bond t' =>
          by_cases ht : t' = t
          · subst ht
            simp [owed, World.setChallenge, Challenge.empty]
          · simp [owed, World.setChallenge, ht]
        | _ => rfl
    · rw [Flight.add_of_ne x _ hz]
      refine hcov.congr fun l => ?_
      cases l with
      | bond t' => simp [owed, hz]
      | _ => rfl

/-! ## §3. The effects of the auction. -/

omit [Erc721 P] in
/-- Rewriting the auction terms of a lot moves at most its standing bid. -/
theorem owed_setAuction {w : World P} {t : TokenId} {a : AuctionTerms} (asset : Address)
    (l : Liability) : owed (setAuction w t a) asset l = update (owed w asset) (.bid t)
      (if (w.com.consignments t).asset = asset then outbid a else 0) l := by
  cases l with
  | bid t' =>
    by_cases ht : t' = t
    · subst ht
      simp [owed, setAuction]
    · simp [owed, setAuction, ht]
  | _ => rw [update_of_ne (by simp)]; rfl

omit [Erc721 P] in
/-- Rewriting the hold of a lot moves at most its held amount. -/
theorem owed_setHold {w : World P} {t : TokenId} {h : Hold} (asset : Address)
    (l : Liability) : owed (setHold w t h) asset l = update (owed w asset) (.held t)
      (if (w.com.consignments t).asset = asset then heldGross h else 0) l := by
  cases l with
  | held t' =>
    by_cases ht : t' = t
    · subst ht
      simp [owed, setHold]
    · simp [owed, setHold, ht]
  | _ => rw [update_of_ne (by simp)]; rfl

/-- **Every effect keeps the auction solvent.** -/
theorem effect_solvent {c c' : Cfg P AscendingStorage} (h : Effect c c') (hs : Solvent c) :
    Solvent c' := by
  have hl := effect_lotsSound h hs.lots
  cases h with
  | base h => exact base_solvent h hs
  | @terms w x t a ha =>
    refine hs.keep hl rfl (fun _ _ => le_rfl) (fun asset l => ?_) rfl
    rw [owed_setAuction]
    by_cases he : l = .bid t
    · subst he
      simp [outbid, ha]
    · rw [update_of_ne he]
  | @committed w x t endsAt ho =>
    refine hs.keep hl rfl (fun _ _ => le_rfl) (fun asset l => ?_) rfl
    rw [owed_setAuction]
    by_cases he : l = .bid t
    · subst he
      rw [update_self]
      exact le_rfl
    · rw [update_of_ne he]
      cases l <;> exact le_rfl
  | @bidPlaced w x t a hphase hcommitted hhold hbidder hx =>
    refine ⟨hl, fun asset ha => ?_, hs.payouts⟩
    have hcov : Covers (w.funds asset) (owed w asset) (x asset) := hs.covers asset ha
    have hnew : outbid a = a.highestBid := if_neg hbidder
    show Covers _ _ (((x.sub (w.com.consignments t).asset a.highestBid).add
      (w.com.consignments t).asset (outbid (w.ext.auction t))) asset)
    by_cases hasset : (w.com.consignments t).asset = asset
    · -- the old bid goes in flight, the new one is booked
      subst hasset
      have hold : owed w (w.com.consignments t).asset (.bid t) = outbid (w.ext.auction t) :=
        if_pos rfl
      have hparked := hcov.park (i := .bid t) (Nat.zero_le _)
      rw [hold, Nat.sub_zero, ← Nat.sub_add_cancel hx, Nat.add_right_comm] at hparked
      rw [Flight.add_self, Flight.sub_self]
      refine (hparked.book (i := .bid t)).congr fun l => ?_
      rw [owed_setAuction, if_pos rfl, update_idem, update_self, hnew, Nat.zero_add]
    · have hne : asset ≠ (w.com.consignments t).asset := fun e => hasset e.symm
      rw [Flight.add_of_ne _ _ hne, Flight.sub_of_ne _ _ hne]
      refine hcov.mono fun l => ?_
      rw [owed_setAuction, if_neg hasset]
      by_cases he : l = .bid t
      · subst he
        simp
      · rw [update_of_ne he]
  | @settled w x s t p h hbinding hmove hbuyer hgross =>
    refine ⟨hl, fun asset ha => ?_, hs.payouts⟩
    have hcov : Covers (w.funds asset) (owed w asset) (x asset) := hs.covers asset ha
    obtain ⟨-, hbidder, -⟩ := Erc721.transferFrom_some hmove
    simp only [isBinding, Bool.and_eq_true, beq_iff_eq] at hbinding
    have hfree : owed w asset (.held t) = 0 := by
      simp [owed, heldGross, hbinding.2]
    -- the standing bid becomes the held amount
    have hbid : owed w asset (.bid t) =
        if (w.com.consignments t).asset = asset then heldGross h else 0 := by
      simp [owed, heldGross, outbid, hbuyer, hgross, hbidder]
    have hbooked := (hcov.park (i := .bid t) (Nat.zero_le _)).book (i := .held t)
    rw [update_of_ne (by simp), hfree, hbid, Nat.zero_add, Nat.sub_zero] at hbooked
    refine hbooked.congr fun l => ?_
    show owed (setHold ((setAuction w t .empty).moved .self .self
      (w.ext.auction t).highestBidder t p) t h) asset l = _
    rw [owed_setHold]
    refine congrFun (congrArg₂ (update · (.held t) ·) (funext fun l => ?_) rfl) l
    show owed (setAuction w t .empty) asset l = _
    rw [owed_setAuction]
    simp [outbid, AuctionTerms.empty]
  | @holdCleared w x t h =>
    refine ⟨hl, fun asset ha => ?_, hs.payouts⟩
    have hcov : Covers (w.funds asset) (owed w asset) (x asset) := hs.covers asset ha
    have hgross : heldGross (w.ext.holds t) = (w.ext.holds t).gross := if_neg h
    show Covers _ _ (x.add (w.com.consignments t).asset (w.ext.holds t).gross asset)
    have hparked := hcov.park (i := .held t) (Nat.zero_le _)
    by_cases hasset : (w.com.consignments t).asset = asset
    · subst hasset
      have hold : owed w (w.com.consignments t).asset (.held t) = (w.ext.holds t).gross :=
        (if_pos rfl).trans hgross
      rw [hold, Nat.sub_zero] at hparked
      rw [Flight.add_self]
      refine hparked.congr fun l => ?_
      rw [owed_setHold]
      simp [heldGross, Hold.empty]
    · rw [Flight.add_of_ne _ _ (fun e => hasset e.symm)]
      refine (hparked.weaken le_rfl (Nat.le_add_right _ _)).congr fun l => ?_
      rw [owed_setHold]
      simp [heldGross, Hold.empty]
  | @holdChanged w x t h hbuyer hgross =>
    refine hs.keep hl rfl (fun _ _ => le_rfl) (fun asset l => ?_) rfl
    rw [owed_setHold]
    by_cases he : l = .held t
    · subst he
      simp [owed, heldGross, hbuyer, hgross]
    · rw [update_of_ne he]
  | reclaimed h =>
    exact hs.keep hl rfl (fun _ _ => le_rfl) (fun a l => by cases l <;> exact le_rfl) rfl

/-! ## §4. Runs. -/

/-- Nothing is owed at the start. -/
theorem genesis_solvent {w : World P} (h : Genesis w) : Solvent (w, fun _ => 0) := by
  refine ⟨genesis_lotsSound h, fun a _ => ?_, ?_⟩ <;>
    obtain ⟨env, pr, fee, fr, bond, window, own, gd, w₀, b, tb, -, hinit, rfl⟩ := h <;>
    simp only [initializeStorage, bind_ok, revertIf_ok, pure_ok, exists_const] at hinit <;>
    obtain ⟨-, -, _, -, -, -, -, -, rfl⟩ := hinit
  · refine (Covers.zero.weaken (Nat.zero_le _) le_rfl).congr fun l => ?_
    cases l <;> simp [owed, outbid, heldGross, World.setAcct, AuctionTerms.empty, Hold.empty,
      Challenge.empty]
  · intro p hp
    cases hp

theorem chain_solvent {c c' : Cfg P AscendingStorage} (h : ReflTransGen Effect c c')
    (hs : Solvent c) : Solvent c' := by
  induction h with
  | refl => exact hs
  | tail _ he ih => exact effect_solvent he ih

theorem step_solvent {w w' : World P} {a : Action Call} (hs : Solvent (w, fun _ => 0))
    (h : mode.step w a = .ok w') : Solvent (w', fun _ => 0) := by
  cases a with
  | msg m => exact chain_solvent ((exec_chain h).chain hs.lots _) hs
  | tick dt =>
    obtain rfl : _ = w' := Except.ok.inj h
    exact hs.keep (hs.lots.congr rfl rfl rfl rfl) rfl (fun _ _ => le_rfl)
      (fun a l => by cases l <;> exact le_rfl) rfl

/-- **The auction is solvent in every reachable state.**  In ether and in every token that
    moves exactly what is asked or reverts, finitely many liabilities stand and their sum is
    within the balance; and every payout the auction ever attempted, accepted or not, was
    within the balance it was attempted against. -/
theorem auction_solvent {w : World P} (h : Reachable mode.step Genesis w) :
    (∀ asset, asset = .zero ∨ w.env.tokenKind asset = .exact →
      (support (owed w asset)).Finite ∧ ∑ᶠ l, owed w asset l ≤ w.funds asset) ∧
    ∀ p ∈ w.acct.payouts, p.asset = .zero ∨ w.env.tokenKind p.asset = .exact →
      p.amount ≤ p.available := by
  have hs : Solvent (w, fun _ => 0) :=
    h.invariant (fun _ => genesis_solvent) fun _ _ _ hi hstep => step_solvent hi hstep
  refine ⟨fun asset ha => ⟨(hs.covers asset ha).support_finite, ?_⟩, hs.payouts⟩
  simpa using (hs.covers asset ha).finsum_le

end Effects

/-- A settled lot: 2000 of ether are held, and covered. -/
theorem auction_solvent_settledLot :
    owed (finalState mode.step smallGenesis settledLot) .zero (.held 7) = 2000 ∧
      ∑ᶠ l, owed (finalState mode.step smallGenesis settledLot) .zero l ≤
        (finalState mode.step smallGenesis settledLot).funds .zero :=
  ⟨by decide +kernel,
    ((auction_solvent ⟨smallGenesis, _, smallGenesis_genesis,
      run_finalState (by decide +kernel)⟩).1 .zero (.inl rfl)).2⟩


end Kargain.Evm.Ascending
