/-
  Kargain.Evm.BiddingLaw — what an accepted bid does.

  A bid is taken against the reserve, the standing bid and the clock; it
  moves the end of the auction, and pays the bid it replaces back or
  credits it.  What an account has been paid in an asset together with
  its claim there is what it is `due`; nothing that a callee sends in
  changes it, so a refund shows in it exactly once.

  The end of an auction is stored in 40 bits; a bid taken so late that
  its end does not fit leaves an end in the past.

  Main result: `bidding_law`.
-/
import Kargain.Evm.AscendingSides
import Kargain.Evm.FloorFit
import Kargain.Evm.PayoutShape

namespace Kargain.Evm

open Relation

variable {P σ : Type}

/-! ## §1. What an account is due. -/

/-- What the log of payouts says `account` was paid in `asset`. -/
def received (account asset : Address) : List Payout → ℕ
  | [] => 0
  | p :: older =>
    (if p.paid = true ∧ p.recipient = account ∧ p.asset = asset then p.amount else 0) +
      received account asset older

/-- Paid and credited. -/
def due (w : World P σ) (account asset : Address) : ℕ :=
  received account asset w.acct.payouts + w.acct.pendingClaims account asset

/-- One account is due `amount` more in one asset. -/
def DueMore (w : World P σ) (dst asset : Address) (amount : ℕ) (w' : World P σ) : Prop :=
  ∀ account a, due w' account a =
    due w account a + if account = dst ∧ a = asset then amount else 0

def SameDue (w w' : World P σ) : Prop := ∀ account a, due w' account a = due w account a

theorem SameDue.refl (w : World P σ) : SameDue w w := fun _ _ => rfl

theorem SameDue.trans {u v w : World P σ} (h : SameDue u v) (k : SameDue v w) : SameDue u w := by
  intro account a
  rw [k, h]

theorem SameDue.of_acct {w w' : World P σ} (hp : w'.acct.payouts = w.acct.payouts)
    (hc : w'.acct.pendingClaims = w.acct.pendingClaims) : SameDue w w' := by
  intro account a
  unfold due
  rw [hp, hc]

theorem SameDue.more {u v w : World P σ} {dst asset : Address} {amount : ℕ} (h : SameDue u v)
    (k : DueMore v dst asset amount w) : DueMore u dst asset amount w := by
  intro account a
  rw [k, h]

theorem DueMore.same {u v w : World P σ} {dst asset : Address} {amount : ℕ}
    (h : DueMore u dst asset amount v) (k : SameDue v w) : DueMore u dst asset amount w := by
  intro account a
  rw [k, h]

theorem dueMore_zero {w w' : World P σ} {dst asset : Address} :
    DueMore w dst asset 0 w' ↔ SameDue w w' := by
  constructor
  · intro h account a
    rw [h, ite_self, Nat.add_zero]
  · intro h account a
    rw [h, ite_self, Nat.add_zero]

/-- A transfer on the log. -/
theorem DueMore.record {w : World P σ} {a : Account} {p : Payout}
    (hp : a.payouts = w.acct.payouts) (hc : a.pendingClaims = w.acct.pendingClaims) :
    DueMore w p.recipient p.asset (if p.paid = true then p.amount else 0)
      (w.setAcct (a.record p)) := by
  intro account asset
  show received account asset (p :: a.payouts) + a.pendingClaims account asset = _
  unfold received due
  rw [hp, hc]
  by_cases hpaid : p.paid = true
  · rw [if_pos hpaid]
    by_cases hwho : account = p.recipient ∧ asset = p.asset
    · rw [if_pos hwho, if_pos ⟨hpaid, hwho.1.symm, hwho.2.symm⟩]
      omega
    · rw [if_neg hwho, if_neg fun h => hwho ⟨h.2.1.symm, h.2.2.symm⟩]
      omega
  · rw [if_neg hpaid, ite_self, if_neg fun h => hpaid h.1]
    omega

theorem creditClaim_due {w w' : World P σ} {sender dst asset : Address} {amount : ℕ}
    (h : creditClaim w sender dst asset amount = .ok w') : DueMore w dst asset amount w' := by
  have hclaim : w'.acct.payouts = w.acct.payouts ∧ w'.acct.pendingClaims =
      Function.update w.acct.pendingClaims dst (Function.update (w.acct.pendingClaims dst) asset
        (w.acct.pendingClaims dst asset + amount)) := by
    simp only [creditClaim, bind_ok, checkedAdd_ok] at h
    obtain ⟨claim, ⟨-, rfl⟩, h⟩ := h
    split at h <;>
    · simp only [bind_ok, checkedAdd_ok, pure_ok] at h
      obtain ⟨total, -, rfl⟩ := h
      exact ⟨rfl, rfl⟩
  intro account a
  unfold due
  rw [hclaim.1, hclaim.2]
  by_cases hdst : account = dst
  · subst hdst
    rw [Function.update_self]
    by_cases hasset : a = asset
    · subst hasset
      rw [Function.update_self, if_pos ⟨rfl, rfl⟩]
      omega
    · rw [Function.update_of_ne hasset, if_neg fun h => hasset h.2]
      omega
  · rw [Function.update_of_ne hdst, if_neg fun h => hdst h.1]
    omega

section Free

variable [Erc721 P] {H : Hooks P σ} {ExtSame : σ → σ → Prop} {w w' : World P σ}

theorem execOutside_payouts {o : Outside} (h : execOutside H w o = .ok w') :
    w'.acct.payouts = w.acct.payouts := by
  cases o with
  | passport caller c =>
    cases c <;>
      simp only [execOutside, execPassport, bind_ok, orRevert_ok, require_ok, exists_const,
        pure_ok] at h
    case mintPassport => obtain ⟨-, p, -, rfl⟩ := h; rfl
    all_goals
      obtain ⟨p, -, rfl⟩ := h
      rfl
  | setToken token n =>
    simp only [execOutside, bind_ok, require_ok, exists_const, pure_ok] at h
    obtain ⟨-, rfl⟩ := h
    rfl
  | _ => obtain rfl := Except.ok.inj h; rfl

theorem FreeEffect.due (h : FreeEffect H ExtSame w w') : SameDue w w' := by
  cases h with
  | outside o h => exact .of_acct (execOutside_payouts h) (execOutside_claims h).pending
  | @probed token b paid h =>
    -- a probe transfers nothing
    have hrecord : DueMore w .self token (if paid = true then 0 else 0) _ :=
      DueMore.record (w := w) (a := w.acct.setToken token b)
        (p := ⟨token, .self, 0, w.acct.tokenBalance token, paid⟩) rfl rfl
    rw [ite_self] at hrecord
    exact dueMore_zero.mp hrecord
  | recalled h => exact .of_acct rfl rfl
  | _ => exact .of_acct rfl rfl

/-- Whatever a callee sends in while the guard is held, everybody is due what he was. -/
theorem Calm.due {r : Reply P σ} (hr : Calm H ExtSame r) {u : World P σ} (hl : u.locked = true) :
    SameDue u (r.reenter u) := by
  have hchain := hr u hl
  generalize r.reenter u = v at hchain
  induction hchain with
  | refl => exact .refl u
  | tail _ he ih => exact ih.trans he.due

variable {sender dst asset token : Address} {amount : ℕ} {r : Reply P σ}

theorem callValue_due {v : World P σ} {ok : Bool} (hl : w.locked = true) (hr : Calm H ExtSame r)
    (h : callValue w dst amount r = (ok, v)) :
    DueMore w dst .zero (if ok = true then amount else 0) v := by
  unfold callValue at h
  split at h
  · cases h
    have hrecord : DueMore w dst .zero (if true = true then amount else 0) _ :=
      DueMore.record (w := w) (a := { w.acct with balance := w.acct.balance - amount })
        (p := ⟨.zero, dst, amount, w.acct.balance, true⟩) rfl rfl
    exact hrecord.same (hr.due hl)
  · cases h
    exact DueMore.record (w := w) (p := ⟨.zero, dst, amount, w.acct.balance, false⟩) rfl rfl

theorem tryErc20Transfer_due {v : World P σ} {ok : Bool} (hl : w.locked = true)
    (hr : Calm H ExtSame r) (h : tryErc20Transfer w token dst amount r = .ok (ok, v)) :
    DueMore w dst token (if ok = true then amount else 0) v := by
  have hrecord : ∀ (b : ℕ) (paid : Bool), DueMore w dst token (if paid = true then amount else 0)
      (w.setAcct ((w.acct.setToken token b).record
        ⟨token, dst, amount, w.acct.tokenBalance token, paid⟩)) := fun b paid =>
    DueMore.record (w := w) (a := w.acct.setToken token b)
      (p := ⟨token, dst, amount, w.acct.tokenBalance token, paid⟩) rfl rfl
  have hrefused : DueMore w dst token (if false = true then amount else 0)
      (w.setAcct (w.acct.record ⟨token, dst, amount, w.acct.tokenBalance token, false⟩)) :=
    DueMore.record (w := w) (p := ⟨token, dst, amount, w.acct.tokenBalance token, false⟩) rfl rfl
  simp only [tryErc20Transfer] at h
  split at h <;> split at h
  · cases h
    exact (hrecord _ true).same (hr.due hl)
  · cases h
    exact hrefused
  · simp only [bind_ok, pure_ok, Prod.mk.injEq] at h
    obtain ⟨ok', -, rfl, rfl⟩ := h
    exact (hrecord _ ok').same (hr.due hl)
  · cases h
    exact hrefused

/-- **A payout**: the recipient is due exactly the amount more, and nobody else anything. -/
theorem payOut_due (hl : w.locked = true) (hr : Calm H ExtSame r)
    (h : payOut w sender asset dst amount r = .ok w') : DueMore w dst asset amount w' := by
  unfold payOut at h
  split at h
  · rename_i hz
    subst hz
    unfold payNative at h
    split at h
    · rename_i hz
      cases h
      rw [hz]
      exact dueMore_zero.mpr (.refl w)
    · rcases hc : callValue w dst amount r with ⟨ok, v⟩
      rw [hc] at h
      have hcall := callValue_due hl hr hc
      cases ok with
      | true =>
        obtain rfl : v = w' := Except.ok.inj h
        exact hcall
      | false => exact (dueMore_zero.mp hcall).more (creditClaim_due h)
  · unfold payErc20 at h
    split at h
    · rename_i hz
      cases h
      rw [hz]
      exact dueMore_zero.mpr (.refl w)
    · simp only [bind_ok] at h
      obtain ⟨⟨ok, v⟩, hc, h⟩ := h
      have hcall := tryErc20Transfer_due hl hr hc
      cases ok with
      | true =>
        obtain rfl : v = w' := Except.ok.inj h
        exact hcall
      | false => exact (dueMore_zero.mp hcall).more (creditClaim_due h)

theorem pullErc20_due (hl : w.locked = true) (hr : Calm H ExtSame r)
    (h : pullErc20 w token amount r = .ok w') : SameDue w w' := by
  simp only [pullErc20, bind_ok, require_ok, exists_const, checkedSub_ok, revertIf_ok,
    pure_ok] at h
  obtain ⟨-, b, -, -, -, -, rfl⟩ := h
  have hset : SameDue w (w.setAcct (w.acct.setToken token b)) := .of_acct rfl rfl
  exact hset.trans (hr.due hl)

end Free

namespace Ascending

/-! ## §2. The auction of a lot. -/

/-- The standing bid and the end of the auction, as the last accepted bid announced them. -/
def lastBid (t : TokenId) : Log → Address × ℕ × ℕ
  | [] => (.zero, 0, 0)
  | (_, e) :: older =>
    match e with
    | .bidPlaced t' bidder amount endsAt =>
      if t' = t then (bidder, amount, endsAt) else lastBid t older
    | .ascendingTermsSnapshotted t' .. | .settled t' .. =>
      if t' = t then (.zero, 0, 0) else lastBid t older
    | _ => lastBid t older

/-- How often an auction of the lot has begun or ended. -/
def turnsOf (t : TokenId) : Log → ℕ
  | [] => 0
  | (_, e) :: older =>
    match e with
    | .ascendingTermsSnapshotted t' .. | .settled t' .. =>
      if t' = t then turnsOf t older + 1 else turnsOf t older
    | _ => turnsOf t older

def Event.ofAuction : Event → Bool
  | .bidPlaced .. | .ascendingTermsSnapshotted .. | .settled .. => true
  | _ => false

theorem lastBid_emit {e : Event} (he : Event.ofAuction e = false) (t : TokenId) (s : Address)
    (older : Log) : lastBid t ((s, e) :: older) = lastBid t older := by
  cases e <;> first | rfl | cases he

theorem turns_emit {e : Event} (he : Event.ofAuction e = false) (t : TokenId) (s : Address)
    (older : Log) : turnsOf t ((s, e) :: older) = turnsOf t older := by
  cases e <;> first | rfl | cases he

/-- What an extension leaves. -/
theorem applyExtension_le (now : ℕ) (a : AuctionTerms) :
    a.endsAt ≤ (applyExtension now a).endsAt := by
  unfold applyExtension
  split
  · exact Nat.le_refl _
  · split
    · rename_i h
      exact h.2.le
    · exact Nat.le_refl _

theorem applyExtension_terms (now : ℕ) (a : AuctionTerms) :
    (applyExtension now a).duration = a.duration ∧
      (applyExtension now a).extensionWindow = a.extensionWindow ∧
      (applyExtension now a).minIncrementBps = a.minIncrementBps := by
  unfold applyExtension
  split
  · exact ⟨rfl, rfl, rfl⟩
  · split <;> exact ⟨rfl, rfl, rfl⟩

/-- An end is at least the window away, unless it is unset. -/
theorem applyExtension_extends {now : ℕ} {a : AuctionTerms} (hset : a.endsAt ≠ 0)
    (hfits : now + a.extensionWindow < 2 ^ 40) :
    now + a.extensionWindow ≤ (applyExtension now a).endsAt := by
  have hcast : u40 (now + a.extensionWindow) = now + a.extensionWindow := Nat.mod_eq_of_lt hfits
  unfold applyExtension
  rw [if_neg hset, hcast]
  split
  · exact Nat.le_refl _
  · omega

/-- The terms every opening writes. -/
structure Snapshot (a : AuctionTerms) : Prop where
  duration : minDuration ≤ a.duration
  extensionWindow : a.extensionWindow = extensionWindow
  minIncrementBps : a.minIncrementBps = minIncrementBps

/-- A contract at rest. -/
structure Auctions (w : World P) : Prop where
  last : ∀ t, ((w.ext.auction t).highestBidder, (w.ext.auction t).highestBid,
    (w.ext.auction t).endsAt) = lastBid t w.log
  fresh : ∀ t, isOfferedActionable w t = true → (w.ext.auction t).highestBidder = .zero ∧
    (w.ext.auction t).highestBid = 0 ∧ (w.ext.auction t).endsAt = 0
  terms : ∀ t, isOfferedActionable w t = true ∨ (w.ext.auction t).highestBidder ≠ .zero →
    Snapshot (w.ext.auction t)
  /-- The end of an auction under bids is unset only where it did not fit. -/
  clock : ∀ t, (w.ext.auction t).highestBidder ≠ .zero → (w.ext.auction t).endsAt = 0 →
    2 ^ 40 ≤ w.env.now + (w.ext.auction t).duration

/-- Under the guard. -/
structure AuctionsLeft (w w' : World P) : Prop where
  locked : w'.locked = w.locked
  now : w'.env.now = w.env.now
  auction : w'.ext.auction = w.ext.auction
  offered : ∀ t, isOfferedActionable w' t = true → isOfferedActionable w t = true
  last : ∀ t, lastBid t w'.log = lastBid t w.log
  turns : ∀ t, turnsOf t w'.log = turnsOf t w.log

/-- Between two points at rest: auctions neither begun nor ended between them go on, their bid
    and their end not lowered. -/
structure AuctionsRun (w w' : World P) : Prop where
  sound : Auctions w → Auctions w'
  turns : ∀ t, turnsOf t w.log ≤ turnsOf t w'.log
  rising : Auctions w → ∀ t, turnsOf t w'.log = turnsOf t w.log →
    (w.ext.auction t).endsAt ≤ (w'.ext.auction t).endsAt ∧
      (w.ext.auction t).highestBid ≤ (w'.ext.auction t).highestBid

theorem AuctionsLeft.refl (w : World P) : AuctionsLeft w w :=
  ⟨rfl, rfl, rfl, fun _ h => h, fun _ => rfl, fun _ => rfl⟩

theorem AuctionsLeft.trans {u v w : World P} (h : AuctionsLeft u v) (k : AuctionsLeft v w) :
    AuctionsLeft u w :=
  ⟨k.locked.trans h.locked, k.now.trans h.now, k.auction.trans h.auction,
    fun t ht => h.offered t (k.offered t ht), fun t => (k.last t).trans (h.last t),
    fun t => (k.turns t).trans (h.turns t)⟩

theorem AuctionsLeft.auctions {w w' : World P} (h : AuctionsLeft w w') (hi : Auctions w) :
    Auctions w' := by
  refine ⟨fun t => ?_, fun t ht => ?_, fun t ht => ?_, fun t hb he => ?_⟩
  · rw [h.auction, h.last]
    exact hi.last t
  · rw [h.auction]
    exact hi.fresh t (h.offered t ht)
  · rw [h.auction] at ht ⊢
    exact hi.terms t (ht.imp_left (h.offered t))
  · rw [h.auction] at hb he ⊢
    rw [h.now]
    exact hi.clock t hb he

theorem AuctionsLeft.run {w w' : World P} (h : AuctionsLeft w w') : AuctionsRun w w' := by
  refine ⟨h.auctions, fun t => (h.turns t).ge, fun _ t _ => ?_⟩
  rw [h.auction]
  exact ⟨Nat.le_refl _, Nat.le_refl _⟩

theorem AuctionsRun.trans {u v w : World P} (h : AuctionsRun u v) (k : AuctionsRun v w) :
    AuctionsRun u w := by
  refine ⟨fun hi => k.sound (h.sound hi), fun t => (h.turns t).trans (k.turns t),
    fun hi t ht => ?_⟩
  have huv := h.turns t
  have hvw := k.turns t
  obtain ⟨hend, hbid⟩ := h.rising hi t (by omega)
  obtain ⟨kend, kbid⟩ := k.rising (h.sound hi) t (by omega)
  exact ⟨hend.trans kend, hbid.trans kbid⟩

theorem AuctionsLeft.emit {w w' : World P} {s : Address} {e : Event} (h : AuctionsLeft w w')
    (he : Event.ofAuction e = false) : AuctionsLeft w (w'.emit s e) :=
  ⟨h.locked, h.now, h.auction, h.offered, fun t => (lastBid_emit he t s _).trans (h.last t),
    fun t => (turns_emit he t s _).trans (h.turns t)⟩

/-- A change elsewhere. -/
theorem AuctionsLeft.of_com {w w' : World P} (hl : w'.locked = w.locked)
    (hn : w'.env.now = w.env.now) (ha : w'.ext.auction = w.ext.auction)
    (hp : w'.com.phase = w.com.phase)
    (hc : w'.com.committedNotOffered = w.com.committedNotOffered) (hlog : w'.log = w.log) :
    AuctionsLeft w w' := by
  refine ⟨hl, hn, ha, fun t ht => ?_, fun t => by rw [hlog], fun t => by rw [hlog]⟩
  rwa [isOfferedActionable, hp, hc] at ht

/-- A lot that is cleared is not on offer. -/
theorem AuctionsLeft.cleared {w : World P} {t : TokenId} {ph : Phase} (hph : ph ≠ .offered) :
    AuctionsLeft w (clearConsignment w t ph) := by
  refine ⟨rfl, rfl, rfl, fun t' ht => ?_, fun _ => rfl, fun _ => rfl⟩
  by_cases he : t' = t
  · subst he
    simp [isOfferedActionable, clearConsignment, World.setPhase, hph] at ht
  · simpa only [isOfferedActionable, clearConsignment, World.setPhase, World.setConsignment,
      World.setCommitted, World.setRecallRequest, Function.update_of_ne he] using ht

theorem Beside.auctionsLeft {w w' : World P} (h : Beside ExtSame w w') : AuctionsLeft w w' := by
  have hquiet : ∀ e : Event, e.beside = true → Event.ofAuction e = false := by
    intro e he
    cases e <;> first | rfl | cases he
  refine ⟨h.locked, h.now, h.ext.1, fun t ht => ?_, fun t => ?_, fun t => ?_⟩
  · rwa [isOfferedActionable, h.phase, h.committed] at ht
  · exact h.reading fun s e older he => lastBid_emit (hquiet e he) t s older
  · exact h.reading fun s e older he => turns_emit (hquiet e he) t s older

/-- One auction is written, and the log says so. -/
theorem AuctionsRun.written {w w' : World P} {t : TokenId} (hn : w'.env.now = w.env.now)
    (ha : ∀ t', t' ≠ t → w'.ext.auction t' = w.ext.auction t')
    (ho : ∀ t', t' ≠ t → isOfferedActionable w' t' = true → isOfferedActionable w t' = true)
    (hothers : ∀ t', t' ≠ t → lastBid t' w'.log = lastBid t' w.log ∧
      turnsOf t' w'.log = turnsOf t' w.log)
    (hle : turnsOf t w.log ≤ turnsOf t w'.log)
    (hsound : Auctions w →
      ((w'.ext.auction t).highestBidder, (w'.ext.auction t).highestBid,
        (w'.ext.auction t).endsAt) = lastBid t w'.log ∧
      (isOfferedActionable w' t = true → (w'.ext.auction t).highestBidder = .zero ∧
        (w'.ext.auction t).highestBid = 0 ∧ (w'.ext.auction t).endsAt = 0) ∧
      (isOfferedActionable w' t = true ∨ (w'.ext.auction t).highestBidder ≠ .zero →
        Snapshot (w'.ext.auction t)) ∧
      ((w'.ext.auction t).highestBidder ≠ .zero → (w'.ext.auction t).endsAt = 0 →
        2 ^ 40 ≤ w'.env.now + (w'.ext.auction t).duration))
    (hrising : Auctions w → turnsOf t w'.log = turnsOf t w.log →
      (w.ext.auction t).endsAt ≤ (w'.ext.auction t).endsAt ∧
        (w.ext.auction t).highestBid ≤ (w'.ext.auction t).highestBid) :
    AuctionsRun w w' := by
  refine ⟨fun hi => ⟨fun t' => ?_, fun t' h => ?_, fun t' h => ?_, fun t' hb he => ?_⟩,
    fun t' => ?_, fun hi t' hsame => ?_⟩
  all_goals by_cases het : t' = t
  · subst het
    exact (hsound hi).1
  · rw [ha t' het, (hothers t' het).1]
    exact hi.last t'
  · subst het
    exact (hsound hi).2.1 h
  · rw [ha t' het]
    exact hi.fresh t' (ho t' het h)
  · subst het
    exact (hsound hi).2.2.1 h
  · rw [ha t' het] at h ⊢
    exact hi.terms t' (h.imp_left (ho t' het))
  · subst het
    exact (hsound hi).2.2.2 hb he
  · rw [ha t' het] at hb he ⊢
    rw [hn]
    exact hi.clock t' hb he
  · subst het
    exact hle
  · exact (hothers t' het).2.ge
  · subst het
    exact hrising hi hsame
  · rw [ha t' het]
    exact ⟨Nat.le_refl _, Nat.le_refl _⟩

theorem AuctionsRun.opened {w : World P} {s owner agent asset : Address} {t : TokenId}
    {denomination : Denomination} {floor reserve duration protectionWindow : ℕ}
    {comp : Compensation} (hduration : minDuration ≤ duration) :
    AuctionsRun w (writeAuctionTerms (writeOpen w s t owner agent asset denomination floor comp
      reserve) s t duration protectionWindow reserve) := by
  generalize hu : writeOpen w s t owner agent asset denomination floor comp reserve = u
  have hnow : u.env.now = w.env.now := by
    subst hu
    rfl
  have hauction : u.ext.auction = w.ext.auction := by
    subst hu
    rfl
  have hlast : ∀ t', lastBid t' u.log = lastBid t' w.log := by
    subst hu
    exact fun _ => rfl
  have hturns : ∀ t', turnsOf t' u.log = turnsOf t' w.log := by
    subst hu
    exact fun _ => rfl
  have hoffered : ∀ t', t' ≠ t → isOfferedActionable u t' = true →
      isOfferedActionable w t' = true := by
    intro t' ht h
    subst hu
    simpa only [isOfferedActionable, writeOpen, World.emit, World.setRecallRequest, World.setPhase,
      World.setCommitted, World.setConsignment, Function.update_of_ne ht] using h
  unfold writeAuctionTerms setAuction
  refine .written (t := t) hnow (fun t' ht => ?_) hoffered (fun t' ht => ?_) ?_ (fun _ => ?_)
    fun _ hsame => ?_
  · rw [← hauction]
    exact Function.update_of_ne ht _ _
  · rw [← hlast, ← hturns]
    exact ⟨if_neg ht.symm, if_neg ht.symm⟩
  · rw [← hturns]
    show turnsOf t u.log ≤ if t = t then turnsOf t u.log + 1 else turnsOf t u.log
    rw [if_pos rfl]
    omega
  · simp only [World.emit, Function.update_self]
    refine ⟨?_, fun _ => ⟨trivial, trivial, trivial⟩, fun _ => ⟨hduration, rfl, rfl⟩,
      fun h => absurd rfl h⟩
    show _ = if t = t then _ else _
    rw [if_pos rfl]
  · rw [← hturns] at hsame
    have hbegun : (if t = t then turnsOf t u.log + 1 else turnsOf t u.log) = turnsOf t u.log :=
      hsame
    rw [if_pos rfl] at hbegun
    omega

theorem AuctionsRun.settled [Erc721 P] {w : World P} {s : Address} {t : TokenId} {p : P} {h : Hold}
    (hbinding : isBinding w t = true) :
    AuctionsRun w ((setHold ((setAuction w t .empty).moved .self .self h.buyer t p) t h).emit s
      (.settled t h.buyer h.gross h.protectionEndsAt)) := by
  have hcommitted : isOfferedActionable w t = false := by
    simp only [isBinding, Bool.and_eq_true, beq_iff_eq] at hbinding
    simp [isOfferedActionable, hbinding.1.2]
  have hauction : (((setAuction w t .empty).moved .self .self h.buyer t p).ext.auction t) =
      .empty := by
    show Function.update w.ext.auction t .empty t = .empty
    rw [Function.update_self]
  refine .written (t := t) rfl (fun t' ht => ?_) (fun t' ht h => h) (fun t' ht => ?_) ?_
    (fun _ => ?_) fun _ hsame => ?_
  · exact Function.update_of_ne ht _ _
  · exact ⟨if_neg ht.symm, if_neg ht.symm⟩
  · show turnsOf t w.log ≤ if t = t then turnsOf t w.log + 1 else turnsOf t w.log
    rw [if_pos rfl]
    omega
  · simp only [World.emit, setHold, hauction]
    have hleft : isOfferedActionable w t = true → False := fun ho =>
      Bool.false_ne_true (hcommitted.symm.trans ho)
    refine ⟨?_, fun ho => (hleft ho).elim, fun ho => ho.elim (fun ho => (hleft ho).elim) fun hb =>
      absurd rfl hb, fun hb => absurd rfl hb⟩
    show _ = if t = t then _ else _
    rw [if_pos rfl]
    rfl
  · have hended : (if t = t then turnsOf t w.log + 1 else turnsOf t w.log) = turnsOf t w.log :=
      hsame
    rw [if_pos rfl] at hended
    omega

/-- The first bid finds the lot on offer and binds it; a later one finds it bound. -/
theorem commitFirst_ok {u v : World P} {t : TokenId} (h : commitFirst u t = .ok v) :
    (v.env.now = u.env.now ∧ v.log = u.log ∧ v.com.consignments = u.com.consignments ∧
        (∀ t', t' ≠ t → v.ext.auction t' = u.ext.auction t') ∧
        ∀ t', t' ≠ t → isOfferedActionable v t' = isOfferedActionable u t') ∧
      ((isOfferedActionable u t = true ∧ isOfferedActionable v t = false ∧
          (u.ext.auction t).highestBidder = .zero ∧ v.ext.auction t =
            { u.ext.auction t with endsAt := u40 (u.env.now + (u.ext.auction t).duration) }) ∨
        (u.ext.auction t).highestBidder ≠ .zero ∧ v = u) := by
  unfold commitFirst at h
  split at h
  · rename_i hnone
    simp only [bind_ok, pure_ok] at h
    obtain ⟨y, hy, rfl⟩ := h
    obtain ⟨ho, rfl⟩ := enterCommittedNotOffered_ok hy
    refine ⟨⟨rfl, rfl, rfl, fun t' ht => Function.update_of_ne ht _ _, fun t' ht => ?_⟩,
      .inl ⟨ho, ?_, hnone, Function.update_self _ _ _⟩⟩
    · simp only [isOfferedActionable, setAuction, World.setRecallRequest, World.setCommitted,
        Function.update_of_ne ht]
    · simp [isOfferedActionable, setAuction, World.setRecallRequest, World.setCommitted]
  · rename_i hsome
    obtain rfl := pure_ok.mp h
    exact ⟨⟨rfl, rfl, rfl, fun _ _ => rfl, fun _ _ => rfl⟩, .inr ⟨hsome, rfl⟩⟩

/-- The auction a bid leaves. -/
def outbidBy (v : World P) (t : TokenId) (s : Address) (amount : ℕ) : AuctionTerms :=
  applyExtension v.env.now { v.ext.auction t with highestBidder := s, highestBid := amount }

/-- What it keeps of the auction it found. -/
theorem outbidBy_keeps {u v : World P} {t : TokenId} (s : Address) (amount : ℕ)
    (hi : Auctions u) (h : commitFirst u t = .ok v) :
    Snapshot (outbidBy v t s amount) ∧ isOfferedActionable v t = false ∧
      (u.ext.auction t).endsAt ≤ (outbidBy v t s amount).endsAt ∧
      (outbidBy v t s amount).duration = (u.ext.auction t).duration ∧
      ((outbidBy v t s amount).endsAt = 0 →
        2 ^ 40 ≤ u.env.now + (u.ext.auction t).duration) := by
  have hkept : (outbidBy v t s amount).duration = (v.ext.auction t).duration ∧
      (outbidBy v t s amount).extensionWindow = (v.ext.auction t).extensionWindow ∧
      (outbidBy v t s amount).minIncrementBps = (v.ext.auction t).minIncrementBps :=
    applyExtension_terms v.env.now _
  have hle : (v.ext.auction t).endsAt ≤ (outbidBy v t s amount).endsAt :=
    applyExtension_le v.env.now { v.ext.auction t with highestBidder := s, highestBid := amount }
  obtain ⟨hdur, hext, hinc⟩ := hkept
  obtain ⟨-, ⟨ho, hbound, hnone, hauction⟩ | ⟨hsome, rfl⟩⟩ := commitFirst_ok h
  · have hterms := hi.terms t (.inl ho)
    have hfresh := hi.fresh t ho
    rw [hauction] at hdur hext hinc hle
    refine ⟨⟨?_, ?_, ?_⟩, hbound, ?_, hdur, fun hzero => ?_⟩
    · exact hterms.duration.trans hdur.ge
    · exact hext.trans hterms.extensionWindow
    · exact hinc.trans hterms.minIncrementBps
    · rw [hfresh.2.2]
      exact Nat.zero_le _
    · -- the end of a first bid is zero only by overflow
      have hmin := hterms.duration
      have hcast : u40 (u.env.now + (u.ext.auction t).duration) = 0 := by
        have hle' : u40 (u.env.now + (u.ext.auction t).duration) ≤
            (outbidBy v t s amount).endsAt := hle
        omega
      unfold u40 at hcast
      unfold minDuration at hmin
      omega
  · have hterms := hi.terms t (.inr hsome)
    have hbound : isOfferedActionable v t = false := by
      by_contra ho
      exact hsome (hi.fresh t (by simpa using ho)).1
    refine ⟨⟨?_, ?_, ?_⟩, hbound, hle, hdur, fun hzero => ?_⟩
    · exact hterms.duration.trans hdur.ge
    · exact hext.trans hterms.extensionWindow
    · exact hinc.trans hterms.minIncrementBps
    · exact hi.clock t hsome (by omega)

/-- A bid that is high enough is more than what stands. -/
theorem lt_of_bidHighEnough {c : Consignment} {a : AuctionTerms} {amount : ℕ}
    (h : bidHighEnough c a amount = true) (hsome : a.highestBidder ≠ .zero) :
    a.highestBid + a.highestBid * a.minIncrementBps / bpsDenom ≤ amount ∧
      a.highestBid < amount := by
  unfold bidHighEnough at h
  rw [if_neg hsome] at h
  simp only [Bool.and_eq_true, Bool.not_eq_true', decide_eq_false_iff_not] at h
  omega

theorem AuctionsRun.placed {u v : World P} {s : Address} {t : TokenId} {amount : ℕ}
    {c : Consignment}
    (hhigh : bidHighEnough c (u.ext.auction t) amount = true) (h : commitFirst u t = .ok v) :
    AuctionsRun u ((setAuction v t (outbidBy v t s amount)).emit s
      (.bidPlaced t s amount (outbidBy v t s amount).endsAt)) := by
  obtain ⟨⟨hnow, hlog, -, hauction, hoffered⟩, hcase⟩ := commitFirst_ok h
  have hbid : (outbidBy v t s amount).highestBidder = s ∧
      (outbidBy v t s amount).highestBid = amount := applyExtension_bid _ _
  have hset : (setAuction v t (outbidBy v t s amount)).ext.auction t = outbidBy v t s amount :=
    Function.update_self _ _ _
  refine .written (t := t) hnow (fun t' ht => ?_) (fun t' ht ho => ?_) (fun t' ht => ?_) ?_
    (fun hi => ?_) fun hi _ => ?_
  · rw [← hauction t' ht]
    exact Function.update_of_ne ht _ _
  · rw [← hoffered t' ht]
    exact ho
  · rw [← hlog]
    exact ⟨if_neg ht.symm, rfl⟩
  · rw [← hlog]
    exact Nat.le_refl _
  · obtain ⟨hterms, hbound, -, hdur, hclock⟩ := outbidBy_keeps s amount hi h
    simp only [World.emit, hset]
    refine ⟨?_, fun ho => absurd (hbound.symm.trans ho) Bool.false_ne_true, fun _ => hterms,
      fun _ hzero => ?_⟩
    · show _ = if t = t then _ else _
      rw [if_pos rfl, hbid.1, hbid.2]
    · show _ ≤ v.env.now + _
      rw [hnow, hdur]
      exact hclock hzero
  · obtain ⟨-, -, hle, -, -⟩ := outbidBy_keeps s amount hi h
    simp only [World.emit, hset]
    refine ⟨hle, ?_⟩
    rw [hbid.2]
    obtain ⟨ho, -⟩ | ⟨hsome, -⟩ := hcase
    · rw [(hi.fresh t ho).2.1]
      exact Nat.zero_le _
    · exact (lt_of_bidHighEnough hhigh hsome).2.le

variable [Erc721 P] {w w' : World P}

theorem auctionRules : Rules (P := P) AuctionsLeft AuctionsRun where
  refl := .refl
  trans h k := h.trans k
  locked h := h.locked
  rest h := h.run
  rest_trans h k := h.trans k
  toggle w b := by
    refine ⟨fun hi => ⟨hi.last, hi.fresh, hi.terms, hi.clock⟩, fun _ => Nat.le_refl _,
      fun _ t _ => ?_⟩
    exact ⟨Nat.le_refl _, Nat.le_refl _⟩
  side h := Beside.auctionsLeft (h.beside extView.refl)
  bonds := .of_com rfl rfl rfl rfl rfl rfl
  held {w s e} he := by
    refine .emit (.refl w) ?_
    cases e <;> first | rfl | cases he
  opened {w s owner agent asset t denomination floor reserve duration protectionWindow comp}
      _ _ hduration _ := .opened hduration
  placed hhigh hpulled hv := by
    rw [← hpulled.auction] at hhigh
    exact .placed hhigh hv
  settled hbinding _ _ := .settled hbinding
  holdKept _ _ := AuctionsLeft.run (.of_com rfl rfl rfl rfl rfl rfl)
  holdCleared := AuctionsLeft.run (.of_com rfl rfl rfl rfl rfl rfl)
  split {w s asset a b c t x y z reason} := by
    have hannounced : AuctionsLeft w (w.emit s (.consignmentSplitPaid t asset a x b y c z)) :=
      .emit (.refl w) rfl
    have hcleared : AuctionsLeft _ (clearConsignment (w.emit s (.consignmentSplitPaid t asset a x
        b y c z)) t .closed) := .cleared (by decide)
    exact (hannounced.trans hcleared).emit rfl
  returned {w u s t reason} h := by
    have hcleared : AuctionsLeft w (clearConsignment w t .returned) := .cleared (by decide)
    exact (hcleared.trans h).emit rfl

/-! ## §3. Wherever a message can come in. -/

theorem genesis_auctions (h : Genesis w) : w.locked = false ∧ Auctions w := by
  obtain ⟨env, pr, fee, fr, bond, window, own, gd, w₀, b, tb, -, hinit, rfl⟩ := h
  simp only [initializeStorage, bind_ok, revertIf_ok, pure_ok, exists_const] at hinit
  obtain ⟨-, -, _, -, -, -, -, -, rfl⟩ := hinit
  refine ⟨rfl, fun t => rfl, fun t _ => ⟨rfl, rfl, rfl⟩, fun t ht => ?_, fun t hb => absurd rfl hb⟩
  exact ht.elim (fun ho => by cases ho) fun hb => absurd rfl hb

/-- The invariant, by induction on how the point was come to. -/
theorem open_auctions (h : Open mode Genesis w) : w.locked = false ∧ Auctions w := by
  induction h with
  | initial h => exact genesis_auctions h
  | later dt _ ih =>
    obtain ⟨hl, hi⟩ := ih
    refine ⟨hl, hi.last, hi.fresh, hi.terms, fun t hb he => ?_⟩
    exact (hi.clock t hb he).trans (Nat.add_le_add_right (Nat.le_add_right _ _) _)
  | after _ hm ih =>
    obtain ⟨hrun, hl⟩ := (exec_respects auctionRules hm).at_rest ih.1
    exact ⟨hl, hrun.sound ih.2⟩
  | probed a _ ih => exact ⟨ih.1, ih.2.last, ih.2.fresh, ih.2.terms, ih.2.clock⟩
  | @recalled w t dst p _ hp ih =>
    have hset : AuctionsLeft w (w.setRecallRequest t 0) := .of_com rfl rfl rfl rfl rfl rfl
    have hcleared : AuctionsLeft (w.setRecallRequest t 0)
        (clearConsignment (w.setRecallRequest t 0) t .returned) := .cleared (by decide)
    have hmoved := (hset.trans hcleared).trans (auctionRules.side (.moved hp))
    exact ⟨hmoved.locked.trans ih.1, hmoved.auctions ih.2⟩

/-- What arrives with a bid: the value of the call, or what the token's balance gains. -/
def deposit (w : World P) (asset : Address) (value amount : ℕ) (r : Reply P AscendingStorage) : ℕ :=
  if asset = .zero then value
  else match pullErc20 w asset amount r with
    | .ok u => u.acct.tokenBalance asset - w.acct.tokenBalance asset
    | .error _ => 0

/-- An accepted bid, between the point it came in at and the point it left. -/
structure BidLaw (w w' : World P) (sender : Address) (value : ℕ) (t : TokenId) (amount : ℕ)
    (r : Reply P AscendingStorage) : Prop where
  reserve : (w.com.consignments t).price ≤ amount
  increment : (w.ext.auction t).highestBidder ≠ .zero →
    (w.ext.auction t).highestBid + (w.ext.auction t).highestBid * minIncrementBps / bpsDenom ≤
      amount ∧ (w.ext.auction t).highestBid < amount
  before : (w.ext.auction t).endsAt ≠ 0 → w.env.now < (w.ext.auction t).endsAt
  later : (w.ext.auction t).endsAt ≤ (w'.ext.auction t).endsAt
  extended : w.env.now + extensionWindow < 2 ^ 40 → (w'.ext.auction t).endsAt ≠ 0 →
    w.env.now + extensionWindow ≤ (w'.ext.auction t).endsAt
  unset : (w'.ext.auction t).endsAt = 0 → 2 ^ 40 ≤ w.env.now + (w.ext.auction t).duration
  standing : (w'.ext.auction t).highestBidder = sender ∧ (w'.ext.auction t).highestBid = amount
  deposited : deposit { w.receiveValue value with locked := true } (w.com.consignments t).asset
    value amount r = amount
  refunded : DueMore w (w.ext.auction t).highestBidder (w.com.consignments t).asset
    (outbid (w.ext.auction t)) w'

variable {u : World P} {sender : Address} {t : TokenId} {value amount : ℕ}
  {rs : ℕ → Reply P AscendingStorage} {asset : Address} {r : Reply P AscendingStorage}

/-- The payment of a bid: all of it arrives, and nothing else happens to the lot. -/
theorem pullBid_ok (hl : w.locked = true) (hr : Calm hooks ExtSame r)
    (h : pullBid w asset amount value r = .ok u) :
    deposit w asset value amount r = amount ∧ UnderLock ExtSame w u ∧ SameDue w u := by
  unfold pullBid at h
  unfold deposit
  split at h
  · rename_i hz
    simp only [bind_ok, revertIf_ok, exists_const, pure_ok, not_not] at h
    obtain ⟨hvalue, rfl⟩ := h
    rw [if_pos hz]
    exact ⟨hvalue, .refl extView w, .refl w⟩
  · rename_i hz
    simp only [bind_ok, revertIf_ok, exists_const] at h
    obtain ⟨-, h⟩ := h
    rw [if_neg hz, h]
    refine ⟨?_, pullErc20_underLock extView hl hr h, pullErc20_due hl hr h⟩
    simp only [pullErc20, bind_ok, require_ok, exists_const, checkedSub_ok, revertIf_ok,
      pure_ok, not_not] at h
    obtain ⟨-, b, -, delivered, ⟨-, hdelivered⟩, hall, rfl⟩ := h
    rw [← hall, hdelivered]

omit [Erc721 P] in
/-- The lot a bid is placed on is the one it was paid for. -/
theorem asset_of_pulled {v : World P} (hi : Auctions w) (hpulled : UnderLock ExtSame w u)
    (hcommit : commitFirst u t = .ok v) :
    (v.com.consignments t).asset = (w.com.consignments t).asset := by
  obtain ⟨⟨-, -, hcons, -, -⟩, hcase⟩ := commitFirst_ok hcommit
  rw [hcons]
  rcases hcase with ⟨ho, -⟩ | ⟨hsome, -⟩
  · have hphase : u.com.phase t = .offered := by
      simp only [isOfferedActionable, Bool.and_eq_true, beq_iff_eq] at ho
      exact ho.1
    exact (hpulled.offered hphase).2.2.asset
  · cases hpulled.lots t with
    | kept _ _ hs => exact hs.asset
    | recalled ho _ _ =>
      rw [hpulled.ext.1] at hsome
      exact absurd (hi.fresh t ho).1 hsome

/-- The parts of a bid, one after the other. -/
theorem bidBody_parts (hl : w.locked = true) (hi : Auctions w)
    (hr : ∀ i, Calm hooks ExtSame (rs i)) (hk : ∀ i, Keeps (Guarded AuctionsLeft) (rs i))
    (h : bidBody w sender value t amount rs = .ok w') :
    isLiveConsignment w t = true ∧
      ((w.ext.auction t).endsAt ≠ 0 → w.env.now < (w.ext.auction t).endsAt) ∧
      bidHighEnough (w.com.consignments t) (w.ext.auction t) amount = true ∧
      deposit w (w.com.consignments t).asset value amount (rs 0) = amount ∧
      ∃ u v : World P, AuctionsLeft w u ∧ commitFirst u t = .ok v ∧
        w'.ext.auction t = outbidBy v t sender amount ∧
        DueMore w (w.ext.auction t).highestBidder (w.com.consignments t).asset
          (outbid (w.ext.auction t)) w' := by
  simp only [bidBody, bind_ok, revertIf_ok, exists_const] at h
  obtain ⟨-, -, -, hoffered, -, -, hended, hhigh, u, hu, v, hv, h⟩ := h
  have hlive : isLiveConsignment w t = true := by
    by_contra hnot
    have hphase : (w.com.phase t == .offered) = false := by simpa [isLiveConsignment] using hnot
    exact hoffered (by simp only [isOfferedActionable, isBinding, hphase, Bool.false_and, and_self])
  obtain ⟨hdeposit, hunder, hdue⟩ := pullBid_ok hl (hr 0) hu
  have hleft : AuctionsLeft w u := by
    unfold pullBid at hu
    split at hu
    · simp only [bind_ok, revertIf_ok, exists_const, pure_ok] at hu
      obtain ⟨-, rfl⟩ := hu
      exact .refl _
    · simp only [bind_ok, revertIf_ok, exists_const] at hu
      exact pullErc20_keeps auctionRules.guarded (hk 0) hu.2 hl
  have hcommit : commitFirst u t = .ok v := hv
  have hauction : u.ext.auction = w.ext.auction := hleft.auction
  have hasset := asset_of_pulled hi hunder hcommit
  have hacct : v.acct = u.acct ∧ v.locked = u.locked := by
    unfold commitFirst at hcommit
    split at hcommit
    · simp only [bind_ok, pure_ok] at hcommit
      obtain ⟨y, hy, rfl⟩ := hcommit
      obtain ⟨-, rfl⟩ := enterCommittedNotOffered_ok hy
      exact ⟨rfl, rfl⟩
    · obtain rfl := pure_ok.mp hcommit
      exact ⟨rfl, rfl⟩
  generalize hy : (setAuction v t (outbidBy v t sender amount)).emit sender
    (.bidPlaced t sender amount (outbidBy v t sender amount).endsAt) = y
  have hly : y.locked = true := by
    subst hy
    exact hacct.2.trans (hunder.locked.trans hl)
  have hyt : y.ext.auction t = outbidBy v t sender amount := by
    subst hy
    exact Function.update_self _ _ _
  have hcons : y.com.consignments = v.com.consignments := by
    subst hy
    rfl
  have hplaced : SameDue w y := by
    subst hy
    exact hdue.trans (.of_acct (congrArg Account.payouts hacct.1)
      (congrArg Account.pendingClaims hacct.1))
  refine ⟨hlive, fun hset => ?_, by simpa using hhigh, hdeposit, u, v, hleft, hcommit, ?_⟩
  · by_contra hlate
    exact hended ⟨hset, Nat.not_lt.mp hlate⟩
  -- the refund is of what stood before the payment came in
  have hrest : (if (w.ext.auction t).highestBidder ≠ .zero then do
      let x ← payOut y sender (y.com.consignments t).asset (w.ext.auction t).highestBidder
        (w.ext.auction t).highestBid (rs 1)
      pure (x.emit sender (.bidRefunded t (w.ext.auction t).highestBidder
        (y.com.consignments t).asset (w.ext.auction t).highestBid))
      else pure y) = Except.ok w' := by
    subst hy
    rw [hauction] at h
    exact h
  rw [hcons, hasset] at hrest
  split at hrest
  · rename_i hprev
    simp only [bind_ok, pure_ok] at hrest
    obtain ⟨x, hx, rfl⟩ := hrest
    have hframe := payOut_underLock extView hly (hr 1) hx
    refine ⟨?_, ?_⟩
    · show x.ext.auction t = _
      rw [hframe.ext.1, hyt]
    · unfold outbid
      rw [if_neg hprev]
      exact (hplaced.more (payOut_due hly (hr 1) hx)).same (.of_acct rfl rfl)
  · rename_i hprev
    obtain rfl := pure_ok.mp hrest
    refine ⟨hyt, ?_⟩
    unfold outbid
    rw [if_pos (not_not.mp hprev)]
    exact dueMore_zero.mpr hplaced

/-- **An accepted bid**, of any message at any depth of the call stack. -/
theorem bid_law {d : ℕ} {caller : Caller} {callees : List (Callee (Msg Call))}
    (hopen : Open mode Genesis w)
    (h : mode.exec (d + 1) (.tx caller value (.bid t amount) callees) w = .ok w') :
    BidLaw w w' caller.addr value t amount
      ((callees.getD 0 Callee.accept).reply fun m u => mode.exec d m u) := by
  obtain ⟨-, hi⟩ := open_auctions hopen
  obtain ⟨-, hbids⟩ := open_bidsFit hopen
  have hcall : nonReentrant (w.receiveValue value) (fun w => bidBody w caller.addr value t amount
      fun i => (callees.getD i Callee.accept).reply fun m u => mode.exec d m u) = .ok w' := h
  obtain ⟨-, x, hx, rfl⟩ := nonReentrant_ok hcall
  have hr : ∀ i, Calm (P := P) hooks ExtSame
      ((callees.getD i Callee.accept).reply fun m u => mode.exec d m u) := fun i =>
    Callee.calm (M := mode) extView (fun _ _ _ _ h => (exec_chain h).calm) d _
  have hk : ∀ i, Keeps (Guarded (AuctionsLeft (P := P)))
      ((callees.getD i Callee.accept).reply fun m u => mode.exec d m u) := fun i =>
    Respects.guarded (B := AuctionsRun) (Callee.keeps auctionRules.respects_refl
      auctionRules.respects_trans (fun _ _ _ hm => exec_respects auctionRules hm) _)
  have hi₀ : Auctions { w.receiveValue value with locked := true } :=
    ⟨hi.last, hi.fresh, hi.terms, hi.clock⟩
  obtain ⟨hlive, hbefore, hhigh, hdeposit, u, v, hleft, hcommit, hset, hdue⟩ :=
    bidBody_parts rfl hi₀ hr hk hx
  have hnow : v.env.now = w.env.now := (commitFirst_ok hcommit).1.1.trans hleft.now
  have hauction : u.ext.auction = w.ext.auction := hleft.auction
  obtain ⟨hterms, -, hle, -, hclock⟩ :=
    outbidBy_keeps caller.addr amount (hleft.auctions hi₀) hcommit
  have hbid : (outbidBy v t caller.addr amount).highestBidder = caller.addr ∧
      (outbidBy v t caller.addr amount).highestBid = amount := applyExtension_bid _ _
  have hleaves : x.ext.auction t = outbidBy v t caller.addr amount := hset
  rw [hauction] at hle hclock
  refine ⟨?_, fun hsome => ?_, hbefore, ?_, fun hfits hend => ?_, fun hzero => ?_, ?_, hdeposit,
    hdue⟩
  · exact reserve_le_of_high hhigh fun hsome => hbids.bid t hlive hsome
  · have hinc := (hi.terms t (.inr hsome)).minIncrementBps
    have hmore := lt_of_bidHighEnough hhigh hsome
    rw [← hinc]
    exact hmore
  · show _ ≤ (x.ext.auction t).endsAt
    rw [hleaves]
    exact hle
  · have hend : (x.ext.auction t).endsAt ≠ 0 := hend
    rw [hleaves] at hend
    show _ ≤ (x.ext.auction t).endsAt
    rw [hleaves]
    have hwindow : (v.ext.auction t).extensionWindow = extensionWindow :=
      (applyExtension_terms v.env.now { v.ext.auction t with
        highestBidder := caller.addr, highestBid := amount }).2.1.symm.trans hterms.extensionWindow
    -- an end that is not set is not extended either
    have hset : (v.ext.auction t).endsAt ≠ 0 := by
      intro hzero
      apply hend
      unfold outbidBy applyExtension
      rw [if_pos hzero]
      exact hzero
    rw [← hnow, ← hwindow] at hfits ⊢
    exact applyExtension_extends (a := { v.ext.auction t with
      highestBidder := caller.addr, highestBid := amount }) hset hfits
  · have hzero : (x.ext.auction t).endsAt = 0 := hzero
    rw [hleaves] at hzero
    have hlate := hclock hzero
    rw [hleft.now] at hlate
    exact hlate
  · show (x.ext.auction t).highestBidder = _ ∧ (x.ext.auction t).highestBid = _
    rw [hleaves]
    exact hbid

/-- What a run does to the auctions. -/
theorem run_auctions {as : List (Action Call)} (h : run mode.step w as = .ok w')
    (hl : w.locked = false) : AuctionsRun w w' ∧ w'.locked = false := by
  refine run_frame (R := fun u v : World P => u.locked = false → AuctionsRun u v ∧ v.locked = false)
    ?_ ?_ ?_ h hl
  · exact fun u hu => ⟨(AuctionsLeft.refl u).run, hu⟩
  · intro x y z hxy hyz hx
    obtain ⟨kxy, hy⟩ := hxy hx
    obtain ⟨kyz, hz⟩ := hyz hy
    exact ⟨kxy.trans kyz, hz⟩
  · intro u a v hs hu
    cases a with
    | msg m => exact (exec_respects auctionRules hs).at_rest hu
    | tick dt =>
      obtain rfl : _ = v := Except.ok.inj hs
      refine ⟨⟨fun hi => ⟨hi.last, hi.fresh, hi.terms, fun t hb he => ?_⟩, fun _ => Nat.le_refl _,
        fun _ _ _ => ⟨Nat.le_refl _, Nat.le_refl _⟩⟩, hu⟩
      exact (hi.clock t hb he).trans (Nat.add_le_add_right (Nat.le_add_right _ _) _)

/-- **Bidding.**  Wherever a message can come in: what stands on a lot is what the last accepted
    bid of its auction announced; an accepted bid obeys `BidLaw`; and over any run that neither
    ends the auction nor begins another, neither its end nor its highest bid is lowered. -/
theorem bidding_law (h : Open mode Genesis w) :
    (∀ t, ((w.ext.auction t).highestBidder, (w.ext.auction t).highestBid,
      (w.ext.auction t).endsAt) = lastBid t w.log) ∧
    (∀ d (caller : Caller) value t amount (callees : List (Callee (Msg Call))) w',
      mode.exec (d + 1) (.tx caller value (.bid t amount) callees) w = .ok w' →
      BidLaw w w' caller.addr value t amount
        ((callees.getD 0 Callee.accept).reply fun m u => mode.exec d m u)) ∧
    ∀ as w', run mode.step w as = .ok w' → ∀ t, turnsOf t w'.log = turnsOf t w.log →
      (w.ext.auction t).endsAt ≤ (w'.ext.auction t).endsAt ∧
        (w.ext.auction t).highestBid ≤ (w'.ext.auction t).highestBid := by
  obtain ⟨hl, hi⟩ := open_auctions h
  refine ⟨hi.last, fun d caller value t amount callees w' hbid => bid_law h hbid, ?_⟩
  intro as w' hrun t hturns
  exact (run_auctions hrun hl).1.rising hi t hturns

/-- On the small chain: account 3 bids 2000. -/
def outbidLot : List (Action Call) := settledLot.take 3

theorem bidding_law_outbidLot : ∃ w' : World Registry,
    mode.exec 1 (.tx (Caller.account 4) 2060 (.bid 7 2060) [])
      (finalState mode.step smallGenesis outbidLot) = .ok w' ∧
    BidLaw (finalState mode.step smallGenesis outbidLot) w' (.account 4) 2060 7 2060
      ((([] : List (Callee (Msg Call))).getD 0 Callee.accept).reply fun m u =>
        mode.exec 0 m u) := by
  have hopen : Open mode Genesis (finalState (mode (P := Registry)).step smallGenesis outbidLot) :=
    .of_reachable ⟨_, _, smallGenesis_genesis, run_finalState (by decide +kernel)⟩
  obtain ⟨w', hw'⟩ := exists_of_isOk (r := mode.exec 1
    (.tx (Caller.account 4) 2060 (.bid 7 2060) [])
      (finalState (mode (P := Registry)).step smallGenesis outbidLot)) (by decide +kernel)
  exact ⟨w', hw', (bidding_law hopen).2.1 0 (Caller.account 4) 2060 7 2060 [] w' hw'⟩

/-- A bid 100 seconds before the clock leaves 40 bits ends its auction in the past. -/
theorem late_bid :
    let w := finalState (mode (P := Registry)).step smallGenesis
      (settledLot.take 2 ++ [.tick (2 ^ 40 - 1100), .call 3 2000 (.bid 7 2000)])
    (w.ext.auction 7).highestBidder = .account 3 ∧ (w.ext.auction 7).endsAt < w.env.now := by
  decide +kernel

end Ascending

end Kargain.Evm
