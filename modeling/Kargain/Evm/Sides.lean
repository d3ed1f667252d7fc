/-
  Kargain.Evm.Sides — what goes on beside the main state of a mode.

  `Side` lists the small changes that the surroundings, the unguarded
  entry points and the payment primitives are made of, each with the
  events it emits.  A relation on worlds that is reflexive, transitive
  and has these changes is kept by every primitive whose callee keeps it
  (`payOut_keeps` and its neighbours), and by every unguarded entry point
  of the base but the forced recall, which each use treats on its own.
-/
import Kargain.Evm.History
import Kargain.Evm.Messages

namespace Kargain.Evm

variable {P σ : Type}

/-! ## §1. The changes. -/

/-- The events of pause, ownership, recall requests and configuration. -/
def Event.administrative : Event → Bool
  | .recallRequested .. | .paused .. | .unpaused .. | .guardianSet .. | .auctionRulesSet ..
  | .paymentTokenApproved .. | .paymentTokenRevoked .. | .paymentTokenAdmitted ..
  | .currencyFeedSet .. | .nativeUsdStalenessToleranceSet .. => true
  | _ => false

/-- The events of ClaimablePayouts. -/
def Event.ofClaim : Event → Bool
  | .claimRecorded .. | .claimWithdrawn .. => true
  | _ => false

/-- A direct lot has no floor; an agented one is opened and priced where its split comes out. -/
def Affords (price : ℕ) (agent : Address) (floor : ℕ) (comp : Compensation) (feeBps : ℕ) : Prop :=
  agent = .zero ∨ ∃ split, computeAgentedSplitAmounts price floor comp feeBps = .ok split

/-- One change beside the main state; `ExtSame` says which parts of the mode's own storage
    its administration leaves alone. -/
inductive Side [Erc721 P] (H : Hooks P σ) (ExtSame : σ → σ → Prop) (w : World P σ) :
    World P σ → Prop where
  | outside {w' : World P σ} (o : Outside) (h : execOutside H w o = .ok w') :
      Side H ExtSame w w'
  | money (a : Account) : Side H ExtSame w (w.setAcct a)
  | claim (s : Address) (e : Event) (h : e.ofClaim = true) : Side H ExtSame w (w.emit s e)
  | moved {src dst : Address} {t : TokenId} {p : P}
      (h : Erc721.transferFrom w.env.karPassport.erc721 .self src dst t = some p) :
      Side H ExtSame w (w.moved .self src dst t p)
  | granted {s agent asset : Address} {t : TokenId} {expiry floor : ℕ}
      {denomination : Denomination} {comp : Compensation} :
      Side H ExtSame w
        ((w.setMandate t ⟨agent, expiry, asset, denomination, floor, comp, true⟩).emit s
          (.mandateGranted t s agent expiry asset denomination floor comp))
  | revoked {s a : Address} {t : TokenId} :
      Side H ExtSame w ((w.setMandate t .empty).emit s (.mandateRevoked t s a))
  | floorLowered {s : Address} {t : TokenId} {newFloor : ℕ}
      (h : newFloor < (w.com.consignments t).floor) :
      Side H ExtSame w
        ((w.setConsignment t { w.com.consignments t with floor := newFloor }).emit s
          (.consignmentFloorLowered t newFloor))
  | commissionLowered {s : Address} {t : TokenId} {newBps : ℕ}
      (h : newBps < (w.com.consignments t).compensation.commissionBps) :
      Side H ExtSame w
        ((w.setConsignment t { w.com.consignments t with
          compensation := { (w.com.consignments t).compensation with commissionBps := newBps } }).emit
          s (.consignmentCommissionLowered t newBps))
  | recallSet (t : TokenId) (n : ℕ) : Side H ExtSame w (w.setRecallRequest t n)
  | administered (paused : Bool) (guardian owner : Address) :
      Side H ExtSame w { w with com := { w.com with
        paused := paused, guardian := guardian, owner := owner } }
  | configured {ext : σ} (h : ExtSame w.ext ext) : Side H ExtSame w { w with ext := ext }
  | notice (s : Address) (e : Event) (h : e.administrative = true) :
      Side H ExtSame w (w.emit s e)

/-- The events of the side changes. -/
def Event.beside : Event → Bool
  | .transfer .. | .mandateGranted .. | .mandateRevoked .. | .consignmentFloorLowered ..
  | .consignmentCommissionLowered .. => true
  | e => e.administrative || e.ofClaim

/-- What a side change leaves alone: the clock, the guard, the bonds, the phase of every lot,
    and the log but for events of its own. -/
structure Beside (ExtSame : σ → σ → Prop) (w w' : World P σ) : Prop where
  now : w'.env.now = w.env.now
  locked : w'.locked = w.locked
  bonds : w'.bonds = w.bonds
  phase : w'.com.phase = w.com.phase
  committed : w'.com.committedNotOffered = w.com.committedNotOffered
  ext : ExtSame w.ext w'.ext
  log : ∃ l : Log, w'.log = l ++ w.log ∧ ∀ e ∈ l, e.2.beside = true

/-- A reading of the log that none of these events changes. -/
theorem Beside.reading {α : Type} {ExtSame : σ → σ → Prop} {w w' : World P σ} {f : Log → α}
    (h : Beside ExtSame w w')
    (hf : ∀ s e older, e.beside = true → f ((s, e) :: older) = f older) : f w'.log = f w.log := by
  obtain ⟨l, hl, hall⟩ := h.log
  rw [hl]
  clear hl
  induction l with
  | nil => rfl
  | cons a l ih =>
    rw [List.cons_append, hf a.1 a.2 _ (hall a List.mem_cons_self)]
    exact ih fun e he => hall e (List.mem_cons_of_mem a he)

theorem Side.beside [Erc721 P] {H : Hooks P σ} {ExtSame : σ → σ → Prop} {w w' : World P σ}
    (hrefl : ∀ x, ExtSame x x) (h : Side H ExtSame w w') : Beside ExtSame w w' := by
  have quiet : ∀ w' : World P σ, w'.env.now = w.env.now → w'.locked = w.locked →
      w'.bonds = w.bonds → w'.com.phase = w.com.phase →
      w'.com.committedNotOffered = w.com.committedNotOffered → w'.ext = w.ext →
      (w'.log = w.log ∨ ∃ s e, w'.log = (s, e) :: w.log ∧ e.beside = true) →
      Beside ExtSame w w' := by
    intro w' hn hl hb hp hc he hlog
    refine ⟨hn, hl, hb, hp, hc, he ▸ hrefl w.ext, ?_⟩
    rcases hlog with hlog | ⟨s, e, hlog, hbeside⟩
    · exact ⟨[], hlog, fun _ h => absurd h List.not_mem_nil⟩
    · exact ⟨[(s, e)], hlog, fun a ha => by rw [List.mem_singleton.mp ha]; exact hbeside⟩
  cases h with
  | outside o h =>
    cases o with
    | passport caller c =>
      cases c <;>
        simp only [execOutside, execPassport, bind_ok, orRevert_ok, require_ok, exists_const,
          pure_ok] at h
      case transferFrom =>
        obtain ⟨p, -, rfl⟩ := h
        exact quiet _ rfl rfl rfl rfl rfl rfl (.inr ⟨_, _, rfl, rfl⟩)
      case approve =>
        obtain ⟨p, -, rfl⟩ := h
        exact quiet _ rfl rfl rfl rfl rfl rfl (.inl rfl)
      case setApprovalForAll =>
        obtain ⟨p, -, rfl⟩ := h
        exact quiet _ rfl rfl rfl rfl rfl rfl (.inl rfl)
      case mintPassport =>
        obtain ⟨-, p, -, rfl⟩ := h
        exact quiet _ rfl rfl rfl rfl rfl rfl (.inr ⟨_, _, rfl, rfl⟩)
      all_goals
        obtain ⟨k, -, rfl⟩ := h
        exact quiet _ rfl rfl rfl rfl rfl rfl (.inr ⟨_, _, rfl, rfl⟩)
    | setToken token n =>
      simp only [execOutside, bind_ok, require_ok, exists_const, pure_ok] at h
      obtain ⟨-, rfl⟩ := h
      exact quiet _ rfl rfl rfl rfl rfl rfl (.inl rfl)
    | _ =>
      obtain rfl := Except.ok.inj h
      exact quiet _ rfl rfl rfl rfl rfl rfl (.inl rfl)
  | claim s e h =>
    exact quiet _ rfl rfl rfl rfl rfl rfl
      (.inr ⟨s, e, rfl, by cases e <;> first | rfl | cases h⟩)
  | notice s e h =>
    exact quiet _ rfl rfl rfl rfl rfl rfl
      (.inr ⟨s, e, rfl, by cases e <;> first | rfl | cases h⟩)
  | moved _ | granted | revoked | floorLowered _ | commissionLowered _ =>
    exact quiet _ rfl rfl rfl rfl rfl rfl (.inr ⟨_, _, rfl, rfl⟩)
  | configured h => exact ⟨rfl, rfl, rfl, rfl, rfl, h, [], rfl, fun _ h => absurd h List.not_mem_nil⟩
  | _ => exact quiet _ rfl rfl rfl rfl rfl rfl (.inl rfl)

/-- A relation on worlds that has the side changes. -/
structure HasSides [Erc721 P] (H : Hooks P σ) (ExtSame : σ → σ → Prop)
    (R : World P σ → World P σ → Prop) : Prop where
  refl : ∀ w, R w w
  trans : ∀ {u v w}, R u v → R v w → R u w
  side : ∀ {w w'}, Side H ExtSame w w' → R w w'

/-! ## §2. Payments and custody. -/

section Primitives

variable [Erc721 P] {H : Hooks P σ} {ExtSame : σ → σ → Prop} {R : World P σ → World P σ → Prop}
  {w w' : World P σ} {t : TokenId} {sender dst asset token : Address} {amount : ℕ}
  {r : Reply P σ}

theorem creditClaim_keeps {account : Address} (hR : HasSides H ExtSame R)
    (h : creditClaim w sender account asset amount = .ok w') : R w w' := by
  simp only [creditClaim, bind_ok, checkedAdd_ok] at h
  obtain ⟨claim, -, h⟩ := h
  split at h <;>
  · simp only [bind_ok, checkedAdd_ok, pure_ok] at h
    obtain ⟨total, -, rfl⟩ := h
    exact hR.trans (hR.side (.money _)) (hR.side (.claim sender _ rfl))

theorem callValue_keeps {ok : Bool} (hR : HasSides H ExtSame R) (hr : Keeps R r)
    (h : callValue w dst amount r = (ok, w')) : R w w' := by
  unfold callValue at h
  split at h
  · cases h
    exact hR.trans (hR.side (.money _)) (hr _)
  · cases h
    exact hR.side (.money _)

theorem tryErc20Transfer_keeps {ok : Bool} (hR : HasSides H ExtSame R) (hr : Keeps R r)
    (h : tryErc20Transfer w token dst amount r = .ok (ok, w')) : R w w' := by
  simp only [tryErc20Transfer] at h
  split at h <;> split at h
  · cases h
    exact hR.trans (hR.side (.money _)) (hr _)
  · cases h
    exact hR.side (.money _)
  · simp only [bind_ok, pure_ok, Prod.mk.injEq] at h
    obtain ⟨ok', -, rfl, rfl⟩ := h
    exact hR.trans (hR.side (.money _)) (hr _)
  · cases h
    exact hR.side (.money _)

theorem payNative_keeps (hR : HasSides H ExtSame R) (hr : Keeps R r)
    (h : payNative w sender dst amount r = .ok w') : R w w' := by
  unfold payNative at h
  split at h
  · cases h
    exact hR.refl w
  · rcases hc : callValue w dst amount r with ⟨ok, v⟩
    rw [hc] at h
    have hcall := callValue_keeps hR hr hc
    cases ok with
    | true =>
      obtain rfl : v = w' := Except.ok.inj h
      exact hcall
    | false => exact hR.trans hcall (creditClaim_keeps hR h)

/-- **The payout primitive.** -/
theorem payOut_keeps (hR : HasSides H ExtSame R) (hr : Keeps R r)
    (h : payOut w sender asset dst amount r = .ok w') : R w w' := by
  unfold payOut at h
  split at h
  · exact payNative_keeps hR hr h
  · unfold payErc20 at h
    split at h
    · cases h
      exact hR.refl w
    · simp only [bind_ok] at h
      obtain ⟨⟨ok, v⟩, hc, h⟩ := h
      have hcall := tryErc20Transfer_keeps hR hr hc
      cases ok with
      | true =>
        obtain rfl : v = w' := Except.ok.inj h
        exact hcall
      | false => exact hR.trans hcall (creditClaim_keeps hR h)

theorem pullErc20_keeps (hR : HasSides H ExtSame R) (hr : Keeps R r)
    (h : pullErc20 w token amount r = .ok w') : R w w' := by
  simp only [pullErc20, bind_ok, require_ok, exists_const, checkedSub_ok, revertIf_ok,
    pure_ok] at h
  obtain ⟨-, b, -, -, -, -, rfl⟩ := h
  exact hR.trans (hR.side (.money _)) (hr _)

theorem withdrawClaimBody_keeps (hR : HasSides H ExtSame R) (hr : Keeps R r)
    (h : withdrawClaimBody w sender asset r = .ok w') : R w w' := by
  simp only [withdrawClaimBody, bind_ok, revertIf_ok, require_ok, pure_ok, exists_const] at h
  obtain ⟨-, acct, -, ⟨ok, v⟩, hcall, -, rfl⟩ := h
  have htaken : R w (w.setAcct acct) := hR.side (.money acct)
  have hcalled : R (w.setAcct acct) v := by
    split at hcall
    · exact callValue_keeps hR hr (pure_ok.mp hcall)
    · exact tryErc20Transfer_keeps hR hr hcall
  exact hR.trans (hR.trans htaken hcalled) (hR.side (.claim sender _ rfl))

theorem takeCustody_keeps {src : Address} (hR : HasSides H ExtSame R)
    (h : takeCustody w t src = .ok w') : R w w' := by
  obtain ⟨p, hp, rfl⟩ := takeCustody_ok h
  exact hR.side (.moved hp)

theorem releaseCustody_keeps (hR : HasSides H ExtSame R) (hr : Keeps R r)
    (h : releaseCustody H w t dst r = .ok w') : R w w' := by
  simp only [releaseCustody, bind_ok, orRevert_ok] at h
  obtain ⟨p, hp, h⟩ := h
  have hmove : R w (w.moved .self .self dst t p) := hR.side (.moved hp)
  split at h
  · simp only [bind_ok, require_ok, pure_ok, exists_const] at h
    obtain ⟨-, rfl⟩ := h
    exact hR.trans hmove (hr _)
  · obtain rfl := pure_ok.mp h
    exact hmove

theorem requireConforming_keeps (hR : HasSides H ExtSame R) (hr : Keeps R r)
    (h : requireConforming w token r = .ok w') : R w w' := by
  simp only [requireConforming, bind_ok, revertIf_ok, require_ok, pure_ok, exists_const] at h
  obtain ⟨-, -, ⟨ok, v⟩, hcall, -, rfl⟩ := h
  exact tryErc20Transfer_keeps hR hr hcall

/-- The three payments of a split, and what is left to do: announce it and close. -/
theorem paySplit_keeps {gross : ℕ} {reason : CloseReason} {r₀ r₁ r₂ : Reply P σ}
    (hR : HasSides H ExtSame R) (h₀ : Keeps R r₀) (h₁ : Keeps R r₁) (h₂ : Keeps R r₂)
    (h : paySplit w sender t gross reason r₀ r₁ r₂ = .ok w') :
    isLiveConsignment w t = true ∧ ∃ split u, computeSplit (w.com.consignments t) gross = .ok split ∧
      R w u ∧ w' = close (u.emit sender (.consignmentSplitPaid t (w.com.consignments t).asset
        (w.com.consignments t).seller split.ownerAmount (w.com.consignments t).agent
        split.agentAmount u.com.platformRecipient split.platform)) sender t reason := by
  simp only [paySplit, bind_ok, revertIf_ok, pure_ok, exists_const] at h
  obtain ⟨hlive, split, hsplit, u₀, hu₀, u₁, hu₁, u₂, hu₂, rfl⟩ := h
  have k₀ : R w u₀ := payOut_keeps hR h₀ hu₀
  have k₁ : R u₀ u₁ := payOut_keeps hR h₁ hu₁
  have k₂ : R u₁ u₂ := by
    split at hu₂
    · exact payOut_keeps hR h₂ hu₂
    · obtain rfl := pure_ok.mp hu₂
      exact hR.refl _
  exact ⟨by simpa using hlive, split, u₂, hsplit, hR.trans (hR.trans k₀ k₁) k₂, rfl⟩

/-! ## §3. The unguarded entry points of the base. -/

/-- `terminateToOwner` clears the lot, hands the passport over, and then announces it. -/
theorem terminateToOwner_keeps {reason : CloseReason} (hR : HasSides H ExtSame R)
    (hr : Keeps R r) (h : terminateToOwner H w sender t reason r = .ok w') :
    ∃ u, R (clearConsignment w t .returned) u ∧
      w' = u.emit sender (.consignmentClosed t reason) := by
  simp only [terminateToOwner, bind_ok, pure_ok] at h
  obtain ⟨u, hu, rfl⟩ := h
  exact ⟨u, releaseCustody_keeps hR hr hu, rfl⟩

theorem execBase_free_keeps {rs : ℕ → Reply P σ} {c : BaseCall} (hR : HasSides H ExtSame R)
    (hrecall : ∀ t, c = .forceRecall t → forceRecall H w sender t (rs 0) = .ok w' → R w w')
    (hc : c.guarded = false) (h : execBase H sender rs w c = .ok w') : R w w' := by
  cases c with
  | grant t agent expiry asset denomination floor comp =>
    simp only [execBase, grant, bind_ok, passportOwner, orRevert_ok, revertIf_ok, pure_ok,
      exists_const] at h
    obtain ⟨owner, -, -, -, -, -, rfl⟩ := h
    exact hR.side .granted
  | revoke t =>
    simp only [execBase, revoke, requireActiveMandate, bind_ok, passportOwner, orRevert_ok,
      revertIf_ok, pure_ok, exists_const] at h
    obtain ⟨owner, -, -, -, m, ⟨-, rfl⟩, rfl⟩ := h
    exact hR.side .revoked
  | lowerFloor t newFloor =>
    simp only [execBase, lowerFloor, bind_ok, passportOwner, orRevert_ok, revertIf_ok, pure_ok,
      exists_const] at h
    obtain ⟨owner, -, -, -, hlow, rfl⟩ := h
    exact hR.side (.floorLowered (not_le.mp hlow))
  | lowerCommission t newBps =>
    simp only [execBase, lowerCommission, bind_ok, revertIf_ok, pure_ok, exists_const] at h
    obtain ⟨-, -, -, hlow, rfl⟩ := h
    exact hR.side (.commissionLowered (not_le.mp hlow))
  | requestRecall t =>
    simp only [execBase, requestRecall, bind_ok, revertIf_ok, pure_ok, exists_const] at h
    obtain ⟨-, -, -, rfl⟩ := h
    exact hR.trans (hR.side (.recallSet t _)) (hR.side (.notice sender _ rfl))
  | forceRecall t => exact hrecall t rfl h
  | pause =>
    simp only [execBase, pause, bind_ok, revertIf_ok, pure_ok, exists_const] at h
    obtain ⟨-, rfl⟩ := h
    exact hR.trans (hR.side (.administered true _ _)) (hR.side (.notice sender _ rfl))
  | unpause =>
    simp only [execBase, unpause, onlyOwner, bind_ok, require_ok, pure_ok, exists_const] at h
    obtain ⟨-, rfl⟩ := h
    exact hR.trans (hR.side (.administered false _ _)) (hR.side (.notice sender _ rfl))
  | setGuardian g =>
    simp only [execBase, setGuardian, onlyOwner, bind_ok, require_ok, revertIf_ok, pure_ok,
      exists_const] at h
    obtain ⟨-, -, rfl⟩ := h
    exact hR.trans (hR.side (.administered _ g _)) (hR.side (.notice sender _ rfl))
  | transferOwnership o =>
    simp only [execBase, transferOwnership, onlyOwner, bind_ok, require_ok, pure_ok,
      exists_const] at h
    obtain ⟨-, rfl⟩ := h
    exact hR.side (.administered _ _ o)
  | ownerWithdraw => cases hc
  | agentWithdraw => cases hc
  | withdrawClaim => cases hc

end Primitives

/-! ## §4. The guard. -/

/-- What a message does to a contract that is locked (`A`) and to one that is not (`B`). -/
structure Respects (A B : World P σ → World P σ → Prop) (w w' : World P σ) : Prop where
  under_lock : w.locked = true → A w w'
  at_rest : w.locked = false → B w w' ∧ w'.locked = false

/-- What the two have to be for that: what goes under the lock also goes at rest, and neither
    sees the guard. -/
structure GuardPair (A B : World P σ → World P σ → Prop) : Prop where
  refl : ∀ w, A w w
  trans : ∀ {u v w}, A u v → A v w → A u w
  locked : ∀ {w w'}, A w w' → w'.locked = w.locked
  rest : ∀ {w w'}, A w w' → B w w'
  rest_trans : ∀ {u v w}, B u v → B v w → B u w
  toggle : ∀ (w : World P σ) (b : Bool), B w { w with locked := b }

/-- Between taking the guard and letting it go. -/
def Guarded (A : World P σ → World P σ → Prop) (w w' : World P σ) : Prop :=
  w.locked = true → A w w'

section Guard

variable {A B : World P σ → World P σ → Prop} {w w' : World P σ}

theorem GuardPair.of (hG : GuardPair A B) (h : A w w') : Respects A B w w' :=
  ⟨fun _ => h, fun hl => ⟨hG.rest h, (hG.locked h).trans hl⟩⟩

theorem GuardPair.respects_refl (hG : GuardPair A B) (w : World P σ) : Respects A B w w :=
  hG.of (hG.refl w)

theorem GuardPair.respects_trans (hG : GuardPair A B) {u v w : World P σ}
    (h : Respects A B u v) (k : Respects A B v w) : Respects A B u w := by
  constructor
  · intro hl
    have ha := h.under_lock hl
    exact hG.trans ha (k.under_lock ((hG.locked ha).trans hl))
  · intro hl
    obtain ⟨hm, hl'⟩ := h.at_rest hl
    obtain ⟨km, kl⟩ := k.at_rest hl'
    exact ⟨hG.rest_trans hm km, kl⟩

theorem GuardPair.guarded_refl (hG : GuardPair A B) (w : World P σ) : Guarded A w w :=
  fun _ => hG.refl w

theorem GuardPair.guarded_trans (hG : GuardPair A B) {u v w : World P σ} (h : Guarded A u v)
    (k : Guarded A v w) : Guarded A u w :=
  fun hl => hG.trans (h hl) (k ((hG.locked (h hl)).trans hl))

/-- A callee, called while the guard is held. -/
theorem Respects.guarded {r : Reply P σ} (h : Keeps (Respects A B) r) : Keeps (Guarded A) r :=
  fun w hl => (h w).under_lock hl

/-- What a `nonReentrant` call does, given what its body does. -/
theorem GuardPair.nonReentrant (hG : GuardPair A B) {body : World P σ → Except Error (World P σ)}
    (hbody : ∀ {u}, body { w with locked := true } = .ok u → B { w with locked := true } u)
    (h : nonReentrant w body = .ok w') : Respects A B w w' := by
  obtain ⟨hl, u, hu, rfl⟩ := nonReentrant_ok h
  refine ⟨fun hl' => ?_, fun _ => ⟨?_, rfl⟩⟩
  · rw [hl] at hl'
    cases hl'
  · exact hG.rest_trans (hG.rest_trans (hG.toggle w true) (hbody hu)) (hG.toggle u false)

section Base

variable [Erc721 P] {H : Hooks P σ} {ExtSame : σ → σ → Prop} {sender : Address}
  {rs : ℕ → Reply P σ}

theorem GuardPair.sides (hG : GuardPair A B) (hside : ∀ {w w'}, Side H ExtSame w w' → A w w') :
    HasSides H ExtSame (Guarded A) ∧ HasSides H ExtSame (Respects A B) :=
  ⟨⟨hG.guarded_refl, hG.guarded_trans, fun h _ => hside h⟩,
    ⟨hG.respects_refl, hG.respects_trans, fun h => hG.of (hside h)⟩⟩

/-- **The entry points of the base**, given what the forced recall does: the lot is returned
    under the guard, the rest are side changes. -/
theorem GuardPair.execBase {c : BaseCall} (hG : GuardPair A B)
    (hside : ∀ {w w'}, Side H ExtSame w w' → A w w')
    (hreturned : ∀ {w u : World P σ} {t : TokenId} {reason : CloseReason},
      isOfferedActionable w t = true → A (clearConsignment w t .returned) u →
      A w (u.emit sender (.consignmentClosed t reason)))
    (hrs : ∀ i, Keeps (Respects A B) (rs i))
    (hrecall : ∀ t, c = .forceRecall t → forceRecall H w sender t (rs 0) = .ok w' →
      Respects A B w w')
    (h : execBase H sender rs w c = .ok w') : Respects A B w w' := by
  obtain ⟨hguarded, hrespects⟩ := hG.sides hside
  have hg : Keeps (Guarded A) (rs 0) := Respects.guarded (hrs 0)
  have hterm : ∀ {u : World P σ} {t : TokenId} {reason : CloseReason},
      isOfferedActionable { w with locked := true } t = true →
      terminateToOwner H { w with locked := true } sender t reason (rs 0) = .ok u →
      B { w with locked := true } u := by
    intro u t reason ho ht
    obtain ⟨v, hv, rfl⟩ := terminateToOwner_keeps hguarded hg ht
    exact hG.rest (hreturned ho (hv rfl))
  cases c with
  | ownerWithdraw t =>
    simp only [Evm.execBase] at h
    refine hG.nonReentrant (fun hu => ?_) h
    simp only [ownerWithdrawBody, bind_ok, revertIf_ok, exists_const] at hu
    obtain ⟨ho, -, -, ht⟩ := hu
    exact hterm (by simpa using ho) ht
  | agentWithdraw t =>
    simp only [Evm.execBase] at h
    refine hG.nonReentrant (fun hu => ?_) h
    simp only [agentWithdrawBody, bind_ok, revertIf_ok, exists_const] at hu
    obtain ⟨ho, -, ht⟩ := hu
    exact hterm (by simpa using ho) ht
  | withdrawClaim asset =>
    simp only [Evm.execBase] at h
    refine hG.nonReentrant (fun hu => ?_) h
    exact hG.rest (withdrawClaimBody_keeps hguarded hg hu rfl)
  | _ => exact execBase_free_keeps hrespects hrecall rfl h

end Base

end Guard

end Kargain.Evm
