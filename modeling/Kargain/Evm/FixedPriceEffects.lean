/-
  Kargain.Evm.FixedPriceEffects — the fixed-price mode as a chain of effects.

  The mode adds three changes to those of the base: a new price, the
  floor of a fiat lot scaled to the amount paid, and the split of a sale.
  A sold passport is delivered before the money is split, and the
  receiver has control in between; a lot may leave the live set while its
  money is paid out, so the split carries no liveness of its own.

  Main result: `exec_chain` — every message the mode accepts, with
  everything its callees send in, is a chain of effects that leaves in
  flight exactly what was in flight before it.
-/
import Kargain.Evm.FixedPriceConsignment
import Kargain.Evm.UnderLock

namespace Kargain.Evm.FixedPrice

open Relation

variable {P : Type}

/-! ## §1. The effects of the mode. -/

/-- Storage of the mode itself says nothing about lots. -/
def ExtSame (_ _ : FixedPriceStorage) : Prop := True

theorem extView : ExtView ExtSame := ⟨fun _ => trivial, fun _ _ => trivial⟩

/-- Nothing stands in the way of clearing a consignment. -/
def Clear (_ : World P) (_ : TokenId) : Prop := True

inductive Effect [Erc721 P] : Cfg P FixedPriceStorage → Cfg P FixedPriceStorage → Prop where
  | base {c c' : Cfg P FixedPriceStorage} (h : BaseEffect hooks ExtSame Clear c c') : Effect c c'
  | priceSet {w : World P} {x : Flight} {t : TokenId} (price : ℕ)
      (h : isOfferedActionable w t = true) :
      Effect (w, x) (w.setConsignment t { w.com.consignments t with price := price }, x)
  | floorScaled {w : World P} {x : Flight} {t : TokenId} (floor : ℕ)
      (hfiat : (w.com.consignments t).denomination.kind = .fiat)
      (hagent : (w.com.consignments t).agent ≠ .zero) :
      Effect (w, x) (w.setConsignment t { w.com.consignments t with floor := floor }, x)
  | sold {w : World P} {x : Flight} {s : Address} {t : TokenId} {c : Consignment} {gross : ℕ}
      {split : SplitResult} (hsplit : computeSplit c gross = .ok split)
      (hsame : w.com.phase t = .offered → SameTerms c (w.com.consignments t)) :
      Effect (w, x) (w.emit s (.consignmentSplitPaid t c.asset c.seller split.ownerAmount
        c.agent split.agentAmount w.com.platformRecipient split.platform), x)

section Chain

variable [Erc721 P]

theorem hasBase : HasBase (P := P) hooks ExtSame Clear Effect (fun _ => True) :=
  ⟨.base, fun _ _ => trivial⟩

/-- A callee the mode can face. -/
abbrev Callback (r : Reply P FixedPriceStorage) : Prop :=
  Evm.Callback hooks ExtSame Effect (fun _ => True) r

variable {w w' : World P} {x : Flight} {t : TokenId} {sender : Address} {value : ℕ}
  {rs : ℕ → Reply P FixedPriceStorage}

/-- An effect that stands for itself. -/
theorem effect_emit (s : Address) (e : Event) (he : e.plain = true) :
    Effect (w, x) (w.emit s e, x) :=
  .base (.free (.emitted s e he))

/-! ## §2. The guarded entry points. -/

theorem openDirectBody_chain {denomination : Denomination} {asset : Address} {price : ℕ}
    (hs : sender ≠ .self ∧ sender ≠ .zero)
    (h : openDirectBody w sender t denomination asset price = .ok w') :
    ReflTransGen Effect (w, x) (w', x) := by
  simp only [openDirectBody, bind_ok, passportOwner_ok, revertIf_ok, pure_ok,
    exists_const] at h
  obtain ⟨-, -, owner, howner, hsend, -, -, _, hcan, u, hu, rfl⟩ := h
  obtain rfl : owner = sender := not_not.mp hsend
  obtain ⟨p, hp, rfl⟩ := takeCustody_ok hu
  exact .single (.base (.opened howner (isLive_of_requireCanOpen hcan) hs hp (.inl ⟨rfl, rfl⟩)))

theorem openFromMandateBody_chain {denomination : Denomination} {price : ℕ}
    (hs : sender ≠ .self ∧ sender ≠ .zero)
    (h : openFromMandateBody w sender t denomination price = .ok w') :
    ReflTransGen Effect (w, x) (w', x) := by
  simp only [openFromMandateBody, bind_ok, passportOwner_ok, revertIf_ok, pure_ok,
    exists_const] at h
  obtain ⟨-, -, m, hm, hagent, owner, howner, -, -, _, hcan, -, -, u, hu, rfl⟩ := h
  obtain ⟨rfl, hact, hexp⟩ := requireMandateAllowsOpen_ok hm
  obtain ⟨p, hp, rfl⟩ := takeCustody_ok hu
  exact .single (.base (.opened howner (isLive_of_requireCanOpen hcan) hs hp
    (.inr ⟨hact, not_not.mp hagent, rfl, rfl, rfl, rfl, rfl, hexp⟩)))

theorem setPriceBody_chain {newPrice : ℕ} (h : setPriceBody w sender t newPrice = .ok w') :
    ReflTransGen Effect (w, x) (w', x) := by
  simp only [setPriceBody, bind_ok, revertIf_ok, exists_const, Bool.not_eq_false] at h
  obtain ⟨ho, h⟩ := h
  have hset := (ReflTransGen.single (Effect.priceSet (x := x) newPrice ho)).tail
    (effect_emit sender (.consignmentPriceSet t sender newPrice) rfl)
  -- who may set the price depends on the agent, what is set does not
  split at h
  · simp only [bind_ok, revertIf_ok, exists_const, pure_ok] at h
    obtain ⟨-, rfl⟩ := h
    exact hset
  · simp only [bind_ok, revertIf_ok, exists_const, pure_ok] at h
    obtain ⟨-, _, -, rfl⟩ := h
    exact hset

theorem setSettlementNoteBody_chain {note : List UInt8}
    (h : setSettlementNoteBody w sender t note = .ok w') :
    ReflTransGen Effect (w, x) (w', x) := by
  simp only [setSettlementNoteBody, bind_ok] at h
  obtain ⟨-, -, h⟩ := h
  have hnote : Effect (w, x) (setNote w t note, x) := .base (.free (.configured trivial))
  have hset := (ReflTransGen.single hnote).tail
    (effect_emit sender (.settlementNoteSet t sender) rfl)
  split at h <;>
  · simp only [bind_ok, revertIf_ok, exists_const, pure_ok] at h
    obtain ⟨-, -, rfl⟩ := h
    exact hset

theorem pullPayment_chain {asset : Address} {amount : ℕ} {r : Reply P FixedPriceStorage}
    (hr : Callback r) (hl : w.locked = true)
    (h : pullPayment w asset amount value r = .ok w') :
    ReflTransGen Effect (w, x.add .zero value) (w', x.add asset amount) ∧
      UnderLock ExtSame w w' := by
  unfold pullPayment at h
  split at h
  · rename_i hz
    subst hz
    simp only [bind_ok, revertIf_ok, exists_const, pure_ok] at h
    obtain ⟨hv, rfl⟩ := h
    obtain rfl : value = amount := not_not.mp hv
    exact ⟨.refl, .refl extView w⟩
  · rename_i hz
    simp only [bind_ok, revertIf_ok, exists_const] at h
    obtain ⟨hv, h⟩ := h
    obtain rfl : value = 0 := not_not.mp hv
    have h0 : x.add .zero 0 = x := by simp [Flight.add]
    rw [h0]
    exact ⟨pullErc20_chain hasBase hr.obeys trivial hz h,
      pullErc20_underLock extView hl hr.calm h⟩

/-- Scaling the floor of a fiat lot changes nothing else of it. -/
theorem scaleFiatFloor_chain {amount : ℕ} (h : scaleFiatFloor w t amount = .ok w') :
    ReflTransGen Effect (w, x) (w', x) ∧ w'.com.phase = w.com.phase ∧
      (w'.com.consignments t).asset = (w.com.consignments t).asset ∧ w'.locked = w.locked := by
  simp only [scaleFiatFloor] at h
  split at h
  · rename_i hc
    simp only [bind_ok, revertIf_ok, exists_const, pure_ok] at h
    obtain ⟨_, -, _, -, floor, -, -, rfl⟩ := h
    exact ⟨.single (.floorScaled floor hc.1 hc.2.1), rfl, by simp [World.setConsignment], rfl⟩
  · cases h
    exact ⟨.refl, rfl, rfl, rfl⟩

/-- The split of a sale: the payments, the announcement, the close. -/
theorem saleSplit_chain {gross : ℕ} {reason : CloseReason}
    {r₀ r₁ r₂ : Reply P FixedPriceStorage} (hr : ∀ r ∈ [r₀, r₁, r₂], Callback r)
    (hl : w.locked = true) (hx : gross ≤ x (w.com.consignments t).asset)
    (h : paySplit w sender t gross reason r₀ r₁ r₂ = .ok w') :
    ReflTransGen Effect (w, x) (w', x.sub (w.com.consignments t).asset gross) := by
  obtain ⟨split, u, hsplit, hlegs, hframe, rfl⟩ :=
    paySplit_legs hasBase extView (fun r hm => (hr r hm).obeys) trivial hx h
  have frame := hframe (fun r hm => (hr r hm).calm) hl
  set y := x.sub (w.com.consignments t).asset gross
  have hsold : Effect (u, y) (u.emit sender (.consignmentSplitPaid t
      (w.com.consignments t).asset (w.com.consignments t).seller split.ownerAmount
      (w.com.consignments t).agent split.agentAmount u.com.platformRecipient split.platform), y) :=
    .sold hsplit fun hp => (frame.offered hp).2.2
  set v := u.emit sender (.consignmentSplitPaid t (w.com.consignments t).asset
    (w.com.consignments t).seller split.ownerAmount (w.com.consignments t).agent
    split.agentAmount u.com.platformRecipient split.platform)
  have hcleared : Effect (v, y) (clearConsignment v t .closed, y) :=
    .base (.cleared .closed (by simp) trivial)
  have hclosed : Effect (clearConsignment v t .closed, y) (close v sender t reason, y) :=
    .base (.free (.closed sender reason (.inr rfl)))
  exact ((hlegs.tail hsold).tail hcleared).tail hclosed

/-- **A sale**: the value of the call, or the tokens pulled, are what the split pays out. -/
theorem buyBody_chain (hr : ∀ i, Callback (rs i)) (hl : w.locked = true)
    (h : buyBody w sender value t rs = .ok w') :
    ReflTransGen Effect (w, x.add .zero value) (w', x) := by
  simp only [buyBody, bind_ok] at h
  obtain ⟨-, -, -, -, amount, -, w₁, hpull, w₂, hscale, w₃, hrel, hpay⟩ := h
  obtain ⟨c₁, f₁⟩ := pullPayment_chain (x := x) (hr 0) hl hpull
  obtain ⟨c₂, hp₂, ha₂, hl₂⟩ :=
    scaleFiatFloor_chain (x := x.add (w.com.consignments t).asset amount) hscale
  have c₃ := releaseCustody_chain (x := x.add (w.com.consignments t).asset amount)
    hasBase.hasFree (hr 1).obeys trivial (.inr rfl) hrel
  have hlock₂ : w₂.locked = true := hl₂.trans (f₁.locked.trans hl)
  have f₃ := releaseCustody_underLock extView hlock₂ (hr 1).calm hrel
  -- the lot is live when its money is split, so its asset is still the one paid
  have hp₃ : w₃.com.phase t = .offered := paySplit_live (w := w₃.emit sender _) hpay
  obtain ⟨hoff₂, -, hsame₃⟩ := f₃.offered hp₃
  obtain ⟨-, -, hsame₁⟩ := f₁.offered (hp₂ ▸ hoff₂)
  have hasset : (w₃.com.consignments t).asset = (w.com.consignments t).asset :=
    (hsame₃.asset.trans ha₂).trans hsame₁.asset
  set v := w₃.emit sender (.bought t sender (w.com.consignments t).asset amount)
  have hv : (v.com.consignments t).asset = (w.com.consignments t).asset := hasset
  have hobey : ∀ r ∈ [rs 2, rs 3, rs 4], Callback r := by simpa using ⟨hr 2, hr 3, hr 4⟩
  have hlock₃ : v.locked = true := f₃.locked.trans hlock₂
  have hin : amount ≤ x.add (w.com.consignments t).asset amount (v.com.consignments t).asset := by
    rw [hv]
    simp
  have c₄ := saleSplit_chain hobey hlock₃ hin hpay
  rw [hv, Flight.add_sub] at c₄
  exact (((c₁.trans c₂).trans c₃).tail (effect_emit _ _ rfl)).trans c₄

theorem confirmExternalPaymentBody_chain {buyer : Address} (hr : ∀ i, Callback (rs i))
    (h : confirmExternalPaymentBody w sender t buyer rs = .ok w') :
    ReflTransGen Effect (w, x) (w', x) := by
  simp only [confirmExternalPaymentBody, bind_ok, revertIf_ok, exists_const, pure_ok] at h
  obtain ⟨-, -, -, -, -, u, hrel, rfl⟩ := h
  have hnote : Effect (w, x) (setNote w t [], x) := .base (.free (.configured trivial))
  have hdeliver := releaseCustody_chain (x := x) hasBase.hasFree (hr 0).obeys trivial
    (.inr rfl) hrel
  set v := u.emit sender (.externalPaymentConfirmed t buyer sender)
  have hcleared : Effect (v, x) (clearConsignment v t .closed, x) :=
    .base (.cleared .closed (by simp) trivial)
  have hclosed : Effect (clearConsignment v t .closed, x)
      (close v sender t .externalConfirmed, x) :=
    .base (.free (.closed sender .externalConfirmed (.inr rfl)))
  exact ((((ReflTransGen.single hnote).trans hdeliver).tail (effect_emit _ _ rfl)).tail
    hcleared).tail hclosed

/-! ## §3. Every message is a chain of effects. -/

section Free

variable {E : Cfg P FixedPriceStorage → Cfg P FixedPriceStorage → Prop} {Good : World P → Prop}
  {token feed : Address} {tolerance : ℕ}

/-- Administration writes the mode's own storage and announces it. -/
theorem configured_chain {ext : FixedPriceStorage} {e : Event}
    (hE : HasFree hooks ExtSame E Good) (he : e.plain = true) :
    ReflTransGen E (w, x) (({ w with ext := ext } : World P).emit sender e, x) :=
  (ReflTransGen.single (hE.free x (.configured trivial))).tail (hE.free x (.emitted _ _ he))

theorem approvePaymentToken_chain (hE : HasFree hooks ExtSame E Good)
    (hr : Obeys E Good (rs 0)) (hg : Good w)
    (h : approvePaymentToken w sender token feed tolerance rs = .ok w') :
    ReflTransGen E (w, x) (w', x) := by
  simp only [approvePaymentToken, onlyOwner, bind_ok, require_ok, revertIf_ok,
    exists_const] at h
  obtain ⟨-, -, u, hu, d, -, -, h⟩ := h
  have hprobe := requireConforming_chain (x := x) hE hr hg hu
  split at h
  · simp only [bind_ok, revertIf_ok, exists_const, pure_ok] at h
    obtain ⟨-, rfl⟩ := h
    exact hprobe.trans (configured_chain hE rfl)
  · simp only [bind_ok, pure_ok] at h
    obtain ⟨-, -, rfl⟩ := h
    exact hprobe.trans (configured_chain hE rfl)

theorem revokePaymentToken_chain (hE : HasFree hooks ExtSame E Good)
    (h : revokePaymentToken w sender token = .ok w') : ReflTransGen E (w, x) (w', x) := by
  simp only [revokePaymentToken, bind_ok, revertIf_ok, exists_const, pure_ok] at h
  obtain ⟨-, rfl⟩ := h
  exact configured_chain hE rfl

theorem setCurrencyFeed_chain {code : ℕ} (hE : HasFree hooks ExtSame E Good)
    (h : setCurrencyFeed w sender code feed tolerance = .ok w') :
    ReflTransGen E (w, x) (w', x) := by
  simp only [setCurrencyFeed, onlyOwner, bind_ok, require_ok, revertIf_ok, exists_const] at h
  obtain ⟨-, -, h⟩ := h
  split at h
  · simp only [bind_ok, revertIf_ok, exists_const, pure_ok] at h
    obtain ⟨-, rfl⟩ := h
    exact configured_chain hE rfl
  · simp only [bind_ok, pure_ok] at h
    obtain ⟨-, -, rfl⟩ := h
    exact configured_chain hE rfl

theorem setNativeUsdStalenessTolerance_chain (hE : HasFree hooks ExtSame E Good)
    (h : setNativeUsdStalenessTolerance w sender tolerance = .ok w') :
    ReflTransGen E (w, x) (w', x) := by
  simp only [setNativeUsdStalenessTolerance, onlyOwner, bind_ok, require_ok, revertIf_ok,
    exists_const, pure_ok] at h
  obtain ⟨-, -, -, _, -, -, -, -, rfl⟩ := h
  exact configured_chain hE rfl

/-- The calls that take the guard. -/
def Call.guarded : Call → Bool
  | .base c => c.guarded
  | .approvePaymentToken .. | .revokePaymentToken _ | .setCurrencyFeed ..
  | .setNativeUsdStalenessTolerance _ => false
  | _ => true

theorem dispatch_free_chain {c : Call} (hE : HasFree hooks ExtSame E Good)
    (hr : ∀ i, Obeys E Good (rs i)) (hg : Good w) (hself : sender ≠ .self)
    (hc : c.guarded = false) (h : dispatch sender value c rs w = .ok w') :
    ReflTransGen E (w, x) (w', x) := by
  cases c <;> simp only [Call.guarded, Bool.true_eq_false] at hc <;>
    simp only [dispatch, dispatchPlain, bind_ok] at h <;> obtain ⟨-, -, h⟩ := h
  case base c => exact execBase_free_chain hE hr hg hself hc h
  case approvePaymentToken => exact approvePaymentToken_chain hE (hr 0) hg h
  case revokePaymentToken => exact revokePaymentToken_chain hE h
  case setCurrencyFeed => exact setCurrencyFeed_chain hE h
  case setNativeUsdStalenessTolerance => exact setNativeUsdStalenessTolerance_chain hE h

end Free

/-- **The guard holds**: a guarded call into a locked mode reverts. -/
theorem dispatch_locked {c : Call} (hl : w.locked = true) (hc : c.guarded = true) :
    dispatch sender value c rs w ≠ .ok w' := by
  intro h
  have hguard : ∀ {v : World P} {body : World P → Except Error (World P)},
      v.locked = true → nonReentrant v body ≠ .ok w' := by
    intro v body hv hn
    rw [nonReentrant_locked hv] at hn
    cases hn
  cases c
  case base c =>
    simp only [dispatch, dispatchPlain, bind_ok] at h
    obtain ⟨-, -, h⟩ := h
    cases c <;> simp only [Call.guarded, BaseCall.guarded, Bool.false_eq_true] at hc <;>
    · simp only [execBase] at h
      exact hguard hl h
  case buy t =>
    simp only [dispatch] at h
    exact hguard (show (w.receiveValue value).locked = true from hl) h
  all_goals
    simp only [Call.guarded, Bool.false_eq_true] at hc
  all_goals
    simp only [dispatch, dispatchPlain, bind_ok] at h
    obtain ⟨-, -, h⟩ := h
    exact hguard hl h

theorem dispatch_guarded_chain {c : Call} (hr : ∀ i, Callback (rs i))
    (hs : sender ≠ .self ∧ sender ≠ .zero) (hc : c.guarded = true)
    (h : dispatch sender value c rs w = .ok w') : ReflTransGen Effect (w, x) (w', x) := by
  have hreceived : Effect (w, x) (w.receiveValue value, x.add .zero value) :=
    .base (.received value)
  cases c
  case buy t =>
    simp only [dispatch] at h
    exact (ReflTransGen.single hreceived).trans
      (nonReentrant_chain hasBase h fun u hu => buyBody_chain hr rfl hu)
  case base c =>
    simp only [dispatch, dispatchPlain, bind_ok] at h
    obtain ⟨-, -, h⟩ := h
    cases c <;> simp only [Call.guarded, BaseCall.guarded, Bool.false_eq_true] at hc <;>
      simp only [execBase] at h
    case ownerWithdraw t =>
      exact nonReentrant_chain hasBase h fun u hu => ownerWithdrawBody_chain hasBase (hr 0).obeys trivial hu
    case agentWithdraw t =>
      exact nonReentrant_chain hasBase h fun u hu => agentWithdrawBody_chain hasBase (hr 0).obeys trivial hu
    case withdrawClaim asset =>
      exact nonReentrant_chain hasBase h fun u hu => withdrawClaimBody_chain hasBase (hr 0).obeys trivial hu
  all_goals
    simp only [Call.guarded, Bool.false_eq_true] at hc
  all_goals
    simp only [dispatch, dispatchPlain, bind_ok] at h
    obtain ⟨-, -, h⟩ := h
  case openDirect => exact nonReentrant_chain hasBase h fun u hu => openDirectBody_chain hs hu
  case openFromMandate => exact nonReentrant_chain hasBase h fun u hu => openFromMandateBody_chain hs hu
  case setPrice => exact nonReentrant_chain hasBase h fun u hu => setPriceBody_chain hu
  case setSettlementNote =>
    exact nonReentrant_chain hasBase h fun u hu => setSettlementNoteBody_chain hu
  case confirmExternalPayment =>
    exact nonReentrant_chain hasBase h fun u hu => confirmExternalPaymentBody_chain hr hu

/-- What every message of the mode does. -/
abbrev Executed (w w' : World P) : Prop :=
  Evm.Executed hooks ExtSame Effect (fun _ => True) w w'

/-- **Every accepted message of the mode, nested ones included, is a chain of effects.** -/
theorem exec_chain {d : ℕ} {m : Msg Call} (h : mode.exec d m w = .ok w') : Executed w w' :=
  Mode.exec_executed Call.guarded hasBase extView
    (fun s _ _ _ hE hr hg hc hd => dispatch_free_chain hE hr hg s.ne_self hc hd)
    (fun _ _ _ _ hl hc => dispatch_locked hl hc)
    (fun s _ _ _ hr _ hc hd => dispatch_guarded_chain hr ⟨s.ne_self, s.ne_zero⟩ hc hd)
    d m w w' h

end Chain

end Kargain.Evm.FixedPrice
