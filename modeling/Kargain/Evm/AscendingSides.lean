/-
  Kargain.Evm.AscendingSides — rules for relations on the auction.

  As FixedPriceSides, for the auction mode: to show that every message
  keeps a pair of relations, one for a locked contract and one for a
  contract at rest, it is enough to look at the changes the guarded entry
  points are made of (`Rules`).  The auction hands passports over without
  a callback, so the forced recall is one of these changes too.

  Main result: `exec_respects`.
-/
import Kargain.Evm.AscendingEffects
import Kargain.Evm.Sides

namespace Kargain.Evm.Ascending

variable {P : Type} [Erc721 P]

/-- The events of the hold and of the challenge of a settlement. -/
def ofHold : Event → Bool
  | .challengeOpened .. | .challengeWithdrawn .. | .challengeJudged .. | .challengeConcluded ..
  | .receiptConfirmed .. | .fundsReleased .. | .reversalStarted .. | .reversalCompleted ..
  | .reversalAbandoned .. | .bidRefunded .. => true
  | _ => false

/-- The first bid commits the lot and starts the clock. -/
def commitFirst (w : World P) (t : TokenId) : Except Error (World P) :=
  if (w.ext.auction t).highestBidder = .zero then do
    let w ← enterCommittedNotOffered w t
    pure (setAuction w t { w.ext.auction t with
      endsAt := u40 (w.env.now + (w.ext.auction t).duration) })
  else pure w

/-- The changes of the mode, `A` being what happens under the guard. -/
structure Rules (A B : World P → World P → Prop) : Prop extends GuardPair A B where
  side : ∀ {w w' : World P}, Side hooks ExtSame w w' → A w w'
  bonds : ∀ {w : World P} {t : TokenId} {c : Challenge} {total : ℕ}, A w (w.setChallenge t c total)
  held : ∀ {w : World P} {s : Address} {e : Event}, ofHold e = true → A w (w.emit s e)
  opened : ∀ {w : World P} {s owner agent asset : Address} {t : TokenId}
    {denomination : Denomination} {floor reserve duration protectionWindow : ℕ}
    {comp : Compensation}, isLiveConsignment w t = false →
    hasUnresolvedSettlement w t = false → minDuration ≤ duration →
    Affords reserve agent floor comp w.com.platformFeeBps →
    B w (writeAuctionTerms (writeOpen w s t owner agent asset denomination floor comp reserve) s t
      duration protectionWindow reserve)
  placed : ∀ {w u v : World P} {s : Address} {t : TokenId} {amount : ℕ},
    bidHighEnough (w.com.consignments t) (w.ext.auction t) amount = true → A w u →
    commitFirst u t = .ok v →
    B u ((setAuction v t (applyExtension v.env.now
        { v.ext.auction t with highestBidder := s, highestBid := amount })).emit s
      (.bidPlaced t s amount (applyExtension v.env.now
        { v.ext.auction t with highestBidder := s, highestBid := amount }).endsAt))
  settled : ∀ {w : World P} {s : Address} {t : TokenId} {p : P} {h : Hold},
    isBinding w t = true → h.buyer = (w.ext.auction t).highestBidder → h.gross = (w.ext.auction t).highestBid →
    B w ((setHold ((setAuction w t .empty).moved .self .self h.buyer t p) t h).emit s
      (.settled t h.buyer h.gross h.protectionEndsAt))
  holdKept : ∀ {w : World P} {t : TokenId} {h : Hold}, h.buyer = (w.ext.holds t).buyer →
    h.gross = (w.ext.holds t).gross → B w (setHold w t h)
  holdCleared : ∀ {w : World P} {t : TokenId}, B w (setHold w t .empty)
  split : ∀ {w : World P} {s asset a b c : Address} {t : TokenId} {x y z : ℕ}
    {reason : CloseReason},
    A w (close (w.emit s (.consignmentSplitPaid t asset a x b y c z)) s t reason)
  returned : ∀ {w u : World P} {s : Address} {t : TokenId} {reason : CloseReason},
    A (clearConsignment w t .returned) u → A w (u.emit s (.consignmentClosed t reason))

section Bodies

variable {A B : World P → World P → Prop} {w w' : World P} {t : TokenId} {sender : Address}
  {value : ℕ} {rs : ℕ → Reply P AscendingStorage}

theorem Rules.guarded (hR : Rules A B) : HasSides hooks ExtSame (Guarded A) :=
  (hR.sides hR.side).1

theorem Rules.respects (hR : Rules A B) : HasSides hooks ExtSame (Respects A B) :=
  (hR.sides hR.side).2

/-- The auction itself answers the registry: no lot is opened over a hold. -/
theorem unheld_of_requireCanOpen {owner : Address} {u : Unit}
    (h : requireCanOpen hooks w t owner = .ok u) : hasUnresolvedSettlement w t = false := by
  simp only [requireCanOpen, mayIntent, KarPassport.may, bind_ok, revertIf_ok, exists_const] at h
  obtain ⟨hself, ok, ⟨-, hmay⟩, hok, -⟩ := h
  obtain rfl : ok = true := by simpa using hok
  split at hmay
  · cases hmay
  · have hsource : Address.self ∈ w.env.karPassport.encumbranceSources := by
      simpa [KarPassport.isSelfEncumbranceSource] using hself
    simpa [hooks] using KarPassport.sourcesMay_mem hmay hsource

omit [Erc721 P] in
theorem minDuration_le {asset : Address} {reserve duration protectionWindow : ℕ} {enabled : Bool}
    {u : Unit}
    (h : requireAuctionOpenParams reserve duration protectionWindow asset enabled = .ok u) :
    minDuration ≤ duration := by
  simp only [requireAuctionOpenParams, bind_ok, revertIf_ok, exists_const] at h
  omega

theorem openAscendingDirectBody_respects {asset : Address}
    {reserve duration protectionWindow : ℕ} (hR : Rules A B) (hl : w.locked = true)
    (h : openAscendingDirectBody w sender t asset reserve duration protectionWindow = .ok w') :
    B w w' := by
  simp only [openAscendingDirectBody, bind_ok, passportOwner_ok, revertIf_ok, pure_ok,
    exists_const] at h
  obtain ⟨-, -, owner, -, -, -, -, _, hcan, -, -, _, hparams, u, hu, rfl⟩ := h
  have htaken : A w u := takeCustody_keeps hR.guarded hu hl
  obtain ⟨p, -, rfl⟩ := takeCustody_ok hu
  have hfree := isLive_of_requireCanOpen hcan
  have hunheld := unheld_of_requireCanOpen hcan
  exact hR.rest_trans (hR.rest htaken)
    (hR.opened hfree hunheld (minDuration_le hparams) (.inl rfl))

theorem openAscendingFromMandateBody_respects {reserve duration protectionWindow : ℕ}
    (hR : Rules A B) (hl : w.locked = true)
    (h : openAscendingFromMandateBody w sender t reserve duration protectionWindow = .ok w') :
    B w w' := by
  simp only [openAscendingFromMandateBody, bind_ok, passportOwner_ok, revertIf_ok, pure_ok,
    exists_const] at h
  obtain ⟨-, -, m, -, -, owner, -, -, -, _, hcan, -, -, _, hparams, split, hsplit, u, hu, rfl⟩ := h
  have htaken : A w u := takeCustody_keeps hR.guarded hu hl
  obtain ⟨p, -, rfl⟩ := takeCustody_ok hu
  have hfree := isLive_of_requireCanOpen hcan
  have hunheld := unheld_of_requireCanOpen hcan
  exact hR.rest_trans (hR.rest htaken)
    (hR.opened hfree hunheld (minDuration_le hparams) (.inr ⟨split, hsplit⟩))

/-- **A bid**: payment in, the bid, and the refund of the one before. -/
theorem bidBody_respects {amount : ℕ} (hR : Rules A B) (hl : w.locked = true)
    (hr : ∀ i, Keeps (Guarded A) (rs i)) (h : bidBody w sender value t amount rs = .ok w') :
    B w w' := by
  simp only [bidBody, bind_ok, revertIf_ok, exists_const] at h
  obtain ⟨-, -, -, -, -, -, -, hhigh, u, hu, v, hv, h⟩ := h
  have hpulled : A w u := by
    unfold pullBid at hu
    split at hu
    · simp only [bind_ok, revertIf_ok, exists_const, pure_ok] at hu
      obtain ⟨-, rfl⟩ := hu
      exact hR.refl _
    · simp only [bind_ok, revertIf_ok, exists_const] at hu
      exact pullErc20_keeps hR.guarded (hr 0) hu.2 hl
  have hplaced := hR.placed (s := sender) (by simpa using hhigh) hpulled hv
  have hlocked : v.locked = true := by
    have hlu : u.locked = true := (hR.locked hpulled).trans hl
    split at hv
    · simp only [bind_ok, pure_ok] at hv
      obtain ⟨y, hy, rfl⟩ := hv
      obtain ⟨-, rfl⟩ := enterCommittedNotOffered_ok hy
      exact hlu
    · obtain rfl := pure_ok.mp hv
      exact hlu
  have hbid := hR.rest_trans (hR.rest hpulled) hplaced
  split at h
  · simp only [bind_ok, pure_ok] at h
    obtain ⟨x, hx, rfl⟩ := h
    have hrefunded := payOut_keeps hR.guarded (hr 1) hx hlocked
    exact hR.rest_trans hbid (hR.rest (hR.trans hrefunded (hR.held rfl)))
  · obtain rfl := pure_ok.mp h
    exact hbid

theorem settleBody_respects (hR : Rules A B) (h : settleBody w sender t = .ok w') : B w w' := by
  simp only [settleBody, bind_ok, revertIf_ok, orRevert_ok, exists_const, pure_ok] at h
  obtain ⟨hbinding, -, -, -, p, -, rfl⟩ := h
  exact hR.settled (by simpa using hbinding) rfl rfl

/-- Clear the hold, pay the split, close. -/
theorem payHold_respects {gross : ℕ} {reason : CloseReason} (hR : Rules A B)
    (hl : w.locked = true) (hr : ∀ i, Keeps (Guarded A) (rs i))
    (h : paySplit (setHold w t .empty) sender t gross reason (rs 0) (rs 1) (rs 2) = .ok w') :
    B w w' := by
  obtain ⟨-, split, u, -, hpaid, rfl⟩ := paySplit_keeps hR.guarded (hr 0) (hr 1) (hr 2) h
  exact hR.rest_trans hR.holdCleared (hR.rest (hR.trans (hpaid hl) hR.split))

theorem challengeTerminal_respects (hR : Rules A B) (hl : w.locked = true)
    (hr : ∀ i, Keeps (Guarded A) (rs i)) (h : challengeTerminal w sender t rs = .ok w') :
    B w w' := by
  simp only [challengeTerminal, bind_ok] at h
  obtain ⟨hold, -, hpay⟩ := h
  exact payHold_respects hR hl hr hpay

theorem completeReversalBody_respects (hR : Rules A B) (hl : w.locked = true)
    (hr : ∀ i, Keeps (Guarded A) (rs i)) (h : completeReversalBody w sender t rs = .ok w') :
    B w w' := by
  simp only [completeReversalBody, bind_ok, revertIf_ok, exists_const, pure_ok] at h
  obtain ⟨hold, -, -, -, _, -, -, u, hu, v, hv, x, hx, rfl⟩ := h
  have hpaid : A (setHold w t .empty) v := hR.guarded_trans (takeCustody_keeps hR.guarded hu)
    (payOut_keeps hR.guarded (hr 0) hv) hl
  obtain ⟨y, hy, rfl⟩ := terminateToOwner_keeps hR.guarded (hr 1) hx
  have hreturned : A v (y.emit sender (.consignmentClosed t .reversalCompleted)) :=
    hR.returned (hy ((hR.locked hpaid).trans hl))
  exact hR.rest_trans hR.holdCleared
    (hR.rest (hR.trans (hR.trans hpaid hreturned) (hR.held rfl)))

/-! ### The challenge of a settlement -/

theorem openBody_respects (hR : Rules A B) (h : openBody w sender value t = .ok w') : B w w' := by
  simp only [openBody, freezeForChallenge, requireActiveHold, openChallenge, bind_ok, revertIf_ok,
    exists_const, checkedAdd_ok, pure_ok] at h
  obtain ⟨_, ⟨hold, ⟨-, rfl⟩, -, -, -, rfl⟩, -, -, -, -, -, -, total, -, rfl⟩ := h
  have hkept : B w (setHold w t { w.ext.holds t with
      frozenRemaining := u64 ((w.ext.holds t).protectionEndsAt - w.env.now) }) :=
    hR.holdKept rfl rfl
  refine hR.rest_trans hkept (hR.rest (hR.trans (hR.bonds (t := t)
    (c := ⟨w.env.now, w.bonds.windowDuration, sender, value⟩)) (hR.held ?_)))
  rfl

/-- The bond of a challenge goes out. -/
theorem routeBond_respects {w₁ w₂ : World P} {c : Challenge} {recipient judgeCaller : Address}
    {r : Reply P AscendingStorage} (hR : Rules A B) (hl : w.locked = true)
    (hr : Keeps (Guarded A) r) (hclear : clearChallengeAccounting w t c.bondAmount = .ok w₁)
    (hpay : payBond w₁ sender recipient judgeCaller c.bondAmount r = .ok w₂) : A w w₂ := by
  simp only [clearChallengeAccounting, bind_ok, checkedSub_ok, pure_ok] at hclear
  obtain ⟨total, -, rfl⟩ := hclear
  simp only [payBond, bind_ok, revertIf_ok, exists_const] at hpay
  exact hR.trans hR.bonds (payNative_keeps hR.guarded hr hpay.2 hl)

theorem withdrawBody_respects (hR : Rules A B) (hl : w.locked = true)
    (hr : ∀ i, Keeps (Guarded A) (rs i))
    (h : withdrawBody challengeHooks w sender t rs = .ok w') : B w w' := by
  simp only [withdrawBody, bind_ok, revertIf_ok, exists_const] at h
  obtain ⟨-, -, c, -, -, -, -, w₁, hclear, w₂, hpay, h⟩ := h
  obtain rfl := Except.ok.inj h
  have hrouted := hR.trans (routeBond_respects hR hl (hr 0) hclear hpay)
    (hR.held (s := sender) (e := .challengeWithdrawn t c.challenger c.bondAmount c.windowDuration
      c.openedAt) rfl)
  exact hR.rest_trans (hR.rest hrouted) (hR.holdKept rfl rfl)

theorem judgeBody_respects {outcome : JudgeOutcome} (hR : Rules A B) (hl : w.locked = true)
    (hr : ∀ i, Keeps (Guarded A) (rs i))
    (h : judgeBody challengeHooks w sender t outcome rs = .ok w') : B w w' := by
  simp only [judgeBody, bind_ok, revertIf_ok, exists_const] at h
  obtain ⟨-, -, c, -, -, -, -, -, w₁, hclear, w₂, hpay, h⟩ := h
  have hrouted := routeBond_respects hR hl (hr 0) hclear hpay
  cases outcome with
  | upheld =>
    obtain rfl := Except.ok.inj h
    have hjudged := hR.trans hrouted (hR.held (s := sender) (e := .challengeJudged t c.challenger
      sender .upheld c.challenger c.bondAmount c.windowDuration c.openedAt) rfl)
    refine hR.rest_trans (hR.rest hjudged) (hR.rest_trans (hR.holdKept ?_ ?_) (hR.rest (hR.held ?_)))
    all_goals rfl
  | rejected =>
    have hjudged := hR.trans hrouted (hR.held (s := sender) (e := .challengeJudged t c.challenger
      sender .rejected w.bonds.forfeitRecipient c.bondAmount c.windowDuration c.openedAt) rfl)
    exact hR.rest_trans (hR.rest hjudged)
      (challengeTerminal_respects hR ((hR.locked hjudged).trans hl) (fun i => hr (i + 1)) h)

theorem concludeBody_respects (hR : Rules A B) (hl : w.locked = true)
    (hr : ∀ i, Keeps (Guarded A) (rs i))
    (h : concludeBody challengeHooks w sender t rs = .ok w') : B w w' := by
  simp only [concludeBody, bind_ok] at h
  obtain ⟨-, -, c, -, -, -, w₁, hclear, w₂, hpay, h⟩ := h
  have hrouted := routeBond_respects hR hl (hr 0) hclear hpay
  have hended := hR.trans hrouted (hR.held (s := sender) (e := .challengeConcluded t c.challenger
    w₂.bonds.forfeitRecipient c.bondAmount c.windowDuration c.openedAt) rfl)
  exact hR.rest_trans (hR.rest hended)
    (challengeTerminal_respects hR ((hR.locked hended).trans hl) (fun i => hr (i + 1)) h)

/-! ### Every message -/

/-- The hand-over after a forced recall calls nobody here. -/
theorem forceRecall_kept {r : Reply P AscendingStorage} (hR : Rules A B)
    (h : forceRecall hooks w sender t r = .ok w') : A w w' := by
  simp only [forceRecall, bind_ok, revertIf_ok, exists_const] at h
  obtain ⟨-, -, -, -, hterm⟩ := h
  have hsides : HasSides (P := P) hooks ExtSame A := ⟨hR.refl, hR.trans, hR.side⟩
  have hquiet : terminateToOwner hooks (w.setRecallRequest t 0) sender t .recalled
      ⟨true, r.data, 0, id⟩ = .ok w' := hterm
  obtain ⟨u, hu, rfl⟩ := terminateToOwner_keeps hsides (fun v => hR.refl v) hquiet
  exact hR.trans (hR.side (.recallSet t 0)) (hR.returned hu)

/-- **Every entry point respects the pair.** -/
theorem dispatch_respects {c : Call} (hR : Rules A B) (hrs : ∀ i, Keeps (Respects A B) (rs i))
    (h : dispatch sender value c rs w = .ok w') : Respects A B w w' := by
  have hg : ∀ i, Keeps (Guarded A) (rs i) := fun i => Respects.guarded (hrs i)
  have hvalue : Respects A B w (w.receiveValue value) := hR.of (hR.side (.money _))
  have hset : ∀ (u : World P) (ext : AscendingStorage) (e : Event), ExtSame u.ext ext →
      e.administrative = true → Respects A B u (({ u with ext := ext } : World P).emit sender e) :=
    by
      intro u ext e hext he
      exact hR.of (hR.trans (hR.side (.configured hext)) (hR.side (.notice sender e he)))
  cases c
  case bid t amount =>
    simp only [dispatch] at h
    exact hR.respects_trans hvalue (hR.nonReentrant (fun hu => bidBody_respects hR rfl hg hu) h)
  case «open» t =>
    simp only [dispatch] at h
    exact hR.respects_trans hvalue (hR.nonReentrant (fun hu => openBody_respects hR hu) h)
  all_goals
    simp only [dispatch, dispatchPlain, bind_ok] at h
    obtain ⟨-, -, h⟩ := h
  case base c =>
    exact hR.execBase hR.side (fun _ hu => hR.returned hu) hrs
      (fun t _ hrec => hR.of (forceRecall_kept hR hrec)) h
  case setChallengeBond b =>
    simp only [setChallengeBond, bind_ok, pure_ok] at h
    obtain ⟨-, -, -, -, rfl⟩ := h
    exact hset _ _ _ ⟨rfl, rfl⟩ rfl
  case approvePaymentToken token =>
    simp only [approvePaymentToken, bind_ok, revertIf_ok, exists_const, pure_ok] at h
    obtain ⟨-, -, -, x, hx, -, -, rfl⟩ := h
    exact hR.respects_trans (requireConforming_keeps hR.respects (hrs 0) hx)
      (hset _ _ _ ⟨rfl, rfl⟩ rfl)
  case revokePaymentToken token =>
    simp only [revokePaymentToken, bind_ok, revertIf_ok, exists_const, pure_ok] at h
    obtain ⟨-, rfl⟩ := h
    exact hset _ _ _ ⟨rfl, rfl⟩ rfl
  case openAscendingDirect =>
    exact hR.nonReentrant (fun hu => openAscendingDirectBody_respects hR rfl hu) h
  case openAscendingFromMandate =>
    exact hR.nonReentrant (fun hu => openAscendingFromMandateBody_respects hR rfl hu) h
  case settle => exact hR.nonReentrant (fun hu => settleBody_respects hR hu) h
  case confirmReceipt =>
    refine hR.nonReentrant (fun hu => ?_) h
    simp only [confirmReceiptBody, bind_ok, revertIf_ok, exists_const, pure_ok] at hu
    obtain ⟨hold, -, -, -, -, x, hpay, rfl⟩ := hu
    exact hR.rest_trans (payHold_respects hR rfl hg hpay) (hR.rest (hR.held rfl))
  case releaseFunds =>
    refine hR.nonReentrant (fun hu => ?_) h
    simp only [releaseFundsBody, bind_ok, revertIf_ok, exists_const, pure_ok] at hu
    obtain ⟨hold, -, -, -, -, x, hpay, rfl⟩ := hu
    exact hR.rest_trans (payHold_respects hR rfl hg hpay) (hR.rest (hR.held rfl))
  case completeReversal =>
    exact hR.nonReentrant (fun hu => completeReversalBody_respects hR rfl hg hu) h
  case abandonReversal =>
    refine hR.nonReentrant (fun hu => ?_) h
    simp only [abandonReversalBody, bind_ok, revertIf_ok, exists_const, pure_ok] at hu
    obtain ⟨hold, -, -, -, x, hpay, rfl⟩ := hu
    exact hR.rest_trans (payHold_respects hR rfl hg hpay) (hR.rest (hR.held rfl))
  case withdraw => exact hR.nonReentrant (fun hu => withdrawBody_respects hR rfl hg hu) h
  case judge => exact hR.nonReentrant (fun hu => judgeBody_respects hR rfl hg hu) h
  case conclude => exact hR.nonReentrant (fun hu => concludeBody_respects hR rfl hg hu) h

theorem exec_respects {d : ℕ} {m : Msg Call} (hR : Rules A B) (h : mode.exec d m w = .ok w') :
    Respects A B w w' := by
  refine Mode.exec_keeps (R := Respects A B) hR.respects_refl hR.respects_trans ?_ ?_ d m w w' h
  · intro o u v ho
    exact hR.respects.side (.outside o ho)
  · intro s value c rs u v hrs hd
    exact dispatch_respects hR hrs hd

end Bodies

end Kargain.Evm.Ascending
