/-
  Kargain.Evm.FixedPriceSides — rules for relations on the fixed-price mode.

  To show that every message of the mode keeps a pair of relations, one
  for a locked contract and one for a contract at rest, it is enough to
  look at the changes the guarded entry points are made of (`Rules`) and
  at the forced recall, which takes no guard and hands control to the
  receiver of the passport.

  Main results: `dispatch_respects` and `exec_respects`.
-/
import Kargain.Evm.FixedPriceEffects
import Kargain.Evm.Sides

namespace Kargain.Evm.FixedPrice

variable {P : Type} [Erc721 P]

/-- Administration leaves the notes alone. -/
def NotesSame (e e' : FixedPriceStorage) : Prop := e'.settlementNotes = e.settlementNotes

/-- The changes of the mode, `A` being what happens under the guard. -/
structure Rules (A B : World P → World P → Prop) : Prop extends GuardPair A B where
  side : ∀ {w w' : World P}, Side hooks NotesSame w w' → A w w'
  opened : ∀ {w : World P} {s owner agent asset : Address} {t : TokenId}
    {denomination : Denomination} {floor price : ℕ} {comp : Compensation},
    isLiveConsignment w t = false →
    Affords price agent floor comp w.com.platformFeeBps →
    B w (writeOpen w s t owner agent asset denomination floor comp price)
  priced : ∀ {w : World P} {s : Address} {t : TokenId} {price : ℕ},
    Affords price (w.com.consignments t).agent (w.com.consignments t).floor
      (w.com.consignments t).compensation (w.com.consignments t).platformFeeBps →
    B w ((w.setConsignment t { w.com.consignments t with price := price }).emit s
      (.consignmentPriceSet t s price))
  noted : ∀ {w : World P} {s : Address} {t : TokenId} {note : List UInt8}, note.length ≠ 0 →
    B w ((setNote w t note).emit s (.settlementNoteSet t s))
  confirmed : ∀ {w u : World P} {s buyer : Address} {t : TokenId},
    (w.ext.settlementNotes t).length ≠ 0 → A (setNote w t []) u →
    B w (close (u.emit s (.externalPaymentConfirmed t buyer s)) s t .externalConfirmed)
  bought : ∀ {w : World P} {s asset : Address} {t : TokenId} {amount : ℕ},
    A w (w.emit s (.bought t s asset amount))
  /-- The floor of the lot is scaled, and only of a lot that is then closed. -/
  sold : ∀ {w u : World P} {s asset a b c : Address} {t : TokenId} {c' : Consignment} {x y z : ℕ},
    A (w.setConsignment t c') u → B w (close (u.emit s
      (.consignmentSplitPaid t asset a x b y c z)) s t .sold)
  returned : ∀ {w u : World P} {s : Address} {t : TokenId} {reason : CloseReason},
    isOfferedActionable w t = true → A (clearConsignment w t .returned) u →
    A w (u.emit s (.consignmentClosed t reason))

section Bodies

variable {A B : World P → World P → Prop} {w w' : World P} {t : TokenId} {sender : Address}
  {value : ℕ} {rs : ℕ → Reply P FixedPriceStorage}

theorem Rules.guarded (hR : Rules A B) : HasSides hooks NotesSame (Guarded A) :=
  (hR.sides hR.side).1

theorem Rules.respects (hR : Rules A B) : HasSides hooks NotesSame (Respects A B) :=
  (hR.sides hR.side).2

theorem openDirectBody_respects {denomination : Denomination} {asset : Address} {price : ℕ}
    (hR : Rules A B) (hl : w.locked = true)
    (h : openDirectBody w sender t denomination asset price = .ok w') : B w w' := by
  simp only [openDirectBody, bind_ok, passportOwner_ok, revertIf_ok, pure_ok, exists_const] at h
  obtain ⟨-, -, owner, -, -, -, -, _, hcan, u, hu, rfl⟩ := h
  have htaken : A w u := takeCustody_keeps hR.guarded hu hl
  obtain ⟨p, -, rfl⟩ := takeCustody_ok hu
  have hfree := isLive_of_requireCanOpen hcan
  exact hR.rest_trans (hR.rest htaken) (hR.opened hfree (.inl rfl))

theorem openFromMandateBody_respects {denomination : Denomination} {price : ℕ}
    (hR : Rules A B) (hl : w.locked = true)
    (h : openFromMandateBody w sender t denomination price = .ok w') : B w w' := by
  simp only [openFromMandateBody, bind_ok, passportOwner_ok, revertIf_ok, pure_ok,
    exists_const] at h
  obtain ⟨-, -, m, -, -, owner, -, -, -, _, hcan, split, hsplit, u, hu, rfl⟩ := h
  have htaken : A w u := takeCustody_keeps hR.guarded hu hl
  obtain ⟨p, -, rfl⟩ := takeCustody_ok hu
  have hfree := isLive_of_requireCanOpen hcan
  exact hR.rest_trans (hR.rest htaken) (hR.opened hfree (.inr ⟨split, hsplit⟩))

theorem setPriceBody_respects {newPrice : ℕ} (hR : Rules A B)
    (h : setPriceBody w sender t newPrice = .ok w') : B w w' := by
  simp only [setPriceBody, bind_ok, revertIf_ok, exists_const] at h
  obtain ⟨-, h⟩ := h
  split at h
  · rename_i hdirect
    simp only [bind_ok, revertIf_ok, exists_const, pure_ok] at h
    obtain ⟨-, rfl⟩ := h
    exact hR.priced (.inl hdirect)
  · simp only [bind_ok, revertIf_ok, exists_const, pure_ok] at h
    obtain ⟨-, split, hsplit, rfl⟩ := h
    exact hR.priced (.inr ⟨split, hsplit⟩)

theorem setSettlementNoteBody_respects {note : List UInt8} (hR : Rules A B)
    (h : setSettlementNoteBody w sender t note = .ok w') : B w w' := by
  simp only [setSettlementNoteBody, bind_ok] at h
  obtain ⟨-, -, h⟩ := h
  split at h <;>
  · simp only [bind_ok, revertIf_ok, exists_const, pure_ok] at h
    obtain ⟨-, hnote, rfl⟩ := h
    exact hR.noted hnote

omit [Erc721 P] in
/-- Scaling writes one lot. -/
theorem scaleFiatFloor_ok {amount : ℕ} (h : scaleFiatFloor w t amount = .ok w') :
    ∃ c, w' = w.setConsignment t c := by
  simp only [scaleFiatFloor] at h
  split at h
  · simp only [bind_ok, revertIf_ok, exists_const, pure_ok] at h
    obtain ⟨_, -, _, -, _, -, -, rfl⟩ := h
    exact ⟨_, rfl⟩
  · obtain rfl := Except.ok.inj h
    exact ⟨w.com.consignments t, by simp [World.setConsignment]⟩

/-- **A purchase**: payment in, the floor scaled, delivery, the split, and the close. -/
theorem buyBody_respects (hR : Rules A B) (hl : w.locked = true)
    (hr : ∀ i, Keeps (Guarded A) (rs i)) (h : buyBody w sender value t rs = .ok w') : B w w' := by
  simp only [buyBody, bind_ok] at h
  obtain ⟨-, -, -, -, amount, -, w₁, hpull, w₂, hscale, w₃, hrel, hpay⟩ := h
  have hpulled : Guarded A w w₁ := by
    unfold pullPayment at hpull
    split at hpull
    · simp only [bind_ok, revertIf_ok, exists_const, pure_ok] at hpull
      obtain ⟨-, rfl⟩ := hpull
      exact hR.guarded.refl _
    · simp only [bind_ok, revertIf_ok, exists_const] at hpull
      exact pullErc20_keeps hR.guarded (hr 0) hpull.2
  obtain ⟨c, rfl⟩ := scaleFiatFloor_ok hscale
  have hdelivered : Guarded A (w₁.setConsignment t c) w₃ :=
    releaseCustody_keeps hR.guarded (hr 1) hrel
  obtain ⟨-, split, u, -, hpaid, rfl⟩ := paySplit_keeps hR.guarded (hr 2) (hr 3) (hr 4) hpay
  have hl₁ : w₁.locked = true := (hR.locked (hpulled hl)).trans hl
  have hsold : A (w₁.setConsignment t c) u :=
    hR.guarded_trans hdelivered (hR.guarded_trans (fun _ => hR.bought) hpaid) hl₁
  exact hR.rest_trans (hR.rest (hpulled hl)) (hR.sold hsold)

theorem confirmExternalPaymentBody_respects {buyer : Address} (hR : Rules A B)
    (hl : w.locked = true) (hr : ∀ i, Keeps (Guarded A) (rs i))
    (h : confirmExternalPaymentBody w sender t buyer rs = .ok w') : B w w' := by
  simp only [confirmExternalPaymentBody, bind_ok, revertIf_ok, exists_const, pure_ok] at h
  obtain ⟨-, -, -, hnote, -, u, hrel, rfl⟩ := h
  have hdelivered : Guarded A (setNote w t []) u := releaseCustody_keeps hR.guarded (hr 0) hrel
  exact hR.confirmed hnote (hdelivered hl)

theorem approvePaymentToken_respects {token feed : Address} {tolerance : ℕ} (hR : Rules A B)
    (hr : Keeps (Respects A B) (rs 0))
    (h : approvePaymentToken w sender token feed tolerance rs = .ok w') : Respects A B w w' := by
  simp only [approvePaymentToken, bind_ok, revertIf_ok, exists_const] at h
  obtain ⟨-, -, -, u, hu, decimals, -, -, h⟩ := h
  have hprobed : Respects A B w u := requireConforming_keeps hR.respects hr hu
  have hset : ∀ cfg : PaymentTokenConfig, Respects A B u ((setPaymentToken u token cfg).emit sender
      (.paymentTokenAdmitted token feed decimals tolerance)) := by
    intro cfg
    have hconfigured : A u (setPaymentToken u token cfg) := hR.side (.configured rfl)
    exact hR.of (hR.trans hconfigured (hR.side (.notice sender _ rfl)))
  split at h
  · simp only [bind_ok, revertIf_ok, exists_const, pure_ok] at h
    obtain ⟨-, rfl⟩ := h
    exact hR.respects_trans hprobed (hset _)
  · simp only [bind_ok, pure_ok] at h
    obtain ⟨-, -, rfl⟩ := h
    exact hR.respects_trans hprobed (hset _)

/-- The other unguarded calls of the mode configure it. -/
theorem configured_respects {c : Call} (hR : Rules A B)
    (hc : (∃ token, c = .revokePaymentToken token) ∨
      (∃ code feed tolerance, c = .setCurrencyFeed code feed tolerance) ∨
      ∃ tolerance, c = .setNativeUsdStalenessTolerance tolerance)
    (h : dispatchPlain sender rs w c = .ok w') : Respects A B w w' := by
  have hset : ∀ (ext : FixedPriceStorage) (e : Event), NotesSame w.ext ext →
      e.administrative = true → Respects A B w (({ w with ext := ext } : World P).emit sender e) :=
    by
      intro ext e hext he
      have hconfigured : A w ({ w with ext := ext } : World P) := hR.side (.configured hext)
      exact hR.of (hR.trans hconfigured (hR.side (.notice sender e he)))
  obtain ⟨token, rfl⟩ | ⟨code, feed, tolerance, rfl⟩ | ⟨tolerance, rfl⟩ := hc
  · simp only [dispatchPlain, revokePaymentToken, bind_ok, revertIf_ok, exists_const, pure_ok] at h
    obtain ⟨-, rfl⟩ := h
    exact hset _ _ rfl rfl
  · simp only [dispatchPlain, setCurrencyFeed, bind_ok, revertIf_ok, exists_const] at h
    obtain ⟨-, -, -, h⟩ := h
    split at h
    · simp only [bind_ok, revertIf_ok, exists_const, pure_ok] at h
      obtain ⟨-, rfl⟩ := h
      exact hset _ _ rfl rfl
    · simp only [bind_ok, pure_ok] at h
      obtain ⟨-, -, rfl⟩ := h
      exact hset _ _ rfl rfl
  · simp only [dispatchPlain, setNativeUsdStalenessTolerance, bind_ok, revertIf_ok, exists_const,
      pure_ok] at h
    obtain ⟨-, -, -, -, reading, -, -, -, -, rfl⟩ := h
    exact hset _ _ rfl rfl

/-- **Every entry point respects the pair**, given the forced recall. -/
theorem dispatch_respects {c : Call} (hR : Rules A B) (hrs : ∀ i, Keeps (Respects A B) (rs i))
    (hrecall : ∀ t, c = .base (.forceRecall t) →
      forceRecall hooks w sender t (rs 0) = .ok w' → Respects A B w w')
    (h : dispatch sender value c rs w = .ok w') : Respects A B w w' := by
  have hg : ∀ i, Keeps (Guarded A) (rs i) := fun i => Respects.guarded (hrs i)
  cases c
  case buy t =>
    simp only [dispatch] at h
    have hvalue : Respects A B w (w.receiveValue value) := hR.of (hR.side (.money _))
    exact hR.respects_trans hvalue (hR.nonReentrant (fun hu => buyBody_respects hR rfl hg hu) h)
  all_goals
    simp only [dispatch, bind_ok] at h
    obtain ⟨-, -, h⟩ := h
  case base c =>
    exact hR.execBase hR.side hR.returned hrs
      (fun t hc hrec => hrecall t (congrArg Call.base hc) hrec) h
  case approvePaymentToken token feed tolerance =>
    exact approvePaymentToken_respects hR (hrs 0) h
  case revokePaymentToken token => exact configured_respects hR (.inl ⟨token, rfl⟩) h
  case setCurrencyFeed code feed tolerance =>
    exact configured_respects hR (.inr (.inl ⟨code, feed, tolerance, rfl⟩)) h
  case setNativeUsdStalenessTolerance tolerance =>
    exact configured_respects hR (.inr (.inr ⟨tolerance, rfl⟩)) h
  all_goals simp only [dispatchPlain] at h
  case openDirect => exact hR.nonReentrant (fun hu => openDirectBody_respects hR rfl hu) h
  case openFromMandate => exact hR.nonReentrant (fun hu => openFromMandateBody_respects hR rfl hu) h
  case setPrice => exact hR.nonReentrant (fun hu => setPriceBody_respects hR hu) h
  case setSettlementNote => exact hR.nonReentrant (fun hu => setSettlementNoteBody_respects hR hu) h
  case confirmExternalPayment =>
    exact hR.nonReentrant (fun hu => confirmExternalPaymentBody_respects hR rfl hg hu) h

/-- The forced recall, where ending the lot and announcing it go under the guard too. -/
theorem forceRecall_respects_of {r : Reply P FixedPriceStorage} (hR : Rules A B)
    (hr : Keeps (Respects A B) r)
    (hcleared : ∀ {w : World P} {t : TokenId},
      A w (clearConsignment (w.setRecallRequest t 0) t .returned))
    (hclosed : ∀ {w : World P} {s : Address} {t : TokenId},
      A w (w.emit s (.consignmentClosed t .recalled)))
    (h : forceRecall hooks w sender t r = .ok w') : Respects A B w w' := by
  simp only [forceRecall, bind_ok, revertIf_ok, exists_const] at h
  obtain ⟨-, -, -, -, hterm⟩ := h
  obtain ⟨u, hu, rfl⟩ := terminateToOwner_keeps hR.respects hr hterm
  exact hR.respects_trans (hR.respects_trans (hR.of hcleared) hu) (hR.of hclosed)

/-- **Every message at every depth**, under the same two conditions. -/
theorem exec_respects {d : ℕ} {m : Msg Call} (hR : Rules A B)
    (hcleared : ∀ {w : World P} {t : TokenId},
      A w (clearConsignment (w.setRecallRequest t 0) t .returned))
    (hclosed : ∀ {w : World P} {s : Address} {t : TokenId},
      A w (w.emit s (.consignmentClosed t .recalled)))
    (h : mode.exec d m w = .ok w') : Respects A B w w' := by
  refine Mode.exec_keeps (R := Respects A B) hR.respects_refl hR.respects_trans ?_ ?_ d m w w' h
  · intro o u v ho
    exact hR.respects.side (.outside o ho)
  · intro s value c rs u v hrs hd
    exact dispatch_respects hR hrs
      (fun t _ hrec => forceRecall_respects_of hR (hrs 0) hcleared hclosed hrec) hd

end Bodies

end Kargain.Evm.FixedPrice
