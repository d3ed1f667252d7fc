/-
  Kargain.Evm.ConsignmentBase — the automaton both selling modes share.

  ConsignmentBase.sol with the two contracts it inherits, Mandate.sol and
  Recall.sol: who may grant, amend and open, the agented split, and how a
  consignment leaves the live set.  The mode's overrides come in as
  `Hooks`.  Entry points take the sender; those that are `nonReentrant`
  in the source are wrapped where the mode lists its calls.
-/
import Kargain.Evm.ClaimablePayouts

namespace Kargain.Evm

variable {P σ : Type}

/-- `a * b` on uint256. -/
def checkedMul (a b : ℕ) : Except Error ℕ :=
  if a * b < 2 ^ 256 then .ok (a * b) else .error .arithmetic

theorem checkedMul_ok {a b c : ℕ} : checkedMul a b = .ok c ↔ a * b < 2 ^ 256 ∧ c = a * b := by
  unfold checkedMul
  by_cases h : a * b < 2 ^ 256
  · rw [if_pos h]
    exact ⟨fun e => ⟨h, (Except.ok.inj e).symm⟩, fun e => e.2 ▸ rfl⟩
  · rw [if_neg h]
    refine ⟨fun e => ?_, fun e => absurd e.1 h⟩
    cases e

def bpsDenom : ℕ := 10000

/-- `RECALL_COOLDOWN`, 7 days. -/
def recallCooldown : ℕ := 604800

/-! ## §1. The split (`_computeDirectSplit`, `_computeAgentedSplitAmounts`). -/

/-- Direct: platform share, then the owner's remainder. -/
def computeDirectSplit (settled feeBps : ℕ) : Except Error SplitResult := do
  let cut ← checkedMul settled feeBps
  let platform := cut / bpsDenom
  let ownerAmount ← checkedSub settled platform
  pure ⟨platform, ownerAmount, 0⟩

/-- `_agentedFloorScaleBase`. -/
def agentedFloorScaleBase (settled : ℕ) (comp : Compensation) (feeBps : ℕ) :
    Except Error ℕ := do
  let cut ← checkedMul settled feeBps
  let platform := cut / bpsDenom
  if comp.form = .margin then
    checkedSub settled platform
  else
    let cutBps := feeBps + comp.commissionBps
    if cutBps ≥ bpsDenom then pure 0
    else
      let share ← checkedMul settled (bpsDenom - cutBps)
      pure (share / bpsDenom)

/-- `_computeAgentedSplitAmounts`: under Margin the owner is paid the floor and the agent
    the rest; under Commission the owner a fraction and the agent the residue. -/
def computeAgentedSplitAmounts (settled floor : ℕ) (comp : Compensation) (feeBps : ℕ) :
    Except Error SplitResult := do
  let cut ← checkedMul settled feeBps
  let platform := cut / bpsDenom
  let base ← agentedFloorScaleBase settled comp feeBps
  if comp.form = .margin then
    require (floor ≤ base) .belowFloor
    pure ⟨platform, floor, settled - platform - floor⟩
  else
    require (settled ≥ platform + base) .belowFloor
    require (base ≥ floor) .belowFloor
    pure ⟨platform, base, settled - platform - base⟩

/-- `_computeSplit`, from the snapshot of the consignment. -/
def computeSplit (c : Consignment) (settled : ℕ) : Except Error SplitResult :=
  if c.agent = .zero then computeDirectSplit settled c.platformFeeBps
  else computeAgentedSplitAmounts settled c.floor c.compensation c.platformFeeBps

/-! ## §2. Phases. -/

def isLiveConsignment (w : World P σ) (t : TokenId) : Bool := w.com.phase t == .offered

def isOfferedActionable (w : World P σ) (t : TokenId) : Bool :=
  w.com.phase t == .offered && !w.com.committedNotOffered t

def isOfferedAgented (w : World P σ) (t : TokenId) : Bool :=
  isOfferedActionable w t && (w.com.consignments t).agent != .zero

theorem isOfferedAgented_offered {w : World P σ} {t : TokenId}
    (h : isOfferedAgented w t = true) : isOfferedActionable w t = true := by
  simp only [isOfferedAgented, Bool.and_eq_true] at h
  exact h.1

/-- `_enterCommittedNotOffered`. -/
def enterCommittedNotOffered (w : World P σ) (t : TokenId) : Except Error (World P σ) := do
  revertIf (isOfferedActionable w t = false) .notOffered
  pure ((w.setCommitted t true).setRecallRequest t 0)

/-- `_writeOpen`. -/
def writeOpen (w : World P σ) (sender : Address) (t : TokenId) (seller agent asset : Address)
    (denomination : Denomination) (floor : ℕ) (compensation : Compensation) (price : ℕ) :
    World P σ :=
  let openedAt := u64 w.env.now
  let feeBps := w.com.platformFeeBps
  let c : Consignment := ⟨seller, agent, asset, denomination, floor, compensation, feeBps, price,
    openedAt⟩
  ((((w.setConsignment t c).setCommitted t false).setPhase t .offered).setRecallRequest t 0).emit
    sender (.consignmentOpened t seller agent asset denomination floor compensation price feeBps
      openedAt)

/-- The storage writes of `_terminateToOwner` and `_close`. -/
def clearConsignment (w : World P σ) (t : TokenId) (ph : Phase) : World P σ :=
  (((w.setRecallRequest t 0).setCommitted t false).setConsignment t .empty).setPhase t ph

/-- `_close`: the passport is already with the buyer. -/
def close (w : World P σ) (sender : Address) (t : TokenId) (reason : CloseReason) : World P σ :=
  (clearConsignment w t .closed).emit sender (.consignmentClosed t reason)

/-- `_paySplit`: platform, seller, agent, then close.  `r₀`, `r₁`, `r₂` answer the three
    transfers. -/
def paySplit (w : World P σ) (sender : Address) (t : TokenId) (settled : ℕ)
    (reason : CloseReason) (r₀ r₁ r₂ : Reply P σ) : Except Error (World P σ) := do
  revertIf (isLiveConsignment w t = false) .noLiveConsignment
  let c := w.com.consignments t
  let split ← computeSplit c settled
  let w ← payOut w sender c.asset w.com.platformRecipient split.platform r₀
  let w ← payOut w sender c.asset c.seller split.ownerAmount r₁
  let w ← (if split.agentAmount ≠ 0 then payOut w sender c.asset c.agent split.agentAmount r₂
    else pure w)
  let w := w.emit sender (.consignmentSplitPaid t c.asset c.seller split.ownerAmount c.agent
    split.agentAmount w.com.platformRecipient split.platform)
  pure (close w sender t reason)

section Registry

variable [Erc721 P]

/-- `_requireCanOpen`. -/
def requireCanOpen (H : Hooks P σ) (w : World P σ) (t : TokenId) (owner : Address) :
    Except Error Unit := do
  revertIf (w.env.karPassport.isSelfEncumbranceSource = false) .modeNotEncumbranceSource
  let ok ← mayIntent H w t .openConsignment
  revertIf (ok = false) .openConsignmentRefused
  revertIf (isLiveConsignment w t = true) .liveConsignment
  revertIf (isEscrowApproved w t owner = false) .escrowNotApproved

theorem isLive_of_requireCanOpen {H : Hooks P σ} {w : World P σ} {t : TokenId} {owner : Address} {u : Unit}
    (h : requireCanOpen H w t owner = .ok u) : isLiveConsignment w t = false := by
  simp only [requireCanOpen, bind_ok, revertIf_ok, exists_const] at h
  obtain ⟨-, -, -, -, hlive, -⟩ := h
  simpa using hlive

theorem takeCustody_ok {w u : World P σ} {t : TokenId} {src : Address} (h : takeCustody w t src = .ok u) :
    ∃ p, Erc721.transferFrom w.env.karPassport.erc721 .self src .self t = some p ∧
      u = w.moved .self src .self t p := by
  simp only [takeCustody, bind_ok, orRevert_ok, pure_ok] at h
  obtain ⟨p, hp, rfl⟩ := h
  exact ⟨p, hp, rfl⟩

/-- `_terminateToOwner`. -/
def terminateToOwner (H : Hooks P σ) (w : World P σ) (sender : Address) (t : TokenId)
    (reason : CloseReason) (r : Reply P σ) : Except Error (World P σ) := do
  let seller := (w.com.consignments t).seller
  let w ← releaseCustody H (clearConsignment w t .returned) t seller r
  pure (w.emit sender (.consignmentClosed t reason))

/-! ## §3. Mandate.sol. -/

/-- `grant`: Margin carries no commission. -/
def grant (w : World P σ) (sender : Address) (t : TokenId) (agent : Address) (expiry : ℕ)
    (asset : Address) (denomination : Denomination) (floor : ℕ) (compensation : Compensation) :
    Except Error (World P σ) := do
  let owner ← passportOwner w t
  revertIf (owner ≠ sender) .notPassportOwner
  revertIf (isLiveConsignment w t = true) .liveConsignment
  revertIf (isEscrowApproved w t sender = false) .escrowNotApproved
  revertIf (agent = .zero) .zeroAddress
  let comp : Compensation :=
    if compensation.form = .margin then ⟨.margin, 0⟩ else compensation
  pure ((w.setMandate t ⟨agent, expiry, asset, denomination, floor, comp, true⟩).emit sender
    (.mandateGranted t sender agent expiry asset denomination floor comp))

/-- `_requireActiveMandate`. -/
def requireActiveMandate (w : World P σ) (t : TokenId) : Except Error MandateRecord := do
  revertIf ((w.com.mandates t).active = false) .noMandate
  pure (w.com.mandates t)

def revoke (w : World P σ) (sender : Address) (t : TokenId) : Except Error (World P σ) := do
  let owner ← passportOwner w t
  revertIf (owner ≠ sender) .notPassportOwner
  revertIf (isLiveConsignment w t = true) .liveConsignment
  let m ← requireActiveMandate w t
  pure ((w.setMandate t .empty).emit sender (.mandateRevoked t sender m.agent))

/-- `lowerFloor`, on the live snapshot. -/
def lowerFloor (w : World P σ) (sender : Address) (t : TokenId) (newFloor : ℕ) :
    Except Error (World P σ) := do
  let owner ← passportOwner w t
  revertIf (owner ≠ sender) .notPassportOwner
  revertIf (isLiveConsignment w t = false) .noLiveConsignment
  revertIf (newFloor ≥ (w.com.consignments t).floor) .cannotRaiseFloor
  pure ((w.setConsignment t { w.com.consignments t with floor := newFloor }).emit sender
    (.consignmentFloorLowered t newFloor))

/-- `lowerCommission`, on the live snapshot. -/
def lowerCommission (w : World P σ) (sender : Address) (t : TokenId) (newBps : ℕ) :
    Except Error (World P σ) := do
  let c := w.com.consignments t
  revertIf (isLiveConsignment w t = false) .noLiveConsignment
  revertIf (c.agent ≠ sender) .notConsignmentAgent
  revertIf (c.compensation.form ≠ .commission) .notCommissionForm
  revertIf (newBps ≥ c.compensation.commissionBps) .cannotRaiseCommission
  pure ((w.setConsignment t
      { c with compensation := { c.compensation with commissionBps := newBps } }).emit sender
    (.consignmentCommissionLowered t newBps))

/-- `_denominationEq`: the currency code counts for fiat only. -/
def denominationEq (a b : Denomination) : Bool :=
  if a.kind ≠ b.kind then false
  else if a.kind = .asset then true
  else a.currencyCode == b.currencyCode

/-- `_requireMandateAllowsOpen`. -/
def requireMandateAllowsOpen (w : World P σ) (t : TokenId) (openDenomination : Denomination) :
    Except Error MandateRecord := do
  let m ← requireActiveMandate w t
  revertIf (m.expiry ≠ 0 ∧ w.env.now ≥ m.expiry) .mandateExpired
  revertIf (denominationEq m.denomination openDenomination = false) .denominationMismatch
  pure m

omit [Erc721 P] in
theorem requireMandateAllowsOpen_ok {w : World P σ} {t : TokenId} {d : Denomination} {m : MandateRecord}
    (h : requireMandateAllowsOpen w t d = .ok m) :
    m = w.com.mandates t ∧ m.active = true ∧ (m.expiry = 0 ∨ w.env.now < m.expiry) := by
  simp only [requireMandateAllowsOpen, requireActiveMandate, bind_ok, revertIf_ok, pure_ok,
    exists_const] at h
  obtain ⟨m', ⟨hact, rfl⟩, hexp, -, rfl⟩ := h
  refine ⟨rfl, by simpa using hact, ?_⟩
  by_cases h0 : (w.com.mandates t).expiry = 0
  · exact .inl h0
  · exact .inr (not_le.mp fun hle => hexp ⟨h0, hle⟩)

/-! ## §4. Recall.sol. -/

def requestRecall (w : World P σ) (sender : Address) (t : TokenId) :
    Except Error (World P σ) := do
  revertIf (isOfferedAgented w t = false) .notOfferedAgented
  revertIf ((w.com.consignments t).seller ≠ sender) .notConsignmentSeller
  revertIf (w.com.recallRequestedAt t ≠ 0) .returnAlreadyRequested
  pure ((w.setRecallRequest t w.env.now).emit sender (.recallRequested t sender w.env.now))

def forceRecall (H : Hooks P σ) (w : World P σ) (sender : Address) (t : TokenId)
    (r : Reply P σ) : Except Error (World P σ) := do
  revertIf (isOfferedAgented w t = false) .notOfferedAgented
  revertIf ((w.com.consignments t).seller ≠ sender) .notConsignmentSeller
  let requestedAt := w.com.recallRequestedAt t
  revertIf (requestedAt = 0) .returnNotRequested
  revertIf (w.env.now < requestedAt + recallCooldown) .returnCooldownPending
  terminateToOwner H (w.setRecallRequest t 0) sender t .recalled r

/-! ## §5. Pause and ownership. -/

def pause (w : World P σ) (sender : Address) : Except Error (World P σ) := do
  revertIf (sender ≠ w.com.guardian) .notGuardian
  pure ({ w with com := { w.com with paused := true } }.emit sender (.paused sender))

def unpause (w : World P σ) (sender : Address) : Except Error (World P σ) := do
  onlyOwner w sender
  pure ({ w with com := { w.com with paused := false } }.emit sender (.unpaused sender))

def setGuardian (w : World P σ) (sender newGuardian : Address) : Except Error (World P σ) := do
  onlyOwner w sender
  revertIf (newGuardian = .zero) .zeroAddress
  pure ({ w with com := { w.com with guardian := newGuardian } }.emit sender
    (.guardianSet w.com.guardian newGuardian))

/-- Ownable's `transferOwnership` and, to `zero`, `renounceOwnership`. -/
def transferOwnership (w : World P σ) (sender newOwner : Address) :
    Except Error (World P σ) := do
  onlyOwner w sender
  pure { w with com := { w.com with owner := newOwner } }

/-! ## §6. Admission of a payment token (Erc20Admission.sol). -/

/-- `requireConforming`: the token has code and `transfer(address(this), 0)` reports success.
    The passport registry has no such function. -/
def requireConforming (w : World P σ) (token : Address) (r : Reply P σ) :
    Except Error (World P σ) := do
  revertIf (w.env.hasCode token = false) .tokenHasNoCode
  revertIf (token = .passport) .tokenNonConforming
  let (ok, w') ← tryErc20Transfer w token .self 0 r
  require (ok = true) .tokenNonConforming
  pure w'

/-- `requireDecimals`: a static call that returns one word, a uint8. -/
def requireDecimals (r : Reply P σ) : Except Error ℕ := do
  require (r.success = true ∧ r.data.length = 32) .tokenDecimalsUnavailable
  require (r.data.word < 2 ^ 8) .abiDecode
  pure r.data.word

/-! ## §7. OFFERED exits and the openings of the base. -/

def requireNotPaused (w : World P σ) : Except Error Unit :=
  revertIf (w.com.paused = true) .contractPaused

/-- Body of `ownerWithdraw`. -/
def ownerWithdrawBody (H : Hooks P σ) (w : World P σ) (sender : Address) (t : TokenId)
    (r : Reply P σ) : Except Error (World P σ) := do
  revertIf (isOfferedActionable w t = false) .notOffered
  revertIf ((w.com.consignments t).agent ≠ .zero) .notDirectConsignment
  revertIf ((w.com.consignments t).seller ≠ sender) .notConsignmentSeller
  terminateToOwner H w sender t .returned r

/-- Body of `agentWithdraw`. -/
def agentWithdrawBody (H : Hooks P σ) (w : World P σ) (sender : Address) (t : TokenId)
    (r : Reply P σ) : Except Error (World P σ) := do
  revertIf (isOfferedActionable w t = false) .notOffered
  revertIf ((w.com.consignments t).agent ≠ sender) .notConsignmentAgent
  terminateToOwner H w sender t .returned r

end Registry

end Kargain.Evm
