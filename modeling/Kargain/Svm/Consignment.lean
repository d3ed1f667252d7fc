/-
  Kargain.Svm.Consignment — the consignment automaton both modes share.

  The pure half of the shared crates: the three-way split of a settled
  amount, the mandate, and what may be done to a lot in which phase.  No
  account is touched here.

  Main results: `computeSplitForLot_sum`, the legs of a split sum to the
  amount split, and the inversion lemmas the handlers' specs start from.
-/
import Mathlib
import Kargain.Svm.Types

namespace Kargain.Svm

open Kargain.Accounts

/-! ## §1. The agented split. -/

def bpsDenom : ℕ := 10000

inductive SplitForm
  | margin
  | commission
deriving DecidableEq

/-- `Compensation::form_enum`. -/
def Compensation.formEnum (c : Compensation) : Option SplitForm :=
  if c.form = CompensationForm.margin then some .margin
  else if c.form = CompensationForm.commission then some .commission
  else none

/-- `checked_sub`. -/
def checkedSub (a b : ℕ) : Except Error ℕ :=
  if b ≤ a then .ok (a - b) else .error (.custom .arithmeticOverflow)

/-- The platform's share: computed wide, narrowed to 64 bits. -/
def platformShare (settled platformFeeBps : ℕ) : ℕ :=
  settled * platformFeeBps / bpsDenom % 2 ^ 64

structure AgentedSplit where
  platform : ℕ
  ownerAmount : ℕ
  agentAmount : ℕ
  ok : Bool

def agentedFloorScaleBase (settled : ℕ) (form : SplitForm) (commissionBps platformFeeBps : ℕ) :
    Except Error ℕ :=
  match form with
  | .margin => checkedSub settled (platformShare settled platformFeeBps)
  | .commission =>
    let cutBps := platformFeeBps + commissionBps
    if cutBps ≥ bpsDenom then .ok 0
    else .ok (settled * (bpsDenom - cutBps) / bpsDenom % 2 ^ 64)

def computeAgentedSplit (settled floor : ℕ) (form : SplitForm)
    (commissionBps platformFeeBps : ℕ) : Except Error AgentedSplit :=
  let platform := platformShare settled platformFeeBps
  match form with
  | .margin => do
    let scale ← agentedFloorScaleBase settled .margin commissionBps platformFeeBps
    if floor ≤ scale then
      let rest ← checkedSub settled platform
      let agentAmount ← checkedSub rest floor
      pure ⟨platform, floor, agentAmount, true⟩
    else pure ⟨platform, 0, 0, false⟩
  | .commission => do
    let ownerAmount ← agentedFloorScaleBase settled .commission commissionBps platformFeeBps
    if settled < saturatingAdd platform ownerAmount then pure ⟨platform, 0, 0, false⟩
    else
      let rest ← checkedSub settled platform
      let agentAmount ← checkedSub rest ownerAmount
      pure ⟨platform, ownerAmount, agentAmount, decide (ownerAmount ≥ floor)⟩

def computeDirectSplit (settled platformFeeBps : ℕ) : Except Error AgentedSplit := do
  let platform := platformShare settled platformFeeBps
  let ownerAmount ← checkedSub settled platform
  pure ⟨platform, ownerAmount, 0, true⟩

structure SplitResult where
  platform : ℕ
  ownerAmount : ℕ
  agentAmount : ℕ
deriving DecidableEq

def computeSplitForLot (settled : ℕ) (c : ConsignmentRecord) : Except Error SplitResult :=
  if c.agent = .zero then do
    let d ← computeDirectSplit settled c.platformFeeBps
    pure ⟨d.platform, d.ownerAmount, d.agentAmount⟩
  else do
    let form ← orRevert c.compensation.formEnum (.custom .invalidStatus)
    let a ← computeAgentedSplit settled c.floor form c.compensation.commissionBps c.platformFeeBps
    revertIf (a.ok = false) (.custom .belowFloor)
    pure ⟨a.platform, a.ownerAmount, a.agentAmount⟩

theorem checkedSub_ok {a b c : ℕ} : checkedSub a b = .ok c ↔ b ≤ a ∧ a - b = c := by
  unfold checkedSub
  split <;> simp [*]

theorem computeAgentedSplit_sum {settled floor commissionBps feeBps : ℕ} {form : SplitForm}
    {a : AgentedSplit} (h : computeAgentedSplit settled floor form commissionBps feeBps = .ok a)
    (hok : a.ok = true) : a.platform + a.ownerAmount + a.agentAmount = settled := by
  cases form <;> simp only [computeAgentedSplit, bind_ok] at h <;> obtain ⟨scale, -, h⟩ := h <;>
    split at h
  case margin.isTrue =>
    simp only [bind_ok, checkedSub_ok, pure_ok] at h
    obtain ⟨rest, ⟨_, rfl⟩, agent, ⟨_, rfl⟩, rfl⟩ := h
    simp only
    omega
  case commission.isFalse =>
    simp only [bind_ok, checkedSub_ok, pure_ok] at h
    obtain ⟨rest, ⟨_, rfl⟩, agent, ⟨_, rfl⟩, rfl⟩ := h
    simp only
    omega
  all_goals
    obtain rfl := pure_ok.mp h
    cases hok

/-- **Nothing is lost in a split.** -/
theorem computeSplitForLot_sum {settled : ℕ} {c : ConsignmentRecord} {s : SplitResult}
    (h : computeSplitForLot settled c = .ok s) :
    s.platform + s.ownerAmount + s.agentAmount = settled := by
  unfold computeSplitForLot at h
  split at h
  · simp only [computeDirectSplit, bind_ok, checkedSub_ok, pure_ok] at h
    obtain ⟨d, ⟨owner, ⟨_, rfl⟩, rfl⟩, rfl⟩ := h
    simp only
    omega
  · simp only [bind_ok, revertIf_ok, pure_ok, exists_const, Bool.not_eq_false] at h
    obtain ⟨form, -, a, ha, hok, rfl⟩ := h
    exact computeAgentedSplit_sum ha hok

/-! ## §2. Lots. -/

namespace ConsignmentRecord

variable (c : ConsignmentRecord)

def isLive : Bool := c.phase = Phase.offered

def isOfferedActionable : Bool := c.phase = Phase.offered && !c.committedNotOffered

def isOfferedAgented : Bool := c.isOfferedActionable && c.agent ≠ .zero

theorem isLive_of_actionable (h : c.isOfferedActionable = true) : c.isLive = true := by
  simp_all [isOfferedActionable, isLive]

end ConsignmentRecord

/-- `consignment_account_is_live`. -/
def consignmentAccountIsLive (L : Ledger) (k : Pubkey) : Except Error Bool :=
  if (L k).data = .empty then .ok false
  else do
    let record : ConsignmentRecord ← load L k
    pure record.isLive

def recallCooldownSecs : ℕ := 7 * 24 * 60 * 60

/-- `recall_account_requested_at`. -/
def recallAccountRequestedAt (L : Ledger) (k : Pubkey) : Except Error ℕ :=
  if (L k).data = .empty then .ok 0
  else do
    let record : RecallRecord ← load L k
    pure record.requestedAt

def requireNotPaused (paused : Bool) : Except Error Unit :=
  revertIf (paused = true) (.custom .contractPaused)

def writeOpen (tokenId : TokenId) (seller agent asset : Pubkey) (denomination : Denomination)
    (floor : ℕ) (compensation : Compensation) (price feeBps openedAt : ℕ) : ConsignmentRecord :=
  { tokenId, seller, agent, asset, denomination, floor, compensation, price, openedAt,
    platformFeeBps := feeBps, phase := Phase.offered, committedNotOffered := false }

def requireOfferedActionable (c : ConsignmentRecord) : Except Error Unit :=
  require (c.isOfferedActionable = true) (.custom .notOffered)

def requireAgentedPriceMeetsFloor (price floor : ℕ) (comp : Compensation) (feeBps : ℕ) :
    Except Error Unit := do
  let form ← orRevert comp.formEnum (.custom .invalidStatus)
  let split ← computeAgentedSplit price floor form comp.commissionBps feeBps
  revertIf (split.ok = false) (.custom .belowFloor)

def setPrice (c : ConsignmentRecord) (caller : Pubkey) (newPrice : ℕ) :
    Except Error ConsignmentRecord := do
  requireOfferedActionable c
  if c.agent = .zero then
    revertIf (c.seller ≠ caller) (.custom .notConsignmentSeller)
    pure { c with price := newPrice }
  else
    revertIf (c.agent ≠ caller) (.custom .notConsignmentRunner)
    requireAgentedPriceMeetsFloor newPrice c.floor c.compensation c.platformFeeBps
    pure { c with price := newPrice }

def lowerFloor (c : ConsignmentRecord) (passportOwner caller : Pubkey) (newFloor : ℕ) :
    Except Error ConsignmentRecord := do
  revertIf (passportOwner ≠ caller) (.custom .notPassportOwner)
  revertIf (c.isLive = false) (.custom .noLiveConsignment)
  revertIf (newFloor ≥ c.floor) (.custom .cannotRaiseFloor)
  pure { c with floor := newFloor }

def setSnapshotFloor (c : ConsignmentRecord) (floor : ℕ) : Except Error ConsignmentRecord := do
  revertIf (c.isLive = false) (.custom .noLiveConsignment)
  pure { c with floor := floor }

def lowerCommission (c : ConsignmentRecord) (caller : Pubkey) (newBps : ℕ) :
    Except Error ConsignmentRecord := do
  revertIf (c.isLive = false) (.custom .noLiveConsignment)
  revertIf (c.agent ≠ caller) (.custom .notConsignmentAgent)
  revertIf (c.compensation.form ≠ CompensationForm.commission) (.custom .notCommissionForm)
  revertIf (newBps ≥ c.compensation.commissionBps) (.custom .cannotRaiseCommission)
  pure { c with compensation := { c.compensation with commissionBps := newBps } }

def requestRecall (c : ConsignmentRecord) (caller : Pubkey) (alreadyRequested : Bool)
    (now : ℕ) : Except Error ℕ := do
  revertIf (c.isOfferedAgented = false) (.custom .notOfferedAgented)
  revertIf (c.seller ≠ caller) (.custom .notConsignmentSeller)
  revertIf (alreadyRequested = true) (.custom .returnAlreadyRequested)
  pure now

def forceRecallReady (c : ConsignmentRecord) (caller : Pubkey) (requestedAt now : ℕ) :
    Except Error Unit := do
  revertIf (c.isOfferedAgented = false) (.custom .notOfferedAgented)
  revertIf (c.seller ≠ caller) (.custom .notConsignmentSeller)
  revertIf (requestedAt = 0) (.custom .returnNotRequested)
  revertIf (now < saturatingAdd requestedAt recallCooldownSecs) (.custom .returnCooldownPending)

def ownerWithdrawOk (c : ConsignmentRecord) (caller : Pubkey) : Except Error Unit := do
  requireOfferedActionable c
  revertIf (c.agent ≠ .zero) (.custom .notDirectConsignment)
  revertIf (c.seller ≠ caller) (.custom .notConsignmentSeller)

def agentWithdrawOk (c : ConsignmentRecord) (caller : Pubkey) : Except Error Unit := do
  requireOfferedActionable c
  revertIf (c.agent ≠ caller) (.custom .notConsignmentAgent)

def enterCommittedNotOffered (c : ConsignmentRecord) : Except Error ConsignmentRecord := do
  requireOfferedActionable c
  pure { c with committedNotOffered := true }

def terminateToOwner (c : ConsignmentRecord) : ConsignmentRecord :=
  { c with committedNotOffered := false, phase := Phase.returned }

def closeLot (c : ConsignmentRecord) : ConsignmentRecord :=
  { c with committedNotOffered := false, phase := Phase.closed }

/-! ## §3. Mandates. -/

def denominationEq (a b : Denomination) : Bool :=
  a.kind = b.kind ∧ (a.kind = DenominationKind.asset ∨ a.currencyCode = b.currencyCode)

def requireMandateAllowsOpen (m : MandateRecord) (openDenom : Denomination) (now : ℕ) :
    Except Error Unit := do
  revertIf (m.active = false) (.custom .noMandate)
  revertIf (m.expiry ≠ 0 ∧ now ≥ m.expiry) (.custom .mandateExpired)
  revertIf (denominationEq m.denomination openDenom = false) (.custom .denominationMismatch)

/-- The terms of a grant as the instruction carries them. -/
structure MandateTerms where
  agent : Pubkey
  expiry : ℕ
  asset : Pubkey
  denomination : Denomination
  floor : ℕ
  compensation : Compensation

def grantMandate (tokenId : TokenId) (passportOwner caller : Pubkey)
    (isLive transferDelegateOk : Bool) (t : MandateTerms) : Except Error MandateRecord := do
  revertIf (passportOwner ≠ caller) (.custom .notPassportOwner)
  revertIf (isLive = true) (.custom .liveConsignment)
  revertIf (transferDelegateOk = false) (.custom .notTransferDelegate)
  revertIf (t.agent = .zero) (.custom .zeroAddress)
  let compensation :=
    if t.compensation.form = CompensationForm.margin then
      { t.compensation with commissionBps := 0 }
    else t.compensation
  pure ⟨tokenId, t.agent, t.expiry, t.asset, t.denomination, t.floor, compensation, true⟩

def revokeMandate (m : MandateRecord) (passportOwner caller : Pubkey) (isLive : Bool) :
    Except Error Unit := do
  revertIf (passportOwner ≠ caller) (.custom .notPassportOwner)
  revertIf (isLive = true) (.custom .liveConsignment)
  revertIf (m.active = false) (.custom .noMandate)

/-- `parse_comp`. -/
def parseComp (form commissionBps : ℕ) : Except Error Compensation := do
  let c : Compensation := ⟨form, commissionBps⟩
  revertIf (c.formEnum = none) .invalidInstructionData
  pure c

/-- `parse_denom`. -/
def parseDenom (kind currencyCode : ℕ) : Except Error Denomination := do
  require (kind = DenominationKind.asset ∨ kind = DenominationKind.fiat) .invalidInstructionData
  pure ⟨kind, currencyCode⟩

/-- `asset_denom`. -/
def assetDenom : Denomination := ⟨DenominationKind.asset, 0⟩

/-! ## §4. The configuration account. -/

/-- `require_config_authority`. -/
def requireConfigAuthority (programId : Pubkey) (x : Call) (authority config expected : Pubkey) :
    Except Error Unit := do
  require (config = .pda programId .config) .invalidSeeds
  require (x.isSigner authority) .missingRequiredSignature
  require (authority = expected) (.custom .notOwner)

end Kargain.Svm
