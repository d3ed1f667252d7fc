/-
  Kargain.Evm.BondedChallenge — the bonded challenge primitive.

  BondedChallenge.sol: open with an exact bond, then one of withdraw
  (challenger, inside the window), judge (a qualified third party, inside
  the window) and conclude (anyone, after it).  Each terminal clears the
  challenge, routes the bond and only then runs the instance's handler.
-/
import Kargain.Evm.ConsignmentBase

namespace Kargain.Evm

variable {P σ : Type}

/-- The instance hooks of BondedChallenge.  A handler gets the sender and the replies of
    the external calls that come after the bond payment. -/
structure ChallengeHooks (P σ : Type) where
  requiredBondAmount : World P σ → ℕ
  actionAllowed : World P σ → TokenId → Except Error Unit
  isEligibleChallenger : World P σ → TokenId → Address → Bool
  isQualifiedJudge : World P σ → TokenId → Address → Bool
  isExcludedJudge : World P σ → TokenId → Address → Address → Bool
  onUpheld : World P σ → Address → TokenId → Except Error (World P σ)
  onRejected : World P σ → Address → TokenId → (ℕ → Reply P σ) → Except Error (World P σ)
  onExpired : World P σ → Address → TokenId → (ℕ → Reply P σ) → Except Error (World P σ)
  onWithdrawn : World P σ → Address → TokenId → Except Error (World P σ)

def World.setChallenge (w : World P σ) (t : TokenId) (c : Challenge) (total : ℕ) :
    World P σ :=
  { w with bonds := { w.bonds with
      challenges := Function.update w.bonds.challenges t c
      totalLockedBonds := total } }

def isChallengeActive (w : World P σ) (t : TokenId) : Bool :=
  (w.bonds.challenges t).openedAt != 0

/-- `_openChallenge`. -/
def openChallenge (C : ChallengeHooks P σ) (w : World P σ) (sender : Address) (t : TokenId)
    (value : ℕ) : Except Error (World P σ) := do
  revertIf (w.bonds.configured = false) .challengeNotConfigured
  C.actionAllowed w t
  revertIf (isChallengeActive w t = true) .disputeActive
  revertIf (C.isEligibleChallenger w t sender = false) .notEligibleChallenger
  revertIf (value ≠ C.requiredBondAmount w) .wrongValue
  let total ← checkedAdd w.bonds.totalLockedBonds value
  pure ((w.setChallenge t ⟨w.env.now, w.bonds.windowDuration, sender, value⟩ total).emit sender
    (.challengeOpened t sender value w.bonds.windowDuration w.env.now))

/-- `_requireActiveChallenge`. -/
def requireActiveChallenge (w : World P σ) (t : TokenId) : Except Error Challenge := do
  revertIf (isChallengeActive w t = false) .noActiveDispute
  pure (w.bonds.challenges t)

def requireWithinWindow (w : World P σ) (c : Challenge) : Except Error Unit := do
  let ends ← checkedAdd c.openedAt c.windowDuration
  revertIf (w.env.now ≥ ends) .disputeWindowElapsed

def requireAfterWindow (w : World P σ) (c : Challenge) : Except Error Unit := do
  let ends ← checkedAdd c.openedAt c.windowDuration
  revertIf (w.env.now < ends) .disputeWindowActive

/-- `_clearChallengeAccounting`. -/
def clearChallengeAccounting (w : World P σ) (t : TokenId) (bondAmount : ℕ) :
    Except Error (World P σ) := do
  let total ← checkedSub w.bonds.totalLockedBonds bondAmount
  pure (w.setChallenge t .empty total)

/-- `_payBond`. -/
def payBond (w : World P σ) (sender recipient judgeCaller : Address) (amount : ℕ)
    (r : Reply P σ) : Except Error (World P σ) := do
  revertIf (recipient = judgeCaller) .cannotRouteBondToJudge
  payNative w sender recipient amount r

/-- Body of `withdraw`. -/
def withdrawBody (C : ChallengeHooks P σ) (w : World P σ) (sender : Address) (t : TokenId)
    (rs : ℕ → Reply P σ) : Except Error (World P σ) := do
  C.actionAllowed w t
  let c ← requireActiveChallenge w t
  revertIf (c.challenger ≠ sender) .notDisputeOpener
  requireWithinWindow w c
  let w ← clearChallengeAccounting w t c.bondAmount
  let w ← payBond w sender c.challenger .zero c.bondAmount (rs 0)
  C.onWithdrawn (w.emit sender
    (.challengeWithdrawn t c.challenger c.bondAmount c.windowDuration c.openedAt)) sender t

/-- Body of `judge`. -/
def judgeBody (C : ChallengeHooks P σ) (w : World P σ) (sender : Address) (t : TokenId)
    (outcome : JudgeOutcome) (rs : ℕ → Reply P σ) : Except Error (World P σ) := do
  C.actionAllowed w t
  let c ← requireActiveChallenge w t
  requireWithinWindow w c
  revertIf (C.isExcludedJudge w t c.challenger sender = true) .cannotResolveOwnDispute
  revertIf (C.isQualifiedJudge w t sender = false) .notQualifiedJudge
  let bondRecipient :=
    if outcome = .upheld then c.challenger else w.bonds.forfeitRecipient
  let w ← clearChallengeAccounting w t c.bondAmount
  let w ← payBond w sender bondRecipient sender c.bondAmount (rs 0)
  let w := w.emit sender (.challengeJudged t c.challenger sender outcome bondRecipient
    c.bondAmount c.windowDuration c.openedAt)
  match outcome with
  | .upheld => C.onUpheld w sender t
  | .rejected => C.onRejected w sender t (fun i => rs (i + 1))

/-- Body of `conclude`. -/
def concludeBody (C : ChallengeHooks P σ) (w : World P σ) (sender : Address) (t : TokenId)
    (rs : ℕ → Reply P σ) : Except Error (World P σ) := do
  C.actionAllowed w t
  let c ← requireActiveChallenge w t
  requireAfterWindow w c
  let w ← clearChallengeAccounting w t c.bondAmount
  let w ← payBond w sender w.bonds.forfeitRecipient .zero c.bondAmount (rs 0)
  C.onExpired (w.emit sender (.challengeConcluded t c.challenger w.bonds.forfeitRecipient
    c.bondAmount c.windowDuration c.openedAt)) sender t (fun i => rs (i + 1))

end Kargain.Evm
