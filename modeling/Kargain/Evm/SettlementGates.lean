/-
  Kargain.Evm.SettlementGates — what the settlement panel offers.

  The client reads the hold and the challenge of a lot, derives a state and
  from it whether each settlement action is available to the account that
  looks (settlement-state.ts, surface.ts).  The mode has a guard for each
  action (AscendingHoldLib, BondedChallenge).

  `guards_of_runs`: an entry point that runs has passed its guards.  Main
  result: `gates_agree_iff`, when the panel offers an action exactly if its
  guards pass.

  Left out: the texts of the panel and its countdowns, and reads that have
  not come back.  `Number` of a time is exact below 2^53.
-/
import Kargain.Evm.HoldIndex

namespace Kargain.Evm

/-! ## §1. The gates. -/

/-- `SettlementActionGate` and `ActionGate`. -/
inductive ActionGate (C : Type) where
  | available
  | blocked (cause : C)
  deriving DecidableEq

/-- The block causes of the four actions on a hold. -/
inductive HoldBlockCause where
  | noHold
  | notBuyer
  | wrongState
  | disputeActive
  | reversalPending
  | holdNotReady
  | noReversalPending
  | notHolder
  | notApproved
  | abandonmentNotReady
  deriving DecidableEq

/-- `ChallengeBlockCause`. -/
inductive ChallengeBlockCause where
  | readsUnresolved
  | notEligible
  | notChallenger
  | partyExcluded
  | notQualified
  | windowActive
  | windowElapsed
  | noChallenge
  | challengeOpen
  | wrongSubjectState
  deriving DecidableEq

/-- `parseAscendingHold`. -/
def parseAscendingHold (reads : Hold) : Option Hold :=
  if reads.buyer = .zero then none else some reads

/-- `parseChallenge`; a window of zero is one that could not be read. -/
def parseChallenge (reads : Challenge) : Option Challenge :=
  if reads.openedAt = 0 then none
  else if reads.challenger = .zero then none
  else some reads

structure AscendingSettlementActions where
  confirmReceipt : ActionGate HoldBlockCause
  releaseFunds : ActionGate HoldBlockCause
  completeReversal : ActionGate HoldBlockCause
  abandonReversal : ActionGate HoldBlockCause

/-- `deriveAscendingSettlementActions`; no hold is the state `NONE`. -/
def deriveAscendingSettlementActions (state : AscendingSettlementState) (hold : Option Hold)
    (viewer : Address) (passportOwner : Option Address) (modeApproved : Bool) :
    AscendingSettlementActions :=
  match hold with
  | none => ⟨.blocked .noHold, .blocked .noHold, .blocked .noHold, .blocked .noHold⟩
  | some hold =>
    let challengeOpen : Bool :=
      state = .challenged ∨ state = .challengeElapsed ∨ state = .challengeUnresolved
    { confirmReceipt :=
        if hold.buyer ≠ viewer then .blocked .notBuyer
        else if hold.reversalPending then .blocked .reversalPending
        else if challengeOpen then .blocked .disputeActive
        else if state ≠ .hold then .blocked .wrongState
        else .available
      releaseFunds :=
        if hold.reversalPending then .blocked .reversalPending
        else if challengeOpen then .blocked .disputeActive
        else if state = .hold then .blocked .holdNotReady
        else if state ≠ .holdReleasable then .blocked .wrongState
        else .available
      completeReversal :=
        if hold.reversalPending = false ∨ state = .reversalExpired then
          .blocked .noReversalPending
        else if hold.buyer ≠ viewer then .blocked .notBuyer
        else if passportOwner ≠ some hold.buyer then .blocked .notHolder
        else if modeApproved = false then .blocked .notApproved
        else .available
      abandonReversal :=
        if hold.reversalPending = false then .blocked .noReversalPending
        else if state = .reversalPending then .blocked .abandonmentNotReady
        else if state = .reversalExpired then .available
        else .blocked .noReversalPending }

/-- `sameAddress`: no two addresses are the same if one is the zero address. -/
def sameAddress (a b : Address) : Bool := a ≠ .zero && b ≠ .zero && a = b

inductive ChallengeExclusionParty where
  | buyer
  | seller
  | agent
  deriving DecidableEq

/-- `exclusionParty` of the settlement instance. -/
def exclusionParty (wallet : Address) (buyer : Option Address) (seller agent : Address) :
    Option ChallengeExclusionParty :=
  if buyer.any (sameAddress wallet) then some .buyer
  else if sameAddress wallet seller then some .seller
  else if sameAddress wallet agent then some .agent
  else none

/-- `isEligibleOpener` of the settlement instance; `none` is a read that is missing. -/
def isEligibleOpener (wallet : Address) (buyer : Option Address) (subjectChallengeable : Bool) :
    Option Bool :=
  buyer.map fun buyer => if subjectChallengeable then sameAddress wallet buyer else false

structure ChallengeSurface where
  «open» : ActionGate ChallengeBlockCause
  withdraw : ActionGate ChallengeBlockCause
  judge : ActionGate ChallengeBlockCause
  conclude : ActionGate ChallengeBlockCause

/-- `deriveChallengeSurface` of the settlement instance. -/
def deriveChallengeSurface (challenge : Option Challenge) (wallet : Address)
    (isActiveVerifier : Bool) (buyer : Option Address) (seller agent : Address)
    (subjectChallengeable : Bool) (nowSec : ℕ) : ChallengeSurface :=
  match challenge with
  | none =>
    { «open» :=
        match isEligibleOpener wallet buyer subjectChallengeable with
        | none => .blocked .readsUnresolved
        | some true => .available
        | some false =>
          if subjectChallengeable then .blocked .notEligible else .blocked .wrongSubjectState
      withdraw := .blocked .noChallenge
      judge := .blocked .noChallenge
      conclude := .blocked .noChallenge }
  | some challenge =>
    match deriveChallengePhase challenge.openedAt challenge.windowDuration nowSec with
    | none => ⟨.blocked .challengeOpen, .blocked .readsUnresolved, .blocked .readsUnresolved,
        .blocked .readsUnresolved⟩
    | some active =>
      let isChallenger := sameAddress challenge.challenger wallet
      { «open» := .blocked .challengeOpen
        withdraw :=
          if isChallenger = false then .blocked .notChallenger
          else if active = false then .blocked .windowElapsed
          else .available
        conclude := if active then .blocked .windowActive else .available
        judge :=
          if active = false then .blocked .windowElapsed
          else if isChallenger ∨ exclusionParty wallet buyer seller agent ≠ none then
            .blocked .partyExcluded
          else if isActiveVerifier = false then .blocked .notQualified
          else .available }

/-- The settlement actions; a judge rules one way or the other. -/
inductive SettlementAction where
  | confirmReceipt
  | releaseFunds
  | completeReversal
  | abandonReversal
  | openChallenge
  | withdraw
  | judge (outcome : JudgeOutcome)
  | conclude
  deriving DecidableEq

namespace Ascending

variable {P : Type} [Erc721 P]

section Gates

variable (w : World P) (viewer : Address) (t : TokenId)

/-- What the panel reads and derives of a lot, for the account that looks. -/
def settlementState : AscendingSettlementState :=
  deriveAscendingSettlementState (w.ext.holds t)
    ((parseChallenge (w.bonds.challenges t)).map fun c => (c.openedAt, c.windowDuration)) w.env.now

def settlementActions : AscendingSettlementActions :=
  deriveAscendingSettlementActions (settlementState w t) (parseAscendingHold (w.ext.holds t))
    viewer (w.ownerOf t) (isEscrowApproved w t viewer)

/-- `subjectChallengeable` is that the state is `HOLD`, which takes a hold. -/
def challengeSurface : ChallengeSurface :=
  deriveChallengeSurface (parseChallenge (w.bonds.challenges t)) viewer
    (w.env.isActiveVerifier viewer) ((parseAscendingHold (w.ext.holds t)).map Hold.buyer)
    (w.com.consignments t).seller (w.com.consignments t).agent
    ((parseAscendingHold (w.ext.holds t)).isSome && settlementState w t = .hold) w.env.now

/-- The panel offers an action. -/
def Offered : SettlementAction → Prop
  | .confirmReceipt => (settlementActions w viewer t).confirmReceipt = .available
  | .releaseFunds => (settlementActions w viewer t).releaseFunds = .available
  | .completeReversal => (settlementActions w viewer t).completeReversal = .available
  | .abandonReversal => (settlementActions w viewer t).abandonReversal = .available
  | .openChallenge => (challengeSurface w viewer t).open = .available
  | .withdraw => (challengeSurface w viewer t).withdraw = .available
  | .judge _ => (challengeSurface w viewer t).judge = .available
  | .conclude => (challengeSurface w viewer t).conclude = .available

end Gates

/-! ## §2. The guards. -/

section Guards

variable (w : World P) (sender : Address) (t : TokenId)

/-- The guards of the entry points, with the bond of the rules for `open`. -/
def guards : SettlementAction → Except Error Unit
  | .confirmReceipt => do
    let h ← requireActiveHold w t
    revertIf (sender ≠ h.buyer) .notHoldBuyer
    revertIf (isChallengeActive w t = true) .disputeActive
    revertIf (h.reversalPending = true) .reversalPending
  | .releaseFunds => do
    let h ← requireActiveHold w t
    revertIf (isChallengeActive w t = true) .disputeActive
    revertIf (h.reversalPending = true) .reversalPending
    revertIf (w.env.now < h.protectionEndsAt) .holdNotReady
  | .completeReversal => do
    let h ← requireActiveHold w t
    revertIf (h.reversalPending = false) .noReversalPending
    revertIf (sender ≠ h.buyer) .notHoldBuyer
    let holder ← passportOwner w t
    revertIf (holder ≠ h.buyer) .notPassportHolder
    let _ ← takeCustody w t h.buyer
    pure ()
  | .abandonReversal => do
    let h ← requireActiveHold w t
    revertIf (h.reversalPending = false) .noReversalPending
    revertIf (w.env.now < h.abandonmentDeadline) .abandonmentNotReady
  | .openChallenge => do
    let h ← requireActiveHold w t
    revertIf (h.reversalPending = true) .reversalPending
    revertIf (h.frozenRemaining ≠ 0) .disputeActive
    revertIf (w.env.now ≥ h.protectionEndsAt) .protectionElapsed
    revertIf (w.bonds.configured = false) .challengeNotConfigured
    revertIf (isChallengeActive w t = true) .disputeActive
    revertIf (challengeHooks.isEligibleChallenger w t sender = false) .notEligibleChallenger
  | .withdraw => do
    let c ← requireActiveChallenge w t
    revertIf (c.challenger ≠ sender) .notDisputeOpener
    requireWithinWindow w c
    revertIf (c.challenger = .zero) .cannotRouteBondToJudge
  | .judge outcome => do
    let c ← requireActiveChallenge w t
    requireWithinWindow w c
    revertIf (challengeHooks.isExcludedJudge w t c.challenger sender = true)
      .cannotResolveOwnDispute
    revertIf (challengeHooks.isQualifiedJudge w t sender = false) .notQualifiedJudge
    revertIf ((if outcome = .upheld then c.challenger else w.bonds.forfeitRecipient) = sender)
      .cannotRouteBondToJudge
    if outcome = .upheld then pure ()
    else do
      let _ ← requireActiveHold w t
      pure ()
  | .conclude => do
    let c ← requireActiveChallenge w t
    requireAfterWindow w c
    revertIf (w.bonds.forfeitRecipient = .zero) .cannotRouteBondToJudge
    let _ ← requireActiveHold w t
    pure ()

/-- The guards pass. -/
def Passes (a : SettlementAction) : Prop := guards w sender t a = .ok ()

/-- The entry points. -/
def entry (value : ℕ) (rs : ℕ → Reply P AscendingStorage) :
    SettlementAction → Except Error (World P)
  | .confirmReceipt => confirmReceiptBody w sender t rs
  | .releaseFunds => releaseFundsBody w sender t rs
  | .completeReversal => completeReversalBody w sender t rs
  | .abandonReversal => abandonReversalBody w sender t rs
  | .openChallenge => openBody w sender value t
  | .withdraw => withdrawBody challengeHooks w sender t rs
  | .judge outcome => judgeBody challengeHooks w sender t outcome rs
  | .conclude => concludeBody challengeHooks w sender t rs

variable {w sender t}

omit [Erc721 P] in
theorem within_ok {c : Challenge} {u : Unit} : requireWithinWindow w c = .ok u ↔
    c.openedAt + c.windowDuration < 2 ^ 256 ∧ w.env.now < c.openedAt + c.windowDuration := by
  unfold requireWithinWindow checkedAdd
  split
  · next hfits =>
    rw [and_iff_right hfits]
    simp [revertIf_ok, bind_ok]
  · next hfits =>
    refine iff_of_false ?_ (fun h => hfits h.1)
    simp [bind_ok]

omit [Erc721 P] in
theorem after_ok {c : Challenge} {u : Unit} : requireAfterWindow w c = .ok u ↔
    c.openedAt + c.windowDuration < 2 ^ 256 ∧ c.openedAt + c.windowDuration ≤ w.env.now := by
  unfold requireAfterWindow checkedAdd
  split
  · next hfits =>
    rw [and_iff_right hfits]
    simp [revertIf_ok, bind_ok]
  · next hfits =>
    refine iff_of_false ?_ (fun h => hfits h.1)
    simp [bind_ok]

omit [Erc721 P] in
theorem hold_ok {h : Hold} : requireActiveHold w t = .ok h ↔
    (w.ext.holds t).buyer ≠ .zero ∧ w.ext.holds t = h := by
  simp only [requireActiveHold, bind_ok, revertIf_ok, exists_const, pure_ok, ne_eq]

omit [Erc721 P] in
theorem challenge_ok {c : Challenge} : requireActiveChallenge w t = .ok c ↔
    (w.bonds.challenges t).openedAt ≠ 0 ∧ w.bonds.challenges t = c := by
  simp only [requireActiveChallenge, isChallengeActive, bind_ok, revertIf_ok, exists_const, pure_ok,
    bne_eq_false_iff_eq, ne_eq]

omit [Erc721 P] in
theorem payNative_ext {σ : Type} {u u' : Evm.World P σ} {dst : Address} {amount : ℕ} {r : Reply P σ}
    (hkeep : ∀ v, (r.reenter v).ext = v.ext) (h : payNative u sender dst amount r = .ok u') :
    u'.ext = u.ext := by
  unfold payNative at h
  split at h
  · cases h
    rfl
  · cases hcall : callValue u dst amount r with | mk ok v =>
    have hv : v.ext = u.ext := by
      unfold callValue at hcall
      split at hcall
      · cases hcall
        exact hkeep _
      · cases hcall
        rfl
    rw [hcall] at h
    change (if ok = true then .ok v else creditClaim v sender dst .zero amount) = .ok u' at h
    split at h
    · obtain rfl := Except.ok.inj h
      exact hv
    · unfold creditClaim at h
      obtain ⟨claim, -, h⟩ := bind_ok.mp h
      dsimp only at h
      rw [if_pos rfl] at h
      obtain ⟨total, -, h⟩ := bind_ok.mp h
      obtain rfl := Except.ok.inj h
      exact hv

theorem passes_confirmReceipt : Passes w sender t .confirmReceipt ↔
    (w.ext.holds t).buyer ≠ .zero ∧ sender = (w.ext.holds t).buyer ∧
      (w.bonds.challenges t).openedAt = 0 ∧ (w.ext.holds t).reversalPending = false := by
  simp only [Passes, guards, bind_ok, revertIf_ok, hold_ok, exists_const]
  simp only [isChallengeActive]
  grind

theorem passes_releaseFunds : Passes w sender t .releaseFunds ↔
    (w.ext.holds t).buyer ≠ .zero ∧ (w.bonds.challenges t).openedAt = 0 ∧
      (w.ext.holds t).reversalPending = false ∧ (w.ext.holds t).protectionEndsAt ≤ w.env.now := by
  simp only [Passes, guards, bind_ok, revertIf_ok, hold_ok, exists_const]
  simp only [isChallengeActive]
  grind

theorem passes_abandonReversal : Passes w sender t .abandonReversal ↔
    (w.ext.holds t).buyer ≠ .zero ∧ (w.ext.holds t).reversalPending = true ∧
      (w.ext.holds t).abandonmentDeadline ≤ w.env.now := by
  simp only [Passes, guards, bind_ok, revertIf_ok, hold_ok, exists_const]
  grind

theorem passes_openChallenge : Passes w sender t .openChallenge ↔
    (w.ext.holds t).buyer ≠ .zero ∧ (w.ext.holds t).reversalPending = false ∧
      (w.ext.holds t).frozenRemaining = 0 ∧ w.env.now < (w.ext.holds t).protectionEndsAt ∧
      w.bonds.configured = true ∧ (w.bonds.challenges t).openedAt = 0 ∧
      sender = (w.ext.holds t).buyer := by
  simp only [Passes, guards, bind_ok, revertIf_ok, hold_ok, exists_const]
  simp only [isChallengeActive, challengeHooks]
  grind

theorem passes_withdraw : Passes w sender t .withdraw ↔
    (w.bonds.challenges t).openedAt ≠ 0 ∧ (w.bonds.challenges t).challenger = sender ∧
      ((w.bonds.challenges t).openedAt + (w.bonds.challenges t).windowDuration < 2 ^ 256 ∧
        w.env.now < (w.bonds.challenges t).openedAt + (w.bonds.challenges t).windowDuration) ∧
      (w.bonds.challenges t).challenger ≠ .zero := by
  simp only [Passes, guards, bind_ok, revertIf_ok, challenge_ok, within_ok, exists_const]
  grind

theorem passes_conclude : Passes w sender t .conclude ↔
    (w.bonds.challenges t).openedAt ≠ 0 ∧
      ((w.bonds.challenges t).openedAt + (w.bonds.challenges t).windowDuration < 2 ^ 256 ∧
        (w.bonds.challenges t).openedAt + (w.bonds.challenges t).windowDuration ≤ w.env.now) ∧
      w.bonds.forfeitRecipient ≠ .zero ∧ (w.ext.holds t).buyer ≠ .zero := by
  simp only [Passes, guards, bind_ok, revertIf_ok, pure_ok, challenge_ok, after_ok, hold_ok,
    exists_const]
  grind

theorem passes_completeReversal : Passes w sender t .completeReversal ↔
    (w.ext.holds t).buyer ≠ .zero ∧ (w.ext.holds t).reversalPending = true ∧
      sender = (w.ext.holds t).buyer ∧ w.ownerOf t = some (w.ext.holds t).buyer ∧
      ((w.ext.holds t).buyer = .self ∨ isEscrowApproved w t (w.ext.holds t).buyer = true) := by
  have hmoves := Erc721.transferFrom_isSome w.env.karPassport.erc721 .self (w.ext.holds t).buyer
    .self t
  have htake : (∃ v, takeCustody w t (w.ext.holds t).buyer = .ok v) ↔
      (Erc721.transferFrom w.env.karPassport.erc721 .self (w.ext.holds t).buyer .self t).isSome := by
    simp only [takeCustody, bind_ok, orRevert_ok, pure_ok, Option.isSome_iff_exists]
    grind
  simp only [Passes, guards, bind_ok, revertIf_ok, pure_ok, hold_ok, passportOwner, orRevert_ok,
    exists_const, and_true]
  simp only [World.ownerOf, isEscrowApproved]
  grind

theorem passes_judge {outcome : JudgeOutcome} : Passes w sender t (.judge outcome) ↔
    (w.bonds.challenges t).openedAt ≠ 0 ∧
      ((w.bonds.challenges t).openedAt + (w.bonds.challenges t).windowDuration < 2 ^ 256 ∧
        w.env.now < (w.bonds.challenges t).openedAt + (w.bonds.challenges t).windowDuration) ∧
      (sender ≠ (w.ext.holds t).buyer ∧ sender ≠ (w.com.consignments t).seller ∧
        ((w.com.consignments t).agent = .zero ∨ sender ≠ (w.com.consignments t).agent)) ∧
      w.env.isActiveVerifier sender = true ∧
      if outcome = .upheld then (w.bonds.challenges t).challenger ≠ sender
      else w.bonds.forfeitRecipient ≠ sender ∧ (w.ext.holds t).buyer ≠ .zero := by
  cases outcome with
  | upheld =>
    simp only [Passes, guards, bind_ok, revertIf_ok, pure_ok, challenge_ok, within_ok,
      exists_const, if_true]
    simp only [challengeHooks]
    grind
  | rejected =>
    simp only [Passes, guards, bind_ok, revertIf_ok, pure_ok, challenge_ok, within_ok, hold_ok,
      exists_const, reduceCtorEq, if_false]
    simp only [challengeHooks]
    grind

/-- **An entry point that runs** has passed its guards, where the pushes on its way leave the
    storage of the mode. -/
theorem guards_of_runs {value : ℕ} {rs : ℕ → Reply P AscendingStorage} {a : SettlementAction}
    {w' : World P} (hkeep : ∀ i v, ((rs i).reenter v).ext = v.ext)
    (h : entry w sender t value rs a = .ok w') : Passes w sender t a := by
  cases a with
  | confirmReceipt =>
    simp only [entry, confirmReceiptBody, bind_ok, revertIf_ok, hold_ok, exists_const] at h
    rw [passes_confirmReceipt]
    simp only [isChallengeActive] at h
    grind
  | releaseFunds =>
    simp only [entry, releaseFundsBody, bind_ok, revertIf_ok, hold_ok, exists_const] at h
    rw [passes_releaseFunds]
    simp only [isChallengeActive] at h
    grind
  | completeReversal =>
    simp only [entry, completeReversalBody, bind_ok, revertIf_ok, hold_ok, exists_const] at h
    simp only [Passes, guards, bind_ok, revertIf_ok, hold_ok, exists_const, pure_ok]
    obtain ⟨hold, hh, hp, hs, holder, hholder, hsame, v, hv, -⟩ := h
    refine ⟨hold, hh, hp, hs, holder, hholder, hsame, ?_⟩
    -- the hold is cleared first, which the registry does not see
    simp only [takeCustody, bind_ok, pure_ok] at hv ⊢
    obtain ⟨p, hmoved, -⟩ := hv
    exact ⟨_, ⟨p, hmoved, rfl⟩, trivial⟩
  | abandonReversal =>
    simp only [entry, abandonReversalBody, bind_ok, revertIf_ok, hold_ok, exists_const] at h
    rw [passes_abandonReversal]
    grind
  | openChallenge =>
    simp only [entry, openBody, freezeForChallenge, openChallenge, bind_ok, revertIf_ok, hold_ok,
      exists_const, pure_ok] at h
    obtain ⟨v, ⟨hold, ⟨hb, rfl⟩, hp, hf, hnow, rfl⟩, hc, _, -, hactive, heligible, -⟩ := h
    have hactive' : ¬ isChallengeActive w t = true := hactive
    have heligible' : ¬ challengeHooks.isEligibleChallenger
        (setHold w t { w.ext.holds t with
          frozenRemaining := u64 ((w.ext.holds t).protectionEndsAt - w.env.now) }) t sender = false :=
      heligible
    rw [passes_openChallenge]
    simp only [challengeHooks, setHold, Function.update_self] at heligible'
    simp only [isChallengeActive] at hactive'
    have hc' : ¬ w.bonds.configured = false := hc
    grind
  | withdraw =>
    simp only [entry, withdrawBody, payBond, bind_ok, revertIf_ok, challenge_ok, within_ok,
      exists_const] at h
    rw [passes_withdraw]
    grind
  | judge outcome =>
    simp only [entry, judgeBody, payBond, clearChallengeAccounting, bind_ok, revertIf_ok,
      challenge_ok, within_ok, exists_const, pure_ok] at h
    obtain ⟨_, -, c, ⟨hactive, rfl⟩, hwithin, hparty, hjudge, v, ⟨total, -, rfl⟩, u, ⟨hbond, hpay⟩,
      hruns⟩ := h
    have hext := payNative_ext (hkeep 0) hpay
    cases outcome with
    | upheld =>
      simp only [Passes, guards, bind_ok, revertIf_ok, challenge_ok, within_ok, exists_const,
        if_true, pure_ok]
      exact ⟨_, ⟨hactive, rfl⟩, hwithin, hparty, hjudge, hbond, trivial⟩
    | rejected =>
      have hheld : (u.ext.holds t).buyer ≠ .zero := by
        simp only [challengeHooks, challengeTerminal, bind_ok, hold_ok] at hruns
        obtain ⟨hold, ⟨hb, -⟩, -⟩ := hruns
        exact hb
      rw [hext] at hheld
      simp only [Passes, guards, bind_ok, revertIf_ok, challenge_ok, within_ok, hold_ok,
        exists_const, reduceCtorEq, if_false, pure_ok]
      exact ⟨_, ⟨hactive, rfl⟩, hwithin, hparty, hjudge, hbond, _, ⟨hheld, rfl⟩, trivial⟩
  | conclude =>
    simp only [entry, concludeBody, payBond, clearChallengeAccounting, bind_ok, revertIf_ok,
      challenge_ok, after_ok, exists_const, pure_ok] at h
    obtain ⟨_, -, c, ⟨hactive, rfl⟩, hafter, v, ⟨total, -, rfl⟩, u, ⟨hbond, hpay⟩, hruns⟩ := h
    have hext := payNative_ext (hkeep 0) hpay
    have hheld : (u.ext.holds t).buyer ≠ .zero := by
      simp only [challengeHooks, challengeTerminal, bind_ok, hold_ok] at hruns
      obtain ⟨hold, ⟨hb, -⟩, -⟩ := hruns
      exact hb
    rw [hext] at hheld
    rw [passes_conclude]
    exact ⟨hactive, hafter, hbond, hheld⟩

end Guards

/-! ## §3. Where they agree. -/

section Agreement

variable {w : World P} {viewer : Caller} {t : TokenId}

/-- The protection of a hold that is not frozen has run out. -/
def Lapsed (h : Hold) (now : ℕ) : Prop :=
  h.frozenRemaining = 0 ∧ 0 < h.protectionEndsAt ∧ h.protectionEndsAt ≤ now

instance (h : Hold) (now : ℕ) : Decidable (Lapsed h now) := inferInstanceAs (Decidable (_ ∧ _))

omit [Erc721 P] in
theorem settlementState_open (hp : (w.ext.holds t).reversalPending = false) :
    parseChallenge (w.bonds.challenges t) = none ∧
        settlementState w t =
          (if Lapsed (w.ext.holds t) w.env.now then .holdReleasable else .hold) ∨
      parseChallenge (w.bonds.challenges t) ≠ none ∧
        (settlementState w t = .challenged ∨ settlementState w t = .challengeElapsed ∨
          settlementState w t = .challengeUnresolved) := by
  unfold settlementState deriveAscendingSettlementState Lapsed
  rw [if_neg (by simp [hp])]
  cases parseChallenge (w.bonds.challenges t) with
  | none =>
    simp only [Option.map_none]
    grind
  | some c =>
    simp only [Option.map_some, deriveChallengePhase]
    grind

omit [Erc721 P] in
theorem settlementState_hold (hp : (w.ext.holds t).reversalPending = false) :
    settlementState w t = .hold ↔
      parseChallenge (w.bonds.challenges t) = none ∧ ¬ Lapsed (w.ext.holds t) w.env.now := by
  have hopen := settlementState_open hp
  grind

omit [Erc721 P] in
theorem settlementState_releasable (hp : (w.ext.holds t).reversalPending = false) :
    settlementState w t = .holdReleasable ↔
      parseChallenge (w.bonds.challenges t) = none ∧ Lapsed (w.ext.holds t) w.env.now := by
  have hopen := settlementState_open hp
  grind

omit [Erc721 P] in
theorem settlementState_challenged (hp : (w.ext.holds t).reversalPending = false) :
    (settlementState w t = .challenged ∨ settlementState w t = .challengeElapsed ∨
      settlementState w t = .challengeUnresolved) ↔
        parseChallenge (w.bonds.challenges t) ≠ none := by
  have hopen := settlementState_open hp
  grind

omit [Erc721 P] in
theorem settlementState_expired (hp : (w.ext.holds t).reversalPending = true) :
    (settlementState w t = .reversalExpired ↔ 0 < (w.ext.holds t).abandonmentDeadline ∧
      (w.ext.holds t).abandonmentDeadline ≤ w.env.now) ∧
    (settlementState w t = .reversalPending ↔ ¬ (0 < (w.ext.holds t).abandonmentDeadline ∧
      (w.ext.holds t).abandonmentDeadline ≤ w.env.now)) := by
  unfold settlementState deriveAscendingSettlementState
  rw [if_pos hp]
  grind

theorem offered_confirmReceipt : Offered w viewer.addr t .confirmReceipt ↔
    (w.ext.holds t).buyer ≠ .zero ∧ viewer.addr = (w.ext.holds t).buyer ∧
      (w.ext.holds t).reversalPending = false ∧
      parseChallenge (w.bonds.challenges t) = none ∧ ¬ Lapsed (w.ext.holds t) w.env.now := by
  unfold Offered settlementActions deriveAscendingSettlementActions parseAscendingHold
  by_cases hb : (w.ext.holds t).buyer = .zero
  · simp [hb]
  cases hp : (w.ext.holds t).reversalPending with
  | true =>
    simp only [if_neg hb, hp]
    grind
  | false =>
    have hhold := settlementState_hold hp
    have hopen := settlementState_challenged hp
    simp only [if_neg hb, hp]
    grind

theorem offered_releaseFunds : Offered w viewer.addr t .releaseFunds ↔
    (w.ext.holds t).buyer ≠ .zero ∧ (w.ext.holds t).reversalPending = false ∧
      parseChallenge (w.bonds.challenges t) = none ∧ Lapsed (w.ext.holds t) w.env.now := by
  unfold Offered settlementActions deriveAscendingSettlementActions parseAscendingHold
  by_cases hb : (w.ext.holds t).buyer = .zero
  · simp [hb]
  cases hp : (w.ext.holds t).reversalPending with
  | true =>
    simp only [if_neg hb, hp]
    grind
  | false =>
    have hrelease := settlementState_releasable hp
    have hopen := settlementState_challenged hp
    simp only [if_neg hb, hp]
    grind

theorem offered_completeReversal : Offered w viewer.addr t .completeReversal ↔
    (w.ext.holds t).buyer ≠ .zero ∧ (w.ext.holds t).reversalPending = true ∧
      ¬ (0 < (w.ext.holds t).abandonmentDeadline ∧
        (w.ext.holds t).abandonmentDeadline ≤ w.env.now) ∧
      viewer.addr = (w.ext.holds t).buyer ∧ w.ownerOf t = some (w.ext.holds t).buyer ∧
      isEscrowApproved w t viewer.addr = true := by
  unfold Offered settlementActions deriveAscendingSettlementActions parseAscendingHold
  by_cases hb : (w.ext.holds t).buyer = .zero
  · simp [hb]
  cases hp : (w.ext.holds t).reversalPending with
  | true =>
    have hexpired := (settlementState_expired hp).1
    simp only [if_neg hb, hp]
    grind
  | false =>
    simp only [if_neg hb, hp]
    grind

theorem offered_abandonReversal : Offered w viewer.addr t .abandonReversal ↔
    (w.ext.holds t).buyer ≠ .zero ∧ (w.ext.holds t).reversalPending = true ∧
      0 < (w.ext.holds t).abandonmentDeadline ∧
      (w.ext.holds t).abandonmentDeadline ≤ w.env.now := by
  unfold Offered settlementActions deriveAscendingSettlementActions parseAscendingHold
  by_cases hb : (w.ext.holds t).buyer = .zero
  · simp [hb]
  cases hp : (w.ext.holds t).reversalPending with
  | true =>
    obtain ⟨hexpired, hpending⟩ := settlementState_expired hp
    simp only [if_neg hb, hp]
    grind
  | false =>
    simp only [if_neg hb, hp]
    grind

/-- A challenge that the client can read. -/
def Readable (c : Challenge) : Prop := c.openedAt ≠ 0 ∧ c.challenger ≠ .zero

instance (c : Challenge) : Decidable (Readable c) := inferInstanceAs (Decidable (_ ∧ _))

theorem parseChallenge_eq (c : Challenge) :
    parseChallenge c = if Readable c then some c else none := by
  unfold parseChallenge Readable
  grind

theorem sameAddress_viewer (viewer : Caller) (a : Address) :
    (sameAddress viewer.addr a = true ↔ viewer.addr = a) ∧
      (sameAddress a viewer.addr = true ↔ viewer.addr = a) := by
  have hzero := viewer.ne_zero
  simp only [sameAddress, Bool.and_eq_true, decide_eq_true_eq]
  grind

theorem offered_openChallenge : Offered w viewer.addr t .openChallenge ↔
    (w.ext.holds t).buyer ≠ .zero ∧ viewer.addr = (w.ext.holds t).buyer ∧
      (w.ext.holds t).reversalPending = false ∧
      ¬ Readable (w.bonds.challenges t) ∧ ¬ Lapsed (w.ext.holds t) w.env.now := by
  have hsame := (sameAddress_viewer viewer (w.ext.holds t).buyer).1
  have hparse := parseChallenge_eq (w.bonds.challenges t)
  unfold Offered challengeSurface deriveChallengeSurface isEligibleOpener parseAscendingHold
  by_cases hread : Readable (w.bonds.challenges t)
  · rw [if_pos hread] at hparse
    rw [hparse]
    simp only [hread, not_true_eq_false, false_and, and_false, iff_false]
    grind
  rw [if_neg hread] at hparse
  rw [hparse]
  by_cases hb : (w.ext.holds t).buyer = .zero
  · simp [hb]
  cases hp : (w.ext.holds t).reversalPending with
  | true =>
    have hexpired := settlementState_expired hp
    simp only [if_neg hb]
    grind
  | false =>
    have hhold := settlementState_hold hp
    simp only [if_neg hb]
    grind

theorem offered_withdraw : Offered w viewer.addr t .withdraw ↔
    Readable (w.bonds.challenges t) ∧ viewer.addr = (w.bonds.challenges t).challenger ∧
      0 < (w.bonds.challenges t).windowDuration ∧
      w.env.now < (w.bonds.challenges t).openedAt + (w.bonds.challenges t).windowDuration := by
  have hsame := (sameAddress_viewer viewer (w.bonds.challenges t).challenger).2
  unfold Offered challengeSurface deriveChallengeSurface
  rw [parseChallenge_eq]
  by_cases hread : Readable (w.bonds.challenges t)
  · simp only [if_pos hread, deriveChallengePhase]
    grind
  · simp only [if_neg hread]
    grind

theorem offered_conclude : Offered w viewer.addr t .conclude ↔
    Readable (w.bonds.challenges t) ∧ 0 < (w.bonds.challenges t).windowDuration ∧
      (w.bonds.challenges t).openedAt + (w.bonds.challenges t).windowDuration ≤ w.env.now := by
  unfold Offered challengeSurface deriveChallengeSurface
  rw [parseChallenge_eq]
  by_cases hread : Readable (w.bonds.challenges t)
  · simp only [if_pos hread, deriveChallengePhase]
    grind
  · simp only [if_neg hread]
    grind

/-- The viewer is neither the buyer nor the seller nor the agent of the lot. -/
def Outsider (w : World P) (viewer : Address) (t : TokenId) : Prop :=
  viewer ≠ (w.ext.holds t).buyer ∧ viewer ≠ (w.com.consignments t).seller ∧
    viewer ≠ (w.com.consignments t).agent

omit [Erc721 P] in
theorem exclusionParty_none (w : World P) (viewer : Caller) (t : TokenId) : exclusionParty viewer.addr
    ((parseAscendingHold (w.ext.holds t)).map Hold.buyer) (w.com.consignments t).seller
    (w.com.consignments t).agent = none ↔ Outsider w viewer.addr t := by
  have hbuyer := (sameAddress_viewer viewer (w.ext.holds t).buyer).1
  have hseller := (sameAddress_viewer viewer (w.com.consignments t).seller).1
  have hagent := (sameAddress_viewer viewer (w.com.consignments t).agent).1
  have hzero := viewer.ne_zero
  unfold exclusionParty parseAscendingHold Outsider
  by_cases hb : (w.ext.holds t).buyer = .zero
  · simp only [if_pos hb]
    grind
  · simp only [if_neg hb]
    grind

theorem offered_judge {outcome : JudgeOutcome} : Offered w viewer.addr t (.judge outcome) ↔
    Readable (w.bonds.challenges t) ∧ 0 < (w.bonds.challenges t).windowDuration ∧
      w.env.now < (w.bonds.challenges t).openedAt + (w.bonds.challenges t).windowDuration ∧
      viewer.addr ≠ (w.bonds.challenges t).challenger ∧ Outsider w viewer.addr t ∧
      w.env.isActiveVerifier viewer.addr = true := by
  have hsame := (sameAddress_viewer viewer (w.bonds.challenges t).challenger).2
  have hparty := exclusionParty_none w viewer t
  unfold Offered challengeSurface deriveChallengeSurface
  rw [parseChallenge_eq]
  by_cases hread : Readable (w.bonds.challenges t)
  · simp only [if_pos hread, deriveChallengePhase]
    grind
  · simp only [if_neg hread]
    grind

/-- When the panel and the guards agree on an action. -/
def Agrees (w : World P) (viewer : Address) (t : TokenId) : SettlementAction → Prop
  | .confirmReceipt =>
    (w.ext.holds t).buyer ≠ .zero → viewer = (w.ext.holds t).buyer →
      (w.ext.holds t).reversalPending = false →
      if (w.bonds.challenges t).openedAt = 0 then ¬ Lapsed (w.ext.holds t) w.env.now
      else Readable (w.bonds.challenges t) ∨ Lapsed (w.ext.holds t) w.env.now
  | .releaseFunds =>
    (w.ext.holds t).buyer ≠ .zero → (w.ext.holds t).reversalPending = false →
      (w.ext.holds t).protectionEndsAt ≤ w.env.now →
      if (w.bonds.challenges t).openedAt = 0 then Lapsed (w.ext.holds t) w.env.now
      else Readable (w.bonds.challenges t) ∨ ¬ Lapsed (w.ext.holds t) w.env.now
  | .completeReversal =>
    (w.ext.holds t).buyer ≠ .zero → (w.ext.holds t).reversalPending = true →
      viewer = (w.ext.holds t).buyer → w.ownerOf t = some (w.ext.holds t).buyer →
      isEscrowApproved w t viewer = true →
      (w.ext.holds t).abandonmentDeadline = 0 ∨ w.env.now < (w.ext.holds t).abandonmentDeadline
  | .abandonReversal =>
    (w.ext.holds t).buyer ≠ .zero → (w.ext.holds t).reversalPending = true →
      (w.ext.holds t).abandonmentDeadline ≠ 0
  | .openChallenge =>
    (w.ext.holds t).buyer ≠ .zero → viewer = (w.ext.holds t).buyer →
      (w.ext.holds t).reversalPending = false →
      if (w.bonds.challenges t).openedAt = 0 then
        (w.ext.holds t).frozenRemaining = 0 ∧ (w.ext.holds t).protectionEndsAt ≠ 0 ∧
          (w.env.now < (w.ext.holds t).protectionEndsAt → w.bonds.configured = true)
      else Readable (w.bonds.challenges t) ∨ Lapsed (w.ext.holds t) w.env.now
  | .withdraw =>
    Readable (w.bonds.challenges t) → viewer = (w.bonds.challenges t).challenger →
      w.env.now < (w.bonds.challenges t).openedAt + (w.bonds.challenges t).windowDuration →
      (0 < (w.bonds.challenges t).windowDuration ↔
        (w.bonds.challenges t).openedAt + (w.bonds.challenges t).windowDuration < 2 ^ 256)
  | .judge outcome =>
    (w.bonds.challenges t).openedAt ≠ 0 →
      w.env.now < (w.bonds.challenges t).openedAt + (w.bonds.challenges t).windowDuration →
      Outsider w viewer t → w.env.isActiveVerifier viewer = true →
      (Readable (w.bonds.challenges t) ∧ 0 < (w.bonds.challenges t).windowDuration ∧
          viewer ≠ (w.bonds.challenges t).challenger ↔
        (w.bonds.challenges t).openedAt + (w.bonds.challenges t).windowDuration < 2 ^ 256 ∧
          if outcome = .upheld then viewer ≠ (w.bonds.challenges t).challenger
          else viewer ≠ w.bonds.forfeitRecipient ∧ (w.ext.holds t).buyer ≠ .zero)
  | .conclude =>
    (w.bonds.challenges t).openedAt ≠ 0 →
      (w.bonds.challenges t).openedAt + (w.bonds.challenges t).windowDuration ≤ w.env.now →
      (Readable (w.bonds.challenges t) ∧ 0 < (w.bonds.challenges t).windowDuration ↔
        (w.bonds.challenges t).openedAt + (w.bonds.challenges t).windowDuration < 2 ^ 256 ∧
          w.bonds.forfeitRecipient ≠ .zero ∧ (w.ext.holds t).buyer ≠ .zero)

end Agreement

/-- **The panel and the guards.**  An action is offered exactly if its guards pass, for the
    records, the clock and the account that `Agrees` describes. -/
theorem gates_agree_iff (w : World P) (viewer : Caller) (t : TokenId) (a : SettlementAction) :
    (Offered w viewer.addr t a ↔ Passes w viewer.addr t a) ↔ Agrees w viewer.addr t a := by
  have hzero := viewer.ne_zero
  have hself := viewer.ne_self
  cases a with
  | confirmReceipt =>
    rw [offered_confirmReceipt, passes_confirmReceipt, parseChallenge_eq]
    unfold Agrees Readable
    grind
  | releaseFunds =>
    rw [offered_releaseFunds, passes_releaseFunds, parseChallenge_eq]
    unfold Agrees Readable Lapsed
    grind
  | completeReversal =>
    rw [offered_completeReversal, passes_completeReversal]
    unfold Agrees
    grind
  | abandonReversal =>
    rw [offered_abandonReversal, passes_abandonReversal]
    unfold Agrees
    grind
  | openChallenge =>
    rw [offered_openChallenge, passes_openChallenge]
    unfold Agrees Readable Lapsed
    grind
  | withdraw =>
    rw [offered_withdraw, passes_withdraw]
    unfold Agrees Readable
    grind
  | judge outcome =>
    rw [offered_judge, passes_judge]
    unfold Agrees Readable Outsider
    grind
  | conclude =>
    rw [offered_conclude, passes_conclude]
    unfold Agrees Readable
    grind

/-- The protection of a settled lot runs out, and nobody has released the funds. -/
def lapsedLot : List (Action Call) := settledLot ++ [.tick minProtectionWindow]

/-- **The panel withholds what the mode allows**: the buyer of a lot whose protection has run out
    can confirm receipt, and is not offered to. -/
theorem gates_disagree : ¬ ∀ (w : World Registry) (viewer : Caller) (t : TokenId)
    (a : SettlementAction), Reachable mode.step Genesis w →
      (Offered w viewer.addr t a ↔ Passes w viewer.addr t a) := by
  intro h
  have hiff := h (finalState mode.step smallGenesis lapsedLot) (.account 3) 7 .confirmReceipt
    ⟨smallGenesis, _, smallGenesis_genesis, run_finalState (by decide +kernel)⟩
  rw [offered_confirmReceipt, passes_confirmReceipt] at hiff
  have hlapsed : Lapsed ((finalState mode.step smallGenesis lapsedLot).ext.holds 7)
      (finalState mode.step smallGenesis lapsedLot).env.now := by decide +kernel
  have hpasses : ((finalState mode.step smallGenesis lapsedLot).ext.holds 7).buyer ≠ .zero ∧
      (Caller.account 3).addr = ((finalState mode.step smallGenesis lapsedLot).ext.holds 7).buyer ∧
      ((finalState mode.step smallGenesis lapsedLot).bonds.challenges 7).openedAt = 0 ∧
      ((finalState mode.step smallGenesis lapsedLot).ext.holds 7).reversalPending = false := by
    decide +kernel
  exact (hiff.mpr hpasses).2.2.2.2 hlapsed

end Ascending

end Kargain.Evm
