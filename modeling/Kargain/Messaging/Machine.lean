/-
  Kargain.Messaging.Machine — lib/messaging/machine.ts (MachineState,
  transitionMachine) and lib/messaging/reconcile.ts.

  The session's state and its events, and the plan that is read off the
  state: what the runner of `Messaging.Runner` does next.  The view of the
  state (`projectSnapshot`) is not modelled; nothing here reads it.

  A client handle is a number: the session never looks inside one.
-/
import Mathlib

namespace Kargain.Messaging

abbrev Text := List Char

/-- An opaque handle of a local client. -/
abbrev XmtpLocalClient := ℕ

/-! ## §1. The state. -/

inductive SessionReason
  | buildFailed | notRegistered | timeout | opfsLock | installationLimit | publishFailed
  | createCancelled | unknown
deriving DecidableEq

inductive ReconcilingOp
  | intent | sdk | build | create | publish | revoke
deriving DecidableEq

/-- `boolean | null`. -/
abbrev IntentValue := Option Bool

inductive RegistrationStatus
  | unknown | registered | unregistered
deriving DecidableEq

structure InFlightOp where
  op : ReconcilingOp
  deadlineMs : ℕ
  generation : ℕ
deriving DecidableEq

inductive RevokeMode
  | others | all
deriving DecidableEq

/-- The stages of a reset. -/
inductive ResetStage
  | revoke | create
deriving DecidableEq

structure MachineState where
  generation : ℕ
  address : Text
  intent : IntentValue
  intentLoaded : Bool
  intentKnown : Bool
  registrationStatus : RegistrationStatus
  localClient : Option XmtpLocalClient
  localBuildReason : Option SessionReason
  inFlight : Option InFlightOp
  publishPending : Bool
  /-- `"publish_failed"` or null -/
  publishError : Bool
  awaitingSignature : Option SessionReason
  lastError : Option SessionReason
  lastErrorCause : Option Text
  resetChain : Option ResetStage
  revokeMode : Option RevokeMode
  revokeAllCooldown : Bool
  storageDurable : Option Bool
  enableRequested : Bool
  disableRequested : Bool
  resetRequested : Bool
  clientDemand : ℕ
deriving DecidableEq

def createInitialMachineState (address : Text) : MachineState where
  generation := 1
  address := address
  intent := none
  intentLoaded := false
  intentKnown := false
  registrationStatus := .unknown
  localClient := none
  localBuildReason := none
  inFlight := none
  publishPending := false
  publishError := false
  awaitingSignature := none
  lastError := none
  lastErrorCause := none
  resetChain := none
  revokeMode := none
  revokeAllCooldown := false
  storageDurable := none
  enableRequested := false
  disableRequested := false
  resetRequested := false
  clientDemand := 0

/-! ## §2. The events. -/

inductive MachineEvent
  | generationBumped (generation : ℕ)
  | intentLoaded (intent : IntentValue)
  | intentUnanswered
  | registrationSet (status : RegistrationStatus)
  | localClientSet (client : Option XmtpLocalClient) (reason : Option SessionReason)
  | effectStarted (op : ReconcilingOp) (deadlineMs generation : ℕ)
  | effectCleared
  | publishPendingSet (pending : Bool)
  | publishErrorSet (error : Bool)
  | awaitingSignatureSet (reason : Option SessionReason)
  /-- The cause is left out, null or a text. -/
  | lastErrorSet (reason : Option SessionReason) (cause : Option (Option Text))
  | resetChainSet (stage : Option ResetStage)
  | revokeModeSet (mode : Option RevokeMode)
  | revokeAllCooldownSet (blocked : Bool)
  | storageDurableSet (durable : Bool)
  | enableRequested
  | disableRequested
  | resetRequested
  | enableCleared
  | disableCleared
  | resetCleared
  /-- One more surface needs a client, or one less. -/
  | clientDemandDelta (up : Bool)
deriving DecidableEq

def transitionMachine (state : MachineState) : MachineEvent → MachineState
  | .generationBumped generation =>
    { createInitialMachineState state.address with generation := generation }
  | .intentLoaded intent =>
    { state with intent := intent, intentLoaded := true, intentKnown := true }
  | .intentUnanswered => { state with intentLoaded := true }
  | .registrationSet status => { state with registrationStatus := status }
  | .localClientSet client reason =>
    { state with
      localClient := client
      localBuildReason := if client.isSome then none else reason.or state.localBuildReason }
  | .effectStarted op deadlineMs generation =>
    { state with
      inFlight := some ⟨op, deadlineMs, generation⟩
      awaitingSignature := none, lastError := none, lastErrorCause := none }
  | .effectCleared => { state with inFlight := none }
  | .publishPendingSet pending => { state with publishPending := pending }
  | .publishErrorSet error => { state with publishError := error }
  | .awaitingSignatureSet reason => { state with awaitingSignature := reason }
  | .lastErrorSet reason cause =>
    { state with
      lastError := reason
      lastErrorCause :=
        match reason, cause with
        | none, _ => none
        | some _, some cause => cause
        | some .unknown, none => state.lastErrorCause
        | some _, none => none }
  | .resetChainSet stage => { state with resetChain := stage }
  | .revokeModeSet mode => { state with revokeMode := mode }
  | .revokeAllCooldownSet blocked => { state with revokeAllCooldown := blocked }
  | .storageDurableSet durable => { state with storageDurable := some durable }
  | .enableRequested => { state with enableRequested := true, disableRequested := false }
  | .disableRequested => { state with disableRequested := true, enableRequested := false }
  | .resetRequested => { state with resetRequested := true }
  | .enableCleared => { state with enableRequested := false }
  | .disableCleared => { state with disableRequested := false }
  | .resetCleared =>
    { state with resetRequested := false, resetChain := none, revokeMode := none }
  -- `Math.max(0, demand + delta)`
  | .clientDemandDelta up =>
    { state with clientDemand := if up then state.clientDemand + 1 else state.clientDemand - 1 }

/-! ## §3. The plan. -/

inductive ReconcilePlan
  | idle
  | run (effect : ReconcilingOp) (publishValue : Option Bool)
  | awaitSignature (reason : SessionReason)
deriving DecidableEq

def wantsMessaging (state : MachineState) : Bool :=
  if state.disableRequested then false
  else if state.enableRequested then true
  else state.intent = some true

def hasClientDemand (state : MachineState) : Bool := 0 < state.clientDemand

def shouldBuild (state : MachineState) : Bool :=
  if !wantsMessaging state then false
  else if !hasClientDemand state then false
  else if state.localClient.isSome then false
  else if state.localBuildReason.isSome then false
  else if state.awaitingSignature.isSome || state.lastError.isSome then false
  else if state.registrationStatus = .unregistered then false
  else true

def shouldCreate (state : MachineState) : Bool :=
  if !hasClientDemand state then false
  else if state.localClient.isSome then false
  else if state.resetChain = some .create then true
  else if !wantsMessaging state then false
  else if !state.enableRequested then false
  else state.registrationStatus = .unregistered

def shouldPublishTrue (state : MachineState) : Bool :=
  if state.publishPending then true
  else state.enableRequested && state.localClient.isSome && state.intent ≠ some true

def shouldPublishFalse (state : MachineState) : Bool := state.disableRequested

/-- The tail of `reconcile`: a client is built or created, or a signature waited for. -/
def reconcileClient (state : MachineState) (moduleReady : Bool) : ReconcilePlan :=
  if (shouldBuild state || shouldCreate state) && !moduleReady then .run .sdk none
  else if shouldBuild state then .run .build none
  else if shouldCreate state then .run .create none
  else if wantsMessaging state && state.registrationStatus = .unregistered &&
      state.localClient.isNone && state.intent = some true && !state.enableRequested then
    .awaitSignature .notRegistered
  else if wantsMessaging state && state.localBuildReason = some .buildFailed &&
      state.localClient.isNone && !state.enableRequested then
    .awaitSignature .buildFailed
  else .idle

/-- The part of `reconcile` behind the reset. -/
def reconcileIntent (state : MachineState) (moduleReady : Bool) : ReconcilePlan :=
  if shouldPublishFalse state then .run .publish (some false)
  else if state.publishError && state.localClient.isSome then .idle
  else if shouldPublishTrue state then .run .publish (some true)
  else if !state.intentLoaded || !state.intentKnown then .idle
  else if state.intent = none && !state.enableRequested then .idle
  else if state.intent = some false && !state.enableRequested then .idle
  else if state.awaitingSignature.isSome && !state.enableRequested then .idle
  else if state.lastError.isSome && state.localClient.isNone then .idle
  else if state.localBuildReason = some .opfsLock && state.localClient.isNone then .idle
  else reconcileClient state moduleReady

def reconcile (state : MachineState) (moduleReady : Bool) : ReconcilePlan :=
  if state.inFlight.isSome then .idle
  else if state.resetRequested || state.resetChain.isSome then
    match state.resetChain with
    | some .create => if !moduleReady then .run .sdk none else .run .create none
    | some .revoke => .run .revoke none
    | none => .run .revoke none
  else reconcileIntent state moduleReady

/-! ## §4. What an outcome means to the state. -/

inductive BuildFailure
  | buildFailed | opfsLock | notRegistered
deriving DecidableEq

inductive BuildLocalResult
  | ok (client : XmtpLocalClient)
  | failed (reason : BuildFailure)
deriving DecidableEq

inductive CreateFailureReason
  | installationLimit | opfsLock | createCancelled | buildFailed
deriving DecidableEq

inductive CreateWithSignerResult
  | ok (client : XmtpLocalClient)
  | failed (reason : CreateFailureReason)
deriving DecidableEq

structure BuildMapped where
  client : Option XmtpLocalClient
  reason : Option SessionReason
  awaiting : Option SessionReason
  lastError : Option SessionReason
  registrationStatus : Option RegistrationStatus
deriving DecidableEq

def applyBuildResult : BuildLocalResult → BuildMapped
  | .ok client => ⟨some client, none, none, none, some .registered⟩
  | .failed .notRegistered =>
    ⟨none, some .notRegistered, some .notRegistered, none, some .unregistered⟩
  | .failed .opfsLock => ⟨none, some .opfsLock, none, some .opfsLock, none⟩
  | .failed .buildFailed => ⟨none, some .buildFailed, some .buildFailed, none, none⟩

structure CreateMapped where
  client : Option XmtpLocalClient
  awaiting : Option SessionReason
  lastError : Option SessionReason
  registrationStatus : Option RegistrationStatus
deriving DecidableEq

/-- `resetChain` of the result is null throughout, and nobody reads it. -/
def applyCreateResult : CreateWithSignerResult → CreateMapped
  | .ok client => ⟨some client, none, none, some .registered⟩
  | .failed .installationLimit => ⟨none, some .installationLimit, none, none⟩
  | .failed .createCancelled => ⟨none, some .createCancelled, none, none⟩
  | .failed .opfsLock => ⟨none, none, some .opfsLock, none⟩
  | .failed .buildFailed => ⟨none, some .buildFailed, none, none⟩

def intentAfterDisable : IntentValue := some false

def intentAfterEnablePublish : IntentValue := some true

end Kargain.Messaging
