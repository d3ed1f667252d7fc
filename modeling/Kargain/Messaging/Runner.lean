/-
  Kargain.Messaging.Runner — lib/messaging/effects.ts, createEffectsRunner.

  The runner holds the machine's state, runs one effect at a time and
  re-plans after each.  An effect is a chain of port calls; the code
  between two awaits runs at once, so a step of the model is one command,
  one run of the queued loop, or what follows on one settled call.  Any
  call may settle at any later step, as it likes, or never.

  What the ports show in a step, the cache and the clock among them, is
  read from the step (`Seen`).  `calls` is the log of the calls to the
  ports, newest first, and `closed` that of `closeLocal`.  A client that
  a call returns is one no earlier call has returned.
-/
import Mathlib
import Kargain.Messaging.Machine

namespace Kargain.Messaging

def buildDeadlineMs : ℕ := 10000

def reconcilingHintMs : ℕ := 5000

def revokeAllCooldownMs : ℕ := 24 * 60 * 60 * 1000

/-- `Number.MAX_SAFE_INTEGER`. -/
def maxSafeInteger : ℕ := 2 ^ 53 - 1

/-! ## §1. The ports. -/

inductive SessionCommand
  | enable | disable | resetIdentity | revokeAllInstallations | retry | cancel
deriving DecidableEq

inductive MessagingWalletKind
  | eoa | eip7702 | contract
deriving DecidableEq

/-- What the ports, the cache and the clock show in a step. -/
structure Seen where
  accountKind : Option MessagingWalletKind
  walletAddress : Option Text
  moduleReady : Bool
  nowMs : ℕ
  /-- the clock, read a second time -/
  laterMs : ℕ
  /-- the intent in the cached entry, where there is one -/
  memo : Option IntentValue
  lastRevokeAllAt : Option ℤ
deriving DecidableEq

/-- `kind === "contract" || !getAddress()`. -/
def Seen.shut (seen : Seen) : Bool :=
  seen.accountKind = some .contract || seen.walletAddress.getD [] = []

/-- How a promise settles: with a value, with an `AbortError`, or with another error. -/
inductive Settled (α : Type)
  | ok (value : α)
  | abort
  | threw (cause : Text)
deriving DecidableEq

inductive IntentReadResult
  | answered (intent : IntentValue)
  | unanswered
deriving DecidableEq

inductive PublishResult
  | ok | publishFailed | signatureDeclined
deriving DecidableEq

inductive PortCall
  | ensureAccountKindProbed
  | waitUntilReady
  | whenLocalIdle
  | ensureModule
  | ensureDurableStorage
  | buildLocal (address : Text)
  | createWithSigner (address : Text)
  | revokeOtherInstallations (address : Text) (currentClient : Option XmtpLocalClient)
  | revokeAllInstallations (address : Text)
  | publishIntent (address : Text) (enabled : Bool)
  | readIntent (address : Text)
  | probeAttestationValid (address : Text)
  | cacheSet (address : Text) (intent : IntentValue)
  | cacheInvalidate (address : Text)
  | markRevokeAllAt (address : Text) (nowMs : ℕ)
deriving DecidableEq

/-! ## §2. The runner's variables. -/

/-- The await an effect stands at. -/
inductive Await
  | createIdle | createReady | createDurable | createSign
  | buildIdle | buildRace
  | sdk
  | publish (enabled : Bool)
  | revokePublish | revokeAll | revokeOthers
deriving DecidableEq

/-- The effect that `executePlan` is in; `signal` names its abort controller. -/
structure Effect where
  await : Await
  opGeneration : ℕ
  signal : ℕ
deriving DecidableEq

/-- Where `tick` stands: nowhere, in its loop before the next plan, or in an effect. -/
inductive Loop
  | off
  | next
  | on (effect : Effect)
deriving DecidableEq

structure Runner where
  state : MachineState
  generation : ℕ
  inFlightCount : ℕ
  disposed : Bool
  abortController : Option ℕ
  createAbortController : Option ℕ
  loopScheduled : Bool
  loop : Loop
  /-- how many abort controllers were made, and those that have aborted -/
  controllers : ℕ
  aborted : List ℕ
  /-- probes of the account's kind that have not settled -/
  probes : ℕ
  /-- the generations of the intent reads that have not settled -/
  reads : List ℕ
  /-- the generations of the builds that were given up at their deadline and have not settled -/
  orphans : List ℕ
  /-- clients whose closing waits one macrotask -/
  releasing : List XmtpLocalClient
  issued : List XmtpLocalClient
  closed : List XmtpLocalClient
  calls : List PortCall
deriving DecidableEq

def createEffectsRunner (address : Text) : Runner where
  state := createInitialMachineState address
  generation := 1
  inFlightCount := 0
  disposed := false
  abortController := none
  createAbortController := none
  loopScheduled := false
  loop := .off
  controllers := 0
  aborted := []
  probes := 0
  reads := []
  orphans := []
  releasing := []
  issued := []
  closed := []
  calls := []

namespace Runner

/-- `ticking`. -/
def ticking (r : Runner) : Bool := r.loop ≠ .off

def apply (r : Runner) (event : MachineEvent) : Runner :=
  { r with state := transitionMachine r.state event }

/-- Several events, the first of the list first. -/
def applyAll (r : Runner) (events : List MachineEvent) : Runner :=
  { r with state := events.foldl transitionMachine r.state }

def call (r : Runner) (c : PortCall) : Runner := { r with calls := c :: r.calls }

def isStale (r : Runner) (opGeneration : ℕ) : Bool := opGeneration ≠ r.generation

/-- `closeLocal`. -/
def closeLocal (r : Runner) (client : XmtpLocalClient) : Runner :=
  { r with closed := client :: r.closed }

/-- `abandonOwnedClient` with `defer`. -/
def abandonOwnedClient (r : Runner) (client : XmtpLocalClient) (alreadyDetached : Bool) :
    Runner :=
  let r := if !alreadyDetached && r.state.localClient = some client
    then r.apply (.localClientSet none none) else r
  { r with releasing := client :: r.releasing }

def abortInFlight (r : Runner) : Runner :=
  { r with aborted := r.abortController.toList ++ r.aborted, abortController := none }

/-- `createAbortController?.abort(); createAbortController = null`. -/
def abortCreate (r : Runner) : Runner :=
  { r with aborted := r.createAbortController.toList ++ r.aborted, createAbortController := none }

/-- The effect's controller is the newest one. -/
def beginInFlight (r : Runner) : Runner :=
  let r := r.abortInFlight
  { r with
    abortController := some r.controllers, controllers := r.controllers + 1, inFlightCount := 1 }

def endInFlight (r : Runner) : Runner :=
  { r with abortController := none, inFlightCount := 0 }.apply .effectCleared

def scheduleLoop (r : Runner) : Runner :=
  if r.loopScheduled || r.disposed then r else { r with loopScheduled := true }

def isRevokeAllInCooldown (seen : Seen) : Bool :=
  match seen.lastRevokeAllAt with
  | none => false
  | some last => (seen.nowMs : ℤ) - last < revokeAllCooldownMs

/-! ## §3. `executePlan`: up to the first await. -/

/-- The effect goes on to a call and waits for it. -/
def awaits (r : Runner) (await : Await) (opGeneration signal : ℕ) (c : PortCall) : Runner :=
  { r with loop := .on ⟨await, opGeneration, signal⟩ }.call c

def startCreate (r : Runner) : Runner :=
  let r := (r.apply (.effectStarted .create maxSafeInteger r.generation)).abortCreate
  let signal := r.controllers
  let r := { r with
    createAbortController := some signal, controllers := r.controllers + 1, inFlightCount := 1 }
  let fromReset := r.state.resetChain = some .create
  let r := r.applyAll [.enableCleared, .registrationSet .unknown]
  let r := if fromReset then r.apply .resetCleared else r
  r.awaits .createIdle r.generation signal .whenLocalIdle

def startBuild (r : Runner) : Runner :=
  let signal := r.controllers
  let r := r.beginInFlight.apply (.effectStarted .build maxSafeInteger r.generation)
  r.awaits .buildIdle r.generation signal .whenLocalIdle

/-- The effects that begin with the state's `effect_started`. -/
def startOther (r : Runner) (effect : ReconcilingOp) : Runner :=
  (r.apply (.effectStarted effect maxSafeInteger r.generation)).beginInFlight

def startRevoke (r : Runner) : Runner :=
  let signal := r.controllers
  let r := r.startOther .revoke
  match r.state.revokeMode.getD .others with
  | .all => r.awaits .revokePublish r.generation signal (.publishIntent r.state.address false)
  | .others =>
    r.awaits .revokeOthers r.generation signal
      (.revokeOtherInstallations r.state.address r.state.localClient)

def startEffect (r : Runner) (effect : ReconcilingOp) (publishValue : Option Bool) : Runner :=
  match effect with
  | .create => r.startCreate
  | .build => r.startBuild
  | .sdk => (r.startOther .sdk).awaits .sdk r.generation r.controllers .ensureModule
  | .publish =>
    let enabled := publishValue = some true
    (r.startOther .publish).awaits (.publish enabled) r.generation r.controllers
      (.publishIntent r.state.address enabled)
  | .revoke => r.startRevoke
  -- the default branch: nothing is awaited, and the loop goes on
  | .intent => { (r.startOther .intent).endInFlight with loop := .next }

/-! ## §4. `executePlan`: after an await. -/

/-- The end of an effect: the `finally` and the way back into the loop. -/
def finish (r : Runner) : Runner := { r.endInFlight with loop := .next }

/-- The end of a create. -/
def finishCreate (r : Runner) : Runner := { r with createAbortController := none }.finish

/-- The `catch` of the effects other than create. -/
def caught (r : Runner) (opGeneration : ℕ) (cause : Option Text) : Runner :=
  match cause with
  | none => r
  | some cause =>
    if r.isStale opGeneration then r else r.apply (.lastErrorSet (some .unknown) (some (some cause)))

/-- The `catch` of create. -/
def caughtCreate (r : Runner) (opGeneration : ℕ) (reason : SessionReason) : Runner :=
  if r.isStale opGeneration then r else r.apply (.awaitingSignatureSet (some reason))

/-- `if (isStale || createSignal.aborted)`: the create is given up, stale or not. -/
def unlessCancelled (r : Runner) (e : Effect) (go : Runner) : Runner :=
  if r.isStale e.opGeneration || r.aborted.contains e.signal then
    (r.apply (.awaitingSignatureSet (some .createCancelled))).finishCreate
  else go

/-- From a settled call of create to the rest of the `try`. -/
def thenCreate {α : Type} (r : Runner) (e : Effect) (go : α → Runner) : Settled α → Runner
  | .ok value => go value
  | .abort => (r.caughtCreate e.opGeneration .createCancelled).finishCreate
  | .threw _ => (r.caughtCreate e.opGeneration .buildFailed).finishCreate

/-- From a settled call of another effect to the rest of the `try`. -/
def thenOther {α : Type} (r : Runner) (e : Effect) (go : α → Runner) : Settled α → Runner
  | .ok value => (if r.isStale e.opGeneration then r.finish else go value)
  | .abort => (r.caught e.opGeneration none).finish
  | .threw cause => (r.caught e.opGeneration (some cause)).finish

def settleCreate (r : Runner) (result : CreateWithSignerResult) : Runner :=
  let mapped := applyCreateResult result
  match mapped.client with
  | some client =>
    (((r.applyAll [.localClientSet (some client) none, .resetCleared]).applyAll
      (mapped.registrationStatus.toList.map .registrationSet)).applyAll
      [.enableCleared, .publishPendingSet true, .revokeAllCooldownSet false])
  | none =>
    let r := if mapped.awaiting.isSome
      then r.applyAll [.awaitingSignatureSet mapped.awaiting, .enableCleared, .resetCleared] else r
    if mapped.lastError.isSome
    then r.applyAll [.lastErrorSet mapped.lastError none, .enableCleared, .resetCleared] else r

/-- What create does with a result of `createWithSigner`. -/
def created (r : Runner) (e : Effect) (result : CreateWithSignerResult) : Runner :=
  if r.isStale e.opGeneration then
    match result with
    | .ok client => r.closeLocal client
    | .failed _ => r
  else
    match result with
    | .ok _ => r.settleCreate result
    | .failed _ =>
      if r.aborted.contains e.signal then r.apply (.awaitingSignatureSet (some .createCancelled))
      else r.settleCreate result

/-- `createWithSigner` is called once the answer on the storage is there. -/
def signCreate (r : Runner) (e : Effect) : Runner :=
  r.awaits .createSign e.opGeneration e.signal (.createWithSigner r.state.address)

/-- What build does with a result that came in time. -/
def built (r : Runner) (result : BuildLocalResult) : Runner :=
  let mapped := applyBuildResult result
  let r := r.applyAll (mapped.registrationStatus.toList.map .registrationSet)
  match mapped.client with
  | some client => r.apply (.localClientSet (some client) none)
  | none =>
    let r := r.apply (.localClientSet none mapped.reason)
    let deferToCreate := mapped.awaiting = some .notRegistered && r.state.enableRequested
    let r := if mapped.awaiting.isSome && !deferToCreate
      then r.apply (.awaitingSignatureSet mapped.awaiting) else r
    if mapped.lastError.isSome then r.apply (.lastErrorSet mapped.lastError none) else r

/-- The caller of `runWithDeadline` has `"timeout"` in hand. -/
def timedOut (r : Runner) (e : Effect) : Runner :=
  (if r.isStale e.opGeneration then r else r.apply (.lastErrorSet (some .timeout) none)).finish

/-- `runWithDeadline` up to the race: `buildLocal` is called unless no time remains. -/
def raceBuild (r : Runner) (e : Effect) (seen : Seen) : Runner :=
  let deadlineMs := seen.nowMs + buildDeadlineMs
  let r := r.apply (.effectStarted .build deadlineMs e.opGeneration)
  if deadlineMs ≤ seen.laterMs then r.timedOut e
  else r.awaits .buildRace e.opGeneration e.signal (.buildLocal r.state.address)

/-- The race is settled by the build. -/
def raced (r : Runner) (e : Effect) : Settled BuildLocalResult → Runner
  | .ok result =>
    if r.isStale e.opGeneration then
      match result with
      | .ok client => (r.closeLocal client).finish
      | .failed _ => r.finish
    else (r.built result).finish
  | .abort => r.timedOut e
  | .threw cause =>
    if r.aborted.contains e.signal then r.timedOut e
    else (r.caught e.opGeneration (some cause)).finish

/-- The race is settled by the clock: the build runs on, an orphan. -/
def deadline (r : Runner) (e : Effect) : Runner :=
  let r := { r with
    aborted := r.abortController.toList ++ r.aborted
    orphans := e.opGeneration :: r.orphans }
  r.timedOut e

/-- The module's loading is settled.  An abort leaves no trace in the state. -/
def sdkSettled (r : Runner) (e : Effect) : Settled Unit → Runner
  | .ok _ => r.finish
  | .abort => r.finish
  | .threw cause =>
    if r.isStale e.opGeneration || r.aborted.contains e.signal then r.finish
    else (r.apply (.lastErrorSet (some .unknown) (some (some cause)))).finish

def published (r : Runner) (enabled : Bool) : PublishResult → Runner
  | .ok =>
    let r := r.applyAll [.publishErrorSet false, .publishPendingSet false]
    if enabled then
      ((r.apply (.intentLoaded intentAfterEnablePublish)).call
        (.cacheSet r.state.address (some true))).apply .enableCleared
    else
      (r.applyAll [.intentLoaded intentAfterDisable, .disableCleared]).call
        (.cacheSet r.state.address (some false))
  | .signatureDeclined =>
    let r := r.apply (.publishErrorSet false)
    if enabled then
      r.applyAll [.publishPendingSet r.state.localClient.isSome, .enableCleared]
    else r.apply .disableCleared
  | .publishFailed =>
    if enabled then
      r.applyAll [.publishPendingSet true, .publishErrorSet true, .enableCleared]
    else r.applyAll [.publishErrorSet true, .disableCleared]

/-- A full revocation: the intent is withdrawn first. -/
def revokePublished (r : Runner) (e : Effect) : PublishResult → Runner
  | .ok =>
    ((r.apply (.intentLoaded (some false))).call (.cacheSet r.state.address (some false))).awaits
      .revokeAll e.opGeneration e.signal (.revokeAllInstallations r.state.address)
  | .signatureDeclined => (r.applyAll [.publishErrorSet false, .resetCleared]).finish
  | .publishFailed => (r.applyAll [.publishErrorSet true, .resetCleared]).finish

/-- `revokeAllInstallations` has answered. -/
def revokedAll (r : Runner) (seen : Seen) (done : Bool) : Runner :=
  if done then
    let r := r.call (.markRevokeAllAt r.state.address seen.nowMs)
    let r :=
      match r.state.localClient with
      | some owned => r.abandonOwnedClient owned false
      | none => r.apply (.localClientSet none none)
    r.apply (.resetChainSet (some .create))
  else
    r.applyAll [.revokeAllCooldownSet true, .resetCleared,
      .awaitingSignatureSet (some .installationLimit)]

/-- `revokeOtherInstallations` has answered. -/
def revokedOthers (r : Runner) (done : Bool) : Runner :=
  if done then r.apply .resetCleared
  else r.applyAll [.resetCleared, .awaitingSignatureSet (some .installationLimit)]

/-- How the call an effect waits for settles, or the deadline of a build. -/
inductive Completion
  | done (s : Settled Unit)
  | durable (s : Settled Bool)
  | created (s : Settled CreateWithSignerResult)
  | built (s : Settled BuildLocalResult)
  | deadline
  | published (s : Settled PublishResult)
  | revoked (s : Settled Bool)
deriving DecidableEq

/-- The client that a settled call hands over. -/
def Completion.client? : Completion → Option XmtpLocalClient
  | .created (.ok (.ok client)) => some client
  | .built (.ok (.ok client)) => some client
  | _ => none

/-- `executePlan` goes on with the settled call; `none` where this is not the call it waits for. -/
def resume (r : Runner) (e : Effect) (seen : Seen) (c : Completion) : Option Runner :=
  match e.await, c with
  | .createIdle, .done s =>
    some (r.thenCreate e (fun _ => r.unlessCancelled e
      (r.awaits .createReady e.opGeneration e.signal .waitUntilReady)) s)
  | .createReady, .done s =>
    some (r.thenCreate e (fun _ => r.unlessCancelled e
      (if r.state.storageDurable.isNone
        then r.awaits .createDurable e.opGeneration e.signal .ensureDurableStorage
        else r.signCreate e)) s)
  | .createDurable, .durable s =>
    some (r.thenCreate e (fun durable => r.unlessCancelled e
      ((r.apply (.storageDurableSet durable)).signCreate e)) s)
  | .createSign, .created s =>
    some (r.thenCreate e (fun result => (r.created e result).finishCreate) s)
  | .buildIdle, .done s =>
    some (r.thenOther e (fun _ =>
      if r.aborted.contains e.signal then r.finish else r.raceBuild e seen) s)
  | .buildRace, .built s => some (r.raced e s)
  | .buildRace, .deadline => some (r.deadline e)
  | .sdk, .done s => some (r.sdkSettled e s)
  | .publish enabled, .published s =>
    some (r.thenOther e (fun result => (r.published enabled result).finish) s)
  | .revokePublish, .published s => some (r.thenOther e (r.revokePublished e) s)
  | .revokeAll, .revoked s =>
    some (r.thenOther e (fun done => (r.revokedAll seen done).finish) s)
  | .revokeOthers, .revoked s =>
    some (r.thenOther e (fun done => (r.revokedOthers done).finish) s)
  | _, _ => none

/-! ## §5. The loop. -/

/-- One round of the `while` in `tick`: an effect is started, or the loop ends. -/
def iterate (r : Runner) (seen : Seen) : Runner :=
  if r.disposed || r.state.inFlight.isSome || seen.shut then { r with loop := .off }
  else
    match reconcile r.state seen.moduleReady with
    | .awaitSignature reason =>
      { r.apply (.awaitingSignatureSet (some reason)) with loop := .off }
    | .run effect publishValue => r.startEffect effect publishValue
    | .idle => { r with loop := .off }

/-- The queued microtask. -/
def runLoop (r : Runner) (seen : Seen) : Runner :=
  let r := { r with loopScheduled := false }
  if r.disposed || r.ticking then r else r.iterate seen

/-! ## §6. Intent reads. -/

def loadIntent (r : Runner) (seen : Seen) : Runner :=
  if r.state.intentLoaded || r.disposed || seen.shut then r
  else
    match seen.memo with
    | some intent => (r.apply (.intentLoaded intent)).scheduleLoop
    | none =>
      let r := r.apply (.effectStarted .intent (seen.nowMs + reconcilingHintMs) r.generation)
      { r with reads := r.generation :: r.reads }.call (.readIntent r.state.address)

/-- The rest of `loadIntent` for a read of the session that is on. -/
def intentRead (r : Runner) : Settled IntentReadResult → Runner
  | .ok (.answered intent) =>
    ((((r.apply (.intentLoaded intent)).call (.cacheSet r.state.address intent)).call
      (.probeAttestationValid r.state.address)).scheduleLoop).apply .effectCleared
  | .ok .unanswered => (r.apply .intentUnanswered).scheduleLoop.apply .effectCleared
  | .abort => (r.apply .intentUnanswered).scheduleLoop.apply .effectCleared
  | .threw _ => (r.apply .intentUnanswered).scheduleLoop.apply .effectCleared

/-! ## §7. What the runner is asked to do. -/

def cancel (r : Runner) : Runner :=
  let createInFlight := r.createAbortController.isSome ||
    r.state.inFlight.any fun f => f.op = .create
  let r := r.abortCreate.abortInFlight
  let r := if r.state.inFlight.isSome then r.endInFlight else r
  let r := if createInFlight
    then r.applyAll [.awaitingSignatureSet (some .createCancelled), .enableCleared] else r
  r.scheduleLoop

def dispatch (r : Runner) (seen : Seen) (command : SessionCommand) : Runner :=
  if r.disposed then r
  else
    match command with
    | .enable =>
      (r.applyAll [.lastErrorSet none none, .awaitingSignatureSet none, .publishErrorSet false,
        .revokeAllCooldownSet false, .enableRequested]).scheduleLoop
    | .disable => (r.apply .disableRequested).scheduleLoop
    | .resetIdentity =>
      (r.applyAll [.awaitingSignatureSet none, .lastErrorSet none none,
        .revokeAllCooldownSet false, .revokeModeSet (some .others), .resetRequested,
        .resetChainSet (some .revoke)]).scheduleLoop
    | .revokeAllInstallations =>
      let r := r.applyAll [.awaitingSignatureSet none, .lastErrorSet none none]
      if isRevokeAllInCooldown seen then
        r.applyAll [.revokeAllCooldownSet true, .awaitingSignatureSet (some .installationLimit)]
      else
        (r.applyAll [.revokeAllCooldownSet false, .revokeModeSet (some .all), .resetRequested,
          .resetChainSet (some .revoke)]).scheduleLoop
    | .retry =>
      let r := r.applyAll [.awaitingSignatureSet none, .lastErrorSet none none,
        .revokeAllCooldownSet false]
      let r := if r.state.publishPending || r.state.publishError
        then r.applyAll [.publishErrorSet false, .publishPendingSet true]
        else r.apply .enableRequested
      r.scheduleLoop
    | .cancel => r.cancel

/-- `requestLocalClient` and `releaseLocalClient`. -/
def demand (r : Runner) (up : Bool) : Runner :=
  if r.disposed then r else (r.apply (.clientDemandDelta up)).scheduleLoop

def onAddressChange (r : Runner) (seen : Seen) (address : Text) : Runner :=
  if address.map Char.toLower = r.state.address.map Char.toLower then r
  else
    let previousClient := r.state.localClient
    let r := r.abortInFlight.abortCreate
    let r := { r with generation := r.generation + 1 }.call (.cacheInvalidate r.state.address)
    let r := { r with
      state := { createInitialMachineState address with generation := r.generation }
      inFlightCount := 0 }
    let r :=
      match previousClient with
      | some client => r.abandonOwnedClient client true
      | none => r
    r.loadIntent seen

def dispose (r : Runner) : Runner :=
  let r := { r with disposed := true }
  let r :=
    match r.state.localClient with
    | some owned => r.abandonOwnedClient owned false
    | none => r
  r.abortInFlight.abortCreate

end Runner

/-! ## §8. The steps. -/

inductive Event
  | start
  /-- `ensureAccountKindProbed` settled, with success or not -/
  | probed (ok : Bool)
  | dispatch (command : SessionCommand)
  | requestLocalClient
  | releaseLocalClient
  | addressChange (address : Text)
  | dispose
  /-- the queued microtask runs -/
  | runLoop
  /-- the loop goes on after an effect -/
  | iterate
  | settle (completion : Runner.Completion)
  | intentRead (opGeneration : ℕ) (s : Settled IntentReadResult)
  /-- a build that was given up at its deadline settles -/
  | orphanBuilt (opGeneration : ℕ) (s : Settled BuildLocalResult)
  /-- the macrotask before a deferred close is over -/
  | release (client : XmtpLocalClient)
deriving DecidableEq

structure Move where
  event : Event
  seen : Seen
deriving DecidableEq

namespace Runner

/-- A call hands over a client, one that no call has handed over before. -/
def issue (r : Runner) : Option XmtpLocalClient → Option Runner
  | none => some r
  | some client =>
    if r.issued.contains client then none else some { r with issued := client :: r.issued }

/-- A settled call of the effect in progress. -/
def settle (r : Runner) (seen : Seen) (c : Completion) : Option Runner :=
  match r.loop with
  | .on e => (r.issue c.client?).bind fun r => r.resume e seen c
  | _ => none

/-- A settled read; a stale one leaves everything as it is. -/
def readSettled (r : Runner) (opGeneration : ℕ) (s : Settled IntentReadResult) : Runner :=
  if r.reads.contains opGeneration then
    let r := { r with reads := r.reads.erase opGeneration }
    if r.isStale opGeneration then r else r.intentRead s
  else r

/-- A build that was given up is closed if it comes up after all. -/
def orphanSettled (r : Runner) (opGeneration : ℕ) (s : Settled BuildLocalResult) : Runner :=
  if r.orphans.contains opGeneration then
    let r' := { r with orphans := r.orphans.erase opGeneration }
    match s with
    | .ok (.ok client) => ((r'.issue (some client)).map fun r' => r'.closeLocal client).getD r
    | _ => r'
  else r

/-- One step; a move that cannot be made leaves the runner as it is. -/
def step (r : Runner) (m : Move) : Runner :=
  match m.event with
  | .start => { r with probes := r.probes + 1 }.call .ensureAccountKindProbed
  | .probed ok =>
    if r.probes = 0 then r
    else
      let r := { r with probes := r.probes - 1 }
      if !ok || r.disposed then r else r.loadIntent m.seen
  | .dispatch command => r.dispatch m.seen command
  | .requestLocalClient => r.demand true
  | .releaseLocalClient => r.demand false
  | .addressChange address => r.onAddressChange m.seen address
  | .dispose => r.dispose
  | .runLoop => if r.loopScheduled then r.runLoop m.seen else r
  | .iterate => if r.loop = .next then r.iterate m.seen else r
  | .settle c => (r.settle m.seen c).getD r
  | .intentRead opGeneration s => r.readSettled opGeneration s
  | .orphanBuilt opGeneration s => r.orphanSettled opGeneration s
  | .release client =>
    if r.releasing.contains client
    then { r with releasing := r.releasing.erase client }.closeLocal client else r

end Runner

end Kargain.Messaging
