/-
  Kargain.Messaging.Isolation — a session and the effects of the address before.

  Two runs are compared: one, and the same without the completions of calls
  that were made under an earlier address.  Their runners are twins as
  long as an effect that settles late clears nothing, marks nothing and
  lets the loop go where nothing is planned (`Twin.step`); where it does
  more, the next state or the calls show it (`Twin.parts`).

  The late completion of an effect is not kept from the shared variables:
  it clears what the new session has in flight, a create that is given up
  before its signature marks the new session cancelled, and until it
  comes the loop is held.  Main result: `sessions_isolated_iff`.
-/
import Mathlib
import Kargain.Messaging.Handles

namespace Kargain.Messaging

def Settled.fulfilled {α : Type} : Settled α → Bool
  | .ok _ => true
  | _ => false

namespace Runner

/-! ## §1. Two runners that show the same. -/

/-- What the machine's state and the calls to come can depend on.  `late` says that the second
    runner is still held by an effect that has ended in the first one. -/
structure Twin (late : Bool) (r t : Runner) : Prop where
  state : r.state = t.state
  generation : r.generation = t.generation
  disposed : r.disposed = t.disposed
  creating : r.createAbortController = t.createAbortController
  scheduled : r.loopScheduled = t.loopScheduled
  probes : r.probes = t.probes
  releasing : r.releasing = t.releasing
  calls : r.calls = t.calls
  reads : ∀ g, r.generation ≤ g → r.reads.count g = t.reads.count g
  issued : ∀ c ∈ t.issued, c ∈ r.issued
  level : late = false → r.loop = t.loop ∧ r.abortController = t.abortController ∧
    r.aborted = t.aborted ∧ r.controllers = t.controllers
  held : late = true → (∀ e, r.loop ≠ .on e) ∧ ∃ e, t.loop = .on e
  /-- an effect of an earlier session has lost its controller -/
  parted : ∀ e, r.loop = .on e → r.isStale e.opGeneration = true → r.createAbortController = none
  dated : ∀ g ∈ r.reads, g ≤ r.generation

variable {late : Bool} {r t : Runner}

theorem Twin.apply (h : Twin late r t) (e : MachineEvent) : Twin late (r.apply e) (t.apply e) :=
  { h with state := congrArg (transitionMachine · e) h.state }

theorem Twin.applyAll (h : Twin late r t) (es : List MachineEvent) :
    Twin late (r.applyAll es) (t.applyAll es) :=
  { h with state := congrArg (es.foldl transitionMachine ·) h.state }

theorem Twin.applyAll' (h : Twin late r t) {es es' : List MachineEvent} (hes : es = es') :
    Twin late (r.applyAll es) (t.applyAll es') := hes ▸ h.applyAll es

theorem Twin.call (h : Twin late r t) {c d : PortCall} (hcd : c = d) :
    Twin late (r.call c) (t.call d) :=
  { h with calls := hcd ▸ congrArg (c :: ·) h.calls }

theorem Twin.abortInFlight (h : Twin late r t) : Twin late r.abortInFlight t.abortInFlight :=
  { h with
    level := fun hl => by
      have hv := h.level hl
      refine ⟨hv.1, rfl, ?_, hv.2.2.2⟩
      show r.abortController.toList ++ r.aborted = t.abortController.toList ++ t.aborted
      rw [hv.2.1, hv.2.2.1] }

theorem Twin.abortCreate (h : Twin late r t) : Twin late r.abortCreate t.abortCreate :=
  { h with
    creating := rfl
    parted := fun _ _ _ => rfl
    level := fun hl => by
      have hv := h.level hl
      refine ⟨hv.1, hv.2.1, ?_, hv.2.2.2⟩
      show r.createAbortController.toList ++ r.aborted = t.createAbortController.toList ++ t.aborted
      rw [h.creating, hv.2.2.1] }

theorem Twin.endInFlight (h : Twin late r t) : Twin late r.endInFlight t.endInFlight :=
  { h with
    state := congrArg (transitionMachine · .effectCleared) h.state
    level := fun hl => ⟨(h.level hl).1, rfl, (h.level hl).2.2⟩ }

theorem Twin.ite (h : Twin late r t) {r' t' : Runner} (h' : Twin late r' t') {p q : Bool}
    (hpq : p = q) : Twin late (if p then r else r') (if q then t else t') := by
  subst hpq
  split
  · exact h
  · exact h'

/-- The same for a test that is a proposition. -/
theorem Twin.ite' (h : Twin late r t) {r' t' : Runner} (h' : Twin late r' t') {p q : Prop}
    [Decidable p] [Decidable q] (hpq : p ↔ q) :
    Twin late (if p then r else r') (if q then t else t') := by
  by_cases hq : q
  · rw [if_pos hq, if_pos (hpq.2 hq)]
    exact h
  · rw [if_neg hq, if_neg (fun hp => hq (hpq.1 hp))]
    exact h'

theorem Twin.scheduleLoop (h : Twin late r t) : Twin late r.scheduleLoop t.scheduleLoop := by
  have hs : Twin late { r with loopScheduled := true } { t with loopScheduled := true } :=
    { h with scheduled := rfl }
  exact h.ite hs (by rw [h.scheduled, h.disposed])

theorem Twin.abandonOwnedClient (h : Twin late r t) (client : XmtpLocalClient) (detached : Bool) :
    Twin late (r.abandonOwnedClient client detached) (t.abandonOwnedClient client detached) := by
  have hall : ∀ {r t : Runner}, Twin late r t →
      Twin late { r with releasing := client :: r.releasing }
        { t with releasing := client :: t.releasing } :=
    fun h => { h with releasing := congrArg (client :: ·) h.releasing }
  exact hall ((h.apply _).ite h (by rw [h.state]))

/-! ## §2. What the runner is asked to do. -/

theorem Twin.cancel (h : Twin late r t) : Twin late r.cancel t.cancel := by
  have hab := h.abortCreate.abortInFlight
  have hend := hab.endInFlight.ite hab (p := r.abortCreate.abortInFlight.state.inFlight.isSome)
    (q := t.abortCreate.abortInFlight.state.inFlight.isSome) (by rw [hab.state])
  exact ((hend.applyAll _).ite hend (by rw [h.creating, h.state])).scheduleLoop

theorem Twin.dispatch (h : Twin late r t) (seen : Seen) (command : SessionCommand) :
    Twin late (r.dispatch seen command) (t.dispatch seen command) := by
  refine h.ite ?_ h.disposed
  cases command with
  | enable => exact (h.applyAll _).scheduleLoop
  | disable => exact (h.apply _).scheduleLoop
  | resetIdentity => exact (h.applyAll _).scheduleLoop
  | revokeAllInstallations =>
    have ha := h.applyAll [.awaitingSignatureSet none, .lastErrorSet none none]
    exact (ha.applyAll _).ite (ha.applyAll _).scheduleLoop rfl
  | retry =>
    have ha := h.applyAll [.awaitingSignatureSet none, .lastErrorSet none none,
      .revokeAllCooldownSet false]
    exact ((ha.applyAll _).ite (ha.apply _) (by rw [ha.state])).scheduleLoop
  | cancel => exact h.cancel

theorem Twin.demand (h : Twin late r t) (up : Bool) : Twin late (r.demand up) (t.demand up) :=
  h.ite (h.apply _).scheduleLoop h.disposed

theorem Twin.loadIntent (h : Twin late r t) (seen : Seen) :
    Twin late (r.loadIntent seen) (t.loadIntent seen) := by
  refine h.ite ?_ (by rw [h.state, h.disposed])
  split
  · exact (h.apply _).scheduleLoop
  · have ha : Twin late
        (r.apply (.effectStarted .intent (seen.nowMs + reconcilingHintMs) r.generation))
        (t.apply (.effectStarted .intent (seen.nowMs + reconcilingHintMs) t.generation)) := by
      rw [h.generation]
      exact h.apply _
    have hreads : ∀ g, r.generation ≤ g →
        (r.generation :: r.reads).count g = (t.generation :: t.reads).count g := by
      intro g hg
      rw [List.count_cons, List.count_cons, h.reads g hg, h.generation]
    have hr : Twin late
        { r.apply (.effectStarted .intent (seen.nowMs + reconcilingHintMs) r.generation) with
          reads := r.generation :: r.reads }
        { t.apply (.effectStarted .intent (seen.nowMs + reconcilingHintMs) t.generation) with
          reads := t.generation :: t.reads } :=
      { ha with
        reads := hreads
        dated := fun g hg => by
          cases List.mem_cons.1 hg with
          | inl hnew => exact Nat.le_of_eq hnew
          | inr hold => exact h.dated g hold }
    exact hr.call (by rw [ha.state])

theorem Twin.intentRead (h : Twin late r t) (s : Settled IntentReadResult) :
    Twin late (r.intentRead s) (t.intentRead s) := by
  unfold Runner.intentRead
  split
  · have haddr : r.state.address = t.state.address := by rw [h.state]
    exact ((((h.apply _).call (by rw [haddr])).call (by rw [haddr])).scheduleLoop).apply _
  · exact ((h.apply _).scheduleLoop).apply _
  · exact ((h.apply _).scheduleLoop).apply _
  · exact ((h.apply _).scheduleLoop).apply _

theorem Twin.dispose (h : Twin late r t) : Twin late r.dispose t.dispose := by
  have hd : Twin late { r with disposed := true } { t with disposed := true } :=
    { h with disposed := rfl }
  refine Twin.abortCreate (Twin.abortInFlight ?_)
  cases hc : r.state.localClient with
  | none =>
    have hc' : t.state.localClient = none := h.state ▸ hc
    simpa only [hc, hc'] using hd
  | some owned =>
    have hc' : t.state.localClient = some owned := h.state ▸ hc
    simpa only [hc, hc'] using hd.abandonOwnedClient owned false

theorem Twin.renewed (h : Twin late r t) (address : Text) :
    Twin late (r.renewed address) (t.renewed address) :=
  { h.abortInFlight.abortCreate with
    state := by
      show ({ createInitialMachineState address with generation := r.generation + 1 }) = _
      rw [h.generation]
      rfl
    generation := congrArg (· + 1) h.generation
    calls := by
      show PortCall.cacheInvalidate r.state.address :: r.calls = _ :: t.calls
      rw [h.state, h.calls]
    releasing := by
      show r.state.localClient.toList ++ r.releasing = t.state.localClient.toList ++ t.releasing
      rw [h.state, h.releasing]
    -- no read of the new session has been made
    reads := fun g hg => h.reads g (Nat.le_of_succ_le hg)
    parted := fun _ _ _ => rfl
    dated := fun g hg => Nat.le_succ_of_le (h.dated g hg) }

theorem Twin.onAddressChange (h : Twin late r t) (seen : Seen) (address : Text) :
    Twin late (r.onAddressChange seen address) (t.onAddressChange seen address) := by
  by_cases ha : address.map Char.toLower = r.state.address.map Char.toLower
  · unfold Runner.onAddressChange
    rw [if_pos ha, if_pos (h.state ▸ ha)]
    exact h
  · rw [onAddressChange_eq r seen ha, onAddressChange_eq t seen (h.state ▸ ha)]
    exact (h.renewed address).loadIntent seen

/-! ## §3. The effects. -/

theorem Twin.loop (h : Twin false r t) (l : Loop) (hl : ∀ e, l ≠ .on e) :
    Twin false { r with loop := l } { t with loop := l } :=
  { h with
    level := fun hlate => ⟨rfl, (h.level hlate).2⟩
    held := fun hlate => nomatch hlate
    parted := fun e he => absurd he (hl e) }

/-- An effect of the session that is on waits for a call. -/
theorem Twin.awaits (h : Twin false r t) (a : Await) {g g' c c' : ℕ} {p p' : PortCall}
    (hfresh : g = r.generation) (hg : g = g') (hc : c = c') (hp : p = p') :
    Twin false (r.awaits a g c p) (t.awaits a g' c' p') := by
  subst hg hc
  have hon : Twin false { r with loop := .on ⟨a, g, c⟩ } { t with loop := .on ⟨a, g, c⟩ } :=
    { h with
      level := fun hlate => ⟨rfl, (h.level hlate).2⟩
      held := fun hlate => nomatch hlate
      parted := fun e he hs => by
        have he : Loop.on ⟨a, g, c⟩ = Loop.on e := he
        injection he with he
        subst he
        simp [Runner.isStale, hfresh] at hs }
  exact hon.call hp

theorem Twin.finish (h : Twin false r t) : Twin false r.finish t.finish :=
  h.endInFlight.loop .next fun _ hl => nomatch hl

theorem Twin.finishCreate (h : Twin false r t) : Twin false r.finishCreate t.finishCreate := by
  have hc : Twin false { r with createAbortController := none }
      { t with createAbortController := none } :=
    { h with creating := rfl, parted := fun _ _ _ => rfl }
  exact hc.finish

theorem Twin.isStale (h : Twin late r t) (g : ℕ) : r.isStale g = t.isStale g := by
  unfold Runner.isStale
  rw [h.generation]

theorem Twin.aborted (h : Twin false r t) (c : ℕ) : r.aborted.contains c = t.aborted.contains c := by
  rw [(h.level rfl).2.2.1]

theorem Twin.address (h : Twin late r t) : r.state.address = t.state.address := by rw [h.state]

theorem Twin.beginInFlight (h : Twin false r t) : Twin false r.beginInFlight t.beginInFlight := by
  have hab := h.abortInFlight
  have hv := hab.level rfl
  exact { hab with
    level := fun _ => ⟨hv.1, congrArg some hv.2.2.2, hv.2.2.1, congrArg (· + 1) hv.2.2.2⟩ }

theorem Twin.openCreate (h : Twin false r t) (hl : ∀ e, r.loop ≠ .on e) :
    Twin false r.openCreate t.openCreate := by
  have ha : Twin false (r.apply (.effectStarted .create maxSafeInteger r.generation)).abortCreate
      (t.apply (.effectStarted .create maxSafeInteger t.generation)).abortCreate := by
    rw [h.generation]
    exact (h.apply _).abortCreate
  have hv := ha.level rfl
  have hs : Twin false
      { (r.apply (.effectStarted .create maxSafeInteger r.generation)).abortCreate with
        createAbortController := some r.controllers, controllers := r.controllers + 1
        inFlightCount := 1 }
      { (t.apply (.effectStarted .create maxSafeInteger t.generation)).abortCreate with
        createAbortController := some t.controllers, controllers := t.controllers + 1
        inFlightCount := 1 } :=
    { ha with
      creating := congrArg some hv.2.2.2
      parted := fun e he => absurd he (hl e)
      level := fun _ => ⟨hv.1, hv.2.1, hv.2.2.1, congrArg (· + 1) hv.2.2.2⟩ }
  have hall := hs.applyAll [.enableCleared, .registrationSet .unknown]
  exact (hall.apply _).ite' hall
    (iff_of_eq (congrArg (fun s : MachineState => s.resetChain = some .create) hs.state))

theorem Twin.startOther (h : Twin false r t) (op : ReconcilingOp) :
    Twin false (r.startOther op) (t.startOther op) := by
  unfold Runner.startOther
  rw [h.generation]
  exact (h.apply _).beginInFlight

theorem Twin.startRevoke (h : Twin false r t) : Twin false r.startRevoke t.startRevoke := by
  have hs := h.startOther .revoke
  have hm : (r.startOther .revoke).state.revokeMode = (t.startOther .revoke).state.revokeMode := by
    rw [hs.state]
  have hcount := (h.level rfl).2.2.2
  unfold Runner.startRevoke
  dsimp only
  rw [hm]
  split
  · exact hs.awaits _ rfl hs.generation hcount (by rw [hs.address])
  · exact hs.awaits _ rfl hs.generation hcount (by rw [hs.state])

theorem Twin.startEffect (h : Twin false r t) (hl : ∀ e, r.loop ≠ .on e) (effect : ReconcilingOp) (v : Option Bool) :
    Twin false (r.startEffect effect v) (t.startEffect effect v) := by
  have hcount := (h.level rfl).2.2.2
  cases effect with
  | create =>
    show Twin false r.startCreate t.startCreate
    rw [startCreate_eq, startCreate_eq]
    exact (h.openCreate hl).awaits _ (mild_openCreate r).generation.symm h.generation hcount rfl
  | build =>
    have ha : Twin false
        (r.beginInFlight.apply (.effectStarted .build maxSafeInteger r.beginInFlight.generation))
        (t.beginInFlight.apply (.effectStarted .build maxSafeInteger t.beginInFlight.generation)) := by
      rw [h.beginInFlight.generation]
      exact h.beginInFlight.apply _
    exact ha.awaits _ rfl h.generation hcount rfl
  | sdk => exact (h.startOther .sdk).awaits _ rfl h.generation hcount rfl
  | publish => exact (h.startOther .publish).awaits _ rfl h.generation hcount (by rw [h.address])
  | revoke => exact h.startRevoke
  | intent => exact (h.startOther .intent).finish

theorem Twin.iterate (h : Twin false r t) (hl : ∀ e, r.loop ≠ .on e) (seen : Seen) :
    Twin false (r.iterate seen) (t.iterate seen) := by
  have hplan : reconcile r.state seen.moduleReady = reconcile t.state seen.moduleReady := by
    rw [h.state]
  have hoff : ∀ e, Loop.off ≠ .on e := fun _ he => nomatch he
  refine (h.loop .off hoff).ite ?_ (by rw [h.disposed, h.state])
  rw [hplan]
  split
  · exact (h.apply _).loop .off hoff
  · exact h.startEffect hl _ _
  · exact h.loop .off hoff

/-! ## §4. A settled call. -/

variable {e : Effect}

theorem Twin.caught (h : Twin late r t) (g : ℕ) (cause : Option Text) :
    Twin late (r.caught g cause) (t.caught g cause) := by
  cases cause with
  | none => exact h
  | some cause => exact h.ite (h.apply _) (h.isStale g)

theorem Twin.caughtCreate (h : Twin late r t) (g : ℕ) (reason : SessionReason) :
    Twin late (r.caughtCreate g reason) (t.caughtCreate g reason) :=
  h.ite (h.apply _) (h.isStale g)

theorem Twin.unlessCancelled (h : Twin false r t) {r' t' : Runner} (h' : Twin false r' t') :
    Twin false (r.unlessCancelled e r') (t.unlessCancelled e t') :=
  (h.apply _).finishCreate.ite h' (by rw [h.isStale, h.aborted])

theorem Twin.thenCreate {α : Type} (h : Twin false r t) {go go' : α → Runner}
    (hgo : ∀ v, Twin false (go v) (go' v)) (s : Settled α) :
    Twin false (r.thenCreate e go s) (t.thenCreate e go' s) := by
  cases s with
  | ok v => exact hgo v
  | abort => exact (h.caughtCreate _ _).finishCreate
  | threw cause => exact (h.caughtCreate _ _).finishCreate

theorem Twin.thenOther {α : Type} (h : Twin false r t) {go go' : α → Runner}
    (hgo : ∀ v, Twin false (go v) (go' v)) (s : Settled α) :
    Twin false (r.thenOther e go s) (t.thenOther e go' s) := by
  cases s with
  | ok v => exact h.finish.ite (hgo v) (h.isStale _)
  | abort => exact (h.caught _ _).finish
  | threw cause => exact (h.caught _ _).finish

theorem Twin.settleCreate (h : Twin late r t) (result : CreateWithSignerResult) :
    Twin late (r.settleCreate result) (t.settleCreate result) := by
  cases result with
  | ok client => exact ((h.applyAll _).applyAll _).applyAll _
  | failed reason => cases reason <;> exact h.applyAll _

theorem Twin.closeLocal (h : Twin late r t) (client : XmtpLocalClient) :
    Twin late (r.closeLocal client) (t.closeLocal client) :=
  { h with }

theorem Twin.created (h : Twin false r t) (result : CreateWithSignerResult) :
    Twin false (r.created e result) (t.created e result) := by
  cases result with
  | ok client => exact (h.closeLocal client).ite (h.settleCreate _) (h.isStale _)
  | failed reason =>
    exact h.ite ((h.apply _).ite (h.settleCreate _) (h.aborted _)) (h.isStale _)

theorem Twin.signCreate (h : Twin false r t) (hg : e.opGeneration = r.generation) :
    Twin false (r.signCreate e) (t.signCreate e) :=
  h.awaits _ hg rfl rfl (by rw [h.address])

theorem Twin.built (h : Twin late r t) (result : BuildLocalResult) :
    Twin late (r.built result) (t.built result) := by
  cases result with
  | ok client => exact (h.applyAll _).apply _
  | failed reason =>
    cases reason with
    | buildFailed => exact ((h.applyAll []).apply _).apply _
    | opfsLock => exact ((h.applyAll []).apply _).apply _
    | notRegistered =>
      have hclear := (h.applyAll [.registrationSet .unregistered]).apply
        (.localClientSet none (some .notRegistered))
      exact (hclear.apply _).ite hclear
        (congrArg (fun s : MachineState => !s.enableRequested) hclear.state)

theorem Twin.timedOut (h : Twin false r t) : Twin false (r.timedOut e) (t.timedOut e) :=
  (h.ite (h.apply _) (h.isStale _)).finish

theorem Twin.raceBuild (h : Twin false r t) (hg : e.opGeneration = r.generation) (seen : Seen) :
    Twin false (r.raceBuild e seen) (t.raceBuild e seen) := by
  have ha := h.apply (.effectStarted .build (seen.nowMs + buildDeadlineMs) e.opGeneration)
  show Twin false (if _ then _ else _) (if _ then _ else _)
  split
  · exact ha.timedOut
  · exact ha.awaits _ hg rfl rfl (by rw [ha.address])

theorem Twin.raced (h : Twin false r t) (s : Settled BuildLocalResult) :
    Twin false (r.raced e s) (t.raced e s) := by
  cases s with
  | ok result =>
    cases result with
    | ok client => exact (h.closeLocal client).finish.ite (h.built _).finish (h.isStale _)
    | failed reason => exact h.finish.ite (h.built _).finish (h.isStale _)
  | abort => exact h.timedOut
  | threw cause => exact h.timedOut.ite (h.caught _ _).finish (h.aborted _)

theorem Twin.deadline (h : Twin false r t) : Twin false (r.deadline e) (t.deadline e) := by
  have hv := h.level rfl
  have ha : Twin false
      { r with aborted := r.abortController.toList ++ r.aborted
               orphans := e.opGeneration :: r.orphans }
      { t with aborted := t.abortController.toList ++ t.aborted
               orphans := e.opGeneration :: t.orphans } :=
    { h with
      level := fun _ => ⟨hv.1, hv.2.1, by rw [hv.2.1, hv.2.2.1], hv.2.2.2⟩ }
  exact ha.timedOut

theorem Twin.sdkSettled (h : Twin false r t) (s : Settled Unit) :
    Twin false (r.sdkSettled e s) (t.sdkSettled e s) := by
  cases s with
  | ok _ => exact h.finish
  | abort => exact h.finish
  | threw cause => exact h.finish.ite (h.apply _).finish (by rw [h.isStale, h.aborted])

theorem Twin.published (h : Twin late r t) (enabled : Bool) (result : PublishResult) :
    Twin late (r.published enabled result) (t.published enabled result) := by
  have haddr := h.address
  cases result with
  | ok =>
    have ha := h.applyAll [.publishErrorSet false, .publishPendingSet false]
    cases enabled with
    | true => exact ((ha.apply _).call (by rw [ha.address])).apply _
    | false => exact (ha.applyAll _).call (by rw [ha.address])
  | signatureDeclined =>
    have ha := h.apply (.publishErrorSet false)
    cases enabled with
    | true =>
      exact ha.applyAll' (by rw [ha.state])
    | false => exact ha.apply _
  | publishFailed =>
    cases enabled with
    | true => exact h.applyAll _
    | false => exact h.applyAll _

theorem Twin.revokePublished (h : Twin false r t) (hg : e.opGeneration = r.generation)
    (result : PublishResult) :
    Twin false (r.revokePublished e result) (t.revokePublished e result) := by
  cases result with
  | ok => exact ((h.apply _).call (by rw [h.address])).awaits _ hg rfl rfl (by rw [h.address])
  | signatureDeclined => exact (h.applyAll _).finish
  | publishFailed => exact (h.applyAll _).finish

theorem Twin.revokedAll (h : Twin late r t) (seen : Seen) (done : Bool) :
    Twin late (r.revokedAll seen done) (t.revokedAll seen done) := by
  cases done with
  | false => exact h.applyAll _
  | true =>
    have hm : Twin late (r.call (.markRevokeAllAt r.state.address seen.nowMs))
        (t.call (.markRevokeAllAt t.state.address seen.nowMs)) := h.call (by rw [h.address])
    refine Twin.apply ?_ (.resetChainSet (some .create))
    cases hc : r.state.localClient with
    | none =>
      have hr : (r.call (.markRevokeAllAt r.state.address seen.nowMs)).state.localClient = none := hc
      have ht : (t.call (.markRevokeAllAt t.state.address seen.nowMs)).state.localClient = none :=
        h.state ▸ hc
      simpa only [hr, ht] using hm.apply (.localClientSet none none)
    | some owned =>
      have hr : (r.call (.markRevokeAllAt r.state.address seen.nowMs)).state.localClient =
        some owned := hc
      have ht : (t.call (.markRevokeAllAt t.state.address seen.nowMs)).state.localClient =
        some owned := h.state ▸ hc
      simpa only [hr, ht] using hm.abandonOwnedClient owned false

theorem Twin.revokedOthers (h : Twin late r t) (done : Bool) :
    Twin late (r.revokedOthers done) (t.revokedOthers done) :=
  (h.apply _).ite (h.applyAll _) rfl

/-- The two runners go on alike. -/
theorem Twin.resume (h : Twin false r t) (hg : e.opGeneration = r.generation) {seen : Seen} {c : Completion} {r' : Runner}
    (hr : r.resume e seen c = some r') : ∃ t', t.resume e seen c = some t' ∧ Twin false r' t' := by
  unfold Runner.resume at hr ⊢
  split at hr
  case h_13 => exact nomatch hr
  all_goals
    injection hr with hr
    subst hr
    refine ⟨_, rfl, ?_⟩
  · exact h.thenCreate (fun _ => h.unlessCancelled (h.awaits _ hg rfl rfl rfl)) _
  · refine h.thenCreate (fun _ => h.unlessCancelled ?_) _
    exact (h.awaits _ hg rfl rfl rfl).ite (h.signCreate hg) (by rw [h.state])
  · exact h.thenCreate (fun _ => h.unlessCancelled ((h.apply _).signCreate hg)) _
  · exact h.thenCreate (fun result => (h.created result).finishCreate) _
  · exact h.thenOther (fun _ => h.finish.ite (h.raceBuild hg seen) (h.aborted _)) _
  · exact h.raced _
  · exact h.deadline
  · exact h.sdkSettled _
  · exact h.thenOther (fun result => (h.published _ result).finish) _
  · exact h.thenOther (h.revokePublished hg) _
  · exact h.thenOther (fun done => (h.revokedAll seen done).finish) _
  · exact h.thenOther (fun done => (h.revokedOthers done).finish) _

/-! ## §5. An effect of an earlier session settles. -/

/-- The effect in progress is over: what it leaves behind, whichever session is on. -/
structure Ended (r s : Runner) : Prop where
  state : s.state = transitionMachine r.state .effectCleared
  generation : s.generation = r.generation
  disposed : s.disposed = r.disposed
  creating : r.createAbortController = none → s.createAbortController = none
  scheduled : s.loopScheduled = r.loopScheduled
  probes : s.probes = r.probes
  releasing : s.releasing = r.releasing
  calls : s.calls = r.calls
  reads : s.reads = r.reads
  issued : s.issued = r.issued
  loop : s.loop = .next

theorem ended_finish (r : Runner) : Ended r r.finish :=
  ⟨rfl, rfl, rfl, fun h => h, rfl, rfl, rfl, rfl, rfl, rfl, rfl⟩

theorem ended_finishCreate (r : Runner) : Ended r r.finishCreate :=
  ⟨rfl, rfl, rfl, fun _ => rfl, rfl, rfl, rfl, rfl, rfl, rfl, rfl⟩

theorem ended_close (r : Runner) (client : XmtpLocalClient) :
    Ended r (r.closeLocal client).finish ∧ Ended r (r.closeLocal client).finishCreate :=
  ⟨⟨rfl, rfl, rfl, fun h => h, rfl, rfl, rfl, rfl, rfl, rfl, rfl⟩,
    ⟨rfl, rfl, rfl, fun _ => rfl, rfl, rfl, rfl, rfl, rfl, rfl, rfl⟩⟩

/-- The call is one after which a create that was given up is marked cancelled. -/
def cancels : Await → Completion → Bool
  | .createIdle, .done s => s.fulfilled
  | .createReady, .done s => s.fulfilled
  | .createDurable, .durable s => s.fulfilled
  | _, _ => false

/-- Before the cleanup a create is marked cancelled, whichever session is on. -/
def marked (r : Runner) (e : Effect) (c : Completion) : Runner :=
  if cancels e.await c then r.apply (.awaitingSignatureSet (some .createCancelled)) else r

theorem timedOut_stale (hs : r.isStale e.opGeneration = true) : r.timedOut e = r.finish := by
  unfold timedOut
  rw [if_pos hs]

theorem caught_stale (hs : r.isStale e.opGeneration = true) (cause : Option Text) :
    r.caught e.opGeneration cause = r := by
  unfold caught
  split
  · rfl
  · rw [if_pos hs]

theorem thenOther_stale {α : Type} (hs : r.isStale e.opGeneration = true) (go : α → Runner)
    (s : Settled α) : r.thenOther e go s = r.finish := by
  cases s with
  | ok v => exact if_pos hs
  | abort => exact congrArg finish (caught_stale hs none)
  | threw cause => exact congrArg finish (caught_stale hs (some cause))

theorem caughtCreate_stale (hs : r.isStale e.opGeneration = true) (reason : SessionReason) :
    r.caughtCreate e.opGeneration reason = r := by
  unfold caughtCreate
  rw [if_pos hs]

/-- A create that is given up before it asks for a signature. -/
theorem unsigned_stale {α : Type} (hs : r.isStale e.opGeneration = true) (go : α → Runner)
    (a : Settled α) :
    Ended (if a.fulfilled then r.apply (.awaitingSignatureSet (some .createCancelled)) else r)
      (r.thenCreate e (fun v => r.unlessCancelled e (go v)) a) := by
  cases a with
  | ok v =>
    show Ended _ (if r.isStale e.opGeneration || r.aborted.contains e.signal then _ else _)
    rw [hs]
    exact ended_finishCreate _
  | abort =>
    show Ended r (r.caughtCreate e.opGeneration _).finishCreate
    rw [caughtCreate_stale hs]
    exact ended_finishCreate r
  | threw cause =>
    show Ended r (r.caughtCreate e.opGeneration _).finishCreate
    rw [caughtCreate_stale hs]
    exact ended_finishCreate r

theorem signed_stale (hs : r.isStale e.opGeneration = true)
    (a : Settled CreateWithSignerResult) :
    Ended r (r.thenCreate e (fun result => (r.created e result).finishCreate) a) := by
  cases a with
  | ok result =>
    show Ended r (r.created e result).finishCreate
    unfold created
    rw [if_pos hs]
    cases result with
    | ok client => exact (ended_close r client).2
    | failed reason => exact ended_finishCreate r
  | abort =>
    show Ended r (r.caughtCreate e.opGeneration _).finishCreate
    rw [caughtCreate_stale hs]
    exact ended_finishCreate r
  | threw cause =>
    show Ended r (r.caughtCreate e.opGeneration _).finishCreate
    rw [caughtCreate_stale hs]
    exact ended_finishCreate r

theorem raced_stale (hs : r.isStale e.opGeneration = true) (a : Settled BuildLocalResult) :
    Ended r (r.raced e a) := by
  cases a with
  | ok result =>
    unfold raced
    dsimp only
    rw [if_pos hs]
    cases result with
    | ok client => exact (ended_close r client).1
    | failed reason => exact ended_finish r
  | abort =>
    show Ended r (r.timedOut e)
    rw [timedOut_stale hs]
    exact ended_finish r
  | threw cause =>
    show Ended r (if r.aborted.contains e.signal then r.timedOut e
      else (r.caught e.opGeneration (some cause)).finish)
    rw [timedOut_stale hs, caught_stale hs, ite_self]
    exact ended_finish r

theorem deadline_stale (hs : r.isStale e.opGeneration = true) : Ended r (r.deadline e) := by
  show Ended r (finish (if r.isStale e.opGeneration then _ else _))
  rw [if_pos hs]
  exact ⟨rfl, rfl, rfl, fun h => h, rfl, rfl, rfl, rfl, rfl, rfl, rfl⟩

theorem sdkSettled_stale (hs : r.isStale e.opGeneration = true) (a : Settled Unit) :
    Ended r (r.sdkSettled e a) := by
  cases a with
  | ok v => exact ended_finish r
  | abort => exact ended_finish r
  | threw cause =>
    show Ended r (if r.isStale e.opGeneration || r.aborted.contains e.signal then _ else _)
    rw [hs]
    exact ended_finish r

/-- Whatever a stale effect was waiting for, it ends, and clears what is in flight. -/
theorem resume_stale (hs : r.isStale e.opGeneration = true) {seen : Seen} {c : Completion}
    {s : Runner} (hr : r.resume e seen c = some s) : Ended (r.marked e c) s := by
  have hother : ∀ {α : Type} (go : α → Runner) (a : Settled α), Ended r (r.thenOther e go a) := by
    intro α go a
    rw [thenOther_stale hs]
    exact ended_finish r
  unfold Runner.resume at hr
  split at hr
  case h_13 => exact nomatch hr
  all_goals
    injection hr with hr
    subst hr
    unfold marked
    rw [‹e.await = _›]
  · exact unsigned_stale hs _ _
  · exact unsigned_stale hs _ _
  · exact unsigned_stale hs _ _
  · exact signed_stale hs _
  · exact hother _ _
  · exact raced_stale hs _
  · exact deadline_stale hs
  · exact sdkSettled_stale hs _
  · exact hother _ _
  · exact hother _ _
  · exact hother _ _
  · exact hother _ _

/-! ## §6. Moves that belong to an earlier address. -/

/-- An effect that was started under an earlier address settles. -/
def lateEffect (r : Runner) (m : Move) : Bool :=
  match m.event, r.loop with
  | .settle c, .on e => r.isStale e.opGeneration && (r.settle m.seen c).isSome
  | _, _ => false

/-- The move settles a call made under an earlier address, or one that is not there to settle. -/
def foreign (r : Runner) (m : Move) : Bool :=
  match m.event with
  | .settle c =>
    match r.loop with
    | .on e => r.isStale e.opGeneration || (r.settle m.seen c).isNone
    | _ => true
  | .intentRead opGeneration _ => r.isStale opGeneration || !r.reads.contains opGeneration
  | .orphanBuilt opGeneration _ => r.isStale opGeneration || !r.orphans.contains opGeneration
  | _ => false

/-- The loop finds nothing to do. -/
def rests (r : Runner) (seen : Seen) : Bool :=
  r.disposed || r.state.inFlight.isSome || seen.shut ||
    match reconcile r.state seen.moduleReady with
    | .idle => true
    | .awaitSignature reason => r.state.awaitingSignature = some reason
    | .run _ _ => false

/-- The move carries nothing over from an earlier address: an effect that settles late clears
    nothing and marks nothing (the session has nothing in flight and, where a create is given up,
    is marked cancelled already), and the loop it lets go finds nothing to do. -/
def parts (late : Bool) (r : Runner) (m : Move) : Prop :=
  match m.event with
  | .settle c =>
    match r.loop with
    | .on e => r.lateEffect m = true → r.state.inFlight = none ∧
        (cancels e.await c = true → r.state.awaitingSignature = some .createCancelled)
    | _ => True
  | .runLoop => late = true → r.loopScheduled = true → r.loop = .off → r.rests m.seen = true
  | .iterate => late = true → r.loop = .next → r.rests m.seen = true
  | _ => True

/-- A plan never is an intent read. -/
theorem reconcile_ne_intent (s : MachineState) (m : Bool) (v : Option Bool) :
    reconcile s m ≠ .run .intent v := by
  have hclient : reconcileClient s m ≠ .run .intent v := by
    unfold reconcileClient
    repeat' split
    all_goals simp
  have hintent : reconcileIntent s m ≠ .run .intent v := by
    unfold reconcileIntent
    repeat' split
    all_goals first | exact hclient | simp
  unfold reconcile
  repeat' split
  all_goals first | exact hintent | simp

/-- An effect begins with a call. -/
theorem startEffect_calls (r : Runner) {effect : ReconcilingOp} (v : Option Bool)
    (h : effect ≠ .intent) : ∃ c, (r.startEffect effect v).calls = c :: r.calls := by
  cases effect with
  | intent => exact absurd rfl h
  | create =>
    show ∃ c, r.startCreate.calls = c :: r.calls
    rw [startCreate_eq]
    refine ⟨.whenLocalIdle, congrArg (PortCall.whenLocalIdle :: ·) ?_⟩
    show (if _ then _ else _ : Runner).calls = r.calls
    split <;> rfl
  | revoke =>
    show ∃ c, r.startRevoke.calls = c :: r.calls
    unfold startRevoke
    dsimp only
    split
    · exact ⟨_, rfl⟩
    · exact ⟨_, rfl⟩
  | build => exact ⟨_, rfl⟩
  | sdk => exact ⟨_, rfl⟩
  | publish => exact ⟨_, rfl⟩

theorem iterate_rests {seen : Seen} (h : r.rests seen = true) :
    r.iterate seen = { r with loop := .off } := by
  unfold rests at h
  unfold Runner.iterate
  by_cases hc : (r.disposed || r.state.inFlight.isSome || seen.shut) = true
  · rw [if_pos hc]
  · rw [if_neg hc]
    have hplan := (Bool.or_eq_true_iff.1 h).resolve_left hc
    cases hp : reconcile r.state seen.moduleReady with
    | idle => rfl
    | run effect v => rw [hp] at hplan; exact nomatch hplan
    | awaitSignature reason =>
      rw [hp] at hplan
      have hreason : r.state.awaitingSignature = some reason := by simpa using hplan
      show { r.apply (.awaitingSignatureSet (some reason)) with loop := .off } = _
      have hstate : transitionMachine r.state (.awaitingSignatureSet (some reason)) = r.state := by
        show { r.state with awaitingSignature := some reason } = r.state
        rw [← hreason]
      unfold Runner.apply
      rw [hstate]

/-- A loop that finds something to do shows it. -/
theorem rests_of_same {seen : Seen} (hstate : (r.iterate seen).state = r.state)
    (hcalls : (r.iterate seen).calls = r.calls) : r.rests seen = true := by
  unfold Runner.iterate at hstate hcalls
  unfold rests
  by_cases hc : (r.disposed || r.state.inFlight.isSome || seen.shut) = true
  · rw [hc, Bool.true_or]
  · rw [if_neg hc] at hstate hcalls
    refine Bool.or_eq_true_iff.2 (Or.inr ?_)
    cases hp : reconcile r.state seen.moduleReady with
    | idle => rfl
    | run effect v =>
      rw [hp] at hcalls
      have hne : effect ≠ .intent := fun he => reconcile_ne_intent _ _ v (he ▸ hp)
      have hcall := startEffect_calls r v hne
      cases hcall with
      | intro c hcall =>
        have hlong : c :: r.calls = r.calls := hcall.symm.trans hcalls
        exact absurd (congrArg List.length hlong) (by simp)
    | awaitSignature reason =>
      rw [hp] at hstate
      have hreason : some reason = r.state.awaitingSignature :=
        congrArg MachineState.awaitingSignature hstate
      simp [hreason]

/-! ## §7. One step. -/

/-- A late effect that clears nothing and marks nothing leaves the second runner held. -/
theorem Twin.ended (h : Twin false r t) (he : r.loop = .on e) (hs : r.isStale e.opGeneration = true)
    {c : Completion} {s : Runner} (hend : Ended (r.marked e c) s)
    (hflight : r.state.inFlight = none)
    (hmark : cancels e.await c = true → r.state.awaitingSignature = some .createCancelled) :
    Twin true s t := by
  have hmarked : r.marked e c = r := by
    unfold marked
    split
    · next hc =>
      have hstate : transitionMachine r.state (.awaitingSignatureSet (some .createCancelled)) =
          r.state := by
        show { r.state with awaitingSignature := some .createCancelled } = r.state
        rw [← hmark hc]
      unfold Runner.apply
      rw [hstate]
    · rfl
  have hclear : transitionMachine r.state .effectCleared = r.state := by
    show { r.state with inFlight := none } = r.state
    rw [← hflight]
  have hnone := h.parted e he hs
  rw [hmarked] at hend
  have hnext : ∀ e', s.loop ≠ .on e' := fun e' he' => nomatch hend.loop.symm.trans he'
  exact {
    state := hend.state.trans (hclear.trans h.state)
    generation := hend.generation.trans h.generation
    disposed := hend.disposed.trans h.disposed
    creating := (hend.creating hnone).trans (hnone.symm.trans h.creating)
    scheduled := hend.scheduled.trans h.scheduled
    probes := hend.probes.trans h.probes
    releasing := hend.releasing.trans h.releasing
    calls := hend.calls.trans h.calls
    reads := fun g hg => by rw [hend.reads]; exact h.reads g (hend.generation ▸ hg)
    issued := fun client hc => by rw [hend.issued]; exact h.issued client hc
    level := fun hl => nomatch hl
    held := fun _ => ⟨fun e' he' => hnext e' he', e, (h.level rfl).1 ▸ he⟩
    parted := fun e' he' => absurd he' (hnext e')
    dated := fun g hg => by rw [hend.reads] at hg; rw [hend.generation]; exact h.dated g hg }

/-- A call that hands a client to the first runner can hand it to the second. -/
theorem Twin.issue (h : Twin late r t) {o : Option XmtpLocalClient} {r' : Runner}
    (hr : r.issue o = some r') : ∃ t', t.issue o = some t' ∧ Twin late r' t' := by
  cases o with
  | none =>
    injection hr with hr
    exact ⟨t, rfl, hr ▸ h⟩
  | some client =>
    have hnew := issue_some hr
    have ht : client ∉ t.issued := fun hc => hnew.1 (h.issued client hc)
    refine ⟨{ t with issued := client :: t.issued }, ?_, ?_⟩
    · show (if t.issued.contains client then _ else _) = _
      rw [if_neg (by simpa using ht)]
    · rw [hnew.2]
      exact { h with
        issued := fun c hc => by
          cases List.mem_cons.1 hc with
          | inl heq => exact List.mem_cons.2 (Or.inl heq)
          | inr hin => exact List.mem_cons.2 (Or.inr (h.issued c hin)) }

/-- What `issue` leaves alone. -/
theorem issue_keeps {o : Option XmtpLocalClient} {r' : Runner} (hr : r.issue o = some r') :
    r'.loop = r.loop ∧ r'.state = r.state ∧ r'.generation = r.generation := by
  cases o with
  | none =>
    injection hr with hr
    exact hr ▸ ⟨rfl, rfl, rfl⟩
  | some client =>
    rw [(issue_some hr).2]
    exact ⟨rfl, rfl, rfl⟩

theorem Twin.issued_left (h : Twin late r t) {o : Option XmtpLocalClient} {r' : Runner}
    (hr : r.issue o = some r') : Twin late r' t := by
  cases o with
  | none =>
    injection hr with hr
    exact hr ▸ h
  | some client =>
    rw [(issue_some hr).2]
    exact { h with issued := fun c hc => List.mem_cons.2 (Or.inr (h.issued c hc)) }

theorem step_settle_none {seen : Seen} {c : Completion} (h : r.settle seen c = none) :
    r.step ⟨.settle c, seen⟩ = r := by
  show (r.settle seen c).getD r = r
  rw [h]
  rfl

theorem step_settle_some {seen : Seen} {c : Completion} {s : Runner}
    (h : r.settle seen c = some s) : r.step ⟨.settle c, seen⟩ = s := by
  show (r.settle seen c).getD r = s
  rw [h]
  rfl

/-- The settled call of the effect that is on. -/
theorem settle_on (hl : r.loop = .on e) (seen : Seen) (c : Completion) :
    r.settle seen c = (r.issue c.client?).bind fun r => r.resume e seen c := by
  unfold Runner.settle
  rw [hl]

/-- Nothing is on that could settle. -/
theorem settle_idle (hl : ∀ e, r.loop ≠ .on e) (seen : Seen) (c : Completion) :
    r.settle seen c = none ∧ r.foreign ⟨.settle c, seen⟩ = true ∧
      r.lateEffect ⟨.settle c, seen⟩ = false := by
  unfold Runner.settle foreign lateEffect
  cases hloop : r.loop with
  | on e => exact absurd hloop (hl e)
  | off => exact ⟨rfl, rfl, rfl⟩
  | next => exact ⟨rfl, rfl, rfl⟩

theorem isStale_issue {o : Option XmtpLocalClient} {r' : Runner} (hr : r.issue o = some r')
    (g : ℕ) : r'.isStale g = r.isStale g := by
  unfold Runner.isStale
  rw [(issue_keeps hr).2.2]

theorem Twin.settle (h : Twin late r t) (c : Completion) (seen : Seen)
    (hm : r.parts late ⟨.settle c, seen⟩) :
    Twin (late || r.lateEffect ⟨.settle c, seen⟩) (r.step ⟨.settle c, seen⟩)
      (if r.foreign ⟨.settle c, seen⟩ then t else t.step ⟨.settle c, seen⟩) := by
  have hidle : (∀ e, r.loop ≠ .on e) → Twin (late || r.lateEffect ⟨.settle c, seen⟩)
      (r.step ⟨.settle c, seen⟩)
      (if r.foreign ⟨.settle c, seen⟩ then t else t.step ⟨.settle c, seen⟩) := by
    intro hl
    obtain ⟨hnone, hf, hlate⟩ := settle_idle hl seen c
    rw [step_settle_none hnone, if_pos hf, hlate, Bool.or_false]
    exact h
  cases hl : r.loop with
  | off => exact hidle fun e he => nomatch hl.symm.trans he
  | next => exact hidle fun e he => nomatch hl.symm.trans he
  | on e =>
    cases late with
    | true => exact absurd hl ((h.held rfl).1 e)
    | false =>
      cases hr : r.settle seen c with
      | none =>
        rw [step_settle_none hr, if_pos (by simp [foreign, hl, hr])]
        simpa [lateEffect, hl, hr] using h
      | some s =>
        rw [step_settle_some hr]
        have hbind := hr
        rw [settle_on hl] at hbind
        obtain ⟨r₁, hissue, hres⟩ := Option.bind_eq_some_iff.1 hbind
        have hkeep := issue_keeps hissue
        cases hs : r.isStale e.opGeneration with
        | true =>
          have hlate : r.lateEffect ⟨.settle c, seen⟩ = true := by
            simp [lateEffect, hl, hs, hr]
          have hfine : r.state.inFlight = none ∧ (cancels e.await c = true →
              r.state.awaitingSignature = some .createCancelled) := by
            have hm' := hm
            simp only [parts, hl] at hm'
            exact hm' hlate
          have hs₁ := (isStale_issue hissue e.opGeneration).trans hs
          rw [hlate, if_pos (by simp [foreign, hl, hs])]
          exact (h.issued_left hissue).ended (hkeep.1.trans hl) hs₁ (resume_stale hs₁ hres)
            (hkeep.2.1 ▸ hfine.1) (hkeep.2.1 ▸ hfine.2)
        | false =>
          have hlate : r.lateEffect ⟨.settle c, seen⟩ = false := by simp [lateEffect, hl, hs]
          have hg : e.opGeneration = r₁.generation := by
            rw [hkeep.2.2]
            simpa [Runner.isStale] using hs
          obtain ⟨t₁, htissue, ht₁⟩ := h.issue hissue
          obtain ⟨t', htres, ht'⟩ := ht₁.resume hg hres
          have htset : t.settle seen c = some t' := by
            rw [settle_on ((h.level rfl).1 ▸ hl), htissue]
            exact htres
          rw [hlate, if_neg (by simp [foreign, hl, hs, hr]), step_settle_some htset]
          exact ht'

theorem Twin.readSettled (h : Twin late r t) (g : ℕ) (s : Settled IntentReadResult) (seen : Seen) :
    Twin late (r.readSettled g s)
      (if r.foreign ⟨.intentRead g s, seen⟩ then t else t.readSettled g s) := by
  by_cases hin : g ∈ r.reads
  · have hc : r.reads.contains g = true := by simpa using hin
    have hr : r.readSettled g s = if r.isStale g then { r with reads := r.reads.erase g }
        else ({ r with reads := r.reads.erase g }).intentRead s := if_pos hc
    rw [hr]
    cases hs : r.isStale g with
    | true =>
      have hf : r.foreign ⟨.intentRead g s, seen⟩ = true := by simp [foreign, hs]
      rw [if_pos hf]
      -- the read is of an earlier session, and those of this one are as they were
      have hlt : g < r.generation := by
        have hne : g ≠ r.generation := by simpa [Runner.isStale] using hs
        have hle := h.dated g hin
        omega
      exact { h with
        reads := fun g' hg' => by
          show (r.reads.erase g).count g' = _
          have hne : g' ≠ g := by
            have hg' : r.generation ≤ g' := hg'
            omega
          rw [List.count_erase_of_ne hne]
          exact h.reads g' hg'
        dated := fun g' hg' => h.dated g' (List.mem_of_mem_erase hg') }
    | false =>
      have hg : g = r.generation := by simpa [Runner.isStale] using hs
      have hpos : 0 < t.reads.count g := by
        rw [← h.reads g (Nat.le_of_eq hg.symm)]
        exact List.count_pos_iff.2 hin
      have ht : t.readSettled g s = if t.isStale g then { t with reads := t.reads.erase g }
          else ({ t with reads := t.reads.erase g }).intentRead s :=
        if_pos (by simpa using List.count_pos_iff.1 hpos)
      have hf : ¬r.foreign ⟨.intentRead g s, seen⟩ = true := by simp [foreign, hs, hin]
      rw [if_neg hf, ht, ← h.isStale g, hs]
      refine Twin.intentRead ?_ s
      exact { h with
        reads := fun g' hg' => by
          show (r.reads.erase g).count g' = (t.reads.erase g).count g'
          rw [List.count_erase, List.count_erase, h.reads g' hg']
        dated := fun g' hg' => h.dated g' (List.mem_of_mem_erase hg') }
  · have hr : r.readSettled g s = r := if_neg (by simpa using hin)
    rw [hr, if_pos (by simp [foreign, hin])]
    exact h

/-- A build that was given up: it changes the clients handed over and closed, and nothing else. -/
theorem orphanSettled_frame (r : Runner) (g : ℕ) (s : Settled BuildLocalResult) :
    ∃ os is cs, r.orphanSettled g s = { r with orphans := os, issued := is, closed := cs } ∧
      (∀ c ∈ r.issued, c ∈ is) ∧
      (r.orphans.contains g = true → ∀ c, s = .ok (.ok c) → c ∈ is) ∧
      ∀ c ∈ is, c ∈ r.issued ∨ s = .ok (.ok c) ∧ r.orphans.contains g = true := by
  unfold Runner.orphanSettled
  by_cases hin : r.orphans.contains g = true
  · rw [if_pos hin]
    dsimp only
    split
    · next client =>
      cases hissue : ({ r with orphans := r.orphans.erase g }).issue (some client) with
      | none =>
        have hold : client ∈ r.issued := by
          by_cases hc : r.issued.contains client = true
          · simpa using hc
          · change (if r.issued.contains client then _ else _) = _ at hissue
            rw [if_neg hc] at hissue
            exact nomatch hissue
        refine ⟨r.orphans, r.issued, r.closed, rfl, fun c hc => hc, fun _ c hc => ?_,
          fun c hc => Or.inl hc⟩
        injection hc with hc
        injection hc with hc
        exact hc ▸ hold
      | some r' =>
        have hnew := issue_some hissue
        refine ⟨r.orphans.erase g, client :: r.issued, client :: r.closed, ?_,
          fun c hc => List.mem_cons_of_mem _ hc, fun _ c hc => ?_, fun c hc => ?_⟩
        · show r'.closeLocal client = _
          rw [hnew.2]
          rfl
        · injection hc with hc
          injection hc with hc
          exact hc ▸ List.mem_cons_self
        · cases List.mem_cons.1 hc with
          | inl heq => exact Or.inr ⟨by rw [heq], hin⟩
          | inr hold => exact Or.inl hold
    · next hno =>
      exact ⟨r.orphans.erase g, r.issued, r.closed, rfl, fun c hc => hc,
        fun _ c hc => absurd hc (hno c), fun c hc => Or.inl hc⟩
  · rw [if_neg hin]
    exact ⟨r.orphans, r.issued, r.closed, rfl, fun c hc => hc, fun hc => absurd hc hin,
      fun c hc => Or.inl hc⟩

theorem Twin.orphanSettled (h : Twin late r t) (g : ℕ) (s : Settled BuildLocalResult)
    (seen : Seen) :
    Twin late (r.orphanSettled g s)
      (if r.foreign ⟨.orphanBuilt g s, seen⟩ then t else t.orphanSettled g s) := by
  obtain ⟨os, is, cs, hr, hold, hnew, -⟩ := r.orphanSettled_frame g s
  obtain ⟨os', is', cs', ht, -, -, hsub⟩ := t.orphanSettled_frame g s
  rw [hr]
  by_cases hf : r.foreign ⟨.orphanBuilt g s, seen⟩ = true
  · rw [if_pos hf]
    exact { h with issued := fun c hc => hold c (h.issued c hc) }
  · rw [if_neg hf, ht]
    have hin : r.orphans.contains g = true := by
      simp only [foreign, Bool.or_eq_true, not_or] at hf
      simpa using hf.2
    exact { h with
      issued := fun c hc => by
        cases hsub c hc with
        | inl hc => exact hold c (h.issued c hc)
        | inr hc => exact hnew hin c hc.1 }

theorem Twin.runLoop (h : Twin late r t) (seen : Seen)
    (hm : late = true → r.loopScheduled = true → r.loop = .off → r.rests seen = true) :
    Twin late (if r.loopScheduled then r.runLoop seen else r)
      (if t.loopScheduled then t.runLoop seen else t) := by
  have hsched := h.scheduled
  by_cases hq : r.loopScheduled = true
  · rw [if_pos hq, if_pos (hsched ▸ hq)]
    have hoff : Twin late { r with loopScheduled := false } { t with loopScheduled := false } :=
      { h with scheduled := rfl }
    cases late with
    | false =>
      have hl := (h.level rfl).1
      have htick : (r.disposed || r.ticking) = (t.disposed || t.ticking) := by
        unfold ticking
        rw [h.disposed, hl]
      show Twin false (if r.disposed || r.ticking then _ else _)
        (if t.disposed || t.ticking then _ else _)
      rw [htick]
      split
      · exact hoff
      · next hidle =>
        refine hoff.iterate (fun e he => hidle ?_) seen
        have he : r.loop = .on e := he
        have ht : t.loop = .on e := hl ▸ he
        simp [ticking, ht]
    | true =>
      -- the second runner is held, and what the first one does shows nothing
      obtain ⟨hfree, e, he⟩ := h.held rfl
      have ht : t.runLoop seen = { t with loopScheduled := false } := by
        show (if t.disposed || t.ticking then _ else _) = _
        rw [if_pos (by simp [ticking, he])]
      rw [ht]
      show Twin true (if r.disposed || r.ticking then _ else _) _
      split
      · exact hoff
      · next hidle =>
        have hloop : r.loop = .off := by
          simp only [Bool.or_eq_true, not_or, ticking, decide_eq_true_eq] at hidle
          exact Decidable.not_not.1 hidle.2
        have hrest : ({ r with loopScheduled := false }).rests seen = true := hm rfl hq hloop
        rw [iterate_rests hrest]
        exact { hoff with
          level := fun hl => nomatch hl
          held := fun _ => ⟨fun e he => (nomatch he), e, he⟩
          parted := fun e he => (nomatch he) }
  · rw [if_neg hq, if_neg (hsched ▸ hq)]
    exact h

theorem Twin.goOn (h : Twin late r t) (seen : Seen)
    (hm : late = true → r.loop = .next → r.rests seen = true) :
    Twin late (if r.loop = .next then r.iterate seen else r)
      (if t.loop = .next then t.iterate seen else t) := by
  cases late with
  | false =>
    rw [(h.level rfl).1]
    split
    · next hn => exact h.iterate (fun e he => by rw [(h.level rfl).1, hn] at he; exact nomatch he) seen
    · exact h
  | true =>
    obtain ⟨hfree, e, he⟩ := h.held rfl
    have hne : ¬t.loop = .next := by rw [he]; exact fun hn => nomatch hn
    rw [if_neg hne]
    split
    · next hn =>
      rw [iterate_rests (hm rfl hn)]
      exact { h with
        level := fun hl => nomatch hl
        held := fun _ => ⟨fun e he => (nomatch he), e, he⟩
        parted := fun e he => (nomatch he) }
    · exact h

/-- **One step.**  The second runner leaves out what belongs to an earlier address. -/
theorem Twin.step (h : Twin late r t) (m : Move) (hm : r.parts late m) :
    Twin (late || r.lateEffect m) (r.step m) (if r.foreign m then t else t.step m) := by
  have hor : ∀ {r' t' : Runner}, Twin late r' t' → Twin (late || false) r' t' := by
    intro r' t' h'
    rw [Bool.or_false]
    exact h'
  cases m with
  | mk event seen =>
    cases event with
    | start =>
      have hp : Twin late { r with probes := r.probes + 1 } { t with probes := t.probes + 1 } :=
        { h with probes := congrArg (· + 1) h.probes }
      exact hor (hp.call rfl)
    | probed ok =>
      have hp : Twin late { r with probes := r.probes - 1 } { t with probes := t.probes - 1 } :=
        { h with probes := congrArg (· - 1) h.probes }
      have hdone := hp.ite (hp.loadIntent seen) (p := !ok || r.disposed) (q := !ok || t.disposed)
        (by rw [h.disposed])
      exact hor (h.ite' hdone (by rw [h.probes]))
    | dispatch command => exact hor (h.dispatch seen command)
    | requestLocalClient => exact hor (h.demand true)
    | releaseLocalClient => exact hor (h.demand false)
    | addressChange address => exact hor (h.onAddressChange seen address)
    | dispose => exact hor h.dispose
    | runLoop => exact hor (h.runLoop seen hm)
    | iterate => exact hor (h.goOn seen hm)
    | settle c => exact h.settle c seen hm
    | intentRead g s => exact hor (h.readSettled g s seen)
    | orphanBuilt g s => exact hor (h.orphanSettled g s seen)
    | release client =>
      have hp : Twin late
          ({ r with releasing := r.releasing.erase client }.closeLocal client)
          ({ t with releasing := t.releasing.erase client }.closeLocal client) :=
        { h with releasing := congrArg (·.erase client) h.releasing }
      exact hor (hp.ite h (by rw [h.releasing]))

/-- The machine's state and the calls that were made are the same. -/
def Alike (r t : Runner) : Prop := r.state = t.state ∧ r.calls = t.calls

/-- A step that carries something over shows it at once. -/
theorem Twin.parts (h : Twin late r t) (m : Move)
    (hsame : Alike (r.step m) (if r.foreign m then t else t.step m)) : r.parts late m := by
  cases m with
  | mk event seen =>
    cases event with
    | settle c =>
      show match r.loop with | .on e => _ | _ => True
      cases hl : r.loop with
      | off => trivial
      | next => trivial
      | on e =>
        intro hlate
        have hboth : r.isStale e.opGeneration = true ∧ (r.settle seen c).isSome = true := by
          simpa [lateEffect, hl] using hlate
        have hf : r.foreign ⟨.settle c, seen⟩ = true := by simp [foreign, hl, hboth.1]
        rw [if_pos hf] at hsame
        obtain ⟨s, hr⟩ := Option.isSome_iff_exists.1 hboth.2
        have hstate : s.state = r.state := by
          rw [step_settle_some hr] at hsame
          exact hsame.1.trans h.state.symm
        have hbind := hr
        rw [settle_on hl] at hbind
        obtain ⟨r₁, hissue, hres⟩ := Option.bind_eq_some_iff.1 hbind
        have hend := (resume_stale ((isStale_issue hissue _).trans hboth.1) hres).state
        rw [hstate] at hend
        refine ⟨by rw [hend]; rfl, fun hc => ?_⟩
        rw [hend]
        show (r₁.marked e c).state.awaitingSignature = _
        unfold marked
        rw [if_pos hc]
        rfl
    | runLoop =>
      intro hl hq hoff
      subst hl
      obtain ⟨-, e, he⟩ := h.held rfl
      by_cases hd : r.disposed = true
      · unfold rests
        rw [hd]
        rfl
      · have hr : r.step ⟨.runLoop, seen⟩ = { r with loopScheduled := false }.iterate seen := by
          show (if r.loopScheduled then (if r.disposed || r.ticking then _ else _) else r) = _
          rw [if_pos hq, if_neg (by simp [ticking, hoff, hd])]
        have ht : t.step ⟨.runLoop, seen⟩ = { t with loopScheduled := false } := by
          show (if t.loopScheduled then (if t.disposed || t.ticking then _ else _) else t) = _
          rw [if_pos (h.scheduled ▸ hq), if_pos (by simp [ticking, he])]
        rw [hr, show r.foreign ⟨.runLoop, seen⟩ = false from rfl, if_neg (fun hf => nomatch hf),
          ht] at hsame
        have hrest : ({ r with loopScheduled := false }).rests seen = true :=
          rests_of_same (hsame.1.trans h.state.symm) (hsame.2.trans h.calls.symm)
        exact hrest
    | iterate =>
      intro hl hn
      subst hl
      obtain ⟨-, e, he⟩ := h.held rfl
      have hr : r.step ⟨.iterate, seen⟩ = r.iterate seen := if_pos hn
      have ht : t.step ⟨.iterate, seen⟩ = t := if_neg (by rw [he]; exact fun hn => nomatch hn)
      rw [hr, show r.foreign ⟨.iterate, seen⟩ = false from rfl, if_neg (fun hf => nomatch hf),
        ht] at hsame
      exact rests_of_same (hsame.1.trans h.state.symm) (hsame.2.trans h.calls.symm)
    | _ => trivial

/-- The run without the moves that belong to an earlier address. -/
def kept : Runner → List Move → List Move
  | _, [] => []
  | r, m :: ms => if r.foreign m then kept (r.step m) ms else m :: kept (r.step m) ms

/-- Every move of the run parts with the earlier addresses. -/
def Parted : Bool → Runner → List Move → Prop
  | _, _, [] => True
  | late, r, m :: ms => r.parts late m ∧ Parted (late || r.lateEffect m) (r.step m) ms

theorem Twin.alike (h : Twin late r t) : Alike r t := ⟨h.state, h.calls⟩

theorem Twin.run (h : Twin late r t) (run : List Move) :
    (∀ n, Alike ((run.take n).foldl Runner.step r) ((kept r (run.take n)).foldl Runner.step t)) ↔
      Parted late r run := by
  induction run generalizing late r t with
  | nil =>
    refine ⟨fun _ => trivial, fun _ n => ?_⟩
    rw [List.take_nil]
    exact h.alike
  | cons m ms ih =>
    have hkept : ∀ n, (kept r ((m :: ms).take (n + 1))).foldl Runner.step t =
        (kept (r.step m) (ms.take n)).foldl Runner.step (if r.foreign m then t else t.step m) := by
      intro n
      rw [List.take_succ_cons]
      show (if r.foreign m then _ else _ : List Move).foldl Runner.step t = _
      split
      · rfl
      · rfl
    constructor
    · intro hall
      have hm : r.parts late m := by
        have hone := hall 1
        rw [hkept 0] at hone
        exact h.parts m (by simpa [kept] using hone)
      refine ⟨hm, (ih (h.step m hm)).1 fun n => ?_⟩
      have hn := hall (n + 1)
      rw [hkept n] at hn
      exact hn
    · intro hp n
      cases n with
      | zero => exact h.alike
      | succ n =>
        rw [hkept n]
        exact (ih (h.step m hp.1)).2 hp.2 n

theorem twin_start (address : Text) :
    Twin false (createEffectsRunner address) (createEffectsRunner address) where
  state := rfl
  generation := rfl
  disposed := rfl
  creating := rfl
  scheduled := rfl
  probes := rfl
  releasing := rfl
  calls := rfl
  reads _ _ := rfl
  issued _ hc := hc
  level _ := ⟨rfl, rfl, rfl, rfl⟩
  held hl := nomatch hl
  parted _ he := nomatch he
  dated _ hg := nomatch hg

end Runner

/-- **Isolation of sessions.**  Throughout the run the machine's state and the calls are those of
    the run without the completions that belong to an earlier address, exactly if every move of
    the run parts with the earlier addresses. -/
theorem sessions_isolated_iff (address : Text) (run : List Move) :
    (∀ n, Runner.Alike ((run.take n).foldl Runner.step (createEffectsRunner address))
      ((Runner.kept (createEffectsRunner address) (run.take n)).foldl Runner.step
        (createEffectsRunner address))) ↔
      Runner.Parted false (createEffectsRunner address) run :=
  (Runner.twin_start address).run run

/-- A create is given up for a change of address, and settles afterwards: the session of the new
    address, which has made no create, is marked as one whose create was cancelled, and its intent
    read is no longer in flight. -/
def lateCreate : List Move :=
  let seen : Seen := ⟨some .eoa, some ['0', 'x', 'a'], true, 0, 0, some (some true), none⟩
  let other : Seen := ⟨some .eoa, some ['0', 'x', 'b'], true, 0, 0, none, none⟩
  [⟨.start, seen⟩, ⟨.probed true, seen⟩, ⟨.requestLocalClient, seen⟩,
    ⟨.dispatch .enable, seen⟩, ⟨.runLoop, seen⟩, ⟨.settle (.done (.ok ())), seen⟩,
    ⟨.settle (.built (.ok (.failed .notRegistered))), seen⟩, ⟨.iterate, seen⟩,
    ⟨.addressChange ['0', 'x', 'b'], other⟩, ⟨.settle (.done (.ok ())), other⟩]

theorem cancelled_next_session :
    ¬ ∀ (address : Text) (run : List Move) (n : ℕ),
      Runner.Alike ((run.take n).foldl Runner.step (createEffectsRunner address))
        ((Runner.kept (createEffectsRunner address) (run.take n)).foldl Runner.step
          (createEffectsRunner address)) := by
  intro h
  have hsame := congrArg MachineState.awaitingSignature (h ['0', 'x', 'a'] lateCreate 10).1
  have hfull : ((lateCreate.take 10).foldl Runner.step
      (createEffectsRunner ['0', 'x', 'a'])).state.awaitingSignature = some .createCancelled := by
    decide
  have hkept : ((Runner.kept (createEffectsRunner ['0', 'x', 'a']) (lateCreate.take 10)).foldl
      Runner.step (createEffectsRunner ['0', 'x', 'a'])).state.awaitingSignature = none := by
    decide
  rw [hfull, hkept] at hsame
  exact nomatch hsame

end Kargain.Messaging
