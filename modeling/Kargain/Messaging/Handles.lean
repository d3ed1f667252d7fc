/-
  Kargain.Messaging.Handles — who owns a client that a call handed over.

  Every client handed over is in one place: it is the state's client, it
  waits to be closed, or it is closed (`Books`).  A step adopts a client
  only where a build or a create was in progress, and such an effect runs
  only while the state has none.

  Dispose releases the state's client, but it ends neither the effect in
  progress nor its generation: a client that comes after it is adopted by
  a runner nobody releases any more (`left_open`).  Main result:
  `handles_settled`, the ledger of clients in every run in which no client
  comes after dispose.
-/
import Mathlib
import Kargain.Base.Erasure
import Kargain.Messaging.Runner

namespace Kargain.Messaging

open Kargain.Erasure

/-! ## §1. Events and steps that touch no client. -/

/-- The event leaves the client alone and opens no create stage. -/
def MachineEvent.mild : MachineEvent → Bool
  | generationBumped _ => false
  | localClientSet _ _ => false
  | resetChainSet (some .create) => false
  | _ => true

theorem transition_mild {s : MachineState} {e : MachineEvent} (h : e.mild = true) :
    (transitionMachine s e).localClient = s.localClient ∧
      ((transitionMachine s e).resetChain = some .create → s.resetChain = some .create) := by
  cases e with
  | resetChainSet stage =>
    cases stage with
    | none => exact ⟨rfl, fun h => nomatch h⟩
    | some stage =>
      cases stage with
      | revoke => exact ⟨rfl, fun h => nomatch h⟩
      | create => exact nomatch h
  | resetCleared => exact ⟨rfl, fun h => nomatch h⟩
  | generationBumped _ => exact nomatch h
  | localClientSet _ _ => exact nomatch h
  | _ => exact ⟨rfl, fun h => h⟩

/-- The await is one of an effect that can hand over a client. -/
def Await.makes : Await → Bool
  | createIdle | createReady | createDurable | createSign | buildIdle | buildRace => true
  | _ => false

namespace Runner

/-- The two runners differ in nothing that concerns a client, no create stage was opened and no
    effect begun. -/
structure Mild (r r' : Runner) : Prop where
  client : r'.state.localClient = r.state.localClient
  chain : r'.state.resetChain = some .create → r.state.resetChain = some .create
  releasing : r'.releasing = r.releasing
  issued : r'.issued = r.issued
  closed : r'.closed = r.closed
  generation : r'.generation = r.generation
  disposed : r'.disposed = r.disposed
  calm : ∀ e, r'.loop = .on e → r.loop = .on e

theorem Mild.refl (r : Runner) : Mild r r := ⟨rfl, fun h => h, rfl, rfl, rfl, rfl, rfl, fun _ h => h⟩

theorem Mild.trans {r s t : Runner} (h : Mild r s) (h' : Mild s t) : Mild r t where
  client := h'.client.trans h.client
  chain hc := h.chain (h'.chain hc)
  releasing := h'.releasing.trans h.releasing
  issued := h'.issued.trans h.issued
  closed := h'.closed.trans h.closed
  generation := h'.generation.trans h.generation
  disposed := h'.disposed.trans h.disposed
  calm e hl := h.calm e (h'.calm e hl)

theorem mild_apply (r : Runner) {e : MachineEvent} (h : e.mild = true) : Mild r (r.apply e) :=
  ⟨(transition_mild h).1, (transition_mild h).2, rfl, rfl, rfl, rfl, rfl, fun _ hl => hl⟩

theorem mild_applyAll (r : Runner) (es : List MachineEvent) (h : es.all MachineEvent.mild = true) :
    Mild r (r.applyAll es) := by
  induction es generalizing r with
  | nil => exact Mild.refl r
  | cons e es ih =>
    rw [List.all_cons, Bool.and_eq_true] at h
    exact (mild_apply r h.1).trans (ih (r.apply e) h.2)

variable {r s : Runner}

theorem Mild.apply (h : Mild r s) {e : MachineEvent} (he : e.mild = true) : Mild r (s.apply e) :=
  h.trans (mild_apply s he)

theorem Mild.applyAll (h : Mild r s) {es : List MachineEvent}
    (he : es.all MachineEvent.mild = true) : Mild r (s.applyAll es) :=
  h.trans (mild_applyAll s es he)

theorem Mild.call (h : Mild r s) (c : PortCall) : Mild r (s.call c) :=
  h.trans ⟨rfl, fun hc => hc, rfl, rfl, rfl, rfl, rfl, fun _ hl => hl⟩

theorem Mild.abortInFlight (h : Mild r s) : Mild r s.abortInFlight :=
  h.trans ⟨rfl, fun hc => hc, rfl, rfl, rfl, rfl, rfl, fun _ hl => hl⟩

theorem Mild.abortCreate (h : Mild r s) : Mild r s.abortCreate :=
  h.trans ⟨rfl, fun hc => hc, rfl, rfl, rfl, rfl, rfl, fun _ hl => hl⟩

theorem Mild.beginInFlight (h : Mild r s) : Mild r s.beginInFlight :=
  h.trans ⟨rfl, fun hc => hc, rfl, rfl, rfl, rfl, rfl, fun _ hl => hl⟩

theorem Mild.endInFlight (h : Mild r s) : Mild r s.endInFlight :=
  h.trans ⟨rfl, fun hc => hc, rfl, rfl, rfl, rfl, rfl, fun _ hl => hl⟩

theorem Mild.finish (h : Mild r s) : Mild r s.finish :=
  h.trans ⟨rfl, fun hc => hc, rfl, rfl, rfl, rfl, rfl, fun _ hl => nomatch hl⟩

theorem Mild.finishCreate (h : Mild r s) : Mild r s.finishCreate :=
  h.trans ⟨rfl, fun hc => hc, rfl, rfl, rfl, rfl, rfl, fun _ hl => nomatch hl⟩

theorem Mild.scheduleLoop (h : Mild r s) : Mild r s.scheduleLoop := by
  refine h.trans ?_
  unfold Runner.scheduleLoop
  split
  · exact Mild.refl s
  · exact ⟨rfl, fun hc => hc, rfl, rfl, rfl, rfl, rfl, fun _ hl => hl⟩

/-! ## §2. The mild parts of the runner. -/

theorem mild_caught (r : Runner) (g : ℕ) (cause : Option Text) : Mild r (r.caught g cause) := by
  unfold caught
  split
  · exact Mild.refl r
  · split
    · exact Mild.refl r
    · exact mild_apply r rfl

theorem mild_caughtCreate (r : Runner) (g : ℕ) (reason : SessionReason) :
    Mild r (r.caughtCreate g reason) := by
  unfold caughtCreate
  split
  · exact Mild.refl r
  · exact mild_apply r rfl

theorem mild_timedOut (r : Runner) (e : Effect) : Mild r (r.timedOut e) := by
  refine Mild.finish ?_
  split
  · exact Mild.refl r
  · exact mild_apply r rfl

theorem mild_deadline (r : Runner) (e : Effect) : Mild r (r.deadline e) :=
  Mild.trans (s := { r with
    aborted := r.abortController.toList ++ r.aborted
    orphans := e.opGeneration :: r.orphans })
    ⟨rfl, fun hc => hc, rfl, rfl, rfl, rfl, rfl, fun _ hl => hl⟩ (mild_timedOut _ e)

theorem mild_sdkSettled (r : Runner) (e : Effect) (s : Settled Unit) :
    Mild r (r.sdkSettled e s) := by
  unfold sdkSettled
  split
  · exact (Mild.refl r).finish
  · exact (Mild.refl r).finish
  · split
    · exact (Mild.refl r).finish
    · exact (mild_apply r rfl).finish

theorem mild_published (r : Runner) (enabled : Bool) (result : PublishResult) :
    Mild r (r.published enabled result) := by
  cases result with
  | ok =>
    have h := mild_applyAll r [.publishErrorSet false, .publishPendingSet false] rfl
    cases enabled with
    | true => exact ((h.apply rfl).call _).apply rfl
    | false => exact (h.applyAll rfl).call _
  | signatureDeclined =>
    have h := mild_apply r (e := .publishErrorSet false) rfl
    cases enabled with
    | true => exact h.applyAll rfl
    | false => exact h.apply rfl
  | publishFailed =>
    cases enabled with
    | true => exact mild_applyAll r _ rfl
    | false => exact mild_applyAll r _ rfl

theorem mild_revokedOthers (r : Runner) (done : Bool) : Mild r (r.revokedOthers done) := by
  cases done with
  | true => exact mild_apply r rfl
  | false => exact mild_applyAll r _ rfl

theorem mild_startOther (r : Runner) (effect : ReconcilingOp) : Mild r (r.startOther effect) :=
  (mild_apply r rfl).beginInFlight

theorem mild_loadIntent (r : Runner) (seen : Seen) : Mild r (r.loadIntent seen) := by
  unfold loadIntent
  split
  · exact Mild.refl r
  · split
    · exact (mild_apply r rfl).scheduleLoop
    · refine Mild.call ?_ _
      exact (mild_apply r rfl).trans ⟨rfl, fun hc => hc, rfl, rfl, rfl, rfl, rfl, fun _ hl => hl⟩

theorem mild_intentRead (r : Runner) (s : Settled IntentReadResult) :
    Mild r (r.intentRead s) := by
  unfold intentRead
  split
  · exact ((((mild_apply r rfl).call _).call _).scheduleLoop).apply rfl
  · exact ((mild_apply r rfl).scheduleLoop).apply rfl
  · exact ((mild_apply r rfl).scheduleLoop).apply rfl
  · exact ((mild_apply r rfl).scheduleLoop).apply rfl

theorem mild_cancel (r : Runner) : Mild r r.cancel := by
  have h : Mild r r.abortCreate.abortInFlight := (Mild.refl r).abortCreate.abortInFlight
  unfold cancel
  refine Mild.scheduleLoop ?_
  have h' : Mild r (if r.abortCreate.abortInFlight.state.inFlight.isSome
      then r.abortCreate.abortInFlight.endInFlight else r.abortCreate.abortInFlight) := by
    split
    · exact h.endInFlight
    · exact h
  split
  · exact h'.applyAll rfl
  · exact h'

theorem mild_dispatch (r : Runner) (seen : Seen) (command : SessionCommand) :
    Mild r (r.dispatch seen command) := by
  unfold dispatch
  split
  · exact Mild.refl r
  · cases command with
    | enable => exact (mild_applyAll r _ rfl).scheduleLoop
    | disable => exact (mild_apply r rfl).scheduleLoop
    | resetIdentity => exact (mild_applyAll r _ rfl).scheduleLoop
    | revokeAllInstallations =>
      have h := mild_applyAll r [.awaitingSignatureSet none, .lastErrorSet none none] rfl
      show Mild r (if isRevokeAllInCooldown seen then _ else _)
      split
      · exact h.applyAll rfl
      · exact (h.applyAll rfl).scheduleLoop
    | retry =>
      have h := mild_applyAll r [.awaitingSignatureSet none, .lastErrorSet none none,
        .revokeAllCooldownSet false] rfl
      refine Mild.scheduleLoop ?_
      split
      · exact h.applyAll rfl
      · exact h.apply rfl
    | cancel => exact mild_cancel r

theorem mild_demand (r : Runner) (up : Bool) : Mild r (r.demand up) := by
  unfold demand
  split
  · exact Mild.refl r
  · exact (mild_apply r rfl).scheduleLoop

/-! ## §3. The ledger of clients. -/

/-- Every client handed over is counted once, and a client can only come where there is none. -/
structure Held (r : Runner) : Prop where
  books : (r.state.localClient.toList ++ r.releasing ++ r.closed).Perm r.issued
  fresh : r.issued.Nodup
  dated : ∀ e, r.loop = .on e → e.opGeneration ≤ r.generation
  vacant : ∀ e, r.loop = .on e → e.await.makes = true → e.opGeneration = r.generation →
    r.state.localClient = none ∧ r.state.resetChain ≠ some .create
  chain : r.state.resetChain = some .create → r.state.localClient = none
  shut : r.disposed = true → r.state.localClient = none

theorem Held.mild (h : Held r) (m : Mild r s) : Held s where
  books := by rw [m.client, m.releasing, m.closed, m.issued]; exact h.books
  fresh := m.issued ▸ h.fresh
  dated e he := m.generation ▸ h.dated e (m.calm e he)
  vacant e he hm hg := by
    have hv := h.vacant e (m.calm e he) hm (m.generation ▸ hg)
    exact ⟨m.client.trans hv.1, fun hc => hv.2 (m.chain hc)⟩
  chain hc := m.client.trans (h.chain (m.chain hc))
  shut hd := m.client.trans (h.shut (m.disposed ▸ hd))

/-- An effect goes on to its next call, or starts with its first one. -/
theorem Held.awaits (h : Held r) (a : Await) (g c : ℕ) (p : PortCall) (hg : g ≤ r.generation)
    (hv : a.makes = true → g = r.generation →
      r.state.localClient = none ∧ r.state.resetChain ≠ some .create) :
    Held (r.awaits a g c p) where
  books := h.books
  fresh := h.fresh
  dated e he := by cases he; exact hg
  vacant e he hm hgen := by cases he; exact hv hm hgen
  chain := h.chain
  shut := h.shut

/-- The effect in progress goes on to another call of its own kind. -/
theorem Held.goesOn (h : Held r) {e : Effect} (he : r.loop = .on e) (m : Mild r s) (a : Await)
    (ha : a.makes = true → e.await.makes = true) (p : PortCall) :
    Held (s.awaits a e.opGeneration e.signal p) := by
  refine (h.mild m).awaits a _ _ p (m.generation ▸ h.dated e he) ?_
  intro hm hg
  have hv := h.vacant e he (ha hm) (m.generation ▸ hg)
  exact ⟨m.client.trans hv.1, fun hc => hv.2 (m.chain hc)⟩

/-! ## §4. The steps keep the ledger. -/

variable {e : Effect} {seen : Seen}

theorem Held.raceBuild (h : Held r) (he : r.loop = .on e) (hm : e.await.makes = true) :
    Held (r.raceBuild e seen) := by
  have m := mild_apply r (e := .effectStarted .build (seen.nowMs + buildDeadlineMs) e.opGeneration)
    rfl
  show Held (if seen.nowMs + buildDeadlineMs ≤ seen.laterMs then _ else _)
  split
  · exact h.mild (m.trans (mild_timedOut _ e))
  · exact h.goesOn he m .buildRace (fun _ => hm) _

theorem Held.revokePublished (h : Held r) (he : r.loop = .on e) (result : PublishResult) :
    Held (r.revokePublished e result) := by
  cases result with
  | ok => exact h.goesOn he ((mild_apply r rfl).call _) .revokeAll (fun hc => nomatch hc) _
  | signatureDeclined => exact h.mild (mild_applyAll r _ rfl).finish
  | publishFailed => exact h.mild (mild_applyAll r _ rfl).finish

/-- A client is closed that is nowhere else: one that a call just handed over. -/
theorem Held.closeIssued (h : Held r) {client : XmtpLocalClient} (hnew : client ∉ r.issued) :
    Held ({ r with issued := client :: r.issued }.closeLocal client) where
  books := List.perm_middle.trans (h.books.cons client)
  fresh := List.nodup_cons.2 ⟨hnew, h.fresh⟩
  dated := h.dated
  vacant := h.vacant
  chain := h.chain
  shut := h.shut

/-- A client that a call just handed over becomes the state's. -/
theorem Held.adopt (h : Held r) {client : XmtpLocalClient} (hnew : client ∉ r.issued)
    (hnone : r.state.localClient = none) (hopen : r.disposed = false)
    (hs : s.state.localClient = some client) (hchain : s.state.resetChain ≠ some .create)
    (hrel : s.releasing = r.releasing) (hiss : s.issued = client :: r.issued)
    (hclosed : s.closed = r.closed) (hdis : s.disposed = r.disposed) (hloop : s.loop = .next) :
    Held s where
  books := by
    have hb := h.books
    rw [hnone] at hb
    rw [hs, hrel, hclosed, hiss]
    exact hb.cons client
  fresh := by rw [hiss]; exact List.nodup_cons.2 ⟨hnew, h.fresh⟩
  dated e he := by rw [hloop] at he; exact nomatch he
  vacant e he := by rw [hloop] at he; exact nomatch he
  chain hc := absurd hc hchain
  shut hd := by rw [hdis, hopen] at hd; exact nomatch hd

/-- The state's client, if there is one, is detached, and its closing waits. -/
theorem Held.detach (h : Held r) (hs : s.state.localClient = none)
    (hrel : s.releasing = r.state.localClient.toList ++ r.releasing)
    (hiss : s.issued = r.issued) (hclosed : s.closed = r.closed)
    (hdated : ∀ e, s.loop = .on e → e.opGeneration ≤ s.generation)
    (hvac : ∀ e, s.loop = .on e → e.await.makes = true → e.opGeneration = s.generation →
      s.state.resetChain ≠ some .create) :
    Held s where
  books := by
    have hb := h.books
    rw [hs, hrel, hclosed, hiss]
    exact hb
  fresh := hiss ▸ h.fresh
  dated := hdated
  vacant e he hm hg := ⟨hs, hvac e he hm hg⟩
  chain _ := hs
  shut _ := hs

/-- A deferred close is made. -/
theorem Held.release (h : Held r) {client : XmtpLocalClient} (hin : client ∈ r.releasing) :
    Held ({ r with releasing := r.releasing.erase client }.closeLocal client) where
  books := by
    have hrel : r.releasing.Perm (client :: r.releasing.erase client) :=
      List.perm_cons_erase hin
    have hall : (r.state.localClient.toList ++ r.releasing ++ r.closed).Perm
        (client :: (r.state.localClient.toList ++ r.releasing.erase client ++ r.closed)) :=
      ((hrel.append_left _).append_right _).trans (List.perm_middle.append_right _)
    exact List.perm_middle.trans (hall.symm.trans h.books)
  fresh := h.fresh
  dated := h.dated
  vacant := h.vacant
  chain := h.chain
  shut := h.shut

/-! ## §5. A settled call. -/

theorem Held.thenCreate {α : Type} (h : Held r) {go : α → Runner} {a : Settled α}
    (hgo : ∀ v, a = .ok v → Held (go v)) : Held (r.thenCreate e go a) := by
  cases a with
  | ok v => exact hgo v rfl
  | abort => exact h.mild (mild_caughtCreate r _ _).finishCreate
  | threw cause => exact h.mild (mild_caughtCreate r _ _).finishCreate

theorem Held.thenOther {α : Type} (h : Held r) {go : α → Runner} {a : Settled α}
    (hgo : ∀ v, a = .ok v → r.isStale e.opGeneration = false → Held (go v)) :
    Held (r.thenOther e go a) := by
  cases a with
  | ok v =>
    show Held (if r.isStale e.opGeneration then _ else _)
    split
    · exact h.mild (Mild.refl r).finish
    · exact hgo v rfl (by simpa using ‹¬r.isStale e.opGeneration = true›)
  | abort => exact h.mild (mild_caught r _ _).finish
  | threw cause => exact h.mild (mild_caught r _ _).finish

theorem Held.unlessCancelled (h : Held r) {go : Runner} (hgo : Held go) :
    Held (r.unlessCancelled e go) := by
  unfold Runner.unlessCancelled
  split
  · exact h.mild (mild_apply r rfl).finishCreate
  · exact hgo

/-- A state without a client stays one where none is set. -/
theorem mild_clear (hnone : r.state.localClient = none) (reason : Option SessionReason) :
    Mild r (r.apply (.localClientSet none reason)) :=
  ⟨hnone.symm, fun hc => hc, rfl, rfl, rfl, rfl, rfl, fun _ hl => hl⟩

theorem mild_created_failed (r : Runner) (e : Effect) (reason : CreateFailureReason) :
    Mild r (r.created e (.failed reason)) := by
  have hsettle : Mild r (r.settleCreate (.failed reason)) := by
    cases reason <;> exact mild_applyAll r _ rfl
  unfold created
  split
  · exact Mild.refl r
  · show Mild r (if r.aborted.contains e.signal then _ else _)
    split
    · exact mild_apply r rfl
    · exact hsettle

theorem mild_built_failed (hnone : r.state.localClient = none) (reason : BuildFailure) :
    Mild r (r.built (.failed reason)) := by
  cases reason with
  | buildFailed => exact (mild_clear hnone _).apply rfl
  | opfsLock => exact (mild_clear hnone _).apply rfl
  | notRegistered =>
    have hset : Mild r (r.applyAll [.registrationSet .unregistered]) := mild_applyAll r _ rfl
    have hclear := hset.trans (mild_clear (hset.client.trans hnone) (some .notRegistered))
    show Mild r (if _ then _ else _)
    split
    · exact hclear.apply rfl
    · exact hclear

theorem Held.revokedAll (h : Held r) (seen : Seen) (done : Bool) :
    Held (r.revokedAll seen done).finish := by
  cases done with
  | false => exact h.mild (mild_applyAll r _ rfl).finish
  | true =>
    have hnext : (r.revokedAll seen true).finish.loop = .next := rfl
    refine h.detach ?_ ?_ ?_ ?_ (fun e he => nomatch he) (fun e he => nomatch he)
    all_goals
      unfold Runner.revokedAll
      cases hc : r.state.localClient <;> simp [Runner.call, hc, abandonOwnedClient, Runner.apply,
        Runner.finish, Runner.endInFlight, transitionMachine]

/-- What follows on a call that hands over no client. -/
theorem Held.resume (h : Held r) (he : r.loop = .on e) {c : Completion} (hc : c.client? = none)
    (hr : r.resume e seen c = some s) : Held s := by
  have hstay : ∀ a p, (a.makes = true → e.await.makes = true) →
      Held (r.awaits a e.opGeneration e.signal p) :=
    fun a p ha => h.goesOn he (Mild.refl r) a ha p
  unfold Runner.resume at hr
  split at hr
  · next hw =>
    injection hr with hr
    subst hr
    exact h.thenCreate fun _ _ => h.unlessCancelled (hstay _ _ fun _ => by rw [hw]; rfl)
  · next hw =>
    injection hr with hr
    subst hr
    refine h.thenCreate fun _ _ => h.unlessCancelled ?_
    split
    · exact hstay _ _ fun _ => by rw [hw]; rfl
    · exact hstay _ _ fun _ => by rw [hw]; rfl
  · next hw =>
    injection hr with hr
    subst hr
    exact h.thenCreate fun durable _ => h.unlessCancelled
      (h.goesOn he (mild_apply r rfl) _ (fun _ => by rw [hw]; rfl) _)
  · next hw =>
    injection hr with hr
    subst hr
    refine h.thenCreate fun result hok => ?_
    subst hok
    cases result with
    | ok client => exact nomatch hc
    | failed reason => exact h.mild (mild_created_failed r e reason).finishCreate
  · next hw =>
    injection hr with hr
    subst hr
    refine h.thenOther fun _ _ _ => ?_
    split
    · exact h.mild (Mild.refl r).finish
    · exact h.raceBuild he (by rw [hw]; rfl)
  · next a hw =>
    injection hr with hr
    subst hr
    cases a with
    | ok result =>
      cases result with
      | ok client => exact nomatch hc
      | failed reason =>
        show Held (if r.isStale e.opGeneration then _ else _)
        split
        · exact h.mild (Mild.refl r).finish
        · next hs =>
          have hg : e.opGeneration = r.generation := by simpa [isStale] using hs
          exact h.mild (mild_built_failed (h.vacant e he (by rw [hw]; rfl) hg).1 reason).finish
    | abort => exact h.mild (mild_timedOut r e)
    | threw cause =>
      show Held (if r.aborted.contains e.signal then _ else _)
      split
      · exact h.mild (mild_timedOut r e)
      · exact h.mild (mild_caught r _ _).finish
  · injection hr with hr
    subst hr
    exact h.mild (mild_deadline r e)
  · injection hr with hr
    subst hr
    exact h.mild (mild_sdkSettled r e _)
  · injection hr with hr
    subst hr
    exact h.thenOther fun result _ _ => h.mild (mild_published r _ result).finish
  · injection hr with hr
    subst hr
    exact h.thenOther fun result _ _ => h.revokePublished he result
  · injection hr with hr
    subst hr
    exact h.thenOther fun done _ _ => h.revokedAll seen done
  · injection hr with hr
    subst hr
    exact h.thenOther fun done _ _ => h.mild (mild_revokedOthers r done).finish
  · exact nomatch hr

/-- Only a build and a create hand over a client. -/
theorem client?_eq_some {c : Completion} {client : XmtpLocalClient}
    (h : c.client? = some client) :
    c = .created (.ok (.ok client)) ∨ c = .built (.ok (.ok client)) := by
  unfold Completion.client? at h
  split at h
  · injection h with h
    exact Or.inl (by rw [h])
  · injection h with h
    exact Or.inr (by rw [h])
  · exact nomatch h

theorem resume_created {a : Settled CreateWithSignerResult}
    (h : r.resume e seen (.created a) = some s) :
    e.await = .createSign ∧
      s = r.thenCreate e (fun result => (r.created e result).finishCreate) a := by
  cases e with
  | mk await opGeneration signal =>
    cases await with
    | createSign =>
      injection h with h
      exact ⟨rfl, h.symm⟩
    | _ => exact nomatch h

theorem resume_built {a : Settled BuildLocalResult}
    (h : r.resume e seen (.built a) = some s) : e.await = .buildRace ∧ s = r.raced e a := by
  cases e with
  | mk await opGeneration signal =>
    cases await with
    | buildRace =>
      injection h with h
      exact ⟨rfl, h.symm⟩
    | _ => exact nomatch h

theorem settleCreate_ok (r : Runner) (client : XmtpLocalClient) :
    r.settleCreate (.ok client) =
      { r with
        state := { r.state with
          localClient := some client, localBuildReason := none
          resetRequested := false, resetChain := none, revokeMode := none
          registrationStatus := .registered, enableRequested := false
          publishPending := true, revokeAllCooldown := false } } := by
  simp [settleCreate, applyCreateResult, Runner.applyAll, transitionMachine]

theorem built_ok (r : Runner) (client : XmtpLocalClient) :
    r.built (.ok client) =
      { r with
        state := { r.state with
          localClient := some client, localBuildReason := none
          registrationStatus := .registered } } := by
  simp [Runner.built, applyBuildResult, Runner.apply, Runner.applyAll, transitionMachine]

/-- The client of a settled call: closed where the effect is stale, and else the state's. -/
theorem Held.resume_client (h : Held r) (he : r.loop = .on e) {c : Completion}
    {client : XmtpLocalClient} (hc : c.client? = some client) (hnew : client ∉ r.issued)
    (hopen : e.opGeneration = r.generation → r.disposed = false)
    (hr : { r with issued := client :: r.issued }.resume e seen c = some s) : Held s := by
  have hclosed := h.closeIssued hnew
  cases client?_eq_some hc with
  | inl hcreated =>
    rw [hcreated] at hr
    have hs := resume_created hr
    rw [hs.2]
    show Held (finishCreate (if r.isStale e.opGeneration then _ else _))
    split
    · exact hclosed.mild (Mild.refl _).finishCreate
    · next hfresh =>
      have hg : e.opGeneration = r.generation := by simpa [isStale] using hfresh
      have hv := h.vacant e he (by rw [hs.1]; rfl) hg
      show Held (finishCreate (Runner.settleCreate _ (.ok client)))
      rw [settleCreate_ok]
      exact h.adopt hnew hv.1 (hopen hg) rfl (fun hc => nomatch hc) rfl rfl rfl rfl rfl
  | inr hbuilt =>
    rw [hbuilt] at hr
    have hs := resume_built hr
    rw [hs.2]
    show Held (if r.isStale e.opGeneration then _ else _)
    split
    · exact hclosed.mild (Mild.refl _).finish
    · next hfresh =>
      have hg : e.opGeneration = r.generation := by simpa [isStale] using hfresh
      have hv := h.vacant e he (by rw [hs.1]; rfl) hg
      show Held (finish (Runner.built _ (.ok client)))
      rw [built_ok]
      exact h.adopt hnew hv.1 (hopen hg) rfl hv.2 rfl rfl rfl rfl rfl

/-! ## §6. The loop. -/

/-- The parts of `reconcile` that plan a build or a create leave the state's client out. -/
theorem reconcileClient_makes {s : MachineState} {m : Bool} {v : Option Bool}
    (h : reconcileClient s m = .run .build v ∨ reconcileClient s m = .run .create v) :
    s.localClient = none := by
  have hbuild : shouldBuild s = true → s.localClient = none := by
    unfold shouldBuild
    cases s.localClient with
    | none => simp
    | some client => simp
  have hcreate : shouldCreate s = true → s.localClient = none := by
    unfold shouldCreate
    cases s.localClient with
    | none => simp
    | some client => simp
  unfold reconcileClient at h
  split at h
  · simp at h
  · split at h
    · exact hbuild ‹_›
    · split at h
      · exact hcreate ‹_›
      · split at h
        · simp at h
        · split at h <;> simp at h

theorem reconcileIntent_makes {s : MachineState} {m : Bool} {v : Option Bool}
    (h : reconcileIntent s m = .run .build v ∨ reconcileIntent s m = .run .create v) :
    s.localClient = none := by
  unfold reconcileIntent at h
  repeat' split at h
  all_goals first | exact reconcileClient_makes h | simp at h

theorem reconcile_build {s : MachineState} {m : Bool} {v : Option Bool}
    (h : reconcile s m = .run .build v) : s.localClient = none ∧ s.resetChain ≠ some .create := by
  unfold reconcile at h
  split at h
  · exact nomatch h
  · split at h
    · split at h
      · split at h <;> exact nomatch h
      · exact nomatch h
      · exact nomatch h
    · next hreset =>
      refine ⟨reconcileIntent_makes (Or.inl h), fun hc => hreset ?_⟩
      rw [hc]
      simp

theorem reconcile_create {s : MachineState} {m : Bool} {v : Option Bool}
    (h : reconcile s m = .run .create v) :
    s.localClient = none ∨ s.resetChain = some .create := by
  unfold reconcile at h
  split at h
  · exact nomatch h
  · split at h
    · split at h
      · exact Or.inr ‹_›
      · exact nomatch h
      · exact nomatch h
    · exact Or.inl (reconcileIntent_makes (Or.inr h))

/-- What `startCreate` does before its first call. -/
def openCreate (r : Runner) : Runner :=
  let r := (r.apply (.effectStarted .create maxSafeInteger r.generation)).abortCreate
  let r := { r with
    createAbortController := some r.controllers, controllers := r.controllers + 1
    inFlightCount := 1 }
  let r' := r.applyAll [.enableCleared, .registrationSet .unknown]
  if r.state.resetChain = some .create then r'.apply .resetCleared else r'

theorem startCreate_eq (r : Runner) :
    r.startCreate = r.openCreate.awaits .createIdle r.generation r.controllers .whenLocalIdle := by
  unfold startCreate openCreate
  by_cases hc : r.state.resetChain = some .create
  · simp [hc, Runner.apply, Runner.applyAll, abortCreate, transitionMachine]
  · simp [hc, Runner.apply, Runner.applyAll, abortCreate, transitionMachine]

theorem mild_openCreate (r : Runner) : Mild r r.openCreate := by
  have h : Mild r { (r.apply (.effectStarted .create maxSafeInteger r.generation)).abortCreate with
      createAbortController := some r.controllers, controllers := r.controllers + 1
      inFlightCount := 1 } :=
    ((mild_apply r rfl).abortCreate).trans
      ⟨rfl, fun hc => hc, rfl, rfl, rfl, rfl, rfl, fun _ hl => hl⟩
  show Mild r (if _ then _ else _)
  split
  · exact (h.applyAll rfl).apply rfl
  · exact h.applyAll rfl

/-- A create uses up the create stage of a reset. -/
theorem openCreate_resetChain (r : Runner) : r.openCreate.state.resetChain ≠ some .create := by
  by_cases hc : r.state.resetChain = some .create
  · simp [openCreate, hc, Runner.apply, Runner.applyAll, abortCreate, transitionMachine]
  · simp [openCreate, hc, Runner.apply, Runner.applyAll, abortCreate, transitionMachine]

theorem Held.startEffect (h : Held r) {effect : ReconcilingOp} {v : Option Bool} {m : Bool}
    (hp : reconcile r.state m = .run effect v) : Held (r.startEffect effect v) := by
  have hother : ∀ op, Held (r.startOther op) := fun op => h.mild (mild_startOther r op)
  cases effect with
  | create =>
    show Held r.startCreate
    rw [startCreate_eq]
    have hnone : r.state.localClient = none := by
      cases reconcile_create hp with
      | inl hn => exact hn
      | inr hc => exact h.chain hc
    exact (h.mild (mild_openCreate r)).awaits _ _ _ _ (Nat.le_of_eq (mild_openCreate r).generation.symm)
      fun _ _ => ⟨(mild_openCreate r).client.trans hnone, openCreate_resetChain r⟩
  | build =>
    have hv := reconcile_build hp
    exact (h.mild ((Mild.refl r).beginInFlight.apply rfl)).awaits _ _ _ _ (Nat.le_refl _)
      fun _ _ => hv
  | sdk => exact (hother .sdk).awaits _ _ _ _ (Nat.le_refl _) fun hm => nomatch hm
  | publish => exact (hother .publish).awaits _ _ _ _ (Nat.le_refl _) fun hm => nomatch hm
  | revoke =>
    show Held r.startRevoke
    unfold startRevoke
    dsimp only
    split
    · exact (hother .revoke).awaits _ _ _ _ (Nat.le_refl _) fun hm => nomatch hm
    · exact (hother .revoke).awaits _ _ _ _ (Nat.le_refl _) fun hm => nomatch hm
  | intent => exact h.mild (mild_startOther r .intent).finish

theorem mild_off (r : Runner) : Mild r { r with loop := .off } :=
  ⟨rfl, fun hc => hc, rfl, rfl, rfl, rfl, rfl, fun _ hl => nomatch hl⟩

theorem Held.iterate (h : Held r) (seen : Seen) : Held (r.iterate seen) := by
  unfold Runner.iterate
  split
  · exact h.mild (mild_off r)
  · split
    · exact h.mild ((mild_apply r rfl).trans (mild_off _))
    · exact h.startEffect ‹_›
    · exact h.mild (mild_off r)

/-! ## §7. The steps, and the runs. -/

/-- The runner has been disposed of, and the effect it is still in is handed a client. -/
def comesLate (r : Runner) (m : Move) : Bool :=
  match m.event, r.loop with
  | .settle c, .on e => r.disposed && !r.isStale e.opGeneration && c.client?.isSome
  | _, _ => false

/-- A new client is none that was handed over before. -/
theorem issue_some {client : XmtpLocalClient} {r' : Runner} (h : r.issue (some client) = some r') :
    client ∉ r.issued ∧ r' = { r with issued := client :: r.issued } := by
  change (if r.issued.contains client then _ else _) = _ at h
  by_cases hin : r.issued.contains client = true
  · rw [if_pos hin] at h
    exact nomatch h
  · rw [if_neg hin] at h
    injection h with h
    exact ⟨by simpa using hin, h.symm⟩

theorem Held.settle (h : Held r) {c : Completion} (hr : r.settle seen c = some s)
    (hlate : r.comesLate ⟨.settle c, seen⟩ = false) : Held s := by
  unfold Runner.settle at hr
  split at hr
  · next e he =>
    obtain ⟨r', hissue, hres⟩ := Option.bind_eq_some_iff.1 hr
    cases hc : c.client? with
    | none =>
      rw [hc] at hissue
      injection hissue with hissue
      subst hissue
      exact h.resume he hc hres
    | some client =>
      rw [hc] at hissue
      have hnew := issue_some hissue
      rw [hnew.2] at hres
      refine h.resume_client he hc hnew.1 (fun hg => ?_) hres
      simpa [comesLate, he, hc, isStale, hg] using hlate
  · exact nomatch hr

/-- The new session before it looks for its intent. -/
def renewed (r : Runner) (address : Text) : Runner :=
  let r' := { r.abortInFlight.abortCreate with generation := r.generation + 1 }.call
    (.cacheInvalidate r.state.address)
  { r' with
    state := { createInitialMachineState address with generation := r.generation + 1 }
    inFlightCount := 0
    releasing := r.state.localClient.toList ++ r.releasing }

theorem onAddressChange_eq (r : Runner) (seen : Seen) {address : Text}
    (h : address.map Char.toLower ≠ r.state.address.map Char.toLower) :
    r.onAddressChange seen address = (r.renewed address).loadIntent seen := by
  unfold onAddressChange renewed
  rw [if_neg h]
  cases hc : r.state.localClient with
  | none => rfl
  | some client => rfl

theorem Held.onAddressChange (h : Held r) (seen : Seen) (address : Text) :
    Held (r.onAddressChange seen address) := by
  by_cases ha : address.map Char.toLower = r.state.address.map Char.toLower
  · unfold Runner.onAddressChange
    rw [if_pos ha]
    exact h
  · rw [onAddressChange_eq r seen ha]
    refine Held.mild (h.detach (s := r.renewed address) rfl rfl rfl rfl ?_ ?_)
      (mild_loadIntent _ seen)
    · intro e he
      exact Nat.le_succ_of_le (h.dated e he)
    -- the effect in progress is of the session before
    · intro e he hm hg
      have hd := h.dated e he
      have hg : e.opGeneration = r.generation + 1 := hg
      omega

theorem Held.dispose (h : Held r) : Held r.dispose := by
  have hvac : ∀ e, r.loop = .on e → e.await.makes = true → e.opGeneration = r.generation →
      r.state.resetChain ≠ some .create := fun e he hm hg => (h.vacant e he hm hg).2
  cases hc : r.state.localClient with
  | none =>
    have heq : r.dispose = ({ r with disposed := true }).abortInFlight.abortCreate := by
      simp [Runner.dispose, hc]
    rw [heq]
    exact h.detach hc (by rw [hc]; rfl) rfl rfl h.dated hvac
  | some owned =>
    have heq : r.dispose = (({ r with disposed := true }).abandonOwnedClient owned
        false).abortInFlight.abortCreate := by
      simp [Runner.dispose, hc]
    have hgone : ({ r with disposed := true }).abandonOwnedClient owned false =
        { r.apply (.localClientSet none none) with
          disposed := true, releasing := owned :: r.releasing } := by
      simp [abandonOwnedClient, hc, Runner.apply]
    rw [heq, hgone]
    exact h.detach rfl (by rw [hc]; rfl) rfl rfl h.dated hvac

theorem Held.readSettled (h : Held r) (read : ℕ) (a : Settled IntentReadResult) :
    Held (r.readSettled read a) := by
  have m : Mild r { r with reads := r.reads.erase read } :=
    ⟨rfl, fun hc => hc, rfl, rfl, rfl, rfl, rfl, fun _ hl => hl⟩
  unfold Runner.readSettled
  split
  · show Held (if _ then _ else _)
    split
    · exact h.mild m
    · exact h.mild (m.trans (mild_intentRead _ a))
  · exact h

theorem Held.orphanSettled (h : Held r) (build : ℕ) (a : Settled BuildLocalResult) :
    Held (r.orphanSettled build a) := by
  have h' : Held { r with orphans := r.orphans.erase build } :=
    h.mild ⟨rfl, fun hc => hc, rfl, rfl, rfl, rfl, rfl, fun _ hl => hl⟩
  unfold Runner.orphanSettled
  split
  · dsimp only
    split
    · next client =>
      cases hissue : ({ r with orphans := r.orphans.erase build }).issue (some client) with
      | none => exact h
      | some r' =>
        have hnew := issue_some hissue
        show Held (r'.closeLocal client)
        rw [hnew.2]
        exact h'.closeIssued hnew.1
    · exact h'
  · exact h

theorem Held.step (h : Held r) (m : Move) (hlate : r.comesLate m = false) : Held (r.step m) := by
  cases m with
  | mk event seen =>
    cases event with
    | start => exact h.mild ⟨rfl, fun hc => hc, rfl, rfl, rfl, rfl, rfl, fun _ hl => hl⟩
    | probed ok =>
      have mp : Mild r { r with probes := r.probes - 1 } :=
        ⟨rfl, fun hc => hc, rfl, rfl, rfl, rfl, rfl, fun _ hl => hl⟩
      show Held (if r.probes = 0 then r else if _ then _ else _)
      split
      · exact h
      · split
        · exact h.mild mp
        · exact h.mild (mp.trans (mild_loadIntent _ seen))
    | dispatch command => exact h.mild (mild_dispatch r seen command)
    | requestLocalClient => exact h.mild (mild_demand r true)
    | releaseLocalClient => exact h.mild (mild_demand r false)
    | addressChange address => exact h.onAddressChange seen address
    | dispose => exact h.dispose
    | runLoop =>
      have ml : Mild r { r with loopScheduled := false } :=
        ⟨rfl, fun hc => hc, rfl, rfl, rfl, rfl, rfl, fun _ hl => hl⟩
      show Held (if r.loopScheduled then r.runLoop seen else r)
      split
      · show Held (if _ then _ else _)
        split
        · exact h.mild ml
        · exact (h.mild ml).iterate seen
      · exact h
    | iterate =>
      show Held (if r.loop = .next then r.iterate seen else r)
      split
      · exact h.iterate seen
      · exact h
    | settle c =>
      show Held ((r.settle seen c).getD r)
      cases hr : r.settle seen c with
      | none => exact h
      | some s => exact h.settle hr hlate
    | intentRead read a => exact h.readSettled read a
    | orphanBuilt build a => exact h.orphanSettled build a
    | release client =>
      show Held (if r.releasing.contains client then _ else r)
      split
      · exact Held.release h (by simpa using ‹r.releasing.contains client = true›)
      · exact h

theorem held_start (address : Text) : Held (createEffectsRunner address) where
  books := List.Perm.refl []
  fresh := List.nodup_nil
  dated _ he := nomatch he
  vacant _ he := nomatch he
  chain hc := nomatch hc
  shut hd := nomatch hd

end Runner

/-- Every client handed over is the state's, waits one macrotask to be closed, or is closed, and
    no client is two of these or closed twice. -/
structure Accounted (r : Runner) : Prop where
  books : (r.state.localClient.toList ++ r.releasing ++ r.closed).Perm r.issued
  once : r.closed.Nodup
  /-- With nothing left to close: the client of a live runner, or closed once. -/
  settled : r.releasing = [] → ∀ client ∈ r.issued,
    r.disposed = false ∧ r.state.localClient = some client ∧ client ∉ r.closed ∨
      r.state.localClient ≠ some client ∧ r.closed.count client = 1

theorem Runner.Held.accounted {r : Runner} (h : r.Held) : Accounted r where
  books := h.books
  once := by
    have hall := h.books.nodup_iff.2 h.fresh
    exact (List.nodup_append.1 hall).2.1
  settled hrel client hin := by
    have hall := h.books.nodup_iff.2 h.fresh
    have hmem := h.books.mem_iff.2 hin
    rw [hrel, List.append_nil] at hall hmem
    have hparts := List.nodup_append.1 hall
    cases List.mem_append.1 hmem with
    | inl hstate =>
      have hstate : r.state.localClient = some client := by simpa using hstate
      refine Or.inl ⟨?_, hstate, fun hc => hparts.2.2 client (by simp [hstate]) client hc rfl⟩
      cases hd : r.disposed with
      | false => rfl
      | true =>
        rw [h.shut hd] at hstate
        exact nomatch hstate
    | inr hclosed =>
      refine Or.inr ⟨fun hs => ?_, List.count_eq_one_of_mem hparts.2.1 hclosed⟩
      exact hparts.2.2 client (by simp [hs]) client hclosed rfl

/-- A run up to a build that is in progress: the intent is cached, and a surface asks for a client. -/
def building : List Move :=
  let seen : Seen := ⟨some .eoa, some ['0', 'x', 'a'], true, 0, 0, some (some true), none⟩
  [⟨.start, seen⟩, ⟨.probed true, seen⟩, ⟨.requestLocalClient, seen⟩, ⟨.runLoop, seen⟩,
    ⟨.settle (.done (.ok ())), seen⟩]

/-- The end of a run: the runner is disposed of before or after the build comes up. -/
def ending (disposeFirst : Bool) : List Move :=
  let seen : Seen := ⟨some .eoa, some ['0', 'x', 'a'], true, 0, 0, none, none⟩
  let built : Move := ⟨.settle (.built (.ok (.ok 7))), seen⟩
  if disposeFirst then [⟨.dispose, seen⟩, built, ⟨.iterate, seen⟩]
  else [built, ⟨.iterate, seen⟩, ⟨.dispose, seen⟩, ⟨.release 7, seen⟩]

/-- **The ledger of clients.**  In every run of a runner in which no client comes to an effect
    of the current session after dispose, every client that was handed over is the live runner's
    or waits to be closed or has been closed, once. -/
theorem handles_settled (address : Text) (run : List Move)
    (h : EachStep Runner.step (fun r m => r.comesLate m = false) (createEffectsRunner address)
      run) :
    Accounted (run.foldl Runner.step (createEffectsRunner address)) :=
  (invariant_run Runner.Held (fun _ m hr hm => hr.step m hm) (Runner.held_start address)
    h).accounted

/-- The build came up before dispose: the client was adopted, and closed once. -/
theorem handles_settled_closed :
    ∃ run, EachStep Runner.step (fun r m => r.comesLate m = false)
        (createEffectsRunner ['0', 'x', 'a']) run ∧
      (run.foldl Runner.step (createEffectsRunner ['0', 'x', 'a'])).closed = [7] ∧
      Accounted (run.foldl Runner.step (createEffectsRunner ['0', 'x', 'a'])) := by
  have h : EachStep Runner.step (fun r m => r.comesLate m = false)
      (createEffectsRunner ['0', 'x', 'a']) (building ++ ending false) := by
    refine ⟨?_, ?_, ?_, ?_, ?_, ?_, ?_, ?_, ?_, trivial⟩
    all_goals decide
  exact ⟨building ++ ending false, h, by decide, handles_settled _ _ h⟩

/-- The build comes up after dispose: no call is pending, the runner is gone, and its client is
    neither closed nor to be closed. -/
theorem left_open :
    ¬ ∀ (address : Text) (run : List Move),
      Accounted (run.foldl Runner.step (createEffectsRunner address)) := by
  intro h
  have hsettled := (h ['0', 'x', 'a'] (building ++ ending true)).settled (by decide) 7 (by decide)
  have hopen : ((building ++ ending true).foldl Runner.step
      (createEffectsRunner ['0', 'x', 'a'])).disposed = true := by decide
  have hclosed : ((building ++ ending true).foldl Runner.step
      (createEffectsRunner ['0', 'x', 'a'])).closed = [] := by decide
  rw [hopen, hclosed] at hsettled
  cases hsettled with
  | inl hlive => exact nomatch hlive.1
  | inr honce => exact nomatch honce.2

end Kargain.Messaging
