/-
  Kargain.Messaging.Quiescence — the loop of the session comes to rest.

  A command adds what it may lead to (`credits`), and no other move adds
  anything: what has been called and what is to come stays within the
  start and the commands (`pays_step`, `pays_run`).  Rates of one for all
  calls, or for one kind, make of it the bounds of `loop_quiesces`.

  The runs are those in which no effect fumbles: comes out so that the
  flag that planned it stays, and is planned again.  Main results:
  `loop_quiesces`, and `published_twice`, a command that publishes twice.
-/
import Kargain.Messaging.Costs

namespace Kargain.Messaging

namespace Runner

variable {k : Rates} {r s : Runner} {loaded : Bool} {e : Effect}

/-! ## §1. A settled call of an earlier session. -/

theorem issue_disposed {o : Option XmtpLocalClient} {r' : Runner} (hr : r.issue o = some r') :
    r'.disposed = r.disposed := by
  cases o with
  | none =>
    injection hr with hr
    rw [hr]
  | some client =>
    rw [(issue_some hr).2]

/-- The flags of `s` cost more than those of `r` by no more than the numbers say: those of a reset
    or a publication, those of a withdrawal, and those of a load and a build. -/
structure Raised (k : Rates) (loaded : Bool) (asked withdrawn tried built : ℕ) (r s : Runner) :
    Prop where
  ask : s.resetCost k + s.stageCost k + s.wantCost k false ≤
    r.resetCost k + r.stageCost k + r.wantCost k false + asked
  create : s.resetCost k + s.stageCost k + s.wantCost k true ≤
    r.resetCost k + r.stageCost k + r.wantCost k true + asked
  publish : s.resetCost k + s.stageCost k ≤ r.resetCost k + r.stageCost k + asked
  revoke : s.wantCost k false ≤ r.wantCost k false + asked
  off : s.offCost k ≤ r.offCost k + withdrawn
  trying : s.tryCost k ≤ r.tryCost k + tried
  building : s.buildCost k ≤ r.buildCost k + built
  load : s.loadCost k loaded ≤ r.loadCost k loaded
  sdk : s.live True (if s.state.resetChain = some .create then k.trying + k.building
      else k.loading) ≤
    r.live True (if r.state.resetChain = some .create then k.trying + k.building
      else k.loading) + (tried + built)

variable {asked withdrawn tried built : ℕ}

theorem Raised.await (h : Raised k loaded asked withdrawn tried built r s) (a : Await) :
    s.awaitCost k loaded a ≤ r.awaitCost k loaded a + (asked + withdrawn + tried + built) := by
  have h₁ := h.ask
  have h₂ := h.create
  have h₃ := h.publish
  have h₄ := h.revoke
  have h₅ := h.off
  have h₆ := h.trying
  have h₇ := h.building
  have h₈ := h.load
  have h₉ := h.sdk
  cases a with
  | publish enabled =>
    cases enabled with
    | true => simp only [awaitCost]; omega
    | false => simp only [awaitCost]; omega
  | _ =>
    simp only [awaitCost, awaitCost.createRest, awaitCost.buildRest, awaitCost.revokeRest]
    omega

theorem Raised.rest (h : Raised k loaded asked withdrawn tried built r s) :
    s.restCost k loaded ≤ r.restCost k loaded + (asked + withdrawn + tried + built) := by
  have h₁ := h.ask
  have h₅ := h.off
  have h₆ := h.trying
  have h₇ := h.building
  have h₈ := h.load
  unfold restCost
  omega

theorem Raised.toCome_le (h : Raised k loaded asked withdrawn tried built r s)
    (hl : s.loop = r.loop) (hgen : s.generation = r.generation) (hreads : s.reads = r.reads)
    (hprobes : s.probes = r.probes) :
    s.toCome k loaded ≤ r.toCome k loaded + (asked + withdrawn + tried + built) := by
  have hrest := h.rest
  unfold toCome isStale
  rw [hl, hgen, hreads, hprobes]
  cases r.loop with
  | off => dsimp only; omega
  | next => dsimp only; omega
  | on e =>
    have hawait := h.await e.await
    dsimp only
    split
    · omega
    · omega

/-- A command that starts nothing itself. -/
theorem Raised.pays (h : Raised k loaded asked withdrawn tried built r s) {n : ℕ}
    (hn : asked + withdrawn + tried + built ≤ n) (hl : s.loop = r.loop)
    (hgen : s.generation = r.generation) (hcalls : s.calls = r.calls)
    (hreads : s.reads = r.reads) (hprobes : s.probes = r.probes) :
    Pays k n r s loaded loaded := by
  have hcome := h.toCome_le hl hgen hreads hprobes
  unfold Pays
  rw [hcalls]
  omega

theorem Raised.refl (r : Runner) : Raised k loaded 0 0 0 0 r r :=
  ⟨Nat.le_refl _, Nat.le_refl _, Nat.le_refl _, Nat.le_refl _, Nat.le_refl _, Nat.le_refl _,
    Nat.le_refl _, Nat.le_refl _, Nat.le_refl _⟩

/-- The flags a reset reads are as they were; enable is asked for no more than before. -/
theorem Raised.calm (hd : s.disposed = r.disposed)
    (hreset : s.resetCost k = r.resetCost k) (hchain : s.state.resetChain = r.state.resetChain)
    (hwant : ∀ c, s.wantCost k c ≤ r.wantCost k c + asked)
    (hoff : s.offCost k ≤ r.offCost k + withdrawn) (htry : s.tryCost k ≤ r.tryCost k + tried)
    (hbuild : s.buildCost k ≤ r.buildCost k + built) :
    Raised k loaded asked withdrawn tried built r s := by
  have hstage : s.stageCost k = r.stageCost k := by
    unfold stageCost live
    rw [hd, hchain]
  have hload : s.loadCost k loaded = r.loadCost k loaded := by
    unfold loadCost live
    rw [hd]
  have hfalse := hwant false
  have htrue := hwant true
  refine ⟨?_, ?_, ?_, hfalse, hoff, htry, hbuild, Nat.le_of_eq hload, ?_⟩
  · omega
  · omega
  · omega
  · unfold live
    rw [hd, hchain]
    exact Nat.le_add_right _ _

/-- Enable is no longer asked for. -/
theorem want_cleared (hd : s.disposed = r.disposed) (he : s.state.enableRequested = false)
    (hp : s.pends → r.pends) (hc : s.state.resetChain = r.state.resetChain) (c : Bool) :
    s.wantCost k c ≤ r.wantCost k c := by
  unfold wantCost
  rw [he, hc]
  have hpub := publishing_le_creating (k := k)
  split
  · next hno => cases hno
  · split
    · exact live_mono (fun h => hd ▸ h) (fun _ _ => trivial) hpub
    · exact live_mono (fun h => hd ▸ h) (fun _ h => ⟨hp h.1, h.2⟩) (Nat.le_refl _)

/-- What a command may lead to, whatever it finds. -/
def credits (k : Rates) : Event → ℕ
  | .start => k.probed + k.asking
  | .dispatch .enable => k.creating + k.trying + k.building
  | .dispatch .retry => k.creating + k.trying + k.building
  | .dispatch .disable => k.withdrawing
  | .dispatch .resetIdentity => k.revokingOthers + k.trying + k.building
  | .dispatch .revokeAllInstallations => k.revokingAll + k.trying + k.building
  | .addressChange _ => k.invalidate + k.asking + k.loading
  | _ => 0

theorem raised_schedule (h : Raised k loaded asked withdrawn tried built r s) :
    Raised k loaded asked withdrawn tried built r s.scheduleLoop := by
  unfold Runner.scheduleLoop
  split
  · exact h
  · exact ⟨h.ask, h.create, h.publish, h.revoke, h.off, h.trying, h.building, h.load, h.sdk⟩

theorem scheduleLoop_keeps (r : Runner) :
    r.scheduleLoop.loop = r.loop ∧ r.scheduleLoop.generation = r.generation ∧
      r.scheduleLoop.calls = r.calls ∧ r.scheduleLoop.reads = r.reads ∧
      r.scheduleLoop.probes = r.probes := by
  unfold Runner.scheduleLoop
  split
  · exact ⟨rfl, rfl, rfl, rfl, rfl⟩
  · exact ⟨rfl, rfl, rfl, rfl, rfl⟩

/-- A command sets flags and asks for the loop. -/
theorem Raised.scheduled (h : Raised k loaded asked withdrawn tried built r s) {n : ℕ}
    (hn : asked + withdrawn + tried + built ≤ n) (hl : s.loop = r.loop)
    (hgen : s.generation = r.generation) (hcalls : s.calls = r.calls)
    (hreads : s.reads = r.reads) (hprobes : s.probes = r.probes) :
    Pays k n r s.scheduleLoop loaded loaded := by
  have hkeep := scheduleLoop_keeps s
  exact (raised_schedule h).pays hn (hkeep.1.trans hl) (hkeep.2.1.trans hgen)
    (hkeep.2.2.1.trans hcalls) (hkeep.2.2.2.1.trans hreads) (hkeep.2.2.2.2.trans hprobes)

/-- A command that is a list of events. -/
theorem Raised.events {es : List MachineEvent}
    (h : Raised k loaded asked withdrawn tried built r (r.applyAll es)) {n : ℕ}
    (hn : asked + withdrawn + tried + built ≤ n) :
    Pays k n r (r.applyAll es).scheduleLoop loaded loaded :=
  h.scheduled hn rfl rfl rfl rfl rfl

theorem Raised.cleared (h : Raised k loaded 0 0 0 0 r s) : Raised k loaded 0 0 0 0 r
    (s.applyAll [.awaitingSignatureSet (some .createCancelled), .enableCleared]) := by
  have hwant : ∀ c, wantCost k (s.applyAll [.awaitingSignatureSet (some .createCancelled),
      .enableCleared]) c ≤ s.wantCost k c := want_cleared rfl rfl (fun h => h) rfl
  have h₁ := hwant false
  have h₂ := hwant true
  have ask := h.ask
  have create := h.create
  have revoke := h.revoke
  refine ⟨?_, ?_, h.publish, ?_, h.off, h.trying, h.building, h.load, h.sdk⟩
  · show s.resetCost k + s.stageCost k + _ ≤ _
    omega
  · show s.resetCost k + s.stageCost k + _ ≤ _
    omega
  · omega

/-- The effect goes on or ends: nothing else of the runner's own is touched. -/
structure Onward (e : Effect) (r s : Runner) : Prop where
  disposed : s.disposed = r.disposed
  generation : s.generation = r.generation
  loop : ∀ e', s.loop = .on e' → e'.opGeneration = e.opGeneration

theorem onward_next (hd : s.disposed = r.disposed) (hgen : s.generation = r.generation)
    (hl : s.loop = .next) : Onward e r s :=
  ⟨hd, hgen, fun _ he => nomatch hl.symm.trans he⟩

theorem onward_on {a : Await} (hd : s.disposed = r.disposed) (hgen : s.generation = r.generation)
    (hl : s.loop = .on ⟨a, e.opGeneration, e.signal⟩) : Onward e r s := by
  refine ⟨hd, hgen, fun e' he => ?_⟩
  rw [hl] at he
  injection he with he
  rw [← he]

theorem Mild.onward (h : Mild r s) : Onward e r s.finish ∧ Onward e r s.finishCreate :=
  ⟨onward_next h.disposed h.generation rfl, onward_next h.disposed h.generation rfl⟩

theorem onward_thenCreate {α : Type} {go : α → Runner} (a : Settled α)
    (hgo : ∀ v, Onward e r (go v)) : Onward e r (r.thenCreate e go a) := by
  cases a with
  | ok v => exact hgo v
  | abort => exact (mild_caughtCreate r _ _).onward.2
  | threw cause => exact (mild_caughtCreate r _ _).onward.2

theorem onward_thenOther {α : Type} {go : α → Runner} (a : Settled α)
    (hgo : ∀ v, Onward e r (go v)) : Onward e r (r.thenOther e go a) := by
  cases a with
  | ok v =>
    show Onward e r (if r.isStale e.opGeneration then r.finish else go v)
    split
    · exact (Mild.refl r).onward.1
    · exact hgo v
  | abort => exact (mild_caught r _ _).onward.1
  | threw cause => exact (mild_caught r _ _).onward.1

theorem onward_unlessCancelled {go : Runner} (hgo : Onward e r go) :
    Onward e r (r.unlessCancelled e go) := by
  unfold Runner.unlessCancelled
  split
  · exact (mild_apply r (e := .awaitingSignatureSet (some .createCancelled)) rfl).onward.2
  · exact hgo

theorem onward_timedOut {x : Runner} (hd : x.disposed = r.disposed)
    (hgen : x.generation = r.generation) : Onward e r (x.timedOut e) := by
  unfold Runner.timedOut
  split
  · exact onward_next hd hgen rfl
  · exact onward_next hd hgen rfl

theorem onward_created (result : CreateWithSignerResult) :
    Onward e r (r.created e result).finishCreate := by
  cases result with
  | failed reason => exact (mild_created_failed r e reason).onward.2
  | ok client =>
    show Onward e r (finishCreate (if r.isStale e.opGeneration then r.closeLocal client
      else r.settleCreate (.ok client)))
    rw [settleCreate_ok]
    split
    · exact onward_next rfl rfl rfl
    · exact onward_next rfl rfl rfl

theorem onward_raced (a : Settled BuildLocalResult) : Onward e r (r.raced e a) := by
  cases a with
  | ok result =>
    unfold Runner.raced
    dsimp only
    split
    · cases result with
      | ok client => exact onward_next rfl rfl rfl
      | failed reason => exact onward_next rfl rfl rfl
    · cases result with
      | ok client => rw [built_ok]; exact onward_next rfl rfl rfl
      | failed reason =>
        cases reason with
        | buildFailed => exact onward_next rfl rfl rfl
        | opfsLock => exact onward_next rfl rfl rfl
        | notRegistered =>
          show Onward e r (finish (if _ then ((r.apply (.registrationSet .unregistered)).apply
            (.localClientSet none (some .notRegistered))).apply _
            else (r.apply (.registrationSet .unregistered)).apply
              (.localClientSet none (some .notRegistered))))
          split
          · exact onward_next rfl rfl rfl
          · exact onward_next rfl rfl rfl
  | abort => exact onward_timedOut rfl rfl
  | threw cause =>
    show Onward e r (if r.aborted.contains e.signal then r.timedOut e else _)
    split
    · exact onward_timedOut rfl rfl
    · exact (mild_caught r _ _).onward.1

theorem onward_revokePublished (result : PublishResult) :
    Onward e r (r.revokePublished e result) := by
  cases result with
  | ok => exact onward_on rfl rfl rfl
  | publishFailed => exact onward_next rfl rfl rfl
  | signatureDeclined => exact onward_next rfl rfl rfl

theorem onward_revokedAll (seen : Seen) (done : Bool) :
    Onward e r (r.revokedAll seen done).finish := by
  cases done with
  | false => exact onward_next rfl rfl rfl
  | true =>
    unfold Runner.revokedAll
    rw [if_pos rfl]
    dsimp only
    split
    · unfold Runner.abandonOwnedClient
      split
      · exact onward_next rfl rfl rfl
      · exact onward_next rfl rfl rfl
    · exact onward_next rfl rfl rfl

theorem resume_onward {seen : Seen} {c : Completion} (hr : r.resume e seen c = some s) :
    Onward e r s := by
  unfold Runner.resume at hr
  split at hr
  case h_13 => exact nomatch hr
  all_goals
    injection hr with hr
    subst hr
  · exact onward_thenCreate _ fun _ => onward_unlessCancelled (onward_on rfl rfl rfl)
  · refine onward_thenCreate _ fun _ => onward_unlessCancelled ?_
    split
    · exact onward_on rfl rfl rfl
    · exact onward_on rfl rfl rfl
  · exact onward_thenCreate _ fun _ => onward_unlessCancelled (onward_on rfl rfl rfl)
  · exact onward_thenCreate _ fun result => onward_created result
  · refine onward_thenOther _ fun _ => ?_
    split
    · exact onward_next rfl rfl rfl
    · show Onward e r (if seen.nowMs + buildDeadlineMs ≤ seen.laterMs then _ else _)
      split
      · exact onward_timedOut rfl rfl
      · exact onward_on rfl rfl rfl
  · exact onward_raced _
  · exact onward_timedOut rfl rfl
  · unfold Runner.sdkSettled
    split
    · exact onward_next rfl rfl rfl
    · exact onward_next rfl rfl rfl
    · split
      · exact onward_next rfl rfl rfl
      · exact onward_next rfl rfl rfl
  · exact onward_thenOther _ fun result => (mild_published r _ result).onward.1
  · exact onward_thenOther _ fun result => onward_revokePublished result
  · exact onward_thenOther _ fun done => onward_revokedAll seen done
  · exact onward_thenOther _ fun done => (mild_revokedOthers r done).onward.1

/-- What holds in every run: the ledger of clients until dispose, and no effect of a session to
    come. -/
structure Sane (r : Runner) : Prop where
  held : r.disposed = false → r.Held
  dated : ∀ e, r.loop = .on e → e.opGeneration ≤ r.generation

theorem Sane.gone (h : Sane r) (hd : s.disposed = true) (hgen : r.generation ≤ s.generation)
    (hl : ∀ e, s.loop = .on e → r.loop = .on e) : Sane s :=
  ⟨fun hopen => (nomatch hd.symm.trans hopen),
    fun e he => Nat.le_trans (h.dated e (hl e he)) hgen⟩

theorem Sane.mild (h : Sane r) (hd : r.disposed = true) (m : Mild r s) : Sane s :=
  h.gone (m.disposed.trans hd) (Nat.le_of_eq m.generation.symm) m.calm

/-- A disposed runner stays disposed. -/
theorem Sane.step_gone (h : Sane r) (hd : r.disposed = true) (m : Move) : Sane (r.step m) := by
  have hself : ∀ {x : Runner}, x.disposed = r.disposed → x.generation = r.generation →
      (∀ e, x.loop = .on e → r.loop = .on e) → Sane x :=
    fun hx hgen hl => h.gone (hx.trans hd) (Nat.le_of_eq hgen.symm) hl
  cases m with
  | mk event seen =>
    cases event with
    | start => exact hself rfl rfl fun _ he => he
    | probed ok =>
      show Sane (if r.probes = 0 then r else if _ then _ else _)
      split
      · exact h
      · split
        · exact hself rfl rfl fun _ he => he
        · have hm := mild_loadIntent { r with probes := r.probes - 1 } seen
          exact hself hm.disposed hm.generation hm.calm
    | dispatch command => exact h.mild hd (mild_dispatch r seen command)
    | requestLocalClient => exact h.mild hd (mild_demand r true)
    | releaseLocalClient => exact h.mild hd (mild_demand r false)
    | addressChange address =>
      show Sane (r.onAddressChange seen address)
      by_cases ha : address.map Char.toLower = r.state.address.map Char.toLower
      · unfold Runner.onAddressChange
        rw [if_pos ha]
        exact h
      · rw [onAddressChange_eq r seen ha]
        have hm := mild_loadIntent (r.renewed address) seen
        exact h.gone (hm.disposed.trans hd) (hm.generation ▸ Nat.le_succ _) hm.calm
    | dispose =>
      show Sane r.dispose
      unfold Runner.dispose
      dsimp only
      split
      · unfold Runner.abandonOwnedClient
        split
        · exact h.gone rfl (Nat.le_refl _) fun _ he => he
        · exact h.gone rfl (Nat.le_refl _) fun _ he => he
      · exact h.gone rfl (Nat.le_refl _) fun _ he => he
    | runLoop =>
      show Sane (if r.loopScheduled then r.runLoop seen else r)
      split
      · show Sane (if r.disposed || _ then _ else _)
        rw [hd, Bool.true_or, if_pos rfl]
        exact h.gone rfl (Nat.le_refl _) fun _ he => he
      · exact h
    | iterate =>
      show Sane (if r.loop = .next then r.iterate seen else r)
      split
      · unfold Runner.iterate
        rw [hd, Bool.true_or, Bool.true_or, if_pos rfl]
        exact h.gone rfl (Nat.le_refl _) fun _ he => nomatch he
      · exact h
    | settle c =>
      show Sane ((r.settle seen c).getD r)
      cases hr : r.settle seen c with
      | none => exact h
      | some s =>
        show Sane s
        unfold Runner.settle at hr
        split at hr
        · next e he =>
          obtain ⟨r', hissue, hres⟩ := Option.bind_eq_some_iff.1 hr
          have hkeep := issue_keeps hissue
          have hsame := issue_disposed hissue
          have hon := resume_onward hres
          refine ⟨fun hopen => ?_, fun e' he' => ?_⟩
          · rw [hon.disposed, hsame, hd] at hopen
            exact nomatch hopen
          · rw [hon.loop e' he', hon.generation, hkeep.2.2]
            exact h.dated e he
        · exact nomatch hr
    | intentRead read a =>
      show Sane (r.readSettled read a)
      unfold Runner.readSettled
      split
      · show Sane (if _ then _ else _)
        split
        · exact hself rfl rfl fun _ he => he
        · have hm := mild_intentRead { r with reads := r.reads.erase read } a
          exact hself hm.disposed hm.generation hm.calm
      · exact h
    | orphanBuilt build a =>
      obtain ⟨os, is, cs, heq, _⟩ := orphanSettled_frame r build a
      show Sane (r.orphanSettled build a)
      rw [heq]
      exact hself rfl rfl fun _ he => he
    | release client =>
      show Sane (if r.releasing.contains client then _ else r)
      split
      · exact hself rfl rfl fun _ he => he
      · exact h

theorem Sane.step (h : Sane r) (m : Move) : Sane (r.step m) := by
  cases hd : r.disposed with
  | true => exact h.step_gone hd m
  | false =>
    have hlate : r.comesLate m = false := by
      unfold comesLate
      split
      · simp [hd]
      · rfl
    have hheld := (h.held hd).step m hlate
    exact ⟨fun _ => hheld, hheld.dated⟩

/-- A move that touches no flag. -/
theorem Pays.free {n : ℕ} {loaded' : Bool} {x : Runner} (h : Pays k n x s loaded loaded')
    (hcalls : x.calls = r.calls) (hcome : x.toCome k loaded ≤ r.toCome k loaded) :
    Pays k n r s loaded loaded' := by
  unfold Pays at h ⊢
  rw [hcalls] at h
  omega

/-- What the moves of a run may lead to. -/
def owed (k : Rates) (run : List Move) : ℕ := (run.map fun m => credits k m.event).sum

theorem Sane.run (h : Sane r) (run : List Move) : Sane (run.foldl Runner.step r) := by
  induction run generalizing r with
  | nil => exact h
  | cons m run ih => exact ih (h.step m)

end Runner

/-- The event asks the runner for something: a command other than cancel, a start, or another
    address. -/
def Event.asks : Event → Bool
  | .start => true
  | .dispatch .cancel => false
  | .dispatch _ => true
  | .addressChange _ => true
  | _ => false

end Kargain.Messaging
