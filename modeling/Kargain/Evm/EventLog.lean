/-
  Kargain.Evm.EventLog — folding the openings and closings of a passport.

  A mode announces every consignment it opens and every one it ends.
  Folding these events says whether a passport is on offer, and at the end
  of a transaction that is what the storage says, but for one path: the
  forced recall clears the lot, hands the passport over and only then
  announces the end, without the guard.  A receiver of a fixed-price lot
  gets control in between, and if it puts the passport on offer again, the
  opening is announced before the end of the lot before it.

  The condition names that path: a step has the same outcome in a mode
  whose forced recall refuses when its receiver leaves the passport on
  offer (`checkedMode`).

  Main result: `event_log_faithful`; `reofferedLot` is a run in which the
  fold is wrong.
-/
import Kargain.Evm.AscendingEffects
import Kargain.Evm.AscendingSides
import Kargain.Evm.FixedPriceSides

namespace Kargain.Evm

variable {P σ : Type}

/-! ## §1. The fold. -/

/-- Whether a passport is on offer by the openings and closings of the log. -/
def openAfter (t : TokenId) : Log → Bool
  | [] => false
  | (_, e) :: older =>
    match e with
    | .consignmentOpened t' .. => if t' = t then true else openAfter t older
    | .consignmentClosed t' _ => if t' = t then false else openAfter t older
    | _ => openAfter t older

/-- The events it folds. -/
def Event.ofLife : Event → Bool
  | .consignmentOpened .. | .consignmentClosed .. => true
  | _ => false

def Agrees (w : World P σ) (t : TokenId) : Prop := openAfter t w.log = isLiveConsignment w t

/-- Under the guard no passport goes on offer, and where fold and storage agree they go on
    agreeing. -/
structure Calmed (w w' : World P σ) : Prop where
  locked : w'.locked = w.locked
  no_opening : ∀ t, isLiveConsignment w' t = true → isLiveConsignment w t = true
  agrees : ∀ t, Agrees w t → Agrees w' t

/-- At rest fold and storage go on agreeing. -/
def Faithful (w w' : World P σ) : Prop := ∀ t, Agrees w t → Agrees w' t

theorem openAfter_skip {t : TokenId} {s : Address} {e : Event} {older : Log}
    (he : e.ofLife = false) : openAfter t ((s, e) :: older) = openAfter t older := by
  cases e <;> first | rfl | cases he

section Changes

variable {w w' u : World P σ} {t : TokenId} {s : Address}

theorem Calmed.refl (w : World P σ) : Calmed w w := ⟨rfl, fun _ h => h, fun _ h => h⟩

theorem Calmed.trans {u v w : World P σ} (h : Calmed u v) (k : Calmed v w) : Calmed u w :=
  ⟨k.locked.trans h.locked, fun t ht => h.no_opening t (k.no_opening t ht),
    fun t ht => k.agrees t (h.agrees t ht)⟩

/-- A change that shows in no phase and is not announced. -/
theorem Calmed.of_phase (hl : w'.locked = w.locked) (hp : w'.com.phase = w.com.phase)
    (hlog : ∀ t, openAfter t w'.log = openAfter t w.log) : Calmed w w' := by
  have hlive : ∀ t, isLiveConsignment w' t = isLiveConsignment w t := by
    intro t
    unfold isLiveConsignment
    rw [hp]
  refine ⟨hl, fun t ht => hlive t ▸ ht, fun t ht => ?_⟩
  unfold Agrees at ht ⊢
  rw [hlog, ht, hlive]

theorem Calmed.emit {e : Event} (h : Calmed w u) (he : e.ofLife = false) :
    Calmed w (u.emit s e) :=
  h.trans (.of_phase rfl rfl fun _ => openAfter_skip he)

theorem lifeGuard : GuardPair (Calmed : World P σ → World P σ → Prop) Faithful where
  refl := .refl
  trans h k := h.trans k
  locked h := h.locked
  rest h := h.agrees
  rest_trans h k := fun t ht => k t (h t ht)
  toggle _ _ := fun _ h => h

theorem Beside.calmed {ExtSame : σ → σ → Prop} (h : Beside ExtSame w w') : Calmed w w' := by
  refine .of_phase h.locked h.phase fun t => h.reading fun s e older he => openAfter_skip ?_
  cases e <;> first | rfl | cases he

theorem isLive_clear {ph : Phase} (hph : ph ≠ .offered) (t' : TokenId) :
    isLiveConsignment (clearConsignment w t ph) t' =
      if t' = t then false else isLiveConsignment w t' := by
  by_cases ht : t' = t
  · subst ht
    simp [isLiveConsignment, clearConsignment, World.setPhase, World.setConsignment,
      World.setCommitted, World.setRecallRequest, hph]
  · simp [isLiveConsignment, clearConsignment, World.setPhase, World.setConsignment,
      World.setCommitted, World.setRecallRequest, ht]

/-- **Clear, do something, announce the end**: fine as long as what is done in between does
    not put the passport on offer. -/
theorem returned_agrees (s : Address) (reason : CloseReason)
    (hother : ∀ t', t' ≠ t → Agrees (clearConsignment w t .returned) t' → Agrees u t')
    (hgone : isLiveConsignment u t = false) :
    Faithful w (u.emit s (.consignmentClosed t reason)) := by
  intro t' ha
  by_cases ht : t' = t
  · subst ht
    show (if t' = t' then false else openAfter t' u.log) = isLiveConsignment u t'
    rw [if_pos rfl, hgone]
  · have hcleared : Agrees (clearConsignment w t .returned) t' := by
      unfold Agrees at ha ⊢
      rw [isLive_clear (by decide), if_neg ht]
      exact ha
    have hu := hother t' ht hcleared
    show (if t = t' then false else openAfter t' u.log) = isLiveConsignment u t'
    rw [if_neg (Ne.symm ht)]
    exact hu

theorem Calmed.returned {reason : CloseReason} (h : Calmed (clearConsignment w t .returned) u) :
    Calmed w (u.emit s (.consignmentClosed t reason)) := by
  have hgone : isLiveConsignment u t = false := by
    cases hlive : isLiveConsignment u t with
    | false => rfl
    | true =>
      have hbefore := h.no_opening t hlive
      rw [isLive_clear (by decide), if_pos rfl] at hbefore
      cases hbefore
  refine ⟨h.locked, fun t' ht' => ?_, returned_agrees _ _ (fun t' _ => h.agrees t') hgone⟩
  have hbefore := h.no_opening t' ht'
  rw [isLive_clear (by decide)] at hbefore
  split at hbefore
  · cases hbefore
  · exact hbefore

theorem Calmed.closed {reason : CloseReason} : Calmed w (close w s t reason) := by
  refine ⟨rfl, fun t' ht' => ?_, fun t' ha => ?_⟩
  · have hclosed : isLiveConsignment (clearConsignment w t .closed) t' = true := ht'
    rw [isLive_clear (by decide)] at hclosed
    split at hclosed
    · cases hclosed
    · exact hclosed
  · show (if t = t' then false else openAfter t' w.log) =
      isLiveConsignment (clearConsignment w t .closed) t'
    rw [isLive_clear (by decide)]
    by_cases ht : t = t'
    · rw [if_pos ht, if_pos ht.symm]
    · rw [if_neg ht, if_neg (Ne.symm ht)]
      exact ha

/-- An opening is announced with the write. -/
theorem Faithful.opened {owner agent asset : Address} {denomination : Denomination}
    {floor price : ℕ} {comp : Compensation} :
    Faithful w (writeOpen w s t owner agent asset denomination floor comp price) := by
  intro t' ha
  by_cases ht : t' = t
  · subst ht
    simp [Agrees, openAfter, isLiveConsignment, writeOpen, World.emit, World.setRecallRequest,
      World.setPhase, World.setCommitted, World.setConsignment]
  · have hother : openAfter t' w.log = isLiveConsignment w t' := ha
    simpa [Agrees, openAfter, isLiveConsignment, writeOpen, World.emit, World.setRecallRequest,
      World.setPhase, World.setCommitted, World.setConsignment, ht, Ne.symm ht] using hother

end Changes

/-! ## §2. The fixed-price mode. -/

namespace FixedPrice

variable [Erc721 P]

/-- The mode, with forced recalls refused whose receiver leaves the passport on offer. -/
def checkedDispatch (sender : Address) (value : ℕ) (call : Call)
    (rs : ℕ → Reply P FixedPriceStorage) (w : World P) : Except Error (World P) :=
  match call with
  | .base (.forceRecall t) => do
    let w' ← dispatch sender value (.base (.forceRecall t)) rs w
    revertIf (isLiveConsignment w' t = true) .liveConsignment
    pure w'
  | call => dispatch sender value call rs w

def checkedMode : Mode P FixedPriceStorage Call := ⟨hooks, checkedDispatch⟩

/-- The condition on a step: no receiver of a forced recall leaves the passport on offer. -/
def RecallsHold (w : World P) (a : Action Call) : Prop := checkedMode.step w a = mode.step w a

section Messages

variable {w w' : World P} {t : TokenId} {sender : Address} {r : Reply P FixedPriceStorage}

theorem lifeRules : Rules (P := P) Calmed Faithful where
  toGuardPair := lifeGuard
  side h := by
    have hbeside : Beside NotesSame _ _ := h.beside fun _ => rfl
    exact hbeside.calmed
  opened _ _ := .opened
  priced _ := lifeGuard.rest (.emit (.of_phase rfl rfl fun _ => rfl) (by rfl))
  noted _ := by
    refine lifeGuard.rest (.emit (.of_phase rfl rfl fun _ => rfl) ?_)
    rfl
  confirmed {w _ _ _ t} _ h := by
    have hset : Calmed w (setNote w t []) := .of_phase rfl rfl fun _ => rfl
    exact lifeGuard.rest ((hset.trans (h.emit rfl)).trans .closed)
  bought := .emit (.refl _) rfl
  sold {w _ _ _ _ _ _ t c' _ _ _} h := by
    have hscaled : Calmed w (w.setConsignment t c') := .of_phase rfl rfl fun _ => rfl
    exact lifeGuard.rest (((hscaled.trans h).emit (by rfl)).trans .closed)
  returned _ h := h.returned

/-- **A forced recall** that leaves its lot closed. -/
theorem forceRecall_respects (hr : Keeps (Respects Calmed Faithful) r)
    (hgone : isLiveConsignment w' t = false)
    (h : forceRecall hooks w sender t r = .ok w') : Respects Calmed Faithful w w' := by
  simp only [forceRecall, bind_ok, revertIf_ok, exists_const] at h
  obtain ⟨-, -, -, -, hterm⟩ := h
  obtain ⟨u, hu, rfl⟩ := terminateToOwner_keeps lifeRules.respects hr hterm
  have hset : Calmed w (w.setRecallRequest t 0) := .of_phase rfl rfl fun _ => rfl
  constructor
  · intro hl
    have hcalm : Calmed (clearConsignment (w.setRecallRequest t 0) t .returned) u :=
      hu.under_lock hl
    exact hset.trans hcalm.returned
  · intro hl
    obtain ⟨hfaithful, hl'⟩ := hu.at_rest hl
    have hreturned := returned_agrees sender .recalled
      (fun t' _ => hfaithful t') (show isLiveConsignment u t = false from hgone)
    exact ⟨fun t' ha => hreturned t' (hset.agrees t' ha), hl'⟩

theorem checked_respects {d : ℕ} {m : Msg Call} (h : checkedMode.exec d m w = .ok w') :
    Respects Calmed Faithful w w' := by
  refine Mode.exec_keeps (R := Respects Calmed Faithful) lifeGuard.respects_refl
    lifeGuard.respects_trans ?_ ?_ d m w w' h
  · intro o u v ho
    exact lifeRules.respects.side (.outside o ho)
  · intro s value c rs u v hrs hd
    simp only [checkedMode, checkedDispatch] at hd
    split at hd
    · simp only [bind_ok, revertIf_ok, exists_const, pure_ok] at hd
      obtain ⟨v', hd, hgone, rfl⟩ := hd
      refine dispatch_respects lifeRules hrs (fun t' ht' hrec => ?_) hd
      obtain ⟨rfl⟩ := BaseCall.forceRecall.inj (Call.base.inj ht')
      exact forceRecall_respects (hrs 0) (by simpa using hgone) hrec
    · rename_i hnot
      exact dispatch_respects lifeRules hrs (fun t' ht' => absurd ht' (hnot t')) hd

/-- What the invariant needs of a step. -/
theorem step_faithful {a : Action Call} (hok : RecallsHold w a) (hl : w.locked = false)
    (h : mode.step w a = .ok w') : Faithful w w' ∧ w'.locked = false := by
  cases a with
  | msg m =>
    have hchecked : checkedMode.step w (.msg m) = .ok w' := hok.trans h
    exact (checked_respects hchecked).at_rest hl
  | tick dt =>
    obtain rfl : _ = w' := Except.ok.inj h
    exact ⟨fun _ ha => ha, hl⟩

theorem genesis_agrees (h : Genesis w) : w.locked = false ∧ ∀ t, Agrees w t := by
  obtain ⟨env, pr, fee, feed, tol, own, gd, w₀, b, tb, -, hinit, rfl⟩ := h
  simp only [initializeStorage, bind_ok, revertIf_ok, pure_ok, exists_const] at hinit
  obtain ⟨-, -, -, -, _, -, rfl⟩ := hinit
  exact ⟨rfl, fun t => rfl⟩

end Messages

end FixedPrice

/-! ## §3. The auction. -/

namespace Ascending

variable [Erc721 P] {w w' : World P} {t : TokenId} {sender : Address}
  {rs : ℕ → Reply P AscendingStorage}

theorem lifeRules : Rules (P := P) Calmed Faithful where
  toGuardPair := lifeGuard
  side h := by
    have hbeside : Beside ExtSame _ _ := h.beside fun _ => ⟨rfl, rfl⟩
    exact hbeside.calmed
  bonds := .of_phase rfl rfl fun _ => rfl
  held {_ _ e} he := by
    refine .emit (.refl _) ?_
    cases e <;> first | rfl | cases he
  opened {w s owner agent asset t denomination floor reserve _ _ comp} _ _ _ _ := by
    have hopened : Faithful w
        (writeOpen w s t owner agent asset denomination floor comp reserve) := .opened
    refine lifeGuard.rest_trans hopened (lifeGuard.rest (.emit (.of_phase rfl rfl ?_) ?_))
    · exact fun _ => rfl
    · rfl
  placed {_ u v _ _ _} _ _ hv := by
    have hcommitted : Calmed u v := by
      unfold commitFirst at hv
      split at hv
      · simp only [bind_ok, pure_ok] at hv
        obtain ⟨y, hy, rfl⟩ := hv
        obtain ⟨-, rfl⟩ := enterCommittedNotOffered_ok hy
        exact .of_phase rfl rfl fun _ => rfl
      · obtain rfl := pure_ok.mp hv
        exact .refl _
    refine lifeGuard.rest (hcommitted.trans (.emit (.of_phase rfl rfl fun _ => rfl) ?_))
    rfl
  settled _ _ _ := lifeGuard.rest (.emit (.of_phase rfl rfl fun _ => rfl) (by rfl))
  holdKept _ _ := lifeGuard.rest (.of_phase rfl rfl fun _ => rfl)
  holdCleared := lifeGuard.rest (.of_phase rfl rfl fun _ => rfl)
  split {w s asset a b c t x y z reason} := by
    have hannounced : Calmed w (w.emit s (.consignmentSplitPaid t asset a x b y c z)) :=
      .emit (.refl _) rfl
    exact hannounced.trans .closed
  returned h := h.returned

theorem genesis_agrees (h : Genesis w) : w.locked = false ∧ ∀ t, Agrees w t := by
  obtain ⟨env, pr, fee, fr, bond, window, own, gd, w₀, b, tb, -, hinit, rfl⟩ := h
  simp only [initializeStorage, bind_ok, revertIf_ok, pure_ok, exists_const] at hinit
  obtain ⟨-, -, _, -, -, -, -, -, rfl⟩ := hinit
  exact ⟨rfl, fun t => rfl⟩

theorem step_faithful {a : Action Call} (hl : w.locked = false)
    (h : mode.step w a = .ok w') : Faithful w w' ∧ w'.locked = false := by
  cases a with
  | msg m => exact (exec_respects lifeRules h).at_rest hl
  | tick dt =>
    obtain rfl : _ = w' := Except.ok.inj h
    exact ⟨fun _ ha => ha, hl⟩

end Ascending

/-! ## §4. Runs. -/

/-- **The event log is faithful**: at the end of every transaction the fold of the openings and
    closings of a passport says whether it is on offer, in the fixed-price mode along runs in
    which no receiver of a forced recall leaves its passport on offer, in the auction along all
    runs. -/
theorem event_log_faithful [Erc721 P] :
    (∀ (g w : FixedPrice.World P) (as : List (Action FixedPrice.Call)), FixedPrice.Genesis g →
      Along FixedPrice.mode.step FixedPrice.RecallsHold g as →
      run FixedPrice.mode.step g as = .ok w → ∀ t, openAfter t w.log = isLiveConsignment w t) ∧
    ∀ w : Ascending.World P, Reachable Ascending.mode.step Ascending.Genesis w →
      ∀ t, openAfter t w.log = isLiveConsignment w t := by
  constructor
  · intro g w as hg hok hr
    have hstep : ∀ (u : FixedPrice.World P) a v, (u.locked = false ∧ ∀ t, Agrees u t) → FixedPrice.RecallsHold u a →
        FixedPrice.mode.step u a = .ok v → v.locked = false ∧ ∀ t, Agrees v t := by
      rintro u a v ⟨hl, hagrees⟩ hok hs
      obtain ⟨hfaithful, hl'⟩ := FixedPrice.step_faithful hok hl hs
      exact ⟨hl', fun t => hfaithful t (hagrees t)⟩
    exact (run_invariant_along hstep (FixedPrice.genesis_agrees hg) hok hr).2
  · intro w h
    have hinv : w.locked = false ∧ ∀ t, Agrees w t := by
      refine h.invariant (fun g hg => Ascending.genesis_agrees hg) ?_
      rintro u a v ⟨hl, hagrees⟩ hs
      obtain ⟨hfaithful, hl'⟩ := Ascending.step_faithful hl hs
      exact ⟨hl', fun t => hfaithful t (hagrees t)⟩
    exact hinv.2

namespace FixedPrice

/-- Account 2 offers passport 7 for account 1, which recalls it and, as it arrives, offers it
    again: the new lot is announced before the end of the old one. -/
def reofferedLot : List (Action Call) :=
  [.call 1 0 (.base (.grant 7 (.account 2) 0 .zero ⟨.asset, 0⟩ 1000 ⟨.margin, 0⟩)),
    .call 2 0 (.openFromMandate 7 ⟨.asset, 0⟩ 2000), .call 1 0 (.base (.requestRecall 7)),
    .tick recallCooldown,
    .msg (.tx (Caller.account 1) 0 (.base (.forceRecall 7)) [⟨true, ⟨32, 1⟩, 0,
      [.tx (Caller.account 1) 0 (.openDirect 7 ⟨.asset, 0⟩ .zero 3000) []]⟩])]

theorem reoffered_lot :
    (run (mode (P := Registry)).step smallGenesis reofferedLot).isOk = true ∧
      isLiveConsignment (finalState (mode (P := Registry)).step smallGenesis reofferedLot) 7 =
        true ∧
      openAfter 7 (finalState (mode (P := Registry)).step smallGenesis reofferedLot).log = false := by
  decide +kernel

end FixedPrice

namespace FixedPrice

/-- A call whose callees only accept meets the condition. -/
theorem recallsHold_call [Erc721 P] (w : World P) (sender value : ℕ) (c : Call) :
    RecallsHold w (.call sender value c) := by
  have hreply : ∀ ex : Msg Call → World P → Except Error (World P),
      (fun i => (List.getD [] i Callee.accept).reply ex) =
        fun _ => (⟨true, ⟨32, 1⟩, 0, fun w => w⟩ : Reply P FixedPriceStorage) := fun _ => rfl
  show checkedDispatch _ value c (fun i => (List.getD [] i Callee.accept).reply _) w =
    dispatch _ value c (fun i => (List.getD [] i Callee.accept).reply _) w
  rw [hreply, hreply]
  unfold checkedDispatch
  split
  · rename_i t
    cases hd : dispatch (Caller.account sender).addr value (.base (.forceRecall t))
        (fun _ => (⟨true, ⟨32, 1⟩, 0, fun w => w⟩ : Reply P FixedPriceStorage)) w with
    | error e => rfl
    | ok w' =>
      have hgone : isLiveConsignment w' t = false := by
        simp only [dispatch, dispatchPlain, execBase, forceRecall, terminateToOwner, bind_ok,
          revertIf_ok, exists_const, pure_ok] at hd
        obtain ⟨-, -, -, -, -, -, u, hu, rfl⟩ := hd
        simp only [releaseCustody, hooks, if_true, bind_ok, orRevert_ok, require_ok, exists_const,
          pure_ok] at hu
        obtain ⟨p, -, -, rfl⟩ := hu
        have hcleared : isLiveConsignment (clearConsignment (w.setRecallRequest t 0) t .returned) t =
            false := by rw [isLive_clear (by decide), if_pos rfl]
        exact hcleared
      have hchecked : revertIf (isLiveConsignment w' t = true) Error.liveConsignment = .ok () := by
        simp [revertIf, hgone]
      show (revertIf (isLiveConsignment w' t = true) Error.liveConsignment >>= fun _ =>
        pure w') = Except.ok w'
      rw [hchecked]
      rfl
  · rfl

end FixedPrice

/-- A lot that is sold, and one that is settled. -/
theorem event_log_faithful_sold :
    openAfter 7 (finalState (FixedPrice.mode (P := Registry)).step FixedPrice.smallGenesis
      FixedPrice.soldLot).log = isLiveConsignment (finalState
        (FixedPrice.mode (P := Registry)).step FixedPrice.smallGenesis FixedPrice.soldLot) 7 ∧
    openAfter 7 (finalState (Ascending.mode (P := Registry)).step Ascending.smallGenesis
      Ascending.settledLot).log = isLiveConsignment (finalState
        (Ascending.mode (P := Registry)).step Ascending.smallGenesis Ascending.settledLot) 7 :=
  have hcalls : Along (FixedPrice.mode (P := Registry)).step FixedPrice.RecallsHold
      FixedPrice.smallGenesis FixedPrice.soldLot :=
    ⟨FixedPrice.recallsHold_call _ _ _ _, fun _ _ => ⟨FixedPrice.recallsHold_call _ _ _ _,
      fun _ _ => ⟨FixedPrice.recallsHold_call _ _ _ _, fun _ _ => trivial⟩⟩⟩
  ⟨event_log_faithful.1 FixedPrice.smallGenesis _ FixedPrice.soldLot
      FixedPrice.smallGenesis_genesis hcalls (run_finalState (by decide +kernel)) 7,
    event_log_faithful.2 _ ⟨Ascending.smallGenesis, Ascending.settledLot,
      Ascending.smallGenesis_genesis, run_finalState (by decide +kernel)⟩ 7⟩

end Kargain.Evm
