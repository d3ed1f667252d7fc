/-
  Kargain.Svm.AscendingClock — the clock of a hold in kar-ascending.

  Settlement starts a countdown over the protection window of the lot.  A
  challenge freezes it and keeps what is left, a withdrawal lets it run
  again; an upheld challenge ends it and starts the reversal.  A meter
  beside the run counts the time the hold of one token has run.

  The handlers take hold and challenge as they come: a challenge opened
  on one lot may be withdrawn on the hold of another, whose clock it
  sets.

  Main result: `clock_law`.
-/
import Kargain.Svm.AscendingHolds

namespace Kargain.Svm.Ascending

open Kargain.Accounts Countdown

/-! ## §1. The meter. -/

/-- The time a hold has run, out of which window. -/
structure Meter where
  ran : ℕ
  window : ℕ

/-- The window of the auction a settlement closes. -/
def Desk.window (d : Desk) : ℕ := (d.auction.map AuctionTermsRecord.protectionWindow).getD 0

/-- The meter of `t`: it starts with a settlement, and stands while a challenge does. -/
def Meter.turn (t : TokenId) (s : System) (m : Meter) : Action → Meter
  | .instruction _ (.settle u) => if u = t then ⟨0, (deskAt s.ledger t).window⟩ else m
  | .tick n => if (deskAt s.ledger t).Disputed then m else { m with ran := m.ran + (n - s.now) }
  | _ => m

/-- A step, with the meter of `t` beside it. -/
def watchedStep (P : Platform) (W : AmountOffset) (t : TokenId) (sm : System × Meter) (a : Action) :
    Except Error (System × Meter) := do
  let s' ← step P W sm.1 a
  pure (s', sm.2.turn t sm.1 a)

/-- The accounts are those of the tokens named, and the authority does not set the clock
    of `t`. -/
def Unforced (t : TokenId) (sm : System × Meter) (a : Action) : Prop :=
  Tied sm.1 a ∧ ∀ x p f b, a ≠ .instruction x (.forceHoldClock t p f b)

/-! ## §2. The countdown of a hold. -/

/-- While a payment is held that no reversal is pending on: a countdown, frozen if and only if
    a challenge stands. -/
def OnTime (d : Desk) (now : ℕ) (m : Meter) : Prop :=
  ∀ h ∈ d.hold, h.isActive = true → h.reversalPending = false →
    (d.Disputed → Conserved m.window now m.ran (.frozen h.frozenRemaining)) ∧
    (¬ d.Disputed → Conserved m.window now m.ran (.running h.protectionEndsAt))

structure WatchInv (t : TokenId) (sm : System × Meter) : Prop where
  inv : Inv sm.1
  bounded : sm.2.window ≤ maxProtectionWindow
  onTime : OnTime (deskAt sm.1.ledger t) sm.1.now sm.2

section Moves

variable {now : ℕ} {t u : TokenId} {ix : Instruction} {d d' : Desk} {m : Meter}

theorem saturatingAdd_eq {a b : ℕ} (ha : a < 2 ^ 63) (hb : b ≤ maxProtectionWindow) :
    saturatingAdd a b = a + b := by
  unfold saturatingAdd u64Max
  unfold maxProtectionWindow at hb
  omega

/-- Where nothing is held that is not being reversed there is nothing to keep. -/
theorem OnTime.of_none {r : HoldRecord} (hr : d.hold = some r)
    (h : r.isActive = true → r.reversalPending = true) : OnTime d now m := by
  intro h' hh' hactive hkept
  obtain rfl : r = h' := Option.some.inj (hr.symm.trans hh')
  rw [h hactive] at hkept
  cases hkept

theorem OnTime.of_not_held (h : ¬ d.Held) : OnTime d now m :=
  fun r hr hactive _ => absurd ⟨r, hr, hactive⟩ h

/-- The same hold and the same challenge. -/
theorem OnTime.congr (h : OnTime d now m) (hh : d'.hold = d.hold)
    (hc : d'.challenge = d.challenge) : OnTime d' now m := by
  have hdisputed : d'.Disputed ↔ d.Disputed := by
    unfold Desk.Disputed
    rw [hc]
  intro r hr hactive hkept
  rw [hdisputed]
  exact h r (hh ▸ hr) hactive hkept

/-- **One move and the clock.**  Settlement starts it, a challenge freezes it, a withdrawal
    lets it run again. -/
theorem Move.onTime (hm : Move now t ix d d') (hs : Settled d) (hpos : 0 < now)
    (hlt : now < 2 ^ 63) (hb : m.window ≤ maxProtectionWindow) (h : OnTime d now m)
    (hforce : ∀ p f b, ix ≠ .forceHoldClock t p f b) :
    OnTime d' now (if ix = .settle t then ⟨0, d.window⟩ else m) := by
  cases hm with
  | openDirect hfree ha => exact h.congr rfl rfl
  | openFromMandate hfree ha => exact h.congr rfl rfl
  | bid hfree hlot hc ha => exact h.congr rfl rfl
  | @settle _ c a hfree hlot hbinding ha =>
    rw [if_pos rfl]
    have hw : d.window = a.protectionWindow := by
      unfold Desk.window
      rw [ha]
      rfl
    intro r hr hactive _
    obtain rfl := Option.some.inj hr
    refine ⟨fun hd => absurd (hs.disputed_held hd) hfree, fun _ => ?_⟩
    show Conserved d.window now 0 (.running (saturatingAdd now a.protectionWindow))
    rw [saturatingAdd_eq hlt (hs.window a ha), hw]
    exact .start
  | confirm => exact .of_not_held not_held_cleared
  | release => exact .of_not_held not_held_cleared
  | complete => exact .of_not_held not_held_cleared
  | abandon => exact .of_not_held not_held_cleared
  | @openChallenge _ r ch hhold hactive hcalm hkept hearly hch =>
    intro r' hr' _ _
    obtain rfl := Option.some.inj hr'
    have hopen : ch.isActive = true := by
      unfold ChallengeAccount.isActive
      rw [hch]
      exact decide_eq_true (by omega)
    have hrunning := (h r hhold hactive hkept).2 hcalm
    exact ⟨fun _ => hrunning.freeze hearly, fun hnot => absurd ⟨ch, rfl, hopen⟩ hnot⟩
  | @withdraw _ r ch hhold hch hactive =>
    intro r' hr' _ _
    obtain rfl := Option.some.inj hr'
    obtain ⟨r'', hr'', hact, hkept⟩ := hs.disputed ⟨ch, hch, hactive⟩
    obtain rfl : r = r'' := Option.some.inj (hhold.symm.trans hr'')
    have hfrozen := (h r hhold hact hkept).1 ⟨ch, hch, hactive⟩
    refine ⟨fun hd => absurd hd not_disputed_cleared, fun _ => ?_⟩
    have hle : r.frozenRemaining ≤ maxProtectionWindow := by
      simp only [Conserved] at hfrozen
      omega
    show Conserved m.window now m.ran (.running (saturatingAdd now r.frozenRemaining))
    rw [saturatingAdd_eq hlt hle]
    exact hfrozen.thaw
  | uphold => exact .of_none rfl fun _ => rfl
  | reject => exact .of_not_held not_held_cleared
  | conclude => exact .of_not_held not_held_cleared
  | forceEndsAt ha => exact h.congr rfl rfl
  | forceClock hhold => exact absurd rfl (hforce _ _ _)

end Moves

section Steps

variable {P : Platform} {W : AmountOffset} {t : TokenId} {s s' : System} {a : Action}
  {sm sm' : System × Meter}

theorem watchedStep_ok :
    watchedStep P W t sm a = .ok sm' ↔ ∃ s', step P W sm.1 a = .ok s' ∧ (s', sm.2.turn t sm.1 a) = sm' := by
  simp only [watchedStep, bind_ok, pure_ok]

/-- Only the clock moves on, and the meter with it. -/
theorem OnTime.tick {d : Desk} {now n : ℕ} {m : Meter} (h : OnTime d now m) (hle : now ≤ n) :
    OnTime d n (if d.Disputed then m else { m with ran := m.ran + (n - now) }) := by
  obtain ⟨dt, rfl⟩ := Nat.exists_eq_add_of_le hle
  intro r hr hactive hkept
  obtain ⟨hfrozen, hrunning⟩ := h r hr hactive hkept
  constructor
  · intro hd
    rw [if_pos hd]
    exact hfrozen hd
  · intro hd
    rw [if_neg hd, Nat.add_sub_cancel_left]
    exact (hrunning hd).tick dt

theorem Settled.window_le {d : Desk} (hs : Settled d) : d.window ≤ maxProtectionWindow := by
  unfold Desk.window
  cases ha : d.auction with
  | none => exact Nat.zero_le _
  | some a => exact hs.window a ha

theorem turn_instruction {m : Meter} {x : Call} {ix : Instruction} :
    m.turn t s (.instruction x ix) = if ix = .settle t then ⟨0, (deskAt s.ledger t).window⟩ else m := by
  cases ix with
  | settle u =>
    by_cases hu : u = t
    · subst hu
      simp [Meter.turn]
    · simp [Meter.turn, hu]
  | _ => simp [Meter.turn]

theorem watchedStep_inv (hi : WatchInv t sm) (hu : Unforced t sm a)
    (h : watchedStep P W t sm a = .ok sm') : WatchInv t sm' := by
  obtain ⟨s, m⟩ := sm
  obtain ⟨s', hs, rfl⟩ := watchedStep_ok.mp h
  obtain ⟨hinv, hbound, htime⟩ := hi
  obtain ⟨ht, hforce⟩ := hu
  have hinv' := step_inv hinv ht hs
  obtain ⟨-, hturn⟩ := step_turn hinv.seated ht hs
  have hlaw := hturn t
  cases a with
  | instruction x ix =>
    have hnow : s'.now = s.now := by
      obtain ⟨-, w', -, rfl⟩ := step_instruction_ok hs
      rfl
    rw [turn_instruction]
    refine ⟨hinv', ?_, ?_⟩
    · show (ite _ _ _ : Meter).window ≤ maxProtectionWindow
      split
      · exact (hinv.settled t).window_le
      · exact hbound
    · show OnTime (deskAt s'.ledger t) s'.now (ite _ _ _)
      rw [hnow]
      generalize deskAt s'.ledger t = d' at hlaw ⊢
      cases hlaw with
      | same hne =>
        have hsettle : ix ≠ .settle t := by
          rintro rfl
          exact hne x _ rfl rfl
        rw [if_neg hsettle]
        exact htime
      | move hix hm =>
        exact hm.onTime (hinv.settled t) hinv.now_pos hinv.now_lt hbound htime
          fun p f b he => hforce x p f b (by rw [he])
  | outside k b =>
    simp only [step, bind_ok, require_ok, pure_ok, exists_const] at hs
    obtain ⟨-, rfl⟩ := hs
    refine ⟨hinv', hbound, ?_⟩
    generalize deskAt (Function.update s.ledger k b) t = d' at hlaw ⊢
    cases hlaw
    exact htime
  | forget u =>
    simp only [step, bind_ok, require_ok, pure_ok, exists_const] at hs
    obtain ⟨-, rfl⟩ := hs
    refine ⟨hinv', hbound, ?_⟩
    generalize deskAt (Function.update s.ledger (auctionPda u) _) t = d' at hlaw ⊢
    cases hlaw with
    | same => exact htime
    | forget => exact htime.congr rfl rfl
  | tick n =>
    simp only [step, bind_ok, require_ok, pure_ok, exists_const] at hs
    obtain ⟨⟨hle, -⟩, rfl⟩ := hs
    refine ⟨hinv', ?_, ?_⟩
    · show (ite _ _ _ : Meter).window ≤ maxProtectionWindow
      split <;> exact hbound
    · exact htime.tick hle

end Steps

/-! ## §3. Over runs. -/

/-- The clock fields of a hold. -/
def clockFields (h : HoldRecord) : ℕ × ℕ × Bool × ℕ :=
  (h.protectionEndsAt, h.frozenRemaining, h.reversalPending, h.abandonmentDeadline)

/-- The instructions that may set the clock of `t`: its settlement, and those of its challenge
    on its own accounts. -/
def SetsClock (t : TokenId) (x : Call) (ix : Instruction) : Prop :=
  ix = .settle t ∨ OwnAccounts x ix ∧ (ix = .openChallenge t ∨ ix = .withdrawChallenge t ∨
    ix = .concludeChallenge t ∨ ∃ outcome, ix = .judgeChallenge t outcome)

/-- What a step may do to the clock of the hold of `t`, after it has run for the meter. -/
structure ClockLaw (t : TokenId) (s s' : System) (m : Meter) (a : Action) : Prop where
  /-- the clock of a payment that is held afterwards was set by its settlement or challenge -/
  changes : ∀ h' ∈ (deskAt s'.ledger t).hold, h'.isActive = true →
    (∃ h ∈ (deskAt s.ledger t).hold, h.isActive = true ∧ clockFields h = clockFields h') ∨
      ∃ x ix, a = .instruction x ix ∧ SetsClock t x ix
  /-- a release comes after the whole window -/
  released : ∀ x, a = .instruction x (.releaseFunds t) → m.window ≤ m.ran
  /-- a reversal starts with an upheld challenge on the token -/
  reversed : ∀ h' ∈ (deskAt s'.ledger t).hold, h'.isActive = true → h'.reversalPending = true →
    (∃ h ∈ (deskAt s.ledger t).hold, h.isActive = true ∧ h.reversalPending = true) ∨
      (deskAt s.ledger t).Disputed ∧ ∃ x, a = .instruction x (.judgeChallenge t 0)

section Law

variable {P : Platform} {W : AmountOffset} {t : TokenId} {s s' : System} {a : Action} {m : Meter}
  {x : Call} {ix : Instruction} {now : ℕ} {d d' : Desk}

/-- A move on a held payment keeps its clock, or is one that may set it. -/
theorem Move.clock (hm : Move now t ix d d') (hx : OwnAccounts x ix)
    (hforce : ∀ p f b, ix ≠ .forceHoldClock t p f b) {h' : HoldRecord} (hh' : h' ∈ d'.hold)
    (hactive' : h'.isActive = true) :
    (∃ h ∈ d.hold, h.isActive = true ∧ clockFields h = clockFields h') ∨ SetsClock t x ix := by
  have ended : ∀ {l a ch} {r : HoldRecord}, h' ∈ (Desk.mk l a (some r.cleared) ch).hold → False :=
    fun hh => not_held_cleared ⟨h', hh, hactive'⟩
  cases hm with
  | openDirect hfree ha => exact .inl ⟨h', hh', hactive', rfl⟩
  | openFromMandate hfree ha => exact .inl ⟨h', hh', hactive', rfl⟩
  | bid hfree hlot hc ha => exact .inl ⟨h', hh', hactive', rfl⟩
  | settle => exact .inr (.inl rfl)
  | confirm => exact (ended hh').elim
  | release => exact (ended hh').elim
  | complete => exact (ended hh').elim
  | abandon => exact (ended hh').elim
  | openChallenge => exact .inr (.inr ⟨hx, .inl rfl⟩)
  | withdraw => exact .inr (.inr ⟨hx, .inr (.inl rfl)⟩)
  | uphold => exact .inr (.inr ⟨hx, .inr (.inr (.inr ⟨0, rfl⟩))⟩)
  | reject => exact (ended hh').elim
  | conclude => exact (ended hh').elim
  | forceEndsAt ha => exact .inl ⟨h', hh', hactive', rfl⟩
  | forceClock hhold => exact absurd rfl (hforce _ _ _)

/-- A move that leaves a reversal pending finds one, or upholds a challenge. -/
theorem Move.reversal (hm : Move now t ix d d') {h' : HoldRecord} (hh' : h' ∈ d'.hold)
    (hactive' : h'.isActive = true) (hpending : h'.reversalPending = true) :
    (∃ h ∈ d.hold, h.isActive = true ∧ h.reversalPending = true) ∨
      d.Disputed ∧ ix = .judgeChallenge t 0 := by
  have ended : ∀ {l a ch} {r : HoldRecord}, h' ∈ (Desk.mk l a (some r.cleared) ch).hold → False :=
    fun hh => not_held_cleared ⟨h', hh, hactive'⟩
  cases hm with
  | openDirect hfree ha => exact .inl ⟨h', hh', hactive', hpending⟩
  | openFromMandate hfree ha => exact .inl ⟨h', hh', hactive', hpending⟩
  | bid hfree hlot hc ha => exact .inl ⟨h', hh', hactive', hpending⟩
  | settle =>
    obtain rfl := Option.some.inj hh'
    cases hpending
  | confirm => exact (ended hh').elim
  | release => exact (ended hh').elim
  | complete => exact (ended hh').elim
  | abandon => exact (ended hh').elim
  | @openChallenge _ r _ hhold =>
    obtain rfl := Option.some.inj hh'
    exact .inl ⟨r, hhold, hactive', hpending⟩
  | @withdraw _ r _ hhold =>
    obtain rfl := Option.some.inj hh'
    exact .inl ⟨r, hhold, hactive', hpending⟩
  | @uphold _ r ch hhold hch hactive => exact .inr ⟨⟨ch, hch, hactive⟩, rfl⟩
  | reject => exact (ended hh').elim
  | conclude => exact (ended hh').elim
  | forceEndsAt ha => exact .inl ⟨h', hh', hactive', hpending⟩
  | @forceClock _ r _ _ _ hhold =>
    obtain rfl := Option.some.inj hh'
    exact .inl ⟨r, hhold, hactive', hpending⟩

/-- A hold released has run its window. -/
theorem Move.due (hm : Move now t (.releaseFunds t) d d') (h : OnTime d now m) :
    m.window ≤ m.ran := by
  cases hm with
  | release hhold hactive hlot hcalm hkept hdue =>
    exact ((h _ hhold hactive hkept).2 hcalm).due.mp hdue

theorem WatchInv.law (hi : WatchInv t (s, m)) (hu : Unforced t (s, m) a)
    (h : step P W s a = .ok s') : ClockLaw t s s' m a := by
  obtain ⟨hinv, -, htime⟩ := hi
  obtain ⟨ht, hforce⟩ := hu
  obtain ⟨-, hturn⟩ := step_turn hinv.seated ht h
  have hlaw := hturn t
  refine ⟨fun h' hh' hactive' => ?_, ?_, fun h' hh' hactive' hpending => ?_⟩
  · generalize deskAt s'.ledger t = d' at hlaw hh'
    cases hlaw with
    | same => exact .inl ⟨h', hh', hactive', rfl⟩
    | forget => exact .inl ⟨h', hh', hactive', rfl⟩
    | @move x ix _ hix hm =>
      have hfree : ∀ p f b, ix ≠ .forceHoldClock t p f b := fun p f b he => hforce x p f b (by rw [he])
      exact (hm.clock ht hfree hh' hactive').imp_right fun hset => ⟨x, ix, rfl, hset⟩
  · rintro x rfl
    generalize deskAt s'.ledger t = d' at hlaw
    cases hlaw with
    | same hne => exact absurd rfl (hne x _ rfl)
    | move hix hm => exact hm.due htime
  · generalize deskAt s'.ledger t = d' at hlaw hh'
    cases hlaw with
    | same => exact .inl ⟨h', hh', hactive', hpending⟩
    | forget => exact .inl ⟨h', hh', hactive', hpending⟩
    | @move x ix _ hix hm =>
      refine (hm.reversal hh' hactive' hpending).imp_right fun hup => ⟨hup.1, x, ?_⟩
      rw [hup.2]

theorem Genesis.watchInv (h : Genesis s) : WatchInv t (s, ⟨0, 0⟩) where
  inv := h.inv
  bounded := Nat.zero_le _
  onTime := by
    show OnTime (deskAt s.ledger t) s.now ⟨0, 0⟩
    rw [deskAt_genesis h]
    intro r hr
    cases hr

end Law

/-- **The clock of a hold**, in every run on the tokens' own accounts in which the authority
    does not set it. -/
theorem clock_law (P : Platform) (W : AmountOffset) {t : TokenId} {s₀ s s' : System} {m : Meter}
    {as : List Action} {a : Action} (h0 : Genesis s₀)
    (hok : Along (watchedStep P W t) (Unforced t) (s₀, ⟨0, 0⟩) (as ++ [a]))
    (hr : run (watchedStep P W t) (s₀, ⟨0, 0⟩) as = .ok (s, m)) (h : step P W s a = .ok s') :
    ClockLaw t s s' m a := by
  have hi : WatchInv t (s, m) := run_invariant_along (fun _ _ _ hi hu hs => watchedStep_inv hi hu hs)
    h0.watchInv hok.of_append hr
  exact hi.law (hok.last hr) h

/-- Sold, and the protection window waited for. -/
def waited : List Action := soldOne ++ [.tick (100 + minDuration + minProtectionWindow)]

theorem clock_law_stand : ∃ s m s', run (watchedStep .reference .reference 1) (stand, ⟨0, 0⟩) waited =
      .ok (s, m) ∧
    ClockLaw 1 s s' m
      (.instruction (releasing 1 (holdPda 1) (challengePda programId 1)) (.releaseFunds 1)) := by
  have hrun : run (watchedStep .reference .reference 1) (stand, ⟨0, 0⟩) waited = .ok _ :=
    run_finalState (by decide +kernel)
  obtain ⟨s', hs⟩ := exists_of_isOk (r := step .reference .reference
    (finalState (watchedStep .reference .reference 1) (stand, ⟨0, 0⟩) waited).1
    (.instruction (releasing 1 (holdPda 1) (challengePda programId 1)) (.releaseFunds 1)))
    (by decide +kernel)
  have hok : Along (watchedStep .reference .reference 1) (Unforced 1) (stand, ⟨0, 0⟩)
      (waited ++
        [.instruction (releasing 1 (holdPda 1) (challengePda programId 1)) (.releaseFunds 1)]) := by
    simp [waited, soldOne, configured, opened, bids, settles, asked, releasing, releaseAccounts, Along,
      Unforced, Tied, OwnAccounts, Instruction.expects]
  exact ⟨_, _, s', hrun, clock_law .reference .reference stand_genesis hok hrun hs⟩

/-- Wallet 3 challenges the hold of passport 1, and withdraws on the hold of passport 2. -/
def crossed : List Action :=
  soldTwo ++ [challenges 1,
    asked [.key 3, configPda programId, consignmentPda programId 1, holdPda 2,
      challengePda programId 1] [.key 3] (.withdrawChallenge 1)]

/-- A challenge on another lot sets the clock: the payment for passport 2 is released before
    its window has run at all. -/
theorem clock_crossed : Genesis stand ∧ ∃ s m s',
    run (watchedStep .reference .reference 2) (stand, ⟨0, 0⟩) crossed = .ok (s, m) ∧
    step .reference .reference s (.instruction (releasing 2 (holdPda 2) (challengePda programId 2))
      (.releaseFunds 2)) = .ok s' ∧
    ¬ ClockLaw 2 s s' m (.instruction (releasing 2 (holdPda 2) (challengePda programId 2))
      (.releaseFunds 2)) := by
  have hrun : run (watchedStep .reference .reference 2) (stand, ⟨0, 0⟩) crossed = .ok _ :=
    run_finalState (by decide +kernel)
  obtain ⟨s', hs⟩ := exists_of_isOk (r := step .reference .reference
    (finalState (watchedStep .reference .reference 2) (stand, ⟨0, 0⟩) crossed).1
    (.instruction (releasing 2 (holdPda 2) (challengePda programId 2)) (.releaseFunds 2)))
    (by decide +kernel)
  refine ⟨stand_genesis, _, _, s', hrun, hs, fun hlaw => ?_⟩
  have hshort : (finalState (watchedStep .reference .reference 2) (stand, ⟨0, 0⟩) crossed).2.ran <
      (finalState (watchedStep .reference .reference 2) (stand, ⟨0, 0⟩) crossed).2.window := by
    decide +kernel
  exact absurd (hlaw.released _ rfl) (Nat.not_le.mpr hshort)

end Kargain.Svm.Ascending
