/-
  Kargain.Svm.AscendingLog — the lot events of kar-ascending.

  Opening a lot logs that it is opened, and the shared payout that it is
  closed.  On the tokens' own accounts the two take turns and the last one
  says whether the lot is live, as long as no reversal is completed:
  completing one ends the lot and logs only the reversal.

  Main result: `log_faithful`.
-/
import Kargain.Svm.AscendingHolds

namespace Kargain.Svm.Ascending

open Kargain.Accounts

/-! ## §1. Events. -/

/-- `ConsignmentOpened` and `ConsignmentClosed`. -/
inductive LotEvent
  | opened
  | closed
  deriving DecidableEq

/-- Which of the two an accepted instruction logs, and of which lot: both openings end on
    `event_opened`, `pay_split_and_close` on `event_closed`. -/
def Instruction.logs : Instruction → Option (TokenId × LotEvent)
  | .openAscendingDirect t _ _ _ _ | .openAscendingFromMandate t _ _ _ => some (t, .opened)
  | .confirmReceipt t | .releaseFunds t | .abandonReversal t | .judgeChallenge t 1
  | .concludeChallenge t => some (t, .closed)
  | _ => none

/-- The events of a lot in what was accepted, newest first. -/
def lotLog (t : TokenId) : List Entry → List LotEvent
  | [] => []
  | e :: older =>
    match e.ix.logs with
    | none => lotLog t older
    | some (u, event) => if u = t then event :: lotLog t older else lotLog t older

/-- Events take turns, and the oldest is an opening. -/
def Alternates : List LotEvent → Prop
  | [] => True
  | [e] => e = .opened
  | e :: e' :: older => e ≠ e' ∧ Alternates (e' :: older)

/-- The lot is live. -/
def Desk.Live (d : Desk) : Prop := ∃ c ∈ d.lot, c.isLive = true

instance (d : Desk) : Decidable d.Live :=
  inferInstanceAs (Decidable (∃ c ∈ d.lot, c.isLive = true))

/-- The log of `t` tells whether its lot is live. -/
structure LogFaithful (t : TokenId) (s : System) : Prop where
  alternates : Alternates (lotLog t s.past)
  live : (deskAt s.ledger t).Live ↔ (lotLog t s.past).head? = some .opened

theorem Alternates.open {l : List LotEvent} (h : Alternates l) (hl : l.head? ≠ some .opened) :
    Alternates (.opened :: l) := by
  cases l with
  | nil => rfl
  | cons e older =>
    refine ⟨?_, h⟩
    intro he
    exact hl (congrArg some he.symm)

theorem Alternates.close {l : List LotEvent} (h : Alternates l) (hl : l.head? = some .opened) :
    Alternates (.closed :: l) := by
  cases l with
  | nil => cases hl
  | cons e older =>
    refine ⟨?_, h⟩
    intro he
    have hopened : e = .opened := Option.some.inj hl
    rw [hopened] at he
    cases he

/-! ## §2. One step. -/

section Steps

variable {P : Platform} {W : AmountOffset} {now : ℕ} {t : TokenId} {ix : Instruction} {d d' : Desk}
  {s s' : System} {a : Action} {h : HoldRecord} {c : ConsignmentRecord}

theorem Settled.held_live (hs : Settled d) (hheld : d.Held) : d.Live := by
  obtain ⟨c, hc, hlive, -⟩ := hs.held hheld
  exact ⟨c, hc, hlive⟩

theorem not_live_paidOut {ch : Option ChallengeAccount} :
    ¬ ({ d.paidOut h c with challenge := ch } : Desk).Live := by
  rintro ⟨c', hc, hlive⟩
  obtain rfl := Option.some.inj hc
  simp [ConsignmentRecord.isLive, closeLot, Phase.closed, Phase.offered] at hlive

/-- An opening finds no live lot and leaves one; a payout finds a live lot and leaves none; but
    for the end of a reversal nothing else begins or ends a lot. -/
theorem Move.logged (hm : Move now t ix d d') (hs : Settled d) (hne : ix ≠ .completeReversal t) :
    (ix.logs = some (t, .opened) ∧ ¬ d.Live ∧ d'.Live) ∨
    (ix.logs = some (t, .closed) ∧ d.Live ∧ ¬ d'.Live) ∨
    (ix.logs = none ∧ (d'.Live ↔ d.Live)) := by
  have hidle (hfree : ∀ c₀ ∈ d.lot, c₀.isLive = false) : ¬ d.Live := by
    rintro ⟨c₀, hc, hlive⟩
    rw [hfree c₀ hc] at hlive
    cases hlive
  cases hm with
  | openDirect hfree ha hlive => exact .inl ⟨rfl, hidle hfree, _, rfl, hlive⟩
  | openFromMandate hfree ha hlive => exact .inl ⟨rfl, hidle hfree, _, rfl, hlive⟩
  | @bid _ _ _ c c' _ hfree hlot hc ha =>
    have hsame : c'.isLive = c.isLive := by
      rcases hc with rfl | rfl
      · rfl
      · rfl
    refine .inr (.inr ⟨rfl, ?_⟩)
    simp [Desk.Live, hlot, hsame]
  | settle => exact .inr (.inr ⟨rfl, Iff.rfl⟩)
  | confirm hhold hactive =>
    exact .inr (.inl ⟨rfl, hs.held_live ⟨_, hhold, hactive⟩, not_live_paidOut⟩)
  | release hhold hactive =>
    exact .inr (.inl ⟨rfl, hs.held_live ⟨_, hhold, hactive⟩, not_live_paidOut⟩)
  | complete => exact absurd rfl hne
  | abandon hhold hactive =>
    exact .inr (.inl ⟨rfl, hs.held_live ⟨_, hhold, hactive⟩, not_live_paidOut⟩)
  | openChallenge => exact .inr (.inr ⟨rfl, Iff.rfl⟩)
  | withdraw => exact .inr (.inr ⟨rfl, Iff.rfl⟩)
  | uphold => exact .inr (.inr ⟨rfl, Iff.rfl⟩)
  | reject hhold hlot hch hactive =>
    exact .inr (.inl ⟨rfl, hs.held_live (hs.disputed_held ⟨_, hch, hactive⟩), not_live_paidOut⟩)
  | conclude hhold hlot hch hactive =>
    exact .inr (.inl ⟨rfl, hs.held_live (hs.disputed_held ⟨_, hch, hactive⟩), not_live_paidOut⟩)
  | forceEndsAt => exact .inr (.inr ⟨rfl, Iff.rfl⟩)
  | forceClock => exact .inr (.inr ⟨rfl, Iff.rfl⟩)

/-- A lot event is of the token the instruction names. -/
theorem desk_of_logs {u : TokenId} {event : LotEvent} (h : ix.logs = some (u, event)) :
    ix.desk = some u := by
  unfold Instruction.logs at h
  split at h <;> first
    | exact congrArg (Option.map Prod.fst) h
    | cases h

theorem lotLog_other {e : Entry} {older : List Entry}
    (h : ∀ event, e.ix.logs ≠ some (t, event)) : lotLog t (e :: older) = lotLog t older := by
  rw [lotLog]
  split
  · rfl
  · rename_i u event hlog
    have hu : u ≠ t := fun hut => h event (hut ▸ hlog)
    rw [if_neg hu]

/-- A step on the accounts of the tokens it names, which does not complete the reversal of
    `t`. -/
def Reported (t : TokenId) (s : System) (a : Action) : Prop :=
  Tied s a ∧ ∀ x, a ≠ .instruction x (.completeReversal t)

/-- **What a step logs of a lot** is what becomes of it. -/
theorem step_logged (hi : Inv s) (ha : Reported t s a) (h : step P W s a = .ok s') :
    (lotLog t s'.past = .opened :: lotLog t s.past ∧
      ¬ (deskAt s.ledger t).Live ∧ (deskAt s'.ledger t).Live) ∨
    (lotLog t s'.past = .closed :: lotLog t s.past ∧
      (deskAt s.ledger t).Live ∧ ¬ (deskAt s'.ledger t).Live) ∨
    (lotLog t s'.past = lotLog t s.past ∧
      ((deskAt s'.ledger t).Live ↔ (deskAt s.ledger t).Live)) := by
  obtain ⟨-, hturn⟩ := step_turn hi.seated ha.1 h
  have hlaw := hturn t
  generalize deskAt s'.ledger t = d' at hlaw ⊢
  cases a with
  | instruction x ix =>
    obtain ⟨-, w', -, rfl⟩ := step_instruction_ok h
    cases hlaw with
    | same hne =>
      refine .inr (.inr ⟨?_, Iff.rfl⟩)
      exact lotLog_other fun event hlog => hne x ix rfl (desk_of_logs hlog)
    | move hix hm =>
      have hother : ix ≠ .completeReversal t := fun he => ha.2 x (by rw [he])
      rcases hm.logged (hi.settled t) hother with ⟨hlog, hlive⟩ | ⟨hlog, hlive⟩ | ⟨hlog, hlive⟩
      · exact .inl ⟨by simp [lotLog, hlog], hlive⟩
      · exact .inr (.inl ⟨by simp [lotLog, hlog], hlive⟩)
      · exact .inr (.inr ⟨by simp [lotLog, hlog], hlive⟩)
  | outside k b =>
    simp only [step, bind_ok, require_ok, pure_ok, exists_const] at h
    obtain ⟨-, rfl⟩ := h
    cases hlaw
    exact .inr (.inr ⟨rfl, Iff.rfl⟩)
  | forget u =>
    simp only [step, bind_ok, require_ok, pure_ok, exists_const] at h
    obtain ⟨-, rfl⟩ := h
    cases hlaw with
    | same => exact .inr (.inr ⟨rfl, Iff.rfl⟩)
    | forget => exact .inr (.inr ⟨rfl, Iff.rfl⟩)
  | tick n =>
    simp only [step, bind_ok, require_ok, pure_ok, exists_const] at h
    obtain ⟨-, rfl⟩ := h
    cases hlaw
    exact .inr (.inr ⟨rfl, Iff.rfl⟩)

/-! ## §3. Over runs. -/

structure LogInv (t : TokenId) (s : System) : Prop where
  inv : Inv s
  faithful : LogFaithful t s

theorem step_logInv (hi : LogInv t s) (ha : Reported t s a) (h : step P W s a = .ok s') :
    LogInv t s' := by
  refine ⟨step_inv hi.inv ha.1 h, ?_⟩
  have hlive := hi.faithful.live
  have halt := hi.faithful.alternates
  rcases step_logged hi.inv ha h with ⟨hlog, hidle, hnew⟩ | ⟨hlog, hold, hnew⟩ | ⟨hlog, hsame⟩
  · refine ⟨?_, ?_⟩
    · rw [hlog]
      exact halt.open (fun he => hidle (hlive.mpr he))
    · rw [hlog]
      exact iff_of_true hnew rfl
  · refine ⟨?_, ?_⟩
    · rw [hlog]
      exact halt.close (hlive.mp hold)
    · rw [hlog]
      exact iff_of_false hnew (fun he => by cases he)
  · refine ⟨?_, ?_⟩
    · rw [hlog]
      exact halt
    · rw [hlog]
      exact hsame.trans hlive

theorem Genesis.logInv (h : Genesis s) : LogInv t s where
  inv := h.inv
  faithful := by
    refine ⟨?_, ?_⟩
    · rw [h.past]
      trivial
    · rw [deskAt_genesis h, h.past]
      refine iff_of_false ?_ (fun he => by cases he)
      rintro ⟨c, hc, -⟩
      cases hc

end Steps

/-- **The log is faithful but for completed reversals.**  In every run on the tokens' own
    accounts that completes no reversal of `t` the openings and closings of `t` take turns and
    the lot is live just when the last of them is an opening; and a step that ends the lot logs
    one closing. -/
theorem log_faithful (P : Platform) (W : AmountOffset) {t : TokenId} {s₀ s : System}
    {as : List Action} (h0 : Genesis s₀) (hok : Along (step P W) (Reported t) s₀ as)
    (hr : run (step P W) s₀ as = .ok s) :
    LogFaithful t s ∧ ∀ a s', Reported t s a → step P W s a = .ok s' →
      (deskAt s.ledger t).Live → ¬ (deskAt s'.ledger t).Live →
        lotLog t s'.past = .closed :: lotLog t s.past := by
  have hi : LogInv t s :=
    run_invariant_along (fun _ _ _ hi ha hs => step_logInv hi ha hs) h0.logInv hok hr
  refine ⟨hi.faithful, ?_⟩
  intro a s' ha h hlive hended
  rcases step_logged hi.inv ha h with ⟨-, -, hnew⟩ | ⟨hlog, -, -⟩ | ⟨-, hsame⟩
  · exact absurd hnew hended
  · exact hlog
  · exact absurd (hsame.mpr hlive) hended

/-- The lot of passport 1 is opened, sold and released. -/
def releasedOne : List Action :=
  soldOne ++ [.tick (100 + minDuration + minProtectionWindow),
    .instruction (releasing 1 (holdPda 1) (challengePda programId 1)) (.releaseFunds 1)]

theorem log_faithful_stand : ∃ s, run (step .reference .reference) stand releasedOne = .ok s ∧
    LogFaithful 1 s ∧ ∀ a s', Reported 1 s a → step .reference .reference s a = .ok s' →
      (deskAt s.ledger 1).Live → ¬ (deskAt s'.ledger 1).Live →
        lotLog 1 s'.past = .closed :: lotLog 1 s.past := by
  have hrun : run (step .reference .reference) stand releasedOne = .ok _ :=
    run_finalState (by decide +kernel)
  have hok : Along (step .reference .reference) (Reported 1) stand releasedOne := by
    simp [releasedOne, soldOne, configured, opened, bids, settles, asked, releasing, releaseAccounts,
      Along, Reported, Tied, OwnAccounts, Instruction.expects]
  exact ⟨_, hrun, log_faithful .reference .reference stand_genesis hok hrun⟩

/-- The challenge of passport 1 is upheld by wallet 9 and the passport given back. -/
def reversedOne : List Action :=
  soldOne ++ [challenges 1,
    asked [.key 9, configPda programId, consignmentPda programId 1, holdPda 1,
      challengePda programId 1, .key 3, .stake standStaking (.key 9), standStaking, escrowPda 1, .key 8,
      .key 1, .system, .system, .key 9, passportBindingPda programId, configPda standPassports,
      standAnswer 1 0, standAnswer 1 1, .key 9] [.key 9] (.judgeChallenge 1 0),
    asked [.key 3, configPda programId, consignmentPda programId 1, holdPda 1,
      passportBindingPda programId, configPda standPassports, assetPda standPassports 1, .key 1,
      escrowPda 1, .system, .key 3, .mplCore, standAnswer 1 0, standAnswer 1 1, .key 9] [.key 3]
      (.completeReversal 1)]

/-- The completed reversal of passport 1 ended its lot, and the last event is still its
    opening. -/
theorem reversal_unlogged : Genesis stand ∧ Along (step .reference .reference) Tied stand reversedOne ∧
    ∃ s, run (step .reference .reference) stand reversedOne = .ok s ∧
      ¬ (deskAt s.ledger 1).Live ∧ lotLog 1 s.past = [.opened] := by
  have hrun : run (step .reference .reference) stand reversedOne = .ok _ :=
    run_finalState (by decide +kernel)
  have hok : Along (step .reference .reference) Tied stand reversedOne := by
    simp [reversedOne, soldOne, configured, opened, bids, settles, challenges, asked, Along, Tied,
      OwnAccounts, Instruction.expects]
  exact ⟨stand_genesis, hok, _, hrun, by decide +kernel, by decide +kernel⟩

end Kargain.Svm.Ascending
