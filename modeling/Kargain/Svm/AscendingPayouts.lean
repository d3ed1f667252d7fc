/-
  Kargain.Svm.AscendingPayouts — what is paid for which lot.

  Confirmation, release and abandonment pay out a hold.  They take the
  amount from the hold and the terms from the consignment they are
  handed; on the token's own accounts these are its own, the lot is live,
  and both records are closed with it.

  Main result: `hold_paid`.
-/
import Kargain.Svm.AscendingGate

namespace Kargain.Svm.Ascending

open Kargain.Accounts

/-! ## §1. One payout. -/

/-- The three instructions that pay out a hold, with where their accounts stand. -/
def Instruction.payout : Instruction → Option (TokenId × PaySplitIdx)
  | .confirmReceipt t | .releaseFunds t => some (t, ⟨2, 5, 6, 7, 8, 9, 10, 15⟩)
  | .abandonReversal t => some (t, ⟨2, 4, 5, 6, 7, 8, 9, 14⟩)
  | _ => none

/-- The hold and the lot of `t` in `L` are what an instruction on `t` pays out: the gross is
    the hold's, the terms and the recipients are the lot's. -/
structure Pays (L : Ledger) (x : Call) (t : TokenId) (idx : PaySplitIdx) (w' : Exec)
    (h : HoldRecord) (c : ConsignmentRecord) (split : SplitResult) : Prop where
  hold : (deskAt L t).hold = some h
  active : h.isActive = true
  lot : (deskAt L t).lot = some c
  live : c.isLive = true
  terms : computeSplitForLot h.gross c = .ok split
  seller : split.ownerAmount ≠ 0 → x.keys[idx.seller]? = some c.seller
  agent : split.agentAmount ≠ 0 → x.keys[idx.agent]? = some c.agent
  /-- what leaves escrows is the gross, out of the token's own -/
  drawn : ∀ u, taken (escrowPda u) w' = if t = u then h.gross else 0
  /-- neither record is live afterwards -/
  closed : ¬ (deskAt w'.ledger t).Held ∧ ∀ c' ∈ (deskAt w'.ledger t).lot, c'.isLive = false

section Payouts

variable {P : Platform} {W : AmountOffset} {x : Call} {now : ℕ} {w w' : Exec} {t : TokenId}
  {ix : Instruction} {v : DeskMap}

/-- The terms of the shared payout are those of the consignment account handed in. -/
theorem paySplitAndClose_terms {idx : PaySplitIdx} {cfg : AscendingConfig} {gross : ℕ}
    (hd : Desks v w.ledger) (hk : x.keys[idx.consignment]? = some (consignmentPda programId t))
    (h : paySplitAndClose P x w idx cfg t gross = .ok w') :
    ∃ c split, (v t).lot = some c ∧ computeSplitForLot gross c = .ok split ∧
      (split.ownerAmount ≠ 0 → x.keys[idx.seller]? = some c.seller) ∧
      (split.agentAmount ≠ 0 → x.keys[idx.agent]? = some c.agent) := by
  simp only [paySplitAndClose, bind_ok, account_ok, load_ok] at h
  obtain ⟨consignment, hc, escrow, -, platform, -, seller, hseller, agent, hagent, _, -, payer, -, c,
    hdata, split, hsplit, _, hverify, -⟩ := h
  obtain rfl : consignment = consignmentPda programId t := Option.some.inj (hc.symm.trans hk)
  obtain ⟨-, howner, hagented⟩ := verifyRecipients_ok hverify
  refine ⟨c, split, hd.lot.mpr hdata, hsplit, fun hne => ?_, fun hne => ?_⟩
  · rw [hseller, show seller = c.seller from howner hne]
  · rw [hagent, show agent = c.agent from hagented hne]

/-- The terms of a hold let go of are those of the lot before it. -/
theorem payOut_terms {r : HoldRecord} {binding passportConfig funder leave openAnswer : Pubkey}
    {idx : PaySplitIdx} {cfg : AscendingConfig} {gross : ℕ} {w₁ w₂ : Exec} (hd : Desks v w.ledger)
    (hk : x.keys[idx.consignment]? = some (consignmentPda programId t))
    (h₁ : w.store (holdPda t) r = (.ok w₁ : Except Error Exec))
    (h₂ : closeAnswersFromBinding x w₁ binding passportConfig funder leave openAnswer t = .ok w₂)
    (h₃ : paySplitAndClose P x w₂ idx cfg t gross = .ok w') :
    ∃ c split, (v t).lot = some c ∧ computeSplitForLot gross c = .ok split ∧
      (split.ownerAmount ≠ 0 → x.keys[idx.seller]? = some c.seller) ∧
      (split.agentAmount ≠ 0 → x.keys[idx.agent]? = some c.agent) := by
  have hcleared := (hd.store h₁).books (sameBooks_closeAnswersFromBinding h₂)
  obtain ⟨c, split, hc, hrest⟩ := paySplitAndClose_terms hcleared hk h₃
  rw [DeskMap.write_hold, Function.update_self] at hc
  exact ⟨c, split, hc, hrest⟩

/-- A hold let go of on the accounts of its token is paid out for its lot. -/
theorem payOut_pays {L : Ledger} {r : HoldRecord}
    {binding passportConfig funder leave openAnswer : Pubkey} {idx : PaySplitIdx}
    {cfg : AscendingConfig} {w₁ w₂ : Exec} (hseated : Seated programId L)
    (hs : Settled (deskAt L t)) (hr : (L (holdPda t)).data = .hold r) (hactive : r.isActive = true)
    (hk : x.keys[idx.consignment]? = some (consignmentPda programId t))
    (he : x.keys[idx.escrow]? = some (escrowPda t))
    (h₁ : (Exec.start L).store (holdPda t) r.cleared = (.ok w₁ : Except Error Exec))
    (h₂ : closeAnswersFromBinding x w₁ binding passportConfig funder leave openAnswer t = .ok w₂)
    (h₃ : paySplitAndClose P x w₂ idx cfg t r.gross = .ok w') :
    ∃ c split, Pays L x t idx w' r c split := by
  have hd : Desks (deskAt L) (Exec.start L).ledger := .of_seated hseated
  have hhold : (deskAt L t).hold = some r := hd.hold.mpr hr
  obtain ⟨c, split, hc, hterms, hseller, hagent⟩ := payOut_terms hd hk h₁ h₂ h₃
  obtain ⟨c', hc', hlive, -⟩ := hs.held ⟨r, hhold, hactive⟩
  obtain rfl : c = c' := Option.some.inj (hc.symm.trans hc')
  obtain ⟨c'', -, hd'⟩ := payOut_desks hd hk h₁ h₂ h₃
  refine ⟨c, split, hhold, hactive, hc, hlive, hterms, hseller, hagent, fun u => ?_, ?_⟩
  · rw [taken_payOut he h₁ h₂ h₃, taken_start, Nat.add_zero]
  · have hdesk := hd'.desk t
    rw [Function.update_self] at hdesk
    rw [hdesk]
    refine ⟨not_held_cleared, fun c₀ hc₀ => ?_⟩
    obtain rfl := Option.some.inj hc₀
    simp [ConsignmentRecord.isLive, closeLot, Phase.closed, Phase.offered]

theorem processInstruction_pays {L : Ledger} {idx : PaySplitIdx} (hseated : Seated programId L)
    (hs : Settled (deskAt L t)) (hx : OwnAccounts x ix) (hix : ix.payout = some (t, idx))
    (h : processInstruction P W now x (Exec.start L) ix = .ok w') :
    ∃ r c split, Pays L x t idx w' r c split := by
  cases ix with
  | confirmReceipt u =>
    obtain ⟨rfl, rfl⟩ := Prod.mk.inj (Option.some.inj hix)
    simp only [processInstruction, confirmReceipt, bind_ok, account_ok, require_ok, load_ok,
      exists_const] at h
    obtain ⟨buyer, -, config, -, hold, h3, challenge, -, payer, -, binding, -, passportConfig, -,
      leave, -, openAnswer, -, funder, -, -, cfg, -, r, hr, hactive, -, active, -, _, -, _, -, w₁, h₁,
      w₂, h₂, h₃⟩ := h
    obtain rfl := hx.key (k := holdPda u) (by simp [Instruction.expects]) h3
    exact ⟨r, payOut_pays hseated hs hr hactive (hx (2, _) (by simp [Instruction.expects]))
      (hx (5, _) (by simp [Instruction.expects])) h₁ h₂ h₃⟩
  | releaseFunds u =>
    obtain ⟨rfl, rfl⟩ := Prod.mk.inj (Option.some.inj hix)
    simp only [processInstruction, releaseFunds, bind_ok, account_ok, require_ok, load_ok,
      exists_const] at h
    obtain ⟨_, -, config, -, hold, h3, challenge, -, payer, -, binding, -, passportConfig, -,
      leave, -, openAnswer, -, funder, -, -, cfg, -, r, hr, hactive, active, -, _, -, _, -, _, -, w₁, h₁,
      w₂, h₂, h₃⟩ := h
    obtain rfl := hx.key (k := holdPda u) (by simp [Instruction.expects]) h3
    exact ⟨r, payOut_pays hseated hs hr hactive (hx (2, _) (by simp [Instruction.expects]))
      (hx (5, _) (by simp [Instruction.expects])) h₁ h₂ h₃⟩
  | abandonReversal u =>
    obtain ⟨rfl, rfl⟩ := Prod.mk.inj (Option.some.inj hix)
    simp only [processInstruction, abandonReversal, bind_ok, account_ok, require_ok, load_ok,
      exists_const] at h
    obtain ⟨_, -, config, -, hold, h3, payer, -, binding, -, passportConfig, -, leave, -,
      openAnswer, -, funder, -, -, cfg, -, r, hr, hactive, -, _, -, w₁, h₁, w₂, h₂, h₃⟩ := h
    obtain rfl := hx.key (k := holdPda u) (by simp [Instruction.expects]) h3
    exact ⟨r, payOut_pays hseated hs hr hactive (hx (2, _) (by simp [Instruction.expects]))
      (hx (4, _) (by simp [Instruction.expects])) h₁ h₂ h₃⟩
  | _ => cases hix

end Payouts

/-! ## §2. Holds and the past. -/

/-- The token whose hold an instruction ends. -/
def Instruction.endsHold : Instruction → Option TokenId
  | .confirmReceipt t | .releaseFunds t | .completeReversal t | .abandonReversal t
  | .judgeChallenge t 1 | .concludeChallenge t => some t
  | _ => none

/-- `t` was settled, and its hold has not ended since. -/
def HeldSince (t : TokenId) : List Entry → Prop
  | [] => False
  | e :: older => e.ix = .settle t ∨ e.ix.endsHold ≠ some t ∧ HeldSince t older

section Past

variable {P : Platform} {W : AmountOffset} {x : Call} {now : ℕ} {t : TokenId} {ix : Instruction}
  {d d' : Desk} {s s' : System} {a : Action}

theorem desk_of_endsHold (h : ix.endsHold = some t) : ix.desk = some t := by
  unfold Instruction.endsHold at h
  split at h <;> first | exact h | cases h

/-- Whatever is held after a move was held before, or has just been settled. -/
theorem Move.held_before (hm : Move now t ix d d') (h : d'.Held) :
    ix = .settle t ∨ ix.endsHold ≠ some t ∧ d.Held := by
  cases hm with
  | openDirect => exact .inr ⟨nofun, h⟩
  | openFromMandate => exact .inr ⟨nofun, h⟩
  | bid => exact .inr ⟨nofun, h⟩
  | settle => exact .inl rfl
  | confirm => exact absurd h not_held_cleared
  | release => exact absurd h not_held_cleared
  | complete => exact absurd h not_held_cleared
  | abandon => exact absurd h not_held_cleared
  | @openChallenge _ r _ hhold hactive => exact .inr ⟨nofun, r, hhold, hactive⟩
  | @withdraw _ r _ hhold =>
    obtain ⟨r', hr', hactive⟩ := h
    obtain rfl := Option.some.inj hr'
    exact .inr ⟨nofun, r, hhold, hactive⟩
  | @uphold _ r _ hhold =>
    obtain ⟨r', hr', hactive⟩ := h
    obtain rfl := Option.some.inj hr'
    exact .inr ⟨nofun, r, hhold, hactive⟩
  | reject => exact absurd h not_held_cleared
  | conclude => exact absurd h not_held_cleared
  | forceEndsAt => exact .inr ⟨nofun, h⟩
  | @forceClock _ r _ _ _ hhold =>
    obtain ⟨r', hr', hactive⟩ := h
    obtain rfl := Option.some.inj hr'
    exact .inr ⟨nofun, r, hhold, hactive⟩

/-- Every hold was settled, and has not ended since. -/
structure PastInv (s : System) : Prop where
  inv : Inv s
  held : ∀ t, (deskAt s.ledger t).Held → HeldSince t s.past

theorem step_pastInv (hi : PastInv s) (ht : Tied s a) (h : step P W s a = .ok s') :
    PastInv s' := by
  have hinv := step_inv hi.inv ht h
  obtain ⟨-, hturn⟩ := step_turn hi.inv.seated ht h
  refine ⟨hinv, fun t hheld => ?_⟩
  have hlaw := hturn t
  generalize deskAt s'.ledger t = d' at hlaw hheld
  cases a with
  | instruction x ix =>
    obtain ⟨-, w', -, rfl⟩ := step_instruction_ok h
    cases hlaw with
    | same hne => exact .inr ⟨fun he => hne x ix rfl (desk_of_endsHold he), hi.held t hheld⟩
    | move hix hm => exact (hm.held_before hheld).imp_right fun hb => ⟨hb.1, hi.held t hb.2⟩
  | outside k b =>
    simp only [step, bind_ok, require_ok, pure_ok, exists_const] at h
    obtain ⟨-, rfl⟩ := h
    cases hlaw
    exact hi.held t hheld
  | forget u =>
    simp only [step, bind_ok, require_ok, pure_ok, exists_const] at h
    obtain ⟨-, rfl⟩ := h
    cases hlaw with
    | same => exact hi.held t hheld
    | forget => exact hi.held t hheld
  | tick n =>
    simp only [step, bind_ok, require_ok, pure_ok, exists_const] at h
    obtain ⟨-, rfl⟩ := h
    cases hlaw
    exact hi.held t hheld

theorem Genesis.pastInv (h : Genesis s) : PastInv s where
  inv := h.inv
  held t hheld := by
    obtain ⟨r, hr, -⟩ := hheld
    rw [deskAt_genesis h] at hr
    cases hr

end Past

/-! ## §3. Over runs. -/

/-- **A hold is paid out for its lot, and once.**  In every run on the tokens' own accounts a
    confirmation, release or abandonment pays out the hold and the lot of the token it names,
    which was settled since a hold of it last ended. -/
theorem hold_paid (P : Platform) (W : AmountOffset) {t : TokenId} {idx : PaySplitIdx}
    {s₀ s s' : System} {as : List Action} {x : Call} {ix : Instruction}
    (hix : ix.payout = some (t, idx)) (h0 : Genesis s₀)
    (hok : Along (step P W) Tied s₀ (as ++ [.instruction x ix]))
    (hr : run (step P W) s₀ as = .ok s) (h : step P W s (.instruction x ix) = .ok s') :
    HeldSince t s.past ∧ ∃ w' r c split,
      processInstruction P W s.now x (Exec.start s.ledger) ix = .ok w' ∧ s'.ledger = w'.ledger ∧
      Pays s.ledger x t idx w' r c split := by
  have hi : PastInv s := run_invariant_along (fun _ _ _ hi ht hs => step_pastInv hi ht hs)
    h0.pastInv hok.of_append hr
  have hx : OwnAccounts x ix := hok.last hr
  obtain ⟨-, w', hw, rfl⟩ := step_instruction_ok h
  obtain ⟨r, c, split, hp⟩ := processInstruction_pays hi.inv.seated (hi.inv.settled t) hx hix hw
  exact ⟨hi.held t ⟨r, hp.hold, hp.active⟩, w', r, c, split, hw, rfl, hp⟩

/-- The payment for passport 1 is released after its window. -/
theorem hold_paid_stand : ∃ s, ∃ s' : System, run (step .reference .reference) stand
      (soldOne ++ [.tick (100 + minDuration + minProtectionWindow)]) = .ok s ∧
    HeldSince 1 s.past ∧ ∃ w' r c split,
      processInstruction .reference .reference s.now
        (releasing 1 (holdPda 1) (challengePda programId 1)) (Exec.start s.ledger)
        (.releaseFunds 1) = .ok w' ∧ s'.ledger = w'.ledger ∧
      Pays s.ledger (releasing 1 (holdPda 1) (challengePda programId 1)) 1
        ⟨2, 5, 6, 7, 8, 9, 10, 15⟩ w' r c split := by
  have hrun : run (step .reference .reference) stand
      (soldOne ++ [.tick (100 + minDuration + minProtectionWindow)]) = .ok _ :=
    run_finalState (by decide +kernel)
  obtain ⟨s', hs⟩ := exists_of_isOk (r := step .reference .reference
    (finalState (step .reference .reference) stand
      (soldOne ++ [.tick (100 + minDuration + minProtectionWindow)]))
    (.instruction (releasing 1 (holdPda 1) (challengePda programId 1)) (.releaseFunds 1)))
    (by decide +kernel)
  have hok : Along (step .reference .reference) Tied stand
      (soldOne ++ [.tick (100 + minDuration + minProtectionWindow)] ++
        [.instruction (releasing 1 (holdPda 1) (challengePda programId 1)) (.releaseFunds 1)]) := by
    simp [soldOne, configured, opened, bids, settles, asked, releasing, releaseAccounts, Along, Tied,
      OwnAccounts, Instruction.expects]
  exact ⟨_, s', hrun, hold_paid .reference .reference rfl stand_genesis hok hrun hs⟩

/-- The hold of passport 2 is handed in for passport 1: its gross is paid to the seller of
    passport 1, whose own hold stays. -/
theorem hold_swapped : Genesis stand ∧ ∃ s, ∃ s' : System, run (step .reference .reference) stand
      (soldTwo ++ [.tick (100 + minDuration + minProtectionWindow)]) = .ok s ∧
    step .reference .reference s (.instruction (releasing 1 (holdPda 2) (challengePda programId 1))
      (.releaseFunds 1)) = .ok s' ∧
    ¬ ∃ w' r c split, processInstruction .reference .reference s.now
        (releasing 1 (holdPda 2) (challengePda programId 1)) (Exec.start s.ledger)
        (.releaseFunds 1) = .ok w' ∧ s'.ledger = w'.ledger ∧
      Pays s.ledger (releasing 1 (holdPda 2) (challengePda programId 1)) 1
        ⟨2, 5, 6, 7, 8, 9, 10, 15⟩ w' r c split := by
  have hrun : run (step .reference .reference) stand
      (soldTwo ++ [.tick (100 + minDuration + minProtectionWindow)]) = .ok _ :=
    run_finalState (by decide +kernel)
  obtain ⟨s', hs⟩ := exists_of_isOk (r := step .reference .reference
    (finalState (step .reference .reference) stand
      (soldTwo ++ [.tick (100 + minDuration + minProtectionWindow)]))
    (.instruction (releasing 1 (holdPda 2) (challengePda programId 1)) (.releaseFunds 1)))
    (by decide +kernel)
  refine ⟨stand_genesis, _, s', hrun, hs, ?_⟩
  rintro ⟨w', r, c, split, hw, hl, hp⟩
  -- the hold of passport 1 is still there
  have hheld : ((step .reference .reference (finalState (step .reference .reference) stand
      (soldTwo ++ [.tick (100 + minDuration + minProtectionWindow)]))
      (.instruction (releasing 1 (holdPda 2) (challengePda programId 1)) (.releaseFunds 1))).map
        fun s => decide (deskAt s.ledger 1).Held) = .ok true := by
    decide +kernel
  rw [hs] at hheld
  have hstill : (deskAt s'.ledger 1).Held := of_decide_eq_true (Except.ok.inj hheld)
  exact hp.closed.1 (hl ▸ hstill)

end Kargain.Svm.Ascending
