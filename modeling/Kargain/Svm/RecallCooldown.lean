/-
  Kargain.Svm.RecallCooldown — when may a seller take a lot back from the agent?

  A recall is asked for, and after a cooldown it may be forced.  The
  request is kept in the recall account of the token; the handlers read
  and clear the account they are handed, and take the lot from the
  account they are handed.

  `recall_waits`: in every run whose steps name the token's own accounts
  where it matters (`Tied`), a forced recall comes at least the cooldown
  after a request of the lot's seller, made since the lot was opened.
  `stale_recall`: without that it need not.
-/
import Kargain.Svm.FixedPriceLots
import Kargain.Svm.FixedPriceSystem

namespace Kargain.Svm.FixedPrice

open Kargain.Accounts

/-! ## §1. Asking for a recall. -/

/-- The token an instruction opens a lot of. -/
def Instruction.opens : Instruction → Option TokenId
  | .openDirect t _ _ _ _ => some t
  | .openFromMandate t _ _ _ => some t
  | _ => none

/-- `seller` asked for the recall of `t` at least the cooldown before `due`, and `t` was not
    opened since. -/
def AskedFor (t : TokenId) (seller : Pubkey) (due : ℕ) : List Entry → Prop
  | [] => False
  | e :: older => e.ix.opens ≠ some t ∧
    ((e.ix = .requestRecall t ∧ e.call.keys[0]? = some seller ∧
      e.now + recallCooldownSecs ≤ due) ∨ AskedFor t seller due older)

instance AskedFor.decidable (t : TokenId) (seller : Pubkey) (due : ℕ) :
    (past : List Entry) → Decidable (AskedFor t seller due past)
  | [] => isFalse id
  | _ :: older =>
    have : Decidable (AskedFor t seller due older) := AskedFor.decidable t seller due older
    inferInstanceAs (Decidable (_ ∧ _))

/-- The signer is the seller of the lot of `t`, and asked in time. -/
def Heeded (s : System) (x : Call) (t : TokenId) : Prop :=
  ∃ c, lotAt s.ledger t = some c ∧ x.keys[0]? = some c.seller ∧ AskedFor t c.seller s.now s.past

/-! ## §2. Which steps name the token's own accounts. -/

/-- A request stands in the recall account of `t`. -/
def Requested (r : RecallMap) (t : TokenId) : Prop := ∃ e, r t = some e ∧ e.requestedAt ≠ 0

/-- Whoever ends the lot of `t`, in the account at place `i`, clears its recall account, at
    place `j`; or there is nothing to clear. -/
def ClearsOwn (L : Ledger) (x : Call) (i j : ℕ) : Prop :=
  ∀ t, x.keys[i]? = some (consignmentPda programId t) →
    x.keys[j]? = some (recallPda programId t) ∨ ¬ Requested (recallAt L) t

/-- Requests and forced recalls name the accounts of their token, exits clear the recall of
    the lot they end, and the clock of a recall is not set back. -/
def Tied (s : System) : Action → Prop
  | .instruction x (.requestRecall t) => x.keys[1]? = some (consignmentPda programId t)
  | .instruction x (.forceRecall t) =>
    x.keys[1]? = some (consignmentPda programId t) ∧ x.keys[2]? = some (recallPda programId t)
  | .instruction x (.ownerWithdraw _) => ClearsOwn s.ledger x 1 2
  | .instruction x (.agentWithdraw _) => ClearsOwn s.ledger x 1 2
  | .instruction x (.confirmExternalPayment _ _) => ClearsOwn s.ledger x 1 3
  | .instruction x (.buy _) => ClearsOwn s.ledger x 2 10
  | .instruction _ (.forceRecallRequestedAt t at') => at' = 0 ∨
    ∃ e, recallAt s.ledger t = some e ∧ e.requestedAt ≠ 0 ∧ e.requestedAt ≤ at'
  | _ => True

/-! ## §3. A standing request was made by the seller of the live lot. -/

def Asked (v : LotMap) (r : RecallMap) (past : List Entry) : Prop :=
  ∀ t e, r t = some e → e.requestedAt ≠ 0 → ∃ c, v t = some c ∧ c.isLive = true ∧
    AskedFor t c.seller (e.requestedAt + recallCooldownSecs) past

theorem AskedFor.mono {t : TokenId} {seller : Pubkey} {due due' : ℕ} {past : List Entry}
    (hle : due ≤ due') (h : AskedFor t seller due past) : AskedFor t seller due' past := by
  induction past with
  | nil => exact h
  | cons e older ih =>
    obtain ⟨hne, ⟨hix, hk, hd⟩ | ho⟩ := h
    · exact ⟨hne, .inl ⟨hix, hk, Nat.le_trans hd hle⟩⟩
    · exact ⟨hne, .inr (ih ho)⟩

/-- An instruction that does not open `t` leaves what was asked for. -/
theorem AskedFor.later {t : TokenId} {seller : Pubkey} {due : ℕ} {e : Entry} {past : List Entry}
    (hne : e.ix.opens ≠ some t) (h : AskedFor t seller due past) :
    AskedFor t seller due (e :: past) :=
  ⟨hne, .inr h⟩

@[simp] theorem put_lot {v : LotMap} {t u : TokenId} {c : ConsignmentRecord} :
    v.put (consignmentPda programId t) c u = if u = t then some c else v u := by
  simp [LotMap.put]

@[simp] theorem put_recall {r : RecallMap} {t u : TokenId} {e : RecallRecord} :
    r.put (recallPda programId t) e u = if u = t then some e else r u := by
  simp [RecallMap.put]

section Asked

variable {v : LotMap} {r : RecallMap} {past : List Entry} {e : Entry} {t : TokenId}

theorem Asked.same (h : Asked v r past) (hne : e.ix.opens = none) : Asked v r (e :: past) := by
  intro u d hd hreq
  obtain ⟨c, hc, hlive, ha⟩ := h u d hd hreq
  exact ⟨c, hc, hlive, ha.later (by simp [hne])⟩

/-- A request that stands after a clearing stood before, in another account. -/
theorem clear_requested {k : Pubkey} {d : RecallRecord} (hd : r.clear k t = some d)
    (hreq : d.requestedAt ≠ 0) : recallPda programId t ≠ k ∧ r t = some d := by
  unfold RecallMap.clear at hd
  split at hd
  · cases hr : r t with
    | none =>
      rw [hr] at hd
      cases hd
    | some d₀ =>
      rw [hr] at hd
      obtain rfl := Option.some.inj hd
      exact absurd rfl hreq
  · rename_i hk
    exact ⟨hk, hd⟩

/-- Clearing a recall, whosever it is, takes back no request that stands. -/
theorem Asked.clear {k : Pubkey} (h : Asked v r past) : Asked v (r.clear k) past :=
  fun u d hd hreq => h u d (clear_requested hd hreq).2 hreq

theorem Asked.opened {c : ConsignmentRecord} (h : Asked v r past) (ho : Opens v t c)
    (he : e.ix.opens = some t) : Asked (v.put (consignmentPda programId t) c) r (e :: past) := by
  intro u d hd hreq
  obtain ⟨c₀, hc, hlive, ha⟩ := h u d hd hreq
  have hut : u ≠ t := by
    rintro rfl
    have hdead := ho.before c₀ hc
    simp [hlive] at hdead
  refine ⟨c₀, by simpa [hut] using hc, hlive, ha.later ?_⟩
  rw [he]
  exact fun hs => hut (Option.some.inj hs).symm

theorem Asked.amended {c c' : ConsignmentRecord} (h : Asked v r past) (hc : v t = some c)
    (hk : KeepsTerms c c') (hne : e.ix.opens = none) :
    Asked (v.put (consignmentPda programId t) c') r (e :: past) := by
  intro u d hd hreq
  obtain ⟨c₀, hc₀, hlive, ha⟩ := h.same hne u d hd hreq
  by_cases hut : u = t
  · subst hut
    obtain rfl : c = c₀ := Option.some.inj (hc.symm.trans hc₀)
    refine ⟨c', by simp, ?_, hk.1 ▸ ha⟩
    simpa [ConsignmentRecord.isLive, hk.2] using hlive
  · exact ⟨c₀, by simpa [hut] using hc₀, hlive, ha⟩

/-- The seller of the live lot asks. -/
theorem Asked.requested {c : ConsignmentRecord} (h : Asked v r past) (hc : v t = some c)
    (hlive : c.isLive = true) (hix : e.ix = .requestRecall t)
    (hk : e.call.keys[0]? = some c.seller) :
    Asked v (r.put (recallPda programId t) ⟨t, e.now⟩) (e :: past) := by
  have hne : e.ix.opens = none := by rw [hix]; rfl
  intro u d hd hreq
  by_cases hut : u = t
  · subst hut
    obtain rfl : d = ⟨u, e.now⟩ := by simpa using hd.symm
    exact ⟨c, hc, hlive, by simp [hne], .inl ⟨hix, hk, Nat.le_refl _⟩⟩
  · exact h.same hne u d (by simpa [hut] using hd) hreq

/-- The clock of a recall is stopped, or set forward. -/
theorem Asked.warped {d : RecallRecord} {at' : ℕ} (h : Asked v r past) (hd : r t = some d)
    (hat : at' = 0 ∨ d.requestedAt ≠ 0 ∧ d.requestedAt ≤ at') (hne : e.ix.opens = none) :
    Asked v (r.put (recallPda programId t) { d with requestedAt := at' }) (e :: past) := by
  intro u d' hd' hreq
  by_cases hut : u = t
  · subst hut
    obtain rfl : d' = { d with requestedAt := at' } := by simpa using hd'.symm
    obtain ⟨hreq₀, hle⟩ := hat.resolve_left hreq
    obtain ⟨c, hc, hlive, ha⟩ := h.same hne u d hd hreq₀
    exact ⟨c, hc, hlive, ha.mono (Nat.add_le_add_right hle _)⟩
  · exact h.same hne u d' (by simpa [hut] using hd') hreq

/-- A lot ends, and with it what was asked for. -/
theorem Asked.ended {L L' : Ledger} {consignment recallInfo : Pubkey} {c : ConsignmentRecord}
    (h : Asked v r past) (hne : e.ix.opens = none)
    (hend : Ends L v r consignment recallInfo c L')
    (hown : ∀ u, consignment = consignmentPda programId u →
      recallInfo = recallPda programId u ∨ ¬ Requested r u) :
    ∃ v' r', Lots v' r' L' ∧ Asked v' r' (e :: past) := by
  obtain ⟨c', -, hl⟩ := hend.after
  refine ⟨_, _, hl, fun u d hd hreq => ?_⟩
  obtain ⟨hk, hd⟩ := clear_requested hd hreq
  obtain ⟨c₀, hc₀, hlive, ha⟩ := h.same hne u d hd hreq
  have hu : consignmentPda programId u ≠ consignment := by
    intro hc
    rcases hown u hc.symm with hr | hnot
    · exact hk hr.symm
    · exact hnot ⟨d, hd, hreq⟩
  exact ⟨c₀, by simpa [LotMap.put, hu] using hc₀, hlive, ha⟩

end Asked

/-! ## §4. One step. -/

section Step

variable {P : Platform} {W : AmountOffset} {x : Call} {ix : Instruction} {s s' : System}

/-- What is kept along a run. -/
structure Inv (s : System) : Prop where
  seated : Seated programId s.ledger
  now_lt : s.now < 2 ^ 63
  asked : Asked (lotAt s.ledger) (recallAt s.ledger) s.past

theorem Genesis.inv (h : Genesis s) : Inv s where
  seated d _ := ⟨.inr (h.free d).1, rfl⟩
  now_lt := h.now_lt
  asked t e he := by
    have hempty : (s.ledger (recallPda programId t)).data = .empty := (h.free (.recall t)).2.1
    rw [recallAt, hempty] at he
    cases he

theorem ClearsOwn.of_keys {L : Ledger} {i j : ℕ} {consignment recallInfo : Pubkey}
    (h : ClearsOwn L x i j) (hi : x.keys[i]? = some consignment) (hj : x.keys[j]? = some recallInfo)
    (u : TokenId) (hu : consignment = consignmentPda programId u) :
    recallInfo = recallPda programId u ∨ ¬ Requested (recallAt L) u := by
  subst hu
  exact (h u hi).imp_left fun hr => Option.some.inj (hj.symm.trans hr)

/-- Every instruction keeps standing requests the sellers', one case for each kind. -/
theorem processInstruction_asked {w' : Exec} (hi : Inv s) (ht : Tied s (.instruction x ix))
    (h : processInstruction P W s.now x (Exec.start s.ledger) ix = .ok w') :
    ∃ v' r', Lots v' r' w'.ledger ∧ Asked v' r' (⟨s.now, x, ix⟩ :: s.past) := by
  have hl : Lots (lotAt s.ledger) (recallAt s.ledger) (Exec.start s.ledger).ledger :=
    .of_seated hi.seated
  -- the handlers that write neither lot nor recall
  have keep : SameLots (Exec.start s.ledger).ledger w'.ledger → ix.opens = none →
      ∃ v' r', Lots v' r' w'.ledger ∧ Asked v' r' (⟨s.now, x, ix⟩ :: s.past) :=
    fun hsame hne => ⟨_, _, hl.same hsame, hi.asked.same hne⟩
  cases ix with
  | initConfig => exact keep (initConfig_lots h) rfl
  | retired => cases h
  | grant => exact keep (grant_lots h) rfl
  | revoke => exact keep (revoke_lots h) rfl
  | pause => exact keep (pause_lots h) rfl
  | unpause => exact keep (unpause_lots h) rfl
  | approvePaymentToken => exact keep (approvePaymentToken_lots h) rfl
  | revokePaymentToken => exact keep (revokePaymentToken_lots h) rfl
  | setSettlementNote => exact keep (setSettlementNote_lots h) rfl
  | withdrawClaim => exact keep (withdrawClaim_lots h) rfl
  | bindPassportProgram => exact keep (bindPassportProgram_lots h) rfl
  | setGuardian => exact keep (setGuardian_lots h) rfl
  | openDirect =>
    obtain ⟨c, ho, hl'⟩ := openDirect_lots hl h
    exact ⟨_, _, hl', hi.asked.opened ho rfl⟩
  | openFromMandate =>
    obtain ⟨c, ho, hl'⟩ := openFromMandate_lots hl h
    exact ⟨_, _, hl', hi.asked.opened ho rfl⟩
  | setPrice =>
    obtain ⟨c, c', hc, hk, hl'⟩ := setPrice_lots hl h
    exact ⟨_, _, hl', hi.asked.amended hc hk rfl⟩
  | lowerFloor =>
    obtain ⟨c, c', hc, hk, hl'⟩ := lowerFloor_lots hl h
    exact ⟨_, _, hl', hi.asked.amended hc hk rfl⟩
  | lowerCommission =>
    obtain ⟨c, c', hc, hk, hl'⟩ := lowerCommission_lots hl h
    exact ⟨_, _, hl', hi.asked.amended hc hk rfl⟩
  | enterCommitted =>
    obtain ⟨c, c', recallInfo, hc, hk, hl'⟩ := enterCommitted_lots hl h
    exact ⟨_, _, hl', (hi.asked.amended hc hk rfl).clear⟩
  | requestRecall t =>
    obtain ⟨seller, consignment, c, h0, h1, hd, hoff, rfl, hl'⟩ := requestRecall_lots hl h
    -- the step is tied: the lot is the token's own
    obtain rfl : consignment = consignmentPda programId t := Option.some.inj (h1.symm.trans ht)
    have hlive := ConsignmentRecord.isLive_of_actionable _ (actionable_of_agented hoff)
    exact ⟨_, _, hl', hi.asked.requested (e := ⟨s.now, x, .requestRecall t⟩)
      (Record.ofData_eq.mpr hd) hlive rfl h0⟩
  | forceRecallRequestedAt t at' =>
    obtain ⟨d, hd, hl'⟩ := forceRecallRequestedAt_lots hl h
    refine ⟨_, _, hl', hi.asked.warped hd (ht.imp_right ?_) rfl⟩
    rintro ⟨d', hd', hreq⟩
    obtain rfl := Option.some.inj (hd.symm.trans hd')
    exact hreq
  | ownerWithdraw =>
    obtain ⟨_, consignment, recallInfo, c, -, h1, h2, -, hend⟩ := ownerWithdraw_lots hl h
    exact hi.asked.ended rfl hend (ClearsOwn.of_keys ht h1 h2)
  | agentWithdraw =>
    obtain ⟨_, consignment, recallInfo, c, -, h1, h2, -, hend⟩ := agentWithdraw_lots hl h
    exact hi.asked.ended rfl hend (ClearsOwn.of_keys ht h1 h2)
  | confirmExternalPayment =>
    obtain ⟨_, consignment, recallInfo, c, -, h1, h3, -, hend⟩ := confirmExternalPayment_lots hl h
    exact hi.asked.ended rfl hend (ClearsOwn.of_keys ht h1 h3)
  | buy =>
    obtain ⟨recallInfo, c, h2, h10, hend⟩ := buy_lots hl h
    exact hi.asked.ended rfl hend (ClearsOwn.of_keys ht h2 h10)
  | forceRecall t =>
    obtain ⟨_, consignment, recallInfo, c, -, h1, h2, -, hend⟩ := forceRecall_lots hl h
    obtain rfl : consignment = consignmentPda programId t := Option.some.inj (h1.symm.trans ht.1)
    obtain rfl : recallInfo = recallPda programId t := Option.some.inj (h2.symm.trans ht.2)
    refine hi.asked.ended rfl hend fun u hu => .inl ?_
    simpa using hu

theorem step_inv {a : Action} (hi : Inv s) (ht : Tied s a) (h : step P W s a = .ok s') :
    Inv s' := by
  cases a with
  | instruction x ix =>
    obtain ⟨-, w', hw, rfl⟩ := step_instruction_ok h
    obtain ⟨v', r', hl, ha⟩ := processInstruction_asked hi ht hw
    have hv : lotAt w'.ledger = v' := funext hl.lot
    have hr : recallAt w'.ledger = r' := funext hl.recalls
    refine ⟨hl.seated, hi.now_lt, ?_⟩
    show Asked (lotAt w'.ledger) (recallAt w'.ledger) _
    rw [hv, hr]
    exact ha
  | outside k a =>
    simp only [step, bind_ok, require_ok, pure_ok, exists_const] at h
    obtain ⟨hmay, rfl⟩ := h
    have hl := (Lots.of_seated hi.seated).books (outside_sameBooks hi.seated hmay)
    have hv : lotAt (Function.update s.ledger k a) = lotAt s.ledger := funext hl.lot
    have hr : recallAt (Function.update s.ledger k a) = recallAt s.ledger := funext hl.recalls
    refine ⟨hl.seated, hi.now_lt, ?_⟩
    show Asked (lotAt (Function.update s.ledger k a)) (recallAt (Function.update s.ledger k a)) _
    rw [hv, hr]
    exact hi.asked
  | tick n =>
    simp only [step, bind_ok, require_ok, pure_ok, exists_const] at h
    obtain ⟨⟨-, hlt⟩, rfl⟩ := h
    exact ⟨hi.seated, hlt, hi.asked⟩

/-- A forced recall on the token's own accounts, in a state the invariant holds of. -/
theorem Inv.heeded {t : TokenId} (hi : Inv s) (ht : Tied s (.instruction x (.forceRecall t)))
    (h : step P W s (.instruction x (.forceRecall t)) = .ok s') : Heeded s x t := by
  obtain ⟨-, w', hw, -⟩ := step_instruction_ok h
  obtain ⟨caller, consignment, recallInfo, c, h0, h1, h2, hready, hend⟩ :=
    forceRecall_lots (.of_seated hi.seated) hw
  obtain rfl : consignment = consignmentPda programId t := Option.some.inj (h1.symm.trans ht.1)
  obtain rfl : recallInfo = recallPda programId t := Option.some.inj (h2.symm.trans ht.2)
  obtain ⟨-, rfl, d, hd, hreq, hdue⟩ := recallReady_ok hready
  obtain ⟨c₀, hc₀, -, ha⟩ := hi.asked t d (Record.ofData_eq.mpr hd) hreq
  have hc : lotAt s.ledger t = some c := Record.ofData_eq.mpr hend.lot
  obtain rfl : c = c₀ := Option.some.inj (hc.symm.trans hc₀)
  refine ⟨c, hc, h0, ha.mono ?_⟩
  -- the clock is signed, so the sum the handler saturates does not reach the bound
  have hlt := hi.now_lt
  unfold saturatingAdd u64Max at hdue
  omega

end Step

/-! ## §5. Over runs. -/

/-- **Recalls wait.**  In every run whose steps are tied, a forced recall was asked for by the
    seller of the lot, on the token and since the lot was opened, at least the cooldown
    before. -/
theorem recall_waits (P : Platform) (W : AmountOffset) {s₀ s s' : System} {as : List Action}
    {x : Call} {t : TokenId} (h0 : Genesis s₀)
    (hok : Along (step P W) Tied s₀ (as ++ [.instruction x (.forceRecall t)]))
    (hr : run (step P W) s₀ as = .ok s)
    (h : step P W s (.instruction x (.forceRecall t)) = .ok s') : Heeded s x t := by
  have hi : Inv s := run_invariant_along (fun _ _ _ hi ht hs => step_inv hi ht hs) h0.inv
    hok.of_append hr
  exact hi.heeded (hok.last hr) h

/-- Wallet 1 asks for the recall of passport 1. -/
def asks : Action :=
  ask [.key 1, consignmentPda programId 1, recallPda programId 1, .system, .key 1] [.key 1]
    (.requestRecall 1)

/-- The forced recall of passport 1, under its own accounts. -/
def recallCall : Call :=
  let keys := exitAccounts 1 1 1 (consignmentPda programId 1) (recallPda programId 1)
  ⟨keys, [.key 1], keys⟩

/-- A lot is opened, its recall asked for and the cooldown waited for. -/
def waitedRun : List Action :=
  configured ++ [grants 1, opens 1, asks, .tick (100 + recallCooldownSecs)]

/-- A lot is opened and its recall asked for; the agent returns it and hands in an empty
    account to be cleared.  After the cooldown the lot is opened again. -/
def staleRun : List Action :=
  configured ++ [grants 1, opens 1, asks,
    ask (exitAccounts 2 1 1 (consignmentPda programId 1) (.key 5)) [.key 2] (.agentWithdraw 1),
    .tick (100 + recallCooldownSecs),
    .outside (assetPda standPassports 1) ⟨10 ^ 7, .mplCore, .coreAsset (standAsset 1), false⟩,
    opens 1]

/-- A request of an earlier consignment counts: the lot just opened is recalled at once. -/
theorem stale_recall : Genesis stand ∧ ∃ s s',
    run (step .reference .reference) stand staleRun = .ok s ∧
    step .reference .reference s (.instruction recallCall (.forceRecall 1)) = .ok s' ∧
    ¬ Heeded s recallCall 1 := by
  have hrun : run (step .reference .reference) stand staleRun = .ok _ :=
    run_finalState (by decide +kernel)
  obtain ⟨s', hs⟩ := exists_of_isOk (r := step .reference .reference
    (finalState (step .reference .reference) stand staleRun)
    (.instruction recallCall (.forceRecall 1))) (by decide +kernel)
  refine ⟨stand_genesis, _, s', hrun, hs, ?_⟩
  -- the entry that opened the lot stands before every request
  have hopened : ((finalState (step .reference .reference) stand staleRun).past.head?.bind
      fun e => e.ix.opens) = some 1 := by
    decide +kernel
  rintro ⟨c, -, -, ha⟩
  cases hpast : (finalState (step .reference .reference) stand staleRun).past with
  | nil =>
    rw [hpast] at ha
    exact ha
  | cons e older =>
    rw [hpast] at ha hopened
    exact ha.1 hopened

theorem recall_waits_stand : ∃ s, run (step .reference .reference) stand waitedRun = .ok s ∧
    Heeded s recallCall 1 := by
  have hrun : run (step .reference .reference) stand waitedRun = .ok _ :=
    run_finalState (by decide +kernel)
  obtain ⟨s', hs⟩ := exists_of_isOk (r := step .reference .reference
    (finalState (step .reference .reference) stand waitedRun)
    (.instruction recallCall (.forceRecall 1))) (by decide +kernel)
  have hok : Along (step .reference .reference) Tied stand
      (waitedRun ++ [.instruction recallCall (.forceRecall 1)]) := by
    simp [waitedRun, configured, grants, opens, asks, ask, recallCall, exitAccounts, Along, Tied]
  exact ⟨_, hrun, recall_waits .reference .reference stand_genesis hok hrun hs⟩

end Kargain.Svm.FixedPrice
