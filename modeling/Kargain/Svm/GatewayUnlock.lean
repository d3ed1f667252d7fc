/-
  Kargain.Svm.GatewayUnlock — a home passport comes back.

  `lzReceive_ok` is what an accepted `LzReceive` did: the endpoint
  cleared the message, which leaves Core's assets and the passports'
  records alone, and the plan of the message was carried out on the
  accounts the executor supplied.  Those are checked but for the asset:
  `unlock_iff` says that the passport of the message is what comes out
  exactly if its asset is what was handed in.
-/
import Kargain.Svm.BridgeSystem

namespace Kargain.Svm.Gateway

open Kargain.Accounts

/-! ## §1. What a reception does. -/

section Effects

variable {P : Platform} {N : Network} {now : ℕ} {x : Call} {w w' : Exec} {cfg : GatewayConfig}
  {a : ReceiveAccounts} {srcEid sender nonce guid : ℕ} {message : List UInt8}

/-- Core's accounts and the two programs' are at most given lamports, and there are no new
    ones. -/
def Kept (L L' : Ledger) : Prop :=
  ∀ k, Ours (L k).owner ∨ Ours (L' k).owner → (L k).Untouched (L' k)

theorem Kept.coreAt {L L' : Ledger} (h : Kept L L') (k : Pubkey) : coreAt L' k = coreAt L k := by
  by_cases ho : (L k).owner = .mplCore ∨ (L' k).owner = .mplCore
  · have hu : (L k).Untouched (L' k) := h k (ho.imp .inl .inl)
    exact coreAt_congr hu.1 hu.2.1
  · rw [coreAt_of_owner fun e => ho (.inl e), coreAt_of_owner fun e => ho (.inr e)]

theorem Kept.hasState {L L' : Ledger} (h : Kept L L') {t : TokenId} {st : PassportState} :
    Passport.HasState L' t st ↔ Passport.HasState L t st := by
  constructor
  · rintro ⟨ho, hd⟩
    have hu := h (statePda Passport.programId t) (.inr (.inr (.inl ho)))
    exact ⟨hu.1 ▸ ho, hu.2.1 ▸ hd⟩
  · rintro ⟨ho, hd⟩
    have hu := h (statePda Passport.programId t) (.inl (.inr (.inl ho)))
    exact ⟨hu.1.trans ho, hu.2.1.trans hd⟩

theorem clearMessage_ok
    (h : clearMessage N x w cfg a srcEid sender nonce guid message = .ok w') :
    Kept w.ledger w'.ledger := by
  unfold clearMessage at h
  split at h
  · simp only [clearProduction, bind_ok, require_ok, exists_const] at h
    obtain ⟨_, -, _, -, -, _, -, -, _, -, -, _, -, _, -, _, -, _, -, _, -, hi⟩ := h
    exact N.endpoint_ours (invoke_ok hi).1
  · simp only [clearMock, bind_ok] at h
    obtain ⟨_, -, _, -, hi⟩ := h
    exact N.endpoint_ours (invoke_ok hi).1

theorem loadConfig_ok {L : Ledger} {config : Pubkey} (h : loadConfig L config = .ok cfg) :
    config = configPda programId ∧ (L config).owner = programId ∧
      (L config).data = .gatewayConfig cfg := by
  simp only [loadConfig, bind_ok, require_ok, load_ok, exists_const] at h
  exact h

theorem lzReceive_ok (h : lzReceive P N now x w srcEid sender nonce guid message = .ok w') :
    ∃ cfg a w₁ m uri kind, loadConfig w.ledger (configPda programId) = .ok cfg ∧
      receiveAccounts N x cfg = .ok a ∧ a.passportProgram = cfg.passportProgram ∧
      a.freeze = freezePda programId ∧ Kept w.ledger w₁.ledger ∧
      planReceive message cfg.tokenNamespace = .ok (m, uri, kind) ∧
      deliver P N now x w₁ a m uri kind = .ok w' := by
  simp only [lzReceive, bind_ok, require_ok, Prod.exists, exists_const] at h
  obtain ⟨-, cfg, hcfg, a, ha, -, -, hp, hf, w₁, hc, m, uri, kind, hplan, hd⟩ := h
  exact ⟨cfg, a, w₁, m, uri, kind, hcfg, ha, hp, hf, clearMessage_ok hc, hplan, hd⟩

theorem cpiPassport_ok {passport : Pubkey} {accounts forced : List Pubkey}
    {ix : Passport.Instruction} (h : cpiPassport P now x w passport accounts forced ix = .ok w') :
    ∃ x' w₁, x'.keys = accounts ∧ passport = Passport.programId ∧
      Passport.processInstruction P now x' (Exec.start w.ledger) ix = .ok w₁ ∧
      w'.ledger = w₁.ledger := by
  obtain ⟨hi, -⟩ := invoke_ok h
  simp only [bind_ok, require_ok, exists_const] at hi
  obtain ⟨hp, he⟩ := hi
  obtain ⟨w₁, hw, hl⟩ := Passport.execute_ok he
  exact ⟨_, w₁, rfl, hp, hw, hl⟩

/-- What comes out of custody: the asset thawed, its URI that of the message if it has one, in
    the receiver's hands. -/
def unlocked (a : CoreAsset) (uri : Text) (receiver : Pubkey) : CoreAsset :=
  { a with frozen := false, uri := if uri = [] then a.uri else uri, owner := receiver
           transferDelegate := none }

/-- **A home passport is unlocked.**  The asset supplied goes to the receiver, the state of the
    message's token is reset. -/
theorem deliver_unlock {m : OnftMessage} {uri : Text}
    (h : deliver P N now x w a m uri .unlockHome = .ok w') :
    ∃ b st, coreAt w.ledger a.asset = some b ∧
      (b.owner = configPda programId ∨ b.transferDelegate = some (configPda programId)) ∧
      Passport.HasState w.ledger m.tokenId st ∧
      view w'.ledger = ((view w.ledger).putAsset a.asset (unlocked b uri (N.pubkey m.sendTo))).put
        (statePda Passport.programId m.tokenId)
          (.passportState { st.lapsed with custodyLocked := false }) := by
  simp only [deliver, bind_ok, require_ok, transferAsset, exists_const] at h
  obtain ⟨hr, w₁, hcpi, -, ht⟩ := h
  obtain ⟨x', w₂, hkeys, -, hp, hl⟩ := cpiPassport_ok hcpi
  obtain ⟨asset, b, st, hk, hb, hst, hv⟩ := Passport.bridgeResetOnUnlock_ok hp
  obtain rfl : a.asset = asset := by simpa [hkeys] using hk
  obtain ⟨b', hb', -, howner, hv'⟩ := view_transferV1 ht
  have hne : a.asset ≠ statePda Passport.programId m.tokenId := by
    intro e
    have hasset : (w.ledger a.asset).owner = .mplCore := (coreAt_eq_some.mp hb).1
    rw [e] at hasset
    have hstate : (w.ledger (statePda Passport.programId m.tokenId)).owner = Passport.programId :=
      hst.1
    rw [hasset] at hstate
    cases hstate
  have hb₁ : (view w₁.ledger).core a.asset =
      some { b with frozen := false, uri := if uri = [] then b.uri else uri } := by
    rw [hl, hv]
    simp
  obtain rfl := Option.some.inj (hb₁.symm.trans hb')
  refine ⟨b, st, hb, howner, hst, ?_⟩
  rw [hv', hl, hv, View.putAsset_put_putAsset hne, hr]
  rfl

/-- The home token whose message is received. -/
theorem lzReceive_unlock {m : OnftMessage} {uri : Text}
    (hcfg : loadConfig w.ledger (configPda programId) = .ok cfg)
    (ha : receiveAccounts N x cfg = .ok a)
    (hm : planReceive message cfg.tokenNamespace = .ok (m, uri, .unlockHome))
    (h : lzReceive P N now x w srcEid sender nonce guid message = .ok w') :
    ∃ b w₁, Kept w.ledger w₁ ∧ coreAt w.ledger a.asset = some b ∧
      (b.owner = configPda programId ∨ b.transferDelegate = some (configPda programId)) ∧
      ∃ st, Passport.HasState w.ledger m.tokenId st ∧
      view w'.ledger = ((view w₁).putAsset a.asset (unlocked b uri (N.pubkey m.sendTo))).put
        (statePda Passport.programId m.tokenId)
          (.passportState { st.lapsed with custodyLocked := false }) := by
  obtain ⟨cfg', a', w₁, m', uri', kind, hcfg', ha', -, -, hk, hm', hd⟩ := lzReceive_ok h
  obtain rfl : cfg = cfg' := Except.ok.inj (hcfg.symm.trans hcfg')
  obtain rfl : a = a' := Except.ok.inj (ha.symm.trans ha')
  obtain ⟨rfl, rfl, rfl⟩ : m = m' ∧ uri = uri' ∧ ReceiveKind.unlockHome = kind := by
    simpa using hm.symm.trans hm'
  obtain ⟨b, st, hb, ho, hst, hv⟩ := deliver_unlock hd
  exact ⟨b, w₁.ledger, hk, (hk.coreAt _).symm.trans hb, ho, st, hk.hasState.mp hst, hv⟩

end Effects

/-! ## §2. The rule. -/

/-- Exactly the asset of `t` is released, to `receiver`; the state of `t` is reset, and no
    other passport's asset or state changes. -/
structure UnlockRule (L L' : Ledger) (t : TokenId) (receiver : Pubkey) : Prop where
  released : ∃ b, coreAt L' (assetPda Passport.programId t) = some b ∧ b.owner = receiver ∧
    b.frozen = false
  others : ∀ k, k ≠ assetPda Passport.programId t → coreAt L' k = coreAt L k
  reset : ∃ st, Passport.HasState L t st ∧ (L' (statePda Passport.programId t)).data =
    .passportState { st.lapsed with custodyLocked := false }
  states : ∀ t' st, t' ≠ t → Passport.HasState L t' st →
    (L' (statePda Passport.programId t')).data = .passportState st

/-- A message addressed to the gateway itself, about assets that are as it asks already. -/
def Idle (L : Ledger) (asset receiver : Pubkey) (t : TokenId) (uri : Text) : Prop :=
  (∃ b, coreAt L asset = some b ∧ unlocked b uri receiver = b) ∧
    ∃ b, coreAt L (assetPda Passport.programId t) = some b ∧ b.owner = receiver ∧ b.frozen = false

section Rule

variable {P : Platform} {N : Network} {now : ℕ} {x : Call} {L L' : Ledger} {cfg : GatewayConfig}
  {a : ReceiveAccounts} {srcEid sender nonce guid : ℕ} {message : List UInt8} {m : OnftMessage}
  {uri : Text}

/-- **What comes out of custody.**  An accepted message about a home token releases that token's
    asset, and nothing else, exactly if the asset handed in is the token's, or nothing moves. -/
theorem unlock_iff (hcfg : loadConfig L (configPda programId) = .ok cfg)
    (ha : receiveAccounts N x cfg = .ok a)
    (hm : planReceive message cfg.tokenNamespace = .ok (m, uri, .unlockHome))
    (h : execute P N now x (.lzReceive srcEid sender nonce guid message) L = .ok L') :
    UnlockRule L L' m.tokenId (N.pubkey m.sendTo) ↔
      a.asset = assetPda Passport.programId m.tokenId ∨
        Idle L a.asset (N.pubkey m.sendTo) m.tokenId uri := by
  simp only [execute, bind_ok, pure_ok] at h
  obtain ⟨w, hp, w', hver, rfl⟩ := h
  obtain ⟨b, L₁, hk, hb, -, st, hst, hv⟩ := lzReceive_unlock hcfg ha hm hp
  have hb₀ : coreAt L a.asset = some b := hb
  have hcore : ∀ k, coreAt w'.ledger k =
      if k = a.asset then some (unlocked b uri (N.pubkey m.sendTo)) else coreAt L k := by
    intro k
    have hk' : coreAt L₁ k = coreAt L k := hk.coreAt k
    rw [(verify_ok hver).1, ← view_core, hv, View.put_core, View.putAsset_core, view_core, hk']
  have hdata : ∀ k, (w'.ledger k).data = if k = statePda Passport.programId m.tokenId then
      .passportState { st.lapsed with custodyLocked := false }
      else if k = a.asset then .coreAsset (unlocked b uri (N.pubkey m.sendTo))
      else (L₁ k).data := by
    intro k
    rw [(verify_ok hver).1, ← view_data, hv, View.put_data, View.putAsset_data, view_data]
  constructor
  · intro hr
    by_cases he : a.asset = assetPda Passport.programId m.tokenId
    · exact .inl he
    · -- the asset handed in is another's, so it cannot have changed
      refine .inr ⟨⟨b, hb₀, ?_⟩, ?_⟩
      · have hsame := hr.others a.asset he
        rw [hcore, if_pos rfl, hb₀] at hsame
        exact Option.some.inj hsame
      · obtain ⟨b', hb', ho, hf⟩ := hr.released
        rw [hcore, if_neg fun e => he e.symm] at hb'
        exact ⟨b', hb', ho, hf⟩
  · intro hcase
    have hstates : ∀ t' st', t' ≠ m.tokenId → Passport.HasState L t' st' →
        (w'.ledger (statePda Passport.programId t')).data = .passportState st' := by
      intro t' st' hne hst'
      have hne' : statePda Passport.programId t' ≠ statePda Passport.programId m.tokenId := by
        simpa using hne
      have hasset : statePda Passport.programId t' ≠ a.asset := by
        intro e
        have ho := (coreAt_eq_some.mp hb₀).1
        rw [← e, hst'.1] at ho
        cases ho
      rw [hdata, if_neg hne', if_neg hasset]
      exact (hk.hasState.mpr hst').2
    refine ⟨?_, fun k hne => ?_, ⟨st, hst, by rw [hdata, if_pos rfl]⟩, hstates⟩
    · rcases hcase with he | ⟨-, b', hb', ho, hf⟩
      · exact ⟨unlocked b uri (N.pubkey m.sendTo), by rw [hcore, if_pos he.symm], rfl, rfl⟩
      · by_cases he : assetPda Passport.programId m.tokenId = a.asset
        · exact ⟨unlocked b uri (N.pubkey m.sendTo), by rw [hcore, if_pos he], rfl, rfl⟩
        · exact ⟨b', by rw [hcore, if_neg he, hb'], ho, hf⟩
    · rcases hcase with he | ⟨⟨b', hb', hsame⟩, -⟩
      · rw [hcore, if_neg fun e => hne (e.trans he)]
      · obtain rfl : b = b' := Option.some.inj (hb₀.symm.trans hb')
        rw [hcore]
        split
        · rename_i e
          rw [hsame, e, hb₀]
        · rfl

end Rule

/-! ## §3. On the stand. -/

/-- Passports 1 and 2 are locked in the gateway. -/
def lockedRun : List Action := configured ++
  [mints 1 1, mints 2 2, sends (Passport.nth 1) 1, sends (Passport.nth 2) 2]

/-- **Another passport comes out.**  A message about passport 1 is delivered with the asset of
    passport 2: its receiver is given passport 2, and 1 stays with the gateway. -/
theorem substituted_asset : Genesis stand ∧ ∃ s s', run (step .reference .stand) stand lockedRun = .ok s ∧
    step .reference .stand s (receives 1 (Passport.nth 1) (Passport.nth 2) 3) = .ok s' ∧
    ¬ UnlockRule s.ledger s'.ledger (Passport.nth 1) (.key 3) := by
  refine ⟨stand_genesis, finalState (step .reference .stand) stand lockedRun,
    finalState (step .reference .stand) stand
      (lockedRun ++ [receives 1 (Passport.nth 1) (Passport.nth 2) 3]),
    run_finalState (by decide +kernel), step_finalState (by decide +kernel), fun h => ?_⟩
  have hb : (coreAt (finalState (step .reference .stand) stand lockedRun).ledger
        (assetPda Passport.programId (Passport.nth 2))).map CoreAsset.owner =
          some (configPda programId) ∧
      (coreAt (finalState (step .reference .stand) stand
        (lockedRun ++ [receives 1 (Passport.nth 1) (Passport.nth 2) 3])).ledger
        (assetPda Passport.programId (Passport.nth 2))).map CoreAsset.owner = some (.key 3) := by
    decide +kernel
  have hne : assetPda Passport.programId (Passport.nth 2) ≠
      assetPda Passport.programId (Passport.nth 1) := by
    decide
  rw [h.others _ hne, hb.1] at hb
  cases hb.2

/-- Passport 1 comes out. -/
theorem unlock_iff_stand : ∃ s s', run (step .reference .stand) stand lockedRun = .ok s ∧
    step .reference .stand s (receives 1 (Passport.nth 1) (Passport.nth 1) 3) = .ok s' ∧
    UnlockRule s.ledger s'.ledger (Passport.nth 1) (.key 3) := by
  have hstep : step .reference .stand (finalState (step .reference .stand) stand lockedRun)
      (receives 1 (Passport.nth 1) (Passport.nth 1) 3) = .ok _ :=
    step_finalState (by decide +kernel)
  refine ⟨_, _, run_finalState (by decide +kernel), hstep, ?_⟩
  obtain ⟨L', h, hs⟩ := step_gateway_ok hstep
  have hcfg : loadConfig (finalState (step .reference .stand) stand lockedRun).ledger
      (configPda programId) = .ok ⟨.key 9, .program 6, Passport.programId, 1⟩ := by
    decide +kernel
  have hm : planReceive (message (Passport.nth 1) 3) 1 = .ok (⟨3, Passport.nth 1,
      some (Abi.word 0 ++ Abi.abiEncodeString [97])⟩, ['a'], .unlockHome) := by
    decide +kernel
  rw [← hs]
  exact (unlock_iff hcfg rfl hm h).mpr (.inl rfl)

end Kargain.Svm.Gateway
