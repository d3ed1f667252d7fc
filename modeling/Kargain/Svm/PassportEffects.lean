/-
  Kargain.Svm.PassportEffects — what each instruction of kar-passport does.

  One lemma per instruction: what an accepted one found in the accounts it
  read, and the view of the ledger it leaves.  Everything later is about
  these lemmas; no proof opens a handler again.
-/
import Kargain.Svm.Passport
import Kargain.Svm.View

namespace Kargain.Svm.Passport

open Kargain.Accounts

/-! ## §1. Checks. -/

variable {L : Ledger} {x : Call} {k : Pubkey} {t : TokenId} {st : PassportState}
  {cfg : PassportConfig}

/-- The config the program keeps. -/
def HasConfig (L : Ledger) (cfg : PassportConfig) : Prop :=
  (L (configPda programId)).owner = programId ∧
    (L (configPda programId)).data = .passportConfig cfg

/-- The state the program keeps of a passport. -/
def HasState (L : Ledger) (t : TokenId) (st : PassportState) : Prop :=
  (L (statePda programId t)).owner = programId ∧
    (L (statePda programId t)).data = .passportState st

theorem loadConfig_ok (h : loadConfig L k = .ok cfg) :
    k = configPda programId ∧ HasConfig L cfg := by
  simp only [loadConfig, bind_ok, require_ok, load_ok, exists_const] at h
  obtain ⟨rfl, ho, hd⟩ := h
  exact ⟨rfl, ho, hd⟩

theorem requireConfigAuthority_ok {authority : Pubkey}
    (h : requireConfigAuthority x L k authority = .ok cfg) :
    k = configPda programId ∧ HasConfig L cfg ∧ x.isSigner authority ∧
      authority = cfg.authority := by
  simp only [requireConfigAuthority, bind_ok, require_ok, pure_ok, exists_const] at h
  obtain ⟨cfg', hcfg, hs, ha, rfl⟩ := h
  exact ⟨(loadConfig_ok hcfg).1, (loadConfig_ok hcfg).2, hs, ha⟩

theorem loadState_ok (h : loadState L k t = .ok st) : k = statePda programId t ∧ HasState L t st := by
  simp only [loadState, bind_ok, require_ok, revertIf_ok, load_ok, exists_const, not_or,
    not_not] at h
  obtain ⟨rfl, ⟨ho, -⟩, hd⟩ := h
  exact ⟨rfl, ho, hd⟩

theorem gateAndReadOwner_ok {live : Bool} {owner : Pubkey}
    (h : gateAndReadOwner L k = .ok (live, owner)) :
    live = isLiveCoreAsset L k ∧
      (live = true → ∃ a, coreAt L k = some a ∧ a.owner = owner) := by
  unfold gateAndReadOwner at h
  split at h
  · rename_i hlive
    simp only [bind_ok, pure_ok, Prod.mk.injEq] at h
    obtain ⟨a, ha, rfl, rfl⟩ := h
    exact ⟨hlive.symm, fun _ => ⟨a, readAsset_ok.mp ha, rfl⟩⟩
  · rename_i hlive
    simp only [pure_ok, Prod.mk.injEq] at h
    obtain ⟨rfl, -⟩ := h
    refine ⟨by simpa using (Bool.not_eq_true _ ▸ hlive), fun e => by cases e⟩

theorem requireHere_ok {live : Bool} (h : requireHere live st = .ok ()) :
    live = true ∧ st.burned = false ∧ st.custodyLocked = false := by
  simpa [requireHere, bind_ok, revertIf_ok, and_assoc] using h

theorem checkVerifyPassport_ok {live : Bool} {assetOwner verifier stake stakingProgram : Pubkey}
    (h : checkVerifyPassport L live st assetOwner verifier stake stakingProgram = .ok ()) :
    live = true ∧ st.burned = false ∧ st.custodyLocked = false ∧
      ActiveVerifier L stakingProgram verifier ∧ assetOwner ≠ verifier ∧
      st.status = .unverified := by
  simp only [checkVerifyPassport, bind_ok, revertIf_ok, require_ok] at h
  obtain ⟨_, hh, _, hv, _, hne, hs⟩ := h
  obtain ⟨hl, hb, hc⟩ := requireHere_ok hh
  exact ⟨hl, hb, hc, (proveActiveVerifier_ok hv).2, hne, hs⟩

theorem checkSetUri_ok {isOwner reset : Bool} {newUri currentUri : Text}
    (h : checkSetUri st isOwner newUri currentUri = .ok reset) :
    st.custodyLocked = false ∧ isOwner = true ∧ newUri ≠ [] ∧ st.status ≠ .disputed ∧
      newUri ≠ currentUri ∧ newUri.byteLen ≤ passportUriCeilingBytes ∧
      reset = decide (st.status = .verified) := by
  simp only [checkSetUri, checkWriteUriLength, bind_ok, revertIf_ok, require_ok, pure_ok,
    exists_const, Nat.not_lt, Bool.not_eq_true] at h
  obtain ⟨h₁, h₂, h₃, h₄, h₅, h₆, h₇⟩ := h
  exact ⟨h₁, h₂, h₃, h₄, h₅, h₆, h₇.symm⟩

/-! ## §2. What the handlers share. -/

variable {P : Platform} {now : ℕ} {w w' : Exec}

theorem store_state (h : w.store k st = (.ok w' : Except Error Exec)) :
    view w'.ledger = (view w.ledger).put k (.passportState st) :=
  (view_store (fun _ => rfl) h).2

theorem store_config (h : w.store k cfg = (.ok w' : Except Error Exec)) :
    view w'.ledger = (view w.ledger).put k (.passportConfig cfg) :=
  (view_store (fun _ => rfl) h).2

theorem store_challenge {c : ChallengeAccount} (h : w.store k c = (.ok w' : Except Error Exec)) :
    view w'.ledger = (view w.ledger).put k (.challenge c) :=
  (view_store (fun _ => rfl) h).2

section Shared

variable {asset payer owner updateAuthority freezeAuthority core systemProgram : Pubkey}
  {uri : Text}

theorem createAssetWithFreeze_ok (h : createAssetWithFreeze P x w asset payer owner
    updateAuthority freezeAuthority core systemProgram t uri = .ok w') :
    asset = assetPda programId t ∧ core = .mplCore ∧ systemProgram = .system ∧
      Free (w.ledger asset) ∧ view w'.ledger = (view w.ledger).putAsset asset
        ⟨owner, uri, updateAuthority, false, some freezeAuthority, none⟩ := by
  simp only [createAssetWithFreeze, bind_ok, require_ok, exists_const] at h
  obtain ⟨hc, hs, ha, hinv⟩ := h
  obtain ⟨hfree, hv⟩ := view_createV1 hinv
  exact ⟨ha, hc, hs, hfree, hv⟩

theorem setFrozen_ok {frozen : Bool}
    (h : setFrozen P x w asset payer freezeAuthority core frozen = .ok w') :
    ∃ a, coreAt w.ledger asset = some a ∧ core = .mplCore ∧
      view w'.ledger = (view w.ledger).putAsset asset { a with frozen := frozen } := by
  simp only [setFrozen, bind_ok, require_ok, exists_const] at h
  obtain ⟨hc, -, hinv⟩ := h
  obtain ⟨a, ha, -, hv⟩ := view_updatePluginV1 hinv
  exact ⟨a, ha, hc, hv⟩

theorem updateUri_ok (h : updateUri P x w asset payer updateAuthority core uri = .ok w') :
    ∃ a, coreAt w.ledger asset = some a ∧ core = .mplCore ∧
      a.updateAuthority = updateAuthority ∧
      view w'.ledger = (view w.ledger).putAsset asset { a with uri := uri } := by
  simp only [updateUri, bind_ok, require_ok, exists_const] at h
  obtain ⟨hc, hinv⟩ := h
  obtain ⟨a, ha, hu, hv⟩ := view_updateV1 hinv
  exact ⟨a, ha, hc, hu, hv⟩

theorem thawAndBurn_ok (h : thawAndBurn P x w asset payer owner freezeAuthority core = .ok w') :
    ∃ a, coreAt w.ledger asset = some a ∧ core = .mplCore ∧
      view w'.ledger = ((view w.ledger).putAsset asset { a with frozen := false }).burn asset := by
  simp only [thawAndBurn, bind_ok] at h
  obtain ⟨w₁, hf, hb⟩ := h
  obtain ⟨a, ha, hc, hv⟩ := setFrozen_ok hf
  exact ⟨a, ha, hc, hv ▸ view_burnV1 hb⟩

theorem createStateAccount_ok {state : Pubkey}
    (h : createStateAccount P x w state payer systemProgram t = .ok w') :
    state = statePda programId t ∧ systemProgram = .system ∧ (w.ledger state).data = .empty ∧
      (w.ledger state).lamports = 0 ∧
      view w'.ledger = (view w.ledger).put state (.passportState default) := by
  simp only [createStateAccount, bind_ok, require_ok, revertIf_ok, not_not, exists_const] at h
  obtain ⟨hk, hs, hz, hc⟩ := h
  obtain ⟨-, he, -, hv⟩ := view_createPda rfl hc
  exact ⟨hk, hs, he, hz, hv⟩

/-- The record goes to the next record address of the state's token. -/
theorem appendRecordChecked_ok {st' : PassportState} {record author : Pubkey}
    {recordType description evidenceCid : Text}
    (h : appendRecordChecked P x now w st record payer systemProgram author recordType description
      evidenceCid = .ok (w', st')) :
    st' = { st with recordCount := st.recordCount + 1 } ∧ ∃ d,
      view w'.ledger = (view w.ledger).put (.pda programId (.record st.tokenId st.recordCount)) d := by
  simp only [appendRecordChecked, bind_ok, require_ok, revertIf_ok, pure_ok, Prod.mk.injEq,
    exists_const] at h
  obtain ⟨rfl, -, -, w₁, hc, -, rfl, rfl⟩ := h
  exact ⟨rfl, _, view_created rfl hc⟩

theorem resizeConfigAccount_view {config : Pubkey} {oldLen newLen : ℕ}
    (h : resizeConfigAccount P x w config payer systemProgram oldLen newLen = .ok w') :
    view w'.ledger = view w.ledger := by
  simp only [resizeConfigAccount, bind_ok, require_ok, revertIf_ok, pure_ok, exists_const] at h
  obtain ⟨-, -, w₁, hpay, rfl⟩ := h
  rw [← view_payNative hpay]
  split <;> simp

theorem resizeAndSave_ok {config : Pubkey} {sources : List EncumbranceSourceEntry}
    (h : resizeAndSave P x w config payer systemProgram cfg sources = .ok w') :
    view w'.ledger = (view w.ledger).put config
      (.passportConfig { cfg with encumbranceSources := sources }) := by
  simp only [resizeAndSave, bind_ok] at h
  obtain ⟨w₁, hr, hs⟩ := h
  rw [store_config hs, resizeConfigAccount_view hr]

/-- The state a passport arrives with, and where it comes from. -/
theorem arriveState_ok {state : Pubkey}
    (h : arriveState P x w state payer systemProgram t = .ok w') :
    ∃ st, view w'.ledger = (view w.ledger).put (statePda programId t) (.passportState st) ∧
      st.status = .unverified ∧
      ((w.ledger (statePda programId t)).data = .empty ∧ st = newUnverified t ∨
        ∃ st₀, HasState w.ledger t st₀ ∧
          st = { st₀.lapsed with custodyLocked := false, burned := false }) := by
  unfold arriveState at h
  split at h
  · simp only [bind_ok] at h
    obtain ⟨w₁, hc, hs⟩ := h
    obtain ⟨rfl, -, he, -, hv⟩ := createStateAccount_ok hc
    refine ⟨newUnverified t, ?_, rfl, .inl ⟨he, rfl⟩⟩
    rw [store_state hs, hv]
    simp [View.put]
  · simp only [bind_ok] at h
    obtain ⟨st₀, hl, hs⟩ := h
    obtain ⟨rfl, hst⟩ := loadState_ok hl
    exact ⟨_, store_state hs, rfl, .inr ⟨st₀, hst, rfl⟩⟩

end Shared

/-! ## §3. Config. -/

/-- The instructions that change the config change nothing else. -/
def ConfigChanged (L : Ledger) (v : View) : Prop :=
  ∃ cfg, v = (view L).put (configPda programId) (.passportConfig cfg)

theorem initializeConfig_ok {ns deposit : ℕ} {staking forfeit : Pubkey}
    (h : initializeConfig P x w ns deposit staking forfeit = .ok w') :
    ConfigChanged w.ledger (view w'.ledger) := by
  simp only [initializeConfig, bind_ok, require_ok, pure_ok, exists_const] at h
  obtain ⟨config, -, authority, -, _, -, -, rfl, w₁, hc, rfl⟩ := h
  exact ⟨_, view_created rfl hc⟩

theorem setBridgeGateway_ok {gateway : Pubkey} (h : setBridgeGateway x w gateway = .ok w') :
    ConfigChanged w.ledger (view w'.ledger) := by
  simp only [setBridgeGateway, bind_ok, revertIf_ok, exists_const] at h
  obtain ⟨config, -, authority, -, cfg, ha, -, -, hs⟩ := h
  obtain ⟨rfl, -⟩ := requireConfigAuthority_ok ha
  exact ⟨_, store_config hs⟩

theorem setStakingProgram_ok {staking : Pubkey} (h : setStakingProgram x w staking = .ok w') :
    ConfigChanged w.ledger (view w'.ledger) := by
  simp only [setStakingProgram, bind_ok, revertIf_ok, exists_const] at h
  obtain ⟨config, -, authority, -, cfg, ha, -, hs⟩ := h
  obtain ⟨rfl, -⟩ := requireConfigAuthority_ok ha
  exact ⟨_, store_config hs⟩

theorem setDisputeDeposit_ok {deposit : ℕ} (h : setDisputeDeposit x w deposit = .ok w') :
    ConfigChanged w.ledger (view w'.ledger) := by
  simp only [setDisputeDeposit, bind_ok, revertIf_ok, exists_const] at h
  obtain ⟨config, -, authority, -, cfg, ha, -, hs⟩ := h
  obtain ⟨rfl, -⟩ := requireConfigAuthority_ok ha
  exact ⟨_, store_config hs⟩

theorem addEncumbranceSource_ok {source : Pubkey} {seedPrefix : List ℕ}
    (h : addEncumbranceSource P x w source seedPrefix = .ok w') :
    ConfigChanged w.ledger (view w'.ledger) := by
  simp only [addEncumbranceSource, bind_ok, revertIf_ok, require_ok, exists_const] at h
  obtain ⟨config, -, authority, -, payer, -, systemProgram, -, -, _, -, cfg, ha, -, -, hs⟩ := h
  obtain ⟨rfl, -⟩ := requireConfigAuthority_ok ha
  exact ⟨_, resizeAndSave_ok hs⟩

theorem removeEncumbranceSource_ok {source : Pubkey}
    (h : removeEncumbranceSource P x w source = .ok w') :
    ConfigChanged w.ledger (view w'.ledger) := by
  simp only [removeEncumbranceSource, bind_ok, require_ok, exists_const] at h
  obtain ⟨config, -, authority, -, payer, -, systemProgram, -, -, cfg, ha, i, -, hs⟩ := h
  obtain ⟨rfl, -⟩ := requireConfigAuthority_ok ha
  exact ⟨_, resizeAndSave_ok hs⟩

/-! ## §4. Minting, verification, URI, transfer. -/

/-- A mint finds nothing at the next token's addresses and leaves an unverified passport. -/
theorem mintPassport_ok {uri : Text} (h : mintPassport P x w uri = .ok w') :
    ∃ t owner freeze cfg, Free (w.ledger (assetPda programId t)) ∧
      (w.ledger (statePda programId t)).data = .empty ∧
      view w'.ledger = (((view w.ledger).putAsset (assetPda programId t)
        ⟨owner, uri, configPda programId, false, some freeze, none⟩).put (statePda programId t)
          (.passportState (newUnverified t))).put (configPda programId) (.passportConfig cfg) := by
  simp only [mintPassport, bind_ok, revertIf_ok, Prod.exists] at h
  obtain ⟨_, -, config, -, asset, -, state, -, payer, -, owner, -, freezeAuthority, -,
    gatewayConfig, -, core, -, systemProgram, -, cfg, hcfg, t, next, freeze, -, _, -, w₁, hca,
    w₂, hcs, w₃, hst, hsc⟩ := h
  obtain ⟨rfl, -⟩ := loadConfig_ok hcfg
  obtain ⟨rfl, -, -, hfree, hv₁⟩ := createAssetWithFreeze_ok hca
  obtain ⟨rfl, -, he, -, hv₂⟩ := createStateAccount_ok hcs
  refine ⟨t, owner, freeze, { cfg with nextTokenId := next }, hfree, ?_, ?_⟩
  · have hd : (view w₁.ledger).data (statePda programId t) = .empty := he
    simpa [hv₁] using hd
  · rw [store_config hsc, store_state hst, hv₂, hv₁]
    simp [View.put]

theorem verifyPassport_ok (h : verifyPassport x now w t = .ok w') :
    ∃ asset verifier cfg st, x.keys[1]? = some asset ∧ x.keys[2]? = some (statePda programId t) ∧
      x.keys[4]? = some verifier ∧ x.isSigner verifier ∧ HasConfig w.ledger cfg ∧ HasState w.ledger t st ∧
      st.status = .unverified ∧ ActiveVerifier w.ledger cfg.stakingProgram verifier ∧
      (∃ a, coreAt w.ledger asset = some a ∧ a.owner ≠ verifier) ∧
      view w'.ledger = (view w.ledger).put (statePda programId t) (.passportState
        { st with status := .verified, verifier := verifier, verifiedAt := now }) := by
  simp only [verifyPassport, bind_ok, require_ok, account_ok, Prod.exists, exists_const] at h
  obtain ⟨config, -, asset, ha, state, hk, stake, -, verifier, hver, hs, cfg, hcfg, st, hload, live,
    owner, hg, _, hv, hstore⟩ := h
  obtain ⟨rfl, hst⟩ := loadState_ok hload
  obtain ⟨hlive, -, -, hact, hne, hun⟩ := checkVerifyPassport_ok hv
  obtain ⟨a, haa, rfl⟩ := (gateAndReadOwner_ok hg).2 hlive
  exact ⟨asset, verifier, cfg, st, ha, hk, hver, hs, (loadConfig_ok hcfg).2, hst, hun, hact,
    ⟨a, haa, hne⟩, store_state hstore⟩

theorem setPassportUri_ok {uri : Text} (h : setPassportUri P x w t uri = .ok w') :
    ∃ asset a owner st, x.keys[1]? = some asset ∧ x.keys[2]? = some (statePda programId t) ∧
      x.isSigner owner ∧ HasState w.ledger t st ∧ st.status ≠ .disputed ∧
      coreAt w.ledger asset = some a ∧ a.owner = owner ∧
      view w'.ledger = if st.status = .verified then
        ((view w.ledger).putAsset asset { a with uri := uri }).put (statePda programId t)
          (.passportState st.lapsed)
      else (view w.ledger).putAsset asset { a with uri := uri } := by
  simp only [setPassportUri, bind_ok, require_ok, account_ok, exists_const] at h
  obtain ⟨config, -, asset, ha, state, hk, owner, -, payer, -, core, -, _, -, ⟨hs, -⟩, cfg, -, st,
    hload, -, a, haa, reset, hr, w₁, hu, hstore⟩ := h
  obtain ⟨rfl, hst⟩ := loadState_ok hload
  obtain ⟨-, ho, -, hnd, -, -, rfl⟩ := checkSetUri_ok hr
  obtain ⟨a', haa', -, -, hv⟩ := updateUri_ok hu
  have hcore := readAsset_ok.mp haa
  obtain rfl : a = a' := Option.some.inj (hcore.symm.trans haa')
  refine ⟨asset, a, owner, st, ha, hk, hs, hst, hnd, hcore, of_decide_eq_true ho, ?_⟩
  rw [← hv]
  by_cases hver : st.status = .verified
  · rw [if_pos (decide_eq_true hver)] at hstore
    rw [if_pos hver]
    exact store_state hstore
  · rw [if_neg (by simpa using hver)] at hstore
    rw [if_neg hver, pure_ok.mp hstore]

theorem transferPassport_ok (h : transferPassport P x w t = .ok w') :
    ∃ asset owner newOwner a, x.keys[0]? = some asset ∧
      x.keys[1]? = some (statePda programId t) ∧ x.isSigner owner ∧
      coreAt w.ledger asset = some a ∧ a.owner = owner ∧
      view w'.ledger = (view w.ledger).putAsset asset
        { a with owner := newOwner, transferDelegate := none } := by
  simp only [transferPassport, bind_ok, require_ok, account_ok, exists_const] at h
  obtain ⟨asset, ha, state, hk, owner, -, newOwner, -, payer, -, core, -, _, -, ⟨hs, -⟩, st, hload,
    -, a, haa, ho, -, ht⟩ := h
  obtain ⟨rfl, -⟩ := loadState_ok hload
  obtain ⟨a', haa', -, -, hv⟩ := view_transferV1 ht
  have hcore := readAsset_ok.mp haa
  obtain rfl : a = a' := Option.some.inj (hcore.symm.trans haa')
  exact ⟨asset, owner, newOwner, a, ha, hk, hs, hcore, ho, hv⟩

theorem may_ok {intent : ℕ} (h : may x w t intent = .ok w') : w' = w := by
  simp only [may, bind_ok, require_ok, pure_ok, exists_const] at h
  obtain ⟨config, -, asset, -, challenge, -, allowed, -, -, rfl⟩ := h
  rfl

/-! ## §5. Records. -/

/-- A record is appended and the state counts it. -/
def RecordAppended (L : Ledger) (t : TokenId) (v : View) : Prop :=
  ∃ st d, HasState L t st ∧
    v = ((view L).put (.pda programId (.record st.tokenId st.recordCount)) d).put
      (statePda programId t) (.passportState { st with recordCount := st.recordCount + 1 })

theorem appendRecord_ok {recordType description evidenceCid : Text}
    (h : appendRecord P x now w t recordType description evidenceCid = .ok w') :
    RecordAppended w.ledger t (view w'.ledger) ∧ ∃ asset author a, x.keys[1]? = some asset ∧
      x.keys[2]? = some (statePda programId t) ∧ x.isSigner author ∧
      coreAt w.ledger asset = some a ∧ a.owner = author := by
  simp only [appendRecord, bind_ok, require_ok, revertIf_ok, account_ok, Prod.exists,
    exists_const] at h
  obtain ⟨_, -, asset, ha, state, hk, record, -, author, -, payer, -, systemProgram, -, ⟨hs, -⟩,
    st, hload, live, owner, hg, _, hh, rfl, -, w₁, st', happ, hstore⟩ := h
  obtain ⟨rfl, hst⟩ := loadState_ok hload
  obtain ⟨a, haa, rfl⟩ := (gateAndReadOwner_ok hg).2 (requireHere_ok hh).1
  obtain ⟨rfl, d, hv⟩ := appendRecordChecked_ok happ
  exact ⟨⟨st, d, hst, hv ▸ store_state hstore⟩, asset, _, a, ha, hk, hs, haa, rfl⟩

theorem reportDiscrepancy_ok {description evidenceCid : Text}
    (h : reportDiscrepancy P x now w t description evidenceCid = .ok w') :
    RecordAppended w.ledger t (view w'.ledger) := by
  simp only [reportDiscrepancy, bind_ok, require_ok, revertIf_ok, Prod.exists, exists_const] at h
  obtain ⟨_, -, asset, -, state, -, record, -, reporter, -, payer, -, systemProgram, -, -, st, hload,
    live, owner, -, _, -, -, w₁, st', happ, hstore⟩ := h
  obtain ⟨rfl, hst⟩ := loadState_ok hload
  obtain ⟨rfl, d, hv⟩ := appendRecordChecked_ok happ
  exact ⟨st, d, hst, hv ▸ store_state hstore⟩

theorem appendAttestation_ok {description evidenceCid : Text}
    (h : appendAttestation P x now w t description evidenceCid = .ok w') :
    RecordAppended w.ledger t (view w'.ledger) := by
  simp only [appendAttestation, bind_ok, require_ok, revertIf_ok, Prod.exists, exists_const] at h
  obtain ⟨config, -, asset, -, state, -, record, -, attester, -, stake, -, payer, -, systemProgram,
    -, -, cfg, -, st, hload, live, owner, -, _, -, -, _, -, w₁, st', happ, hstore⟩ := h
  obtain ⟨rfl, hst⟩ := loadState_ok hload
  obtain ⟨rfl, d, hv⟩ := appendRecordChecked_ok happ
  exact ⟨st, d, hst, hv ▸ store_state hstore⟩

/-! ## §6. The bridge. -/

theorem setCustodyLock_ok {locked : Bool} (h : setCustodyLock P x w t locked = .ok w') :
    ∃ asset a st, x.keys[2]? = some asset ∧ coreAt w.ledger asset = some a ∧
      HasState w.ledger t st ∧
      view w'.ledger = ((view w.ledger).putAsset asset { a with frozen := locked }).put
        (statePda programId t) (.passportState { st with custodyLocked := locked }) := by
  simp only [setCustodyLock, bind_ok, require_ok, account_ok, exists_const] at h
  obtain ⟨config, -, gateway, -, asset, ha, state, -, payer, -, freeze, -, core, -, _, -, -, cfg,
    -, _, -, -, -, st, hload, w₁, hf, hstore⟩ := h
  obtain ⟨rfl, hst⟩ := loadState_ok hload
  obtain ⟨a, haa, -, hv⟩ := setFrozen_ok hf
  exact ⟨asset, a, st, ha, haa, hst, hv ▸ store_state hstore⟩

theorem bridgeMint_ok {receiver : Pubkey} {uri : Text}
    (h : bridgeMint P x w receiver t uri = .ok w') :
    ∃ freeze st, Free (w.ledger (assetPda programId t)) ∧ st.status = .unverified ∧
      ((w.ledger (statePda programId t)).data = .empty ∧ st = newUnverified t ∨
        ∃ st₀, HasState w.ledger t st₀ ∧
          st = { st₀.lapsed with custodyLocked := false, burned := false }) ∧
      view w'.ledger = ((view w.ledger).putAsset (assetPda programId t)
        ⟨receiver, uri, configPda programId, false, some freeze, none⟩).put (statePda programId t)
          (.passportState st) := by
  simp only [bridgeMint, bind_ok, require_ok, revertIf_ok, exists_const] at h
  obtain ⟨config, -, gateway, -, asset, -, state, -, payer, -, owner, -, freezeAuthority, -, core,
    -, systemProgram, -, -, rfl, cfg, hcfg, _, -, freeze, -, rfl, -, -, rfl, w₁, hca, harr⟩ := h
  obtain ⟨rfl, -⟩ := loadConfig_ok hcfg
  obtain ⟨-, -, -, hfree, hv₁⟩ := createAssetWithFreeze_ok hca
  obtain ⟨st, hv, hun, hcase⟩ := arriveState_ok harr
  have hdata : (w₁.ledger (statePda programId t)).data = (w.ledger (statePda programId t)).data := by
    have := congrArg (fun v : View => v.data (statePda programId t)) hv₁
    simpa using this
  refine ⟨_, st, hfree, hun, ?_, by rw [hv, hv₁]⟩
  rcases hcase with ⟨he, hst⟩ | ⟨st₀, ⟨ho, hd⟩, hst⟩
  · exact .inl ⟨hdata ▸ he, hst⟩
  · refine .inr ⟨st₀, ⟨?_, hdata ▸ hd⟩, hst⟩
    have hf := (P.createV1_ok (invoke_ok (by
      simp only [createAssetWithFreeze, bind_ok, require_ok, exists_const] at hca
      exact hca.2.2.2)).1).2.2.2
    exact (hf.1 (statePda programId t) (by simp)).1 ▸ ho

theorem bridgeBurn_ok (h : bridgeBurn P x w t = .ok w') :
    ∃ asset a st, x.keys[2]? = some asset ∧ coreAt w.ledger asset = some a ∧
      (w.ledger (statePda programId t)).data = .passportState st ∧
      view w'.ledger =
        (((view w.ledger).putAsset asset { a with frozen := false }).burn asset).put
          (statePda programId t) (.passportState
            { st.lapsed with burned := true, custodyLocked := false }) := by
  simp only [bridgeBurn, bind_ok, require_ok, revertIf_ok, account_ok, exists_const] at h
  obtain ⟨config, -, gateway, -, asset, ha, state, -, payer, -, owner, -, freeze, -, core, -, _, -,
    -, cfg, -, _, -, -, -, a, -, -, w₁, htb, st, hload, hstore⟩ := h
  obtain ⟨rfl, -, hd⟩ := loadState_ok hload
  obtain ⟨a', haa, -, hv⟩ := thawAndBurn_ok htb
  refine ⟨asset, a', st, ha, haa, ?_, hv ▸ store_state hstore⟩
  have hdata : (view w₁.ledger).data (statePda programId t) = .passportState st := hd
  rw [hv] at hdata
  by_cases hk : statePda programId t = asset
  · simp [hk] at hdata
  · simpa [hk] using hdata

theorem bridgeResetOnUnlock_ok {uri : Text} (h : bridgeResetOnUnlock P x w t uri = .ok w') :
    ∃ asset a st, x.keys[2]? = some asset ∧ coreAt w.ledger asset = some a ∧
      HasState w.ledger t st ∧
      view w'.ledger = ((view w.ledger).putAsset asset
        { a with frozen := false, uri := if uri = [] then a.uri else uri }).put
          (statePda programId t) (.passportState { st.lapsed with custodyLocked := false }) := by
  simp only [bridgeResetOnUnlock, bind_ok, require_ok, account_ok, exists_const] at h
  obtain ⟨config, -, gateway, -, asset, ha, state, -, payer, -, freeze, -, core, -, _, -, -, cfg,
    -, _, -, st, hload, -, -, w₁, hf, w₂, hu, hstore⟩ := h
  obtain ⟨rfl, hst⟩ := loadState_ok hload
  obtain ⟨a, haa, -, hv⟩ := setFrozen_ok hf
  refine ⟨asset, a, st, ha, haa, hst, ?_⟩
  rw [store_state hstore]
  split at hu
  · rename_i hne
    obtain ⟨a', haa', -, -, hv'⟩ := updateUri_ok hu
    have hc : (view w₁.ledger).core asset = some a' := haa'
    rw [hv] at hc
    obtain rfl : { a with frozen := false } = a' := by simpa using hc
    rw [hv', hv, if_neg hne]
    simp [View.putAsset, View.put]
  · rename_i he
    obtain rfl := pure_ok.mp hu
    rw [hv, if_pos (not_not.mp he)]

/-! ## §7. Challenges. -/

theorem readyChallenge_ok {challenge payer : Pubkey}
    (h : readyChallenge P x w challenge payer t = .ok w') :
    challenge = challengePda programId t ∧
      ((∃ c : ChallengeAccount, (w.ledger challenge).data = .challenge c ∧ c.isActive = false ∧
        w' = w) ∨
      (w.ledger challenge).data = .empty ∧
        view w'.ledger = (view w.ledger).put challenge (.challenge default)) := by
  simp only [readyChallenge, bind_ok, require_ok, exists_const] at h
  obtain ⟨hk, h⟩ := h
  refine ⟨hk, ?_⟩
  split at h
  · simp only [bind_ok, revertIf_ok, pure_ok, load_ok, exists_const, Bool.not_eq_true] at h
    obtain ⟨c, hd, hna, rfl⟩ := h
    exact .inl ⟨c, hd, hna, rfl⟩
  · rename_i he
    obtain ⟨-, -, -, hv⟩ := view_createPda rfl h
    exact .inr ⟨not_not.mp he, hv⟩

/-- A challenge opens on a verified passport at the passport's own challenge address. -/
theorem openChallenge_ok (h : openChallenge P x now w t = .ok w') :
    ∃ st c, HasState w.ledger t st ∧ st.status = .verified ∧
      (∀ c₀ : ChallengeAccount, (w.ledger (challengePda programId t)).data = .challenge c₀ →
        c₀.isActive = false) ∧ c.openedAt = now ∧
      view w'.ledger = ((view w.ledger).put (challengePda programId t) (.challenge c)).put
        (statePda programId t) (.passportState { st with status := .disputed }) := by
  simp only [openChallenge, bind_ok, require_ok, Prod.exists, exists_const] at h
  obtain ⟨challenger, -, config, -, asset, -, state, -, challenge, -, _, -, payer, -, -, cfg, -, st,
    hload, live, owner, -, _, hchk, w₁, hready, c, hc, w₂, hpay, w₃, hsc, hss⟩ := h
  obtain ⟨rfl, hst⟩ := loadState_ok hload
  obtain ⟨-, hnew⟩ := Svm.openChallenge_ok hc
  simp only [checkOpenChallenge, bind_ok, require_ok] at hchk
  obtain ⟨_, -, hver⟩ := hchk
  obtain ⟨rfl, hcase⟩ := readyChallenge_ok hready
  refine ⟨st, c, hst, hver, fun c₀ hd => ?_, by rw [hnew], ?_⟩
  rotate_left
  · rw [store_state hss, store_challenge hsc, view_payNative hpay]
    rcases hcase with ⟨-, -, -, rfl⟩ | ⟨-, hv⟩
    · rfl
    · rw [hv, View.put_put]
  · rcases hcase with ⟨c₁, hd₁, hna, -⟩ | ⟨he, -⟩
    · rw [hd] at hd₁
      cases hd₁
      exact hna
    · rw [hd] at he
      cases he

/-- Withdrawal: the challenge account handed in is cleared, the state is verified again and a
    record says so. -/
theorem withdrawChallenge_ok (h : withdrawChallenge P x now w t = .ok w') :
    ∃ challenge c st st' d, x.keys[4]? = some challenge ∧ HasState w.ledger t st ∧
      (w.ledger challenge).data = .challenge c ∧ c.isActive = true ∧ st'.status = .verified ∧
      view w'.ledger = (((view w.ledger).put challenge (.challenge c.cleared)).put
        (.pda programId (.record st.tokenId st.recordCount)) d).put (statePda programId t)
          (.passportState st') := by
  simp only [withdrawChallenge, bind_ok, require_ok, account_ok, load_ok, Prod.exists,
    exists_const] at h
  obtain ⟨challenger, -, config, -, asset, -, state, -, challenge, hk, record, -, systemProgram, -,
    payer, -, -, cfg, -, st, hload, _, owner, -, c, hd, c', hooks, disposition, hw, w₁, hb, w₂, hsc,
    w₃, st', happ, hss⟩ := h
  obtain ⟨rfl, hst⟩ := loadState_ok hload
  obtain ⟨-, hact, -, rfl, rfl⟩ := Svm.withdrawChallenge_ok hw
  obtain ⟨-, -, -, rfl⟩ := transferBondLamports_ok.mp hb
  obtain ⟨rfl, d, hv⟩ := appendRecordChecked_ok (by simpa [passportHooks] using happ)
  refine ⟨challenge, c, st,
    { st with status := .verified, recordCount := st.recordCount + 1 }, d, hk, hst, hd, hact, rfl, ?_⟩
  rw [store_state hss, hv, store_challenge hsc, view_move]

theorem settleChallenge_ok {challenge bondRecipient state : Pubkey}
    {disposition : BondDisposition} {c : ChallengeAccount}
    (h : settleChallenge w challenge bondRecipient state disposition c st = .ok w') :
    view w'.ledger = ((view w.ledger).put challenge (.challenge c)).put state
      (.passportState st) := by
  simp only [settleChallenge, bind_ok, require_ok, exists_const] at h
  obtain ⟨-, w₁, hb, w₂, hsc, hss⟩ := h
  obtain ⟨-, -, -, rfl⟩ := transferBondLamports_ok.mp hb
  rw [store_state hss, store_challenge hsc, view_move]

/-- What a judgment does to the state. -/
def judged (st : PassportState) : JudgeOutcome → PassportState
  | .upheld => st.lapsed
  | .rejected => { st with status := .verified }

theorem parseOutcome_ok {n : ℕ} {o : JudgeOutcome} (h : parseOutcome n = .ok o) :
    o = .upheld ∧ n = 0 ∨ o = .rejected ∧ n = 1 := by
  unfold parseOutcome at h
  split at h
  · exact .inl ⟨(Except.ok.inj h).symm, rfl⟩
  · exact .inr ⟨(Except.ok.inj h).symm, rfl⟩
  · cases h

theorem judgeChallenge_ok {outcome : ℕ} (h : judgeChallenge x now w t outcome = .ok w') :
    ∃ judge asset challenge c st o, x.keys[2]? = some asset ∧
      x.keys[3]? = some (statePda programId t) ∧ x.keys[4]? = some challenge ∧
      x.keys[0]? = some judge ∧ x.isSigner judge ∧ (∀ a, coreAt w.ledger asset = some a → a.owner ≠ judge) ∧
      (o = .upheld ∧ outcome = 0 ∨ o = .rejected ∧ outcome = 1) ∧ HasState w.ledger t st ∧
      (w.ledger challenge).data = .challenge c ∧ c.isActive = true ∧
      view w'.ledger = ((view w.ledger).put challenge (.challenge c.cleared)).put
        (statePda programId t) (.passportState (judged st o)) := by
  simp only [judgeChallenge, bind_ok, require_ok, account_ok, load_ok, Prod.exists,
    exists_const] at h
  obtain ⟨judge, hj₀, config, -, asset, ha, state, hs, challenge, hk, bondRecipient, -, stake, -,
    stakingProgram, -, payer, -, ⟨hsign, -⟩, o, ho, cfg, -, -, st, hload, live, owner, hg, _, -, c,
    hd, c', hooks, disposition, hj, hsettle⟩ := h
  obtain ⟨rfl, hst⟩ := loadState_ok hload
  obtain ⟨-, hact, hex, -, rfl, rfl⟩ := Svm.judgeChallenge_ok hj
  refine ⟨judge, asset, challenge, c, st, o, ha, hs, hk, hj₀, hsign, fun a haa => ?_, parseOutcome_ok ho, hst, hd,
    hact, ?_⟩
  · obtain ⟨hlive, hread⟩ := gateAndReadOwner_ok hg
    obtain ⟨a', haa', rfl⟩ := hread (hlive.trans (isLiveCoreAsset_of_core haa))
    obtain rfl : a = a' := Option.some.inj (haa.symm.trans haa')
    intro e
    simp [passportHooks, e] at hex
  · rw [settleChallenge_ok hsettle]
    cases o <;> rfl

theorem concludeChallenge_ok (h : concludeChallenge x now w t = .ok w') :
    ∃ challenge c st, x.keys[3]? = some challenge ∧ HasState w.ledger t st ∧
      (w.ledger challenge).data = .challenge c ∧ c.isActive = true ∧
      view w'.ledger = ((view w.ledger).put challenge (.challenge c.cleared)).put
        (statePda programId t) (.passportState st.lapsed) := by
  simp only [concludeChallenge, bind_ok, require_ok, account_ok, load_ok, Prod.exists,
    exists_const] at h
  obtain ⟨config, -, asset, -, state, -, challenge, hk, bondRecipient, -, payer, -, -, cfg, -, st,
    hload, live, owner, -, c, hd, c', hooks, disposition, hc, hsettle⟩ := h
  obtain ⟨rfl, hst⟩ := loadState_ok hload
  obtain ⟨-, hact, rfl, rfl⟩ := Svm.concludeChallenge_ok hc
  exact ⟨challenge, c, st, hk, hst, hd, hact, settleChallenge_ok hsettle⟩

/-! ## §8. Claims. -/

theorem withdrawClaim_ok (h : withdrawClaim x w = .ok w') :
    ∃ recipient d, view w'.ledger = (view w.ledger).put (.claim programId recipient .zero) d := by
  simp only [withdrawClaim, bind_ok, require_ok, revertIf_ok, load_ok, pure_ok,
    exists_const] at h
  obtain ⟨recipient, -, claim, -, _, -, -, -, rfl, ho, c, hd, -, -, rfl⟩ := h
  refine ⟨recipient, Data.zeroed (.claim c), view_put (fun k hk => ?_) ?_ (coreAt_of_owner ?_)
    (coreAt_of_owner ?_)⟩
  · obtain ⟨ho', hd', -⟩ := closed_frame (w := w.move _ recipient c.amount) hk
    exact ⟨ho'.trans move_frame.1, hd'.trans move_frame.2.1⟩
  · simp only [closePda, Exec.assign, Exec.setData, Exec.set, Function.update_self]
    rw [move_frame.2.1, move_frame.2.1, hd]
    rfl
  · rw [ho]
    intro e
    cases e
  · simp [closePda, Exec.assign, Exec.set]

end Kargain.Svm.Passport
