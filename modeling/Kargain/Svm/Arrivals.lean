/-
  Kargain.Svm.Arrivals — when a passport can arrive or be minted.

  An arriving representation and a new passport need the address of their
  asset free for `create_account`, and the address of their state free or
  theirs.  `Open` says so, and nothing else stands in the way
  (`arrival_iff`, `mint_iff`).  But an asset once burned leaves Core's one
  byte behind, and anybody may send a lamport to an address.
-/
import Kargain.Svm.GatewayUnlock

namespace Kargain.Svm

open Kargain.Accounts

/-! ## §1. What goes through. -/

section Accepts

variable {P : Platform} {p payer : Pubkey} {x : Call} {w : Exec} {L L' : Ledger}

/-- Between the two ledgers only records of the program's own were written. -/
def Written (p : Pubkey) (x : Call) (L L' : Ledger) : Prop :=
  ∀ k, L' k = L k ∨ x.isWritable k ∧ (L k).owner = p ∧ (L' k).owner = p ∧
    (L' k).executable = (L k).executable

theorem Written.refl (L : Ledger) : Written p x L L := fun _ => .inl rfl

theorem Written.setData {k : Pubkey} {d : Data} (h : Written p x L w.ledger)
    (ho : (w.ledger k).owner = p) (hw : x.isWritable k) :
    Written p x L (w.setData k d).ledger := by
  intro k'
  by_cases hk : k' = k
  · subst hk
    have hset : (w.setData k' d).ledger k' = { w.ledger k' with data := d } := by
      simp [Exec.setData, Exec.set]
    rw [hset]
    rcases h k' with he | ⟨hw', hb, -, hx⟩
    · exact .inr ⟨hw, he ▸ ho, ho, by rw [he]⟩
    · exact .inr ⟨hw', hb, ho, hx⟩
  · have hset : (w.setData k d).ledger k' = w.ledger k' := by
      simp [Exec.setData, Exec.set, hk]
    rw [hset]
    exact h k'

theorem verify_written (h : Written p x w.verified w.ledger) :
    (w.verify p x : Except Error Exec) = .ok { w with verified := w.ledger } := by
  simp only [Exec.verify, bind_ok, require_ok, pure_ok, exists_const]
  refine ⟨fun k _ => ?_, trivial⟩
  rcases h k with he | ⟨hw, hb, ha, hx⟩
  · exact .inl he
  · exact .inr ⟨hw, hx, .inl ⟨hb, .inl ha⟩⟩

theorem verify_settled (h : w.verified = w.ledger) :
    (w.verify p x : Except Error Exec) = .ok w := by
  cases w
  cases h
  exact verify_written (.refl _)

/-- A call from a program that has changed nothing since the last one. -/
theorem invoke_settled {f : Ledger → Except Error Ledger} (h : w.verified = w.ledger)
    (hf : f w.ledger = .ok L') : w.invoke p x f = .ok ⟨L', L', w.debits⟩ := by
  unfold Exec.invoke
  rw [verify_settled h]
  show (f w.ledger >>= fun L => pure { w with ledger := L, verified := L }) = _
  rw [hf]
  rfl

/-- The payer can pay `n` lamports. -/
structure Solvent (L : Ledger) (payer : Pubkey) (n : ℕ) : Prop where
  owner : (L payer).owner = .system
  data : (L payer).data = .empty
  funds : n ≤ (L payer).lamports

theorem createPda_settled {account : Pubkey} {space : ℕ} {d : Data} (h : w.verified = w.ledger)
    (hsign : x.isSigner payer) (hw : x.isWritable payer ∧ x.isWritable account)
    (hsys : Pubkey.system ∈ x.keys) (hfree : Free (w.ledger account))
    (hpay : Solvent w.ledger payer (P.minimumBalance space)) :
    ∃ L', createPda P p x w payer account p space d = .ok ⟨L', L', w.debits⟩ ∧
      L' account = ⟨P.minimumBalance space, p, d, false⟩ ∧
      ∀ k, k ≠ account → k ≠ payer → L' k = w.ledger k := by
  let L' : Ledger := Function.update (Function.update w.ledger payer
    { w.ledger payer with lamports := (w.ledger payer).lamports - P.minimumBalance space })
    account ⟨P.minimumBalance space, p, d, false⟩
  refine ⟨L', invoke_settled h ?_, Function.update_self .., fun k hk hkp => ?_⟩
  · simp only [createAccount, bind_ok, require_ok, pure_ok, exists_const]
    exact ⟨⟨hsign, hw.1, hw.2, hsys⟩, hfree, ⟨hpay.owner, hpay.data⟩, hpay.funds, rfl⟩
  · show Function.update _ _ _ k = _
    rw [Function.update_of_ne hk, Function.update_of_ne hkp]

theorem Free.not_live {k : Pubkey} (h : Free (L k)) : isLiveCoreAsset L k = false := by
  simp [isLiveCoreAsset, h.1]

theorem store_settled {R : Type} [Record Data R] {k : Pubkey} {r e : R}
    (h : (w.ledger k).data = Record.toData e) :
    (w.store k r : Except Error Exec) = .ok (w.setData k (Record.toData r)) := by
  have hread : (Record.ofData (w.ledger k).data : Option R) = some e := Record.ofData_eq.mpr h
  unfold Exec.store
  rw [hread]

end Accepts

namespace Passport

/-! ## §2. The passport program. -/

/-- The address of the asset of `t` is free, and that of its state is free or its own. -/
structure Open (L : Ledger) (t : TokenId) : Prop where
  asset : Free (L (assetPda programId t))
  state : Free (L (statePda programId t)) ∨
    (L (statePda programId t)).lamports ≠ 0 ∧ ∃ st, HasState L t st

section Accepts

variable {P : Platform} {now : ℕ} {x : Call} {w : Exec} {L L' : Ledger} {t : TokenId}
  {payer owner : Pubkey} {uri : Text} {cfg : PassportConfig}

/-- The accounts of an instruction that creates an asset are where it expects them: the payer
    signs, and payer and state may be written. -/
structure Places (x : Call) (t : TokenId) (payer : Pubkey) : Prop where
  signs : x.isSigner payer
  writes : x.isWritable payer
  state : x.isWritable (statePda programId t)
  systemProgram : Pubkey.system ∈ x.keys
  outside : payer.derivedBy programId = false

theorem Places.ne (h : Places x t payer) (d : Seed) : payer ≠ .pda programId d := by
  rintro rfl
  have := h.outside
  simp [Pubkey.derivedBy] at this

theorem loadConfig_settled (h : HasConfig L cfg) : loadConfig L (configPda programId) = .ok cfg := by
  simp only [loadConfig, bind_ok, require_ok, load_ok, exists_const]
  exact ⟨trivial, h.1, h.2⟩

theorem loadState_settled {st : PassportState} (h : HasState L t st) :
    loadState L (statePda programId t) t = .ok st := by
  unfold loadState
  simp only [require, revertIf, h.1, h.2, ne_eq, not_true, reduceCtorEq, or_self, if_true, if_false]
  exact load_ok.mpr h.2

/-- Core makes the asset; payer and asset are all that changes. -/
theorem createAssetWithFreeze_settled (owner freeze : Pubkey) (hx : Places x t payer)
    (h : w.verified = w.ledger) (hfree : Free (w.ledger (assetPda programId t))) {n : ℕ}
    (hpay : Solvent w.ledger payer (P.rent uri + n)) :
    ∃ L', createAssetWithFreeze P x w (assetPda programId t) payer owner (configPda programId) freeze
        .mplCore .system t uri = .ok ⟨L', L', w.debits⟩ ∧ Solvent L' payer n ∧
      ∀ k, k ≠ assetPda programId t → k ≠ payer → L' k = w.ledger k := by
  have hle : P.rent uri ≤ (w.ledger payer).lamports := Nat.le_trans (Nat.le_add_right _ _) hpay.funds
  have hcreate : ∃ L', P.createV1 (assetPda programId t :: configPda programId :: x.signers)
      (assetPda programId t) payer owner (configPda programId) uri freeze false w.ledger = .ok L' ∧
      (L' payer).owner = .system ∧ (L' payer).data = .empty ∧
      (w.ledger payer).lamports ≤ (L' payer).lamports + P.rent uri ∧
      ∀ k, k ≠ assetPda programId t → k ≠ payer → L' k = w.ledger k := by
    apply P.createV1_accepts _ _ _ hfree hpay.owner hpay.data hle
    · exact List.mem_cons_of_mem _ (List.mem_cons_of_mem _ hx.signs)
    · exact List.mem_cons_self ..
    · exact List.mem_cons_of_mem _ (List.mem_cons_self ..)
  obtain ⟨L', hL, ho, hd, hl, hk⟩ := hcreate
  refine ⟨L', ?_, ⟨ho, hd, ?_⟩, hk⟩
  · unfold createAssetWithFreeze
    simp only [require, if_true]
    exact invoke_settled h hL
  · have := hpay.funds
    omega

theorem createStateAccount_settled (hx : Places x t payer) (h : w.verified = w.ledger)
    (hfree : Free (w.ledger (statePda programId t)))
    (hpay : Solvent w.ledger payer (P.minimumBalance passportStateSpace)) :
    ∃ L', createStateAccount P x w (statePda programId t) payer .system t = .ok ⟨L', L', w.debits⟩ ∧
      (L' (statePda programId t)).owner = programId ∧
      (L' (statePda programId t)).data = Record.toData (default : PassportState) ∧
      ∀ k, k ≠ statePda programId t → k ≠ payer → L' k = w.ledger k := by
  obtain ⟨L', hc, hL, hframe⟩ := createPda_settled (d := .passportState default) h hx.signs
    ⟨hx.writes, hx.state⟩ hx.systemProgram hfree hpay
  refine ⟨L', ?_, by rw [hL], by rw [hL]; rfl, hframe⟩
  unfold createStateAccount
  simp only [require, revertIf, hfree.2.2, ne_eq, not_true, if_true, if_false]
  exact hc

/-- The state of an arriving passport is written, and passes the runtime. -/
theorem arriveState_settled (hx : Places x t payer) (h : w.verified = w.ledger)
    (hst : Free (w.ledger (statePda programId t)) ∨
      (w.ledger (statePda programId t)).lamports ≠ 0 ∧ ∃ st, HasState w.ledger t st)
    (hpay : Solvent w.ledger payer (P.minimumBalance passportStateSpace)) :
    ∃ w', arriveState P x w (statePda programId t) payer .system t = .ok w' ∧
      Written programId x w'.verified w'.ledger := by
  rcases hst with hfree | ⟨hl, st, ho, hd⟩
  · obtain ⟨L', hcreate, howner, hdata, -⟩ := createStateAccount_settled hx h hfree hpay
    have hstore := store_settled (w := ⟨L', L', w.debits⟩) (k := statePda programId t)
      (r := newUnverified t) hdata
    have harrive : arriveState P x w (statePda programId t) payer .system t =
        .ok (Exec.setData ⟨L', L', w.debits⟩ (statePda programId t) (Record.toData (newUnverified t))) := by
      unfold arriveState
      rw [if_pos hfree.2.2, hcreate]
      exact hstore
    exact ⟨_, harrive, .setData (.refl L') howner hx.state⟩
  · have hload : loadState w.ledger (statePda programId t) t = .ok st := loadState_settled ⟨ho, hd⟩
    have hstore := store_settled (w := w) (k := statePda programId t) (e := st)
      (r := { st.lapsed with custodyLocked := false, burned := false }) hd
    have harrive : arriveState P x w (statePda programId t) payer .system t =
        .ok (w.setData (statePda programId t)
          (.passportState { st.lapsed with custodyLocked := false, burned := false })) := by
      unfold arriveState
      rw [if_neg hl, hload]
      exact hstore
    have hwritten : Written programId x w.verified w.ledger := h ▸ .refl w.verified
    exact ⟨_, harrive, hwritten.setData ho hx.state⟩

/-- **An arrival goes through.** -/
theorem bridgeMint_settled {gateway receiver : Pubkey} (hkeys : x.keys = [configPda programId,
      gateway, assetPda programId t, statePda programId t, payer, receiver,
      freezePda (L gateway).owner, .mplCore, .system])
    (hx : Places x t payer) (hsign : x.isSigner gateway) (hcfg : HasConfig L cfg)
    (hbound : cfg.bridgeGateway = gateway) (hz : gateway ≠ .zero)
    (hpda : gateway = configPda (L gateway).owner)
    (hforeign : isHomeToken t cfg.tokenNamespace = false)
    (hpay : Solvent L payer (P.rent uri + P.minimumBalance passportStateSpace)) (hopen : Open L t) :
    ∃ L', execute P now x (.bridgeMint receiver t uri) L = .ok L' := by
  obtain ⟨L₁, hcreate, hpay₁, hframe⟩ := createAssetWithFreeze_settled (w := Exec.start L)
    receiver (freezePda (L gateway).owner) hx rfl hopen.asset hpay
  have hstate : L₁ (statePda programId t) = L (statePda programId t) :=
    hframe _ (by simp) (hx.ne _).symm
  obtain ⟨w', harrive, hw⟩ := arriveState_settled (P := P) (w := ⟨L₁, L₁, []⟩) hx rfl
    (by simpa [HasState, hstate] using hopen.state) hpay₁
  have hmint : bridgeMint P x (Exec.start L) receiver t uri = .ok w' := by
    have hgateway : requireGateway x cfg gateway = .ok () := by
      simp only [requireGateway, bind_ok, require_ok, exists_const]
      exact ⟨hsign, hbound ▸ hz, hbound⟩
    have hfreeze : admitBoundGatewayFreeze cfg L gateway = .ok (freezePda (L gateway).owner) := by
      simp only [admitBoundGatewayFreeze, bind_ok, revertIf_ok, require_ok, pure_ok, exists_const]
      exact ⟨hbound ▸ hz, hbound.symm, hpda, trivial⟩
    have hlive : isLiveCoreAsset L (assetPda programId t) = false := Free.not_live hopen.asset
    obtain ⟨keys, signers, writable⟩ := x
    subst hkeys
    simp only [bridgeMint, bind_ok, account_ok, require_ok, revertIf_ok, exists_const]
    exact ⟨_, rfl, _, rfl, _, rfl, _, rfl, _, rfl, _, rfl, _, rfl, _, rfl, _, rfl, hx.signs, rfl,
      cfg, loadConfig_settled hcfg, (), hgateway, _, hfreeze, rfl, by simp [hforeign],
      fun e => Bool.noConfusion (hlive.symm.trans e), rfl, _, hcreate, harrive⟩
  refine ⟨w'.ledger, ?_⟩
  show (bridgeMint P x (Exec.start L) receiver t uri >>= _) = _
  rw [hmint]
  show ((w'.verify programId x : Except Error Exec) >>= _) = _
  rw [verify_written hw]
  rfl

/-- The asset's creation leaves the address of the state as it is. -/
theorem createAssetWithFreeze_state {config freeze core systemProgram : Pubkey} {w' : Exec} {n : ℕ}
    (hx : Places x t payer) (h₀ : w.verified = w.ledger) (hpay : Solvent w.ledger payer (P.rent uri + n))
    (hconfig : config = configPda programId)
    (h : createAssetWithFreeze P x w (assetPda programId t) payer owner config freeze core systemProgram
      t uri = .ok w') :
    w'.ledger (statePda programId t) = w.ledger (statePda programId t) := by
  obtain ⟨-, rfl, rfl, hfree, -⟩ := createAssetWithFreeze_ok h
  obtain ⟨L', hsettled, -, hframe⟩ := createAssetWithFreeze_settled owner freeze
    hx h₀ hfree hpay
  subst hconfig
  obtain rfl := Except.ok.inj (h.symm.trans hsettled)
  exact hframe _ (by simp) (hx.ne _).symm

theorem createStateAccount_free {systemProgram : Pubkey} {w' : Exec}
    (h : createStateAccount P x w (statePda programId t) payer systemProgram t = .ok w') :
    Free (w.ledger (statePda programId t)) := by
  simp only [createStateAccount, bind_ok, require_ok, revertIf_ok, not_not, exists_const] at h
  obtain ⟨-, -, hz, hc⟩ := h
  obtain ⟨-, ho, he, -⟩ := createPda_ok hc
  exact ⟨ho, he, hz⟩

/-- An arrival that went through found both addresses open. -/
theorem bridgeMint_open {receiver : Pubkey} {w' : Exec} {n : ℕ} (hpayer : x.keys[4]? = some payer)
    (hx : Places x t payer) (h₀ : w.verified = w.ledger) (hpay : Solvent w.ledger payer (P.rent uri + n))
    (h : bridgeMint P x w receiver t uri = .ok w') : Open w.ledger t := by
  obtain ⟨-, -, hfree, -⟩ := bridgeMint_ok h
  simp only [bridgeMint, bind_ok, require_ok, revertIf_ok, account_ok, exists_const] at h
  obtain ⟨config, -, gateway, -, asset, -, state, -, payer', hp, owner, -, freezeAuthority, -, core,
    -, systemProgram, -, -, -, cfg, hcfg, _, -, freeze, -, -, -, -, rfl, w₁, hcreate, harrive⟩ := h
  obtain rfl : payer = payer' := Option.some.inj (hpayer.symm.trans hp)
  have hsame := createAssetWithFreeze_state hx h₀ hpay (loadConfig_ok hcfg).1 hcreate
  refine ⟨hfree, ?_⟩
  rw [← hsame]
  unfold arriveState at harrive
  split at harrive
  · simp only [bind_ok] at harrive
    obtain ⟨w₂, hc, -⟩ := harrive
    obtain ⟨rfl, -⟩ := createStateAccount_ok hc
    exact .inl (createStateAccount_free hc)
  · rename_i hl
    simp only [bind_ok] at harrive
    obtain ⟨st, hload, -⟩ := harrive
    obtain ⟨rfl, ho, hd⟩ := loadState_ok hload
    exact .inr ⟨hl, st, hsame ▸ ho, hsame ▸ hd⟩

/-- The accounts of a mint, as the program derives them. -/
def mintKeys (t : TokenId) (payer owner freeze gatewayConfig : Pubkey) : List Pubkey :=
  [configPda programId, assetPda programId t, statePda programId t, payer, owner, freeze,
    gatewayConfig, .mplCore, .system]

/-- An admitted mint of `t`: the accounts are those the program derives, and the payer can pay. -/
structure AdmittedMint (P : Platform) (L : Ledger) (x : Call) (t : TokenId) (payer : Pubkey) (uri : Text) :
    Prop where
  places : Places x t payer
  config_writable : x.isWritable (configPda programId)
  length : checkWriteUriLength uri = .ok ()
  admitted : ∃ cfg owner freeze gatewayConfig next,
    x.keys = mintKeys t payer owner freeze gatewayConfig ∧ HasConfig L cfg ∧
    admitMintPassport cfg x L payer owner freeze gatewayConfig (assetPda programId t) =
      .ok (t, next, freeze)
  solvent : Solvent L payer (P.rent uri + P.minimumBalance passportStateSpace)

/-- A mint goes through where the next token's addresses are both free. -/
theorem mintPassport_settled (h : AdmittedMint P L x t payer uri)
    (hasset : Free (L (assetPda programId t))) (hstate : Free (L (statePda programId t))) :
    ∃ L', execute P now x (.mintPassport uri) L = .ok L' := by
  obtain ⟨hx, hw, hlen, ⟨cfg, owner, freeze, gatewayConfig, next, hkeys, hcfg, hadmit⟩, hpay⟩ := h
  obtain ⟨L₁, hcreate, hpay₁, hframe₁⟩ := createAssetWithFreeze_settled (w := Exec.start L)
    owner freeze hx rfl hasset hpay
  have hstate₁ : L₁ (statePda programId t) = L (statePda programId t) :=
    hframe₁ _ (by simp) (hx.ne _).symm
  obtain ⟨L₂, hcs, howner, hdata, hframe₂⟩ := createStateAccount_settled (w := ⟨L₁, L₁, []⟩) hx rfl
    (by simpa [hstate₁] using hstate) hpay₁
  have hconfig : L₂ (configPda programId) = L (configPda programId) :=
    (hframe₂ _ (by simp) (hx.ne _).symm).trans (hframe₁ _ (by simp) (hx.ne _).symm)
  let w₃ : Exec := Exec.setData ⟨L₂, L₂, []⟩ (statePda programId t) (Record.toData (newUnverified t))
  have hconfig₃ : w₃.ledger (configPda programId) = L (configPda programId) := by
    simpa [w₃, Exec.setData, Exec.set] using hconfig
  let w₄ : Exec := w₃.setData (configPda programId)
    (Record.toData { cfg with nextTokenId := next })
  have hmint : mintPassport P x (Exec.start L) uri = .ok w₄ := by
    have hlive : isLiveCoreAsset L (assetPda programId t) = false := Free.not_live hasset
    have hst : (Exec.store ⟨L₂, L₂, []⟩ (statePda programId t) (newUnverified t) : Except Error Exec) =
      .ok w₃ := store_settled hdata
    have hcfg₃ : (w₃.store (configPda programId) { cfg with nextTokenId := next } :
        Except Error Exec) = .ok w₄ :=
      store_settled (e := cfg) (by rw [hconfig₃]; exact hcfg.2)
    obtain ⟨keys, signers, writable⟩ := x
    subst hkeys
    simp only [mintPassport, bind_ok, account_ok, revertIf_ok, Prod.exists, exists_const]
    exact ⟨(), hlen, _, rfl, _, rfl, _, rfl, _, rfl, _, rfl, _, rfl, _, rfl, _, rfl, _, rfl, cfg,
      loadConfig_settled hcfg, _, _, _, hadmit, fun e => Bool.noConfusion (hlive.symm.trans e),
      _, hcreate, _, hcs, _, hst, hcfg₃⟩
  have hw₃ : Written programId x L₂ w₃.ledger := .setData (.refl L₂) howner hx.state
  have hw₄ : Written programId x L₂ w₄.ledger :=
    hw₃.setData (by rw [hconfig₃]; exact hcfg.1) hw
  refine ⟨w₄.ledger, ?_⟩
  show (mintPassport P x (Exec.start L) uri >>= _) = _
  rw [hmint]
  show ((w₄.verify programId x : Except Error Exec) >>= _) = _
  rw [verify_written hw₄]
  rfl

/-- **When a mint goes through.**  An admitted mint is accepted exactly if the next token's
    addresses are both free. -/
theorem mint_iff (now : ℕ) (hm : AdmittedMint P L x t payer uri) :
    (∃ L', execute P now x (.mintPassport uri) L = .ok L') ↔
      Free (L (assetPda programId t)) ∧ Free (L (statePda programId t)) := by
  obtain ⟨cfg, owner, freeze, gatewayConfig, next, hkeys, -, -⟩ := hm.admitted
  constructor
  · rintro ⟨L', h⟩
    obtain ⟨w, h, -⟩ := execute_ok h
    have hpayer : x.keys[3]? = some payer := by
      rw [hkeys]
      rfl
    have hasset : x.keys[1]? = some (assetPda programId t) := by
      rw [hkeys]
      rfl
    have h : mintPassport P x (Exec.start L) uri = .ok w := h
    simp only [mintPassport, bind_ok, revertIf_ok, account_ok, Prod.exists] at h
    obtain ⟨_, -, config, -, asset, ha, state, -, payer', hp, owner, -, freezeAuthority, -,
      gatewayConfig, -, core, -, systemProgram, -, cfg', hcfg', t', next', freeze', hadmit', _, -, w₁,
      hcreate, w₂, hstate, -⟩ := h
    obtain rfl : payer = payer' := Option.some.inj (hpayer.symm.trans hp)
    obtain rfl : assetPda programId t = asset := Option.some.inj (hasset.symm.trans ha)
    obtain ⟨he, -, -, hfree, -⟩ := createAssetWithFreeze_ok hcreate
    obtain rfl : t = t' := by simpa using he
    have hsame := createAssetWithFreeze_state hm.places rfl hm.solvent (loadConfig_ok hcfg').1 hcreate
    obtain ⟨rfl, -⟩ := createStateAccount_ok hstate
    have hsfree := createStateAccount_free hstate
    rw [hsame] at hsfree
    exact ⟨hfree, hsfree⟩
  · rintro ⟨hasset, hstate⟩
    exact mintPassport_settled hm hasset hstate

end Accepts

end Passport

namespace Gateway

/-! ## §3. The gateway. -/

/-- A message a gateway sends: its way, and what it says. -/
structure Message where
  srcEid : ℕ
  sender : ℕ
  nonce : ℕ
  guid : ℕ
  sendTo : ℕ
  tokenId : TokenId
  composeFrom : ℕ
  uri : List UInt8

def Message.bytes (m : Message) : List UInt8 := composed m.sendTo m.tokenId m.composeFrom m.uri

def Message.received (m : Message) : Instruction :=
  .lzReceive m.srcEid m.sender m.nonce m.guid m.bytes

/-- The accounts of a delivery, as the two programs derive them. -/
def canonical (N : Network) (cfg : GatewayConfig) (m : Message) (payer : Pubkey) : ReceiveAccounts :=
  ⟨payer, cfg.endpointProgram, .system, Passport.programId, configPda Passport.programId,
    assetPda Passport.programId m.tokenId, statePda Passport.programId m.tokenId, freezePda programId,
    .mplCore, N.pubkey m.sendTo⟩

/-- What the endpoint is handed. -/
def handed (N : Network) (cfg : GatewayConfig) (x : Call) (payer : Pubkey) : List Pubkey :=
  if cfg.endpointProgram = N.productionEndpointV2 then
    configPda programId :: cfg.endpointProgram :: (x.keys.drop 12).take 5
  else configPda programId :: payer :: .system :: (x.keys.drop 3).take 2

/-- An authentic message is delivered with its canonical accounts: the endpoint clears it, to
    `w`, and is handed none of the passport's accounts; the gateways and the passport program are
    bound to each other. -/
structure Delivery (N : Network) (x : Call) (L : Ledger) (m : Message) (cfg : GatewayConfig)
    (pcfg : PassportConfig) (payer : Pubkey) (w : Exec) : Prop where
  signed : SignedFromOutside x
  payer_signs : x.isSigner payer
  payer_writable : x.isWritable payer
  state_writable : x.isWritable (statePda Passport.programId m.tokenId)
  config_key : configPda programId ∈ x.keys
  config : loadConfig L (configPda programId) = .ok cfg
  accounts : receiveAccounts N x cfg = .ok (canonical N cfg m payer)
  cleared : clearMessage N x (Exec.start L) cfg (canonical N cfg m payer) m.srcEid m.sender m.nonce
    m.guid m.bytes = .ok w
  apart : assetPda Passport.programId m.tokenId ∉ handed N cfg x payer ∧
    statePda Passport.programId m.tokenId ∉ handed N cfg x payer
  deployed : cfg.passportProgram = Passport.programId
  passport : Passport.HasConfig L pcfg
  bound : pcfg.bridgeGateway = configPda programId
  chain : pcfg.tokenNamespace = cfg.tokenNamespace
  words : m.sendTo < 2 ^ 256 ∧ m.tokenId < 2 ^ 256 ∧ m.uri.length < 2 ^ 64

section Deliveries

variable {P : Platform} {N : Network} {now : ℕ} {x : Call} {L L' : Ledger} {w w' : Exec} {m : Message}
  {cfg : GatewayConfig} {pcfg : PassportConfig} {payer : Pubkey}

theorem invoke_verified {p : Pubkey} {f : Ledger → Except Error Ledger}
    (h : w.invoke p x f = .ok w') : w'.verified = w'.ledger := by
  simp only [Exec.invoke, bind_ok, pure_ok] at h
  obtain ⟨w₁, -, L, -, rfl⟩ := h
  rfl

theorem planReceive_composed (hs : m.sendTo < 2 ^ 256) (ht : m.tokenId < 2 ^ 256)
    (hu : m.uri.length < 2 ^ 64) {ns : ℕ} {m' : OnftMessage} {uri : Text} {kind : ReceiveKind} :
    planReceive m.bytes ns = .ok (m', uri, kind) ↔
      m' = ⟨m.sendTo, m.tokenId, some (Abi.word m.composeFrom ++ Abi.abiEncodeString m.uri)⟩ ∧
      fromUtf8 m.uri = some uri ∧
      kind = if Passport.isHomeToken m.tokenId ns = true then .unlockHome else .mintForeign := by
  have hdecode : decode m.bytes = .ok _ := decode_composed hs ht
  unfold planReceive
  simp only [bind_ok, pure_ok, hdecode, Except.ok.injEq, exists_eq_left', uriFailClosed_composed hu,
    orRevert_ok, Prod.mk.injEq]
  constructor
  · rintro ⟨uri', hutf, rfl, rfl, rfl⟩
    exact ⟨rfl, hutf, rfl⟩
  · rintro ⟨rfl, hutf, rfl⟩
    exact ⟨uri, hutf, rfl, rfl, rfl⟩

theorem drop_cons {α : Type} {l : List α} {n : ℕ} {b : α} (h : l[n]? = some b) :
    l.drop n = b :: l.drop (n + 1) := by
  obtain ⟨hn, rfl⟩ := List.getElem?_eq_some_iff.mp h
  exact List.drop_eq_getElem_cons hn

/-- The endpoint changes what it is handed. -/
theorem clearMessage_handed (h : clearMessage N x (Exec.start L) cfg (canonical N cfg m payer) m.srcEid
      m.sender m.nonce m.guid m.bytes = .ok w) {k : Pubkey} (hk : k ∉ handed N cfg x payer) :
    w.ledger k = L k := by
  unfold clearMessage at h
  split at h
  · rename_i hp
    simp only [clearProduction, bind_ok, require_ok, account_ok, exists_const] at h
    obtain ⟨_, -, _, -, -, _, -, -, _, -, -, k₁₂, h₁₂, k₁₃, h₁₃, k₁₄, h₁₄, k₁₅, h₁₅, k₁₆, h₁₆, hi⟩ := h
    refine N.endpoint_handed (invoke_ok hi).1 k fun hmem => hk ?_
    have htake : (x.keys.drop 12).take 5 = [k₁₂, k₁₃, k₁₄, k₁₅, k₁₆] := by
      rw [drop_cons h₁₂, drop_cons h₁₃, drop_cons h₁₄, drop_cons h₁₅, drop_cons h₁₆]
      rfl
    unfold handed
    rw [if_pos hp, htake]
    simp only [canonical, List.mem_cons, List.not_mem_nil, or_false] at hmem ⊢
    tauto
  · rename_i hp
    simp only [clearMock, bind_ok, account_ok] at h
    obtain ⟨k₃, h₃, k₄, h₄, hi⟩ := h
    refine N.endpoint_handed (invoke_ok hi).1 k fun hmem => hk ?_
    have htake : (x.keys.drop 3).take 2 = [k₃, k₄] := by
      rw [drop_cons h₃, drop_cons h₄]
      rfl
    unfold handed
    rw [if_neg hp, htake]
    simp only [canonical, List.mem_cons, List.not_mem_nil, or_false] at hmem ⊢
    tauto

theorem clearMessage_verified (h : clearMessage N x (Exec.start L) cfg (canonical N cfg m payer) m.srcEid
      m.sender m.nonce m.guid m.bytes = .ok w) : w.verified = w.ledger := by
  unfold clearMessage at h
  split at h
  · simp only [clearProduction, bind_ok, require_ok, exists_const] at h
    obtain ⟨_, -, _, -, -, _, -, -, _, -, -, _, -, _, -, _, -, _, -, _, -, hi⟩ := h
    exact invoke_verified hi
  · simp only [clearMock, bind_ok] at h
    obtain ⟨_, -, _, -, hi⟩ := h
    exact invoke_verified hi

/-- The call `cpi_passport` makes. -/
def forwarded (x : Call) (accounts forced : List Pubkey) : Call :=
  ⟨accounts, accounts.filter fun k => x.isSigner k ∨ k ∈ forced, accounts.filter fun k => x.isWritable k⟩

theorem cpiPassport_execute {accounts forced : List Pubkey} {ix : Passport.Instruction}
    (h : cpiPassport P now x w Passport.programId accounts forced ix = .ok w') :
    Passport.execute P now (forwarded x accounts forced) ix w.ledger = .ok w'.ledger := by
  have hi := (invoke_ok h).1
  simp only [bind_ok, require_ok, exists_const] at hi
  exact hi.2

/-- A call of the passport program that goes through. -/
theorem cpiPassport_settled {accounts forced : List Pubkey} {ix : Passport.Instruction}
    (h : w.verified = w.ledger)
    (hix : Passport.execute P now (forwarded x accounts forced) ix w.ledger = .ok L') :
    cpiPassport P now x w Passport.programId accounts forced ix = .ok ⟨L', L', w.debits⟩ :=
  invoke_settled h <| by
    simp only [bind_ok, require_ok, exists_const]
    exact ⟨trivial, hix⟩

/-- What is left of a delivery once its message is cleared. -/
theorem lzReceive_deliver (hd : Delivery N x L m cfg pcfg payer w) :
    lzReceive P N now x (Exec.start L) m.srcEid m.sender m.nonce m.guid m.bytes = .ok w' ↔
      ∃ uri, fromUtf8 m.uri = some uri ∧ deliver P N now x w (canonical N cfg m payer)
        ⟨m.sendTo, m.tokenId, some (Abi.word m.composeFrom ++ Abi.abiEncodeString m.uri)⟩ uri
        (if Passport.isHomeToken m.tokenId cfg.tokenNamespace = true then .unlockHome else .mintForeign) =
          .ok w' := by
  simp only [lzReceive, bind_ok, require_ok, Prod.exists, exists_const,
    planReceive_composed hd.words.1 hd.words.2.1 hd.words.2.2]
  constructor
  · rintro ⟨-, cfg', hcfg, a, ha, -, -, -, -, w₁, hc, m', uri, kind, ⟨rfl, hutf, rfl⟩, hdel⟩
    obtain rfl : cfg = cfg' := Except.ok.inj (hd.config.symm.trans hcfg)
    obtain rfl : canonical N cfg m payer = a := Except.ok.inj (hd.accounts.symm.trans ha)
    obtain rfl : w = w₁ := Except.ok.inj (hd.cleared.symm.trans hc)
    exact ⟨uri, hutf, hdel⟩
  · rintro ⟨uri, hutf, hdel⟩
    exact ⟨hd.config_key, cfg, hd.config, _, hd.accounts, hd.payer_signs, rfl, hd.deployed.symm, rfl, w,
      hd.cleared, _, uri, _, ⟨rfl, hutf, rfl⟩, hdel⟩

/-- What an accepted delivery leaves, whatever it was about. -/
theorem execute_received (h : execute P N now x m.received L = .ok L') :
    ∃ w', lzReceive P N now x (Exec.start L) m.srcEid m.sender m.nonce m.guid m.bytes = .ok w' ∧
      w'.ledger = L' := by
  simp only [execute, bind_ok, pure_ok] at h
  obtain ⟨w', hp, w'', hver, rfl⟩ := h
  exact ⟨w', hp, (verify_ok hver).1.symm⟩

/-- The passport's accounts, and the two configs, are where they were. -/
structure Delivery.Cleared (w : Exec) (L : Ledger) (m : Message) (pcfg : PassportConfig) : Prop where
  asset : w.ledger (assetPda Passport.programId m.tokenId) = L (assetPda Passport.programId m.tokenId)
  state : w.ledger (statePda Passport.programId m.tokenId) = L (statePda Passport.programId m.tokenId)
  config : Passport.HasConfig w.ledger pcfg
  gateway : (w.ledger (configPda programId)).owner = programId

theorem Delivery.cleared_ledger (h : Delivery N x L m cfg pcfg payer w) : Delivery.Cleared w L m pcfg := by
  have hk : Kept L w.ledger := clearMessage_ok h.cleared
  have hu := hk (configPda Passport.programId) (.inl (.inr (.inl h.passport.1)))
  have hg := hk (configPda programId) (.inl (.inr (.inr (loadConfig_ok h.config).2.1)))
  exact ⟨clearMessage_handed h.cleared h.apart.1, clearMessage_handed h.cleared h.apart.2,
    ⟨hu.1.trans h.passport.1, hu.2.1.trans h.passport.2⟩, hg.1.trans (loadConfig_ok h.config).2.1⟩

/-- The accounts `deliver` passes on for an arrival. -/
def arrivalKeys (N : Network) (m : Message) (payer : Pubkey) : List Pubkey :=
  [configPda Passport.programId, configPda programId, assetPda Passport.programId m.tokenId,
    statePda Passport.programId m.tokenId, payer, N.pubkey m.sendTo, freezePda programId, .mplCore,
    .system]

theorem Delivery.places (h : Delivery N x L m cfg pcfg payer w) :
    Passport.Places (forwarded x (arrivalKeys N m payer) [configPda programId]) m.tokenId payer where
  signs := List.mem_filter.mpr ⟨by simp [arrivalKeys], decide_eq_true (.inl h.payer_signs)⟩
  writes := List.mem_filter.mpr ⟨by simp [arrivalKeys], decide_eq_true h.payer_writable⟩
  state := List.mem_filter.mpr ⟨by simp [arrivalKeys], decide_eq_true h.state_writable⟩
  systemProgram := by simp [forwarded, arrivalKeys]
  outside := (h.signed payer h.payer_signs).1

/-- The passport program takes the arrival. -/
theorem Delivery.arrives (now : ℕ) (hd : Delivery N x L m cfg pcfg payer w) {uri : Text}
    (hforeign : Passport.isHomeToken m.tokenId cfg.tokenNamespace = false)
    (hpay : Solvent w.ledger payer (P.rent uri + P.minimumBalance Passport.passportStateSpace))
    (hopen : Passport.Open w.ledger m.tokenId) :
    ∃ L', Passport.execute P now (forwarded x (arrivalKeys N m payer) [configPda programId])
      (.bridgeMint (N.pubkey m.sendTo) m.tokenId uri) w.ledger = .ok L' := by
  have hgateway := hd.cleared_ledger.gateway
  have hkeys : (forwarded x (arrivalKeys N m payer) [configPda programId]).keys =
      [configPda Passport.programId, configPda programId, assetPda Passport.programId m.tokenId,
        statePda Passport.programId m.tokenId, payer, N.pubkey m.sendTo,
        freezePda (w.ledger (configPda programId)).owner, .mplCore, .system] := by
    rw [hgateway]
    rfl
  have hsign : (forwarded x (arrivalKeys N m payer) [configPda programId]).isSigner
      (configPda programId) :=
    List.mem_filter.mpr ⟨by simp [arrivalKeys], decide_eq_true (.inr (List.mem_cons_self ..))⟩
  have hpda : configPda programId = configPda (w.ledger (configPda programId)).owner := by
    rw [hgateway]
  exact Passport.bridgeMint_settled hkeys hd.places hsign hd.cleared_ledger.config hd.bound (by simp)
    hpda (hd.chain ▸ hforeign) hpay hopen

/-- **When an arrival is accepted.**  An authentic message for a foreign token is accepted, and
    gives the asset to its receiver, exactly if its URI is text and the addresses of the token's
    asset and state are open. -/
theorem arrival_iff (now : ℕ) (hd : Delivery N x L m cfg pcfg payer w)
    (hforeign : Passport.isHomeToken m.tokenId cfg.tokenNamespace = false)
    (hpay : Solvent w.ledger payer
      (P.rent ((fromUtf8 m.uri).getD []) + P.minimumBalance Passport.passportStateSpace)) :
    (∃ L', execute P N now x m.received L = .ok L' ∧
      ∃ b, coreAt L' (assetPda Passport.programId m.tokenId) = some b ∧ b.owner = N.pubkey m.sendTo) ↔
      (fromUtf8 m.uri).isSome ∧ Passport.Open L m.tokenId := by
  have hcleared := hd.cleared_ledger
  have hopen : Passport.Open w.ledger m.tokenId ↔ Passport.Open L m.tokenId := by
    constructor
    · rintro ⟨ha, hs⟩
      exact ⟨hcleared.asset ▸ ha, by simpa [Passport.HasState, hcleared.state] using hs⟩
    · rintro ⟨ha, hs⟩
      exact ⟨hcleared.asset.symm ▸ ha, by simpa [Passport.HasState, hcleared.state] using hs⟩
  have hkind : (if Passport.isHomeToken m.tokenId cfg.tokenNamespace = true then ReceiveKind.unlockHome
      else .mintForeign) = .mintForeign := by
    simp [hforeign]
  constructor
  · rintro ⟨L', h, -⟩
    obtain ⟨w', h, -⟩ := execute_received h
    obtain ⟨uri, hutf, hdel⟩ := (lzReceive_deliver hd).mp h
    rw [hkind] at hdel
    simp only [deliver, bind_ok, require_ok, exists_const] at hdel
    have hexec : Passport.execute P now (forwarded x (arrivalKeys N m payer) [configPda programId])
        (.bridgeMint (N.pubkey m.sendTo) m.tokenId uri) w.ledger = .ok w'.ledger :=
      cpiPassport_execute hdel.2
    obtain ⟨w₁, hmint, -⟩ := Passport.execute_ok hexec
    rw [hutf, Option.getD_some] at hpay
    have hpayer : (forwarded x (arrivalKeys N m payer) [configPda programId]).keys[4]? = some payer := rfl
    have ho : Passport.Open w.ledger m.tokenId :=
      Passport.bridgeMint_open (w := Exec.start w.ledger) hpayer hd.places rfl hpay hmint
    exact ⟨by simp [hutf], hopen.mp ho⟩
  · rintro ⟨hutf, ho⟩
    obtain ⟨uri, hutf⟩ := Option.isSome_iff_exists.mp hutf
    rw [hutf, Option.getD_some] at hpay
    obtain ⟨L', hexec⟩ := hd.arrives (P := P) now hforeign hpay (hopen.mpr ho)
    have hrecv : lzReceive P N now x (Exec.start L) m.srcEid m.sender m.nonce m.guid m.bytes =
        .ok ⟨L', L', w.debits⟩ := by
      refine (lzReceive_deliver hd).mpr ⟨uri, hutf, ?_⟩
      rw [hkind]
      simp only [deliver, bind_ok, require_ok, exists_const]
      exact ⟨rfl, cpiPassport_settled (clearMessage_verified hd.cleared) hexec⟩
    refine ⟨L', ?_, ?_⟩
    · show (lzReceive P N now x (Exec.start L) _ _ _ _ _ >>= _) = _
      rw [hrecv]
      show ((Exec.verify programId x ⟨L', L', w.debits⟩ : Except Error Exec) >>= _) = _
      rw [verify_settled rfl]
      rfl
    · obtain ⟨w₁, hmint, hl⟩ := Passport.execute_ok hexec
      obtain ⟨freeze, st, -, -, -, hv⟩ := Passport.bridgeMint_ok hmint
      refine ⟨⟨N.pubkey m.sendTo, uri, configPda Passport.programId, false, some freeze, none⟩, ?_, rfl⟩
      rw [hl, ← view_core, hv]
      simp

end Deliveries

/-! ## §4. Runs. -/

theorem run_step_iff {P : Platform} {N : Network} {s₀ s s' : System} {as : List Action} {a : Action}
    (h : run (step P N) s₀ as = .ok s) :
    run (step P N) s₀ (as ++ [a]) = .ok s' ↔ step P N s a = .ok s' := by
  rw [run_append_ok]
  constructor
  · rintro ⟨s₁, h₁, hlast⟩
    obtain rfl := Except.ok.inj (h.symm.trans h₁)
    obtain ⟨s₂, hstep, hnil⟩ := run_cons_ok.mp hlast
    obtain rfl : s₂ = s' := Except.ok.inj hnil
    exact hstep
  · intro hstep
    exact ⟨s, h, run_cons_ok.mpr ⟨s', hstep, rfl⟩⟩

section Runs

variable {P : Platform} {N : Network} {s₀ s : System} {as : List Action}

/-- **Arrivals and mints after a run.**  After any run, an authentic message for a foreign token
    is accepted, and gives the asset to its receiver, exactly if its URI is text and the addresses
    of its asset and state are open; an admitted mint is accepted exactly if those of the next
    token are free. -/
theorem accepted_iff (hrun : run (step P N) s₀ as = .ok s) :
    (∀ x m cfg pcfg payer w, Delivery N x s.ledger m cfg pcfg payer w →
      Passport.isHomeToken m.tokenId cfg.tokenNamespace = false →
      Solvent w.ledger payer
        (P.rent ((fromUtf8 m.uri).getD []) + P.minimumBalance Passport.passportStateSpace) →
      ((∃ s', run (step P N) s₀ (as ++ [.gateway x m.received]) = .ok s' ∧
        ∃ b, coreAt s'.ledger (assetPda Passport.programId m.tokenId) = some b ∧
          b.owner = N.pubkey m.sendTo) ↔
        (fromUtf8 m.uri).isSome ∧ Passport.Open s.ledger m.tokenId)) ∧
    ∀ x t payer uri, SignedFromOutside x → Passport.AdmittedMint P s.ledger x t payer uri →
      ((∃ s', run (step P N) s₀ (as ++ [.passport x (.mintPassport uri)]) = .ok s') ↔
        Free (s.ledger (assetPda Passport.programId t)) ∧
          Free (s.ledger (statePda Passport.programId t))) := by
  constructor
  · intro x m cfg pcfg payer w hd hforeign hpay
    rw [← arrival_iff s.now hd hforeign hpay]
    simp only [run_step_iff hrun, step, bind_ok, require_ok, pure_ok, exists_const]
    constructor
    · rintro ⟨s', ⟨-, L', hL, rfl⟩, hb⟩
      exact ⟨L', hL, hb⟩
    · rintro ⟨L', hL, hb⟩
      exact ⟨_, ⟨hd.signed, L', hL, rfl⟩, hb⟩
  · intro x t payer uri hsigned hm
    rw [← Passport.mint_iff s.now hm]
    simp only [run_step_iff hrun, step, bind_ok, require_ok, pure_ok, exists_const]
    constructor
    · rintro ⟨s', -, L', hL, -⟩
      exact ⟨L', hL⟩
    · rintro ⟨L', hL⟩
      exact ⟨_, hsigned, L', hL, rfl⟩

end Runs

/-! ## §5. On the stand. -/

/-- The first token of another chain. -/
def foreignToken : TokenId := Passport.tokenIdFromParts 2 0

/-- The representation arrives, and leaves again. -/
def departedRun : List Action :=
  configured ++ [receives 1 foreignToken foreignToken 1, sends foreignToken 1]

/-- Somebody sends a lamport to where the first passport's asset will be. -/
def dustedRun : List Action :=
  configured ++ [.outside (assetPda Passport.programId (Passport.nth 1)) ⟨1, .system, .empty, false⟩]

/-- A message about the foreign token, for key 1. -/
def arriving (nonce : ℕ) (uri : List UInt8) : Message := ⟨2, 7, nonce, 0, 1, foreignToken, 0, uri⟩

def standConfig : GatewayConfig := ⟨.key 9, .program 6, Passport.programId, 1⟩

def standPassportConfig : PassportConfig :=
  ⟨.key 9, 1, 5, .program 5, configPda programId, .key 9, Passport.nth 1, []⟩

/-- The clearing of the message, where it succeeds. -/
def standCleared (L : Ledger) (nonce : ℕ) (uri : List UInt8) : Exec :=
  match clearMessage .stand (receiveCall nonce foreignToken foreignToken 1) (Exec.start L) standConfig
      (canonical .stand standConfig (arriving nonce uri) (.key 9)) 2 7 nonce 0 (arriving nonce uri).bytes with
  | .ok w => w
  | .error _ => Exec.start L

theorem stand_delivery {L : Ledger} (nonce : ℕ) (uri : List UInt8) (hu : uri.length < 2 ^ 64)
    (hcfg : loadConfig L (configPda programId) = .ok standConfig)
    (hp : Passport.HasConfig L standPassportConfig)
    (hc : (clearMessage .stand (receiveCall nonce foreignToken foreignToken 1) (Exec.start L) standConfig
      (canonical .stand standConfig (arriving nonce uri) (.key 9)) 2 7 nonce 0 (arriving nonce uri).bytes).isOk =
        true) :
    Delivery .stand (receiveCall nonce foreignToken foreignToken 1) L (arriving nonce uri) standConfig
      standPassportConfig (.key 9) (standCleared L nonce uri) where
  signed := by simp [SignedFromOutside, receiveCall, Pubkey.derivedBy]
  payer_signs := by simp [Call.isSigner, receiveCall]
  payer_writable := by simp [Call.isWritable, receiveCall]
  state_writable := by simp [Call.isWritable, receiveCall, arriving]
  config_key := by simp [receiveCall]
  config := hcfg
  accounts := rfl
  cleared := by
    unfold standCleared
    split
    · assumption
    · rename_i e he
      simp [he, Except.isOk, Except.toBool] at hc
  apart := by
    simp [handed, receiveCall, standConfig, Network.stand, arriving]
  deployed := rfl
  passport := hp
  bound := rfl
  chain := rfl
  words := ⟨by show 1 < 2 ^ 256; decide, by show foreignToken < 2 ^ 256; decide, hu⟩

/-- 1 mints the first passport. -/
def mintCall : Call :=
  let keys := Passport.mintKeys (Passport.nth 1) (.key 1) (.key 1) (freezePda programId) (configPda programId)
  ⟨keys, [.key 1], keys⟩

theorem stand_admitted {L : Ledger} (hp : Passport.HasConfig L standPassportConfig)
    (ha : Passport.admitMintPassport standPassportConfig mintCall L (.key 1) (.key 1)
      (freezePda programId) (configPda programId) (assetPda Passport.programId (Passport.nth 1)) =
        .ok (Passport.nth 1, Passport.nth 2, freezePda programId))
    (hpay : Solvent L (.key 1) (Platform.reference.rent ['a'] +
      Platform.reference.minimumBalance Passport.passportStateSpace)) :
    Passport.AdmittedMint .reference L mintCall (Passport.nth 1) (.key 1) ['a'] where
  places := by
    refine ⟨?_, ?_, ?_, ?_, rfl⟩ <;>
      simp [Call.isSigner, Call.isWritable, mintCall, Passport.mintKeys]
  config_writable := by simp [Call.isWritable, mintCall, Passport.mintKeys]
  length := by decide
  admitted := ⟨standPassportConfig, .key 1, freezePda programId, configPda programId, Passport.nth 2,
    rfl, hp, ha⟩
  solvent := hpay

/-- **An arrival is blocked.**  A token came and left; its next message finds Core's byte at the
    address of its asset and is refused.  And a mint is refused where somebody sent a lamport to
    the address of the next asset. -/
theorem departed_arrival : Genesis stand ∧
    (∃ s x m cfg pcfg payer w, run (step .reference .stand) stand departedRun = .ok s ∧
      Delivery .stand x s.ledger m cfg pcfg payer w ∧
      Passport.isHomeToken m.tokenId cfg.tokenNamespace = false ∧
      Solvent w.ledger payer (Platform.reference.rent ((fromUtf8 m.uri).getD []) +
        Platform.reference.minimumBalance Passport.passportStateSpace) ∧
      (fromUtf8 m.uri).isSome ∧
      isLiveCoreAsset s.ledger (assetPda Passport.programId m.tokenId) = false ∧
      ¬ ∃ s', run (step .reference .stand) stand (departedRun ++ [.gateway x m.received]) = .ok s') ∧
    ∃ s x payer uri, run (step .reference .stand) stand dustedRun = .ok s ∧
      Passport.AdmittedMint .reference s.ledger x (Passport.nth 1) payer uri ∧ SignedFromOutside x ∧
      ¬ ∃ s', run (step .reference .stand) stand (dustedRun ++ [.passport x (.mintPassport uri)]) = .ok s' := by
  have hrefused : ∀ {as : List Action}, (run (step .reference .stand) stand as).isOk = false →
      ¬ ∃ s', run (step .reference .stand) stand as = .ok s' := by
    rintro as h ⟨s', hs⟩
    simp [hs, Except.isOk, Except.toBool] at h
  refine ⟨stand_genesis, ⟨finalState (step .reference .stand) stand departedRun,
    receiveCall 2 foreignToken foreignToken 1, arriving 2 [97], standConfig, standPassportConfig, .key 9, _,
    run_finalState (by decide +kernel), stand_delivery 2 [97] (by decide) (by decide +kernel)
      ⟨by decide +kernel, by decide +kernel⟩ (by decide +kernel), by decide,
    ⟨by decide +kernel, by decide +kernel, by decide +kernel⟩, by decide +kernel, by decide +kernel,
    hrefused (by decide +kernel)⟩, ?_⟩
  exact ⟨finalState (step .reference .stand) stand dustedRun, mintCall, .key 1, ['a'],
    run_finalState (by decide +kernel), stand_admitted ⟨by decide +kernel, by decide +kernel⟩
      (by decide +kernel) ⟨by decide +kernel, by decide +kernel, by decide +kernel⟩, by decide,
    hrefused (by decide +kernel)⟩

/-- The first arrival, and the first mint, go through. -/
theorem accepted_iff_stand : (∃ s', run (step .reference .stand) stand
      (configured ++ [.gateway (receiveCall 1 foreignToken foreignToken 1) (arriving 1 [97]).received]) =
        .ok s' ∧ ∃ b, coreAt s'.ledger (assetPda Passport.programId foreignToken) = some b ∧
          b.owner = .key 1) ∧
    ∃ s', run (step .reference .stand) stand (configured ++ [.passport mintCall (.mintPassport ['a'])]) =
      .ok s' := by
  have hrun : run (step .reference .stand) stand configured = .ok _ := run_finalState (by decide +kernel)
  have hp : Passport.HasConfig (finalState (step .reference .stand) stand configured).ledger
      standPassportConfig := ⟨by decide +kernel, by decide +kernel⟩
  have hdelivery := stand_delivery (L := (finalState (step .reference .stand) stand configured).ledger)
    1 [97] (by decide) (by decide +kernel) hp (by decide +kernel)
  constructor
  · refine ((accepted_iff hrun).1 _ _ _ _ _ _ hdelivery (by decide)
      ⟨by decide +kernel, by decide +kernel, by decide +kernel⟩).mpr ⟨by decide +kernel, ?_⟩
    exact ⟨by decide +kernel, .inl (by decide +kernel)⟩
  · exact ((accepted_iff hrun).2 _ _ _ _ (by decide) (stand_admitted hp (by decide +kernel)
      ⟨by decide +kernel, by decide +kernel, by decide +kernel⟩)).mpr
        ⟨by decide +kernel, by decide +kernel⟩

end Gateway

end Kargain.Svm
