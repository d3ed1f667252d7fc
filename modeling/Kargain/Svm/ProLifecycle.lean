/-
  Kargain.Svm.ProLifecycle — what becomes of a stake.

  A wallet is idle, active or unbonding, and its stake account and the
  events say the same of it (`Sound`).  The stake account holds its rent
  and the recorded amount, and lamports leave it only when the wallet
  claims (`PaidOnClaim`).

  A wallet joins at three addresses that are derived from it, and they
  must be clear (`join_accepted_iff`).  Closing a pass leaves Core's byte
  at one of them, and anyone can send lamports to another: after that
  the wallet never joins again (`rejoin_refused`).
-/
import Kargain.Svm.ProStaking

namespace Kargain.ProSvm

open Kargain.Accounts
open Kargain.Svm (Text u64Max saturatingAdd)

/-! ## §1. What the calls do to accounts. -/

section Calls

variable {P : Platform} {now : ℕ} {x : Call} {L L' : Ledger} {w w' : Exec}

theorem createAccount_ok {n : ℕ} {payer account programId : Pubkey}
    (h : createAccount x n payer account programId L = .ok L') :
    payer ∈ x.signers ∧ Free (L account) ∧ n < u64Max ∧
      L' account = ⟨n, programId, .zeros, false⟩ ∧
      ∀ k, k ≠ account → k ≠ payer → L' k = L k := by
  simp only [createAccount, bind_ok, require_ok, pure_ok, exists_const] at h
  obtain ⟨⟨hs, -⟩, hfree, -, ⟨-, hn⟩, rfl⟩ := h
  refine ⟨hs, hfree, hn, by simp, ?_⟩
  intro k hk hkp
  simp [hk, hkp]

theorem systemTransfer_ok {src dst : Pubkey} {n : ℕ} (h : systemTransfer x src dst n L = .ok L') :
    src ∈ x.signers ∧ (L src).owner = .system ∧ (L src).data = .empty ∧
      (src ≠ dst → L' dst = { L dst with lamports := (L dst).lamports + n }) ∧
      ∀ k, k ≠ dst → k ≠ src → L' k = L k := by
  simp only [systemTransfer, bind_ok, require_ok, pure_ok, exists_const] at h
  obtain ⟨⟨hs, -⟩, ⟨ho, hd⟩, -, rfl⟩ := h
  refine ⟨hs, ho, hd, ?_, ?_⟩
  · intro hne
    simp [Ne.symm hne]
  · intro k hk hks
    simp [hk, hks]

theorem addLamports_ok {k : Pubkey} {n : ℕ} (h : addLamports w k n = .ok w') :
    w' = w.setLamports k ((w.ledger k).lamports + n) := by
  simp only [addLamports, bind_ok, pure_ok, exists_const, revertIf_ok] at h
  obtain ⟨-, rfl⟩ := h
  rfl

theorem writeStake_ok {stake : Pubkey} {r : StakeAccount} (h : writeStake w stake r = .ok w') :
    w' = w.setData stake (.stake r) := by
  unfold writeStake at h
  split at h
  · exact (Except.ok.inj h).symm
  · exact (Except.ok.inj h).symm
  · cases h

@[simp] theorem setData_ledger (w : Exec) (k : Pubkey) (d : Data) :
    (w.setData k d).ledger = Function.update w.ledger k { w.ledger k with data := d } := rfl

@[simp] theorem setLamports_ledger (w : Exec) (k : Pubkey) (n : ℕ) :
    (w.setLamports k n).ledger = Function.update w.ledger k { w.ledger k with lamports := n } := rfl

@[simp] theorem assign_ledger (w : Exec) (k program : Pubkey) :
    (w.assign k program).ledger = Function.update w.ledger k { w.ledger k with owner := program } :=
  rfl

@[simp] theorem start_ledger (L : Ledger) : (Exec.start L).ledger = L := rfl

theorem isLive_of_coreAt {k : Pubkey} {a : CoreAsset} (h : coreAt L k = some a) :
    isLiveCoreAsset (L k) := by
  unfold coreAt at h
  split at h
  · rename_i ho
    split at h
    · rename_i hd
      exact ⟨ho, by simp [hd], by simp [hd]⟩
    · cases h
  · cases h

theorem Pass.loadConfig_ok {config : Pubkey} {cfg : PassConfig}
    (h : Pass.loadConfig config L = .ok cfg) :
    config = .config .proPass ∧ (L config).owner = .proPass ∧
      (L config).data = .passConfig cfg := by
  simp only [Pass.loadConfig, bind_ok, require_ok, load_ok, exists_const] at h
  exact h

theorem loadConfig_ok {config : Pubkey} {cfg : StakingConfig} (h : loadConfig config L = .ok cfg) :
    config = .config .proStaking ∧ (L config).owner = .proStaking ∧
      (L config).data = .stakingConfig cfg := by
  simp only [loadConfig, bind_ok, require_ok, load_ok, exists_const] at h
  exact h

theorem loadStake_ok {stake wallet : Pubkey} {s : StakeAccount}
    (h : loadStake stake wallet L = .ok s) :
    stake = .stake .proStaking wallet ∧ (L stake).owner = .proStaking ∧
      (L stake).data = .stake s := by
  simp only [loadStake, bind_ok, require_ok, load_ok, exists_const] at h
  exact h

theorem Pass.requireStakingSigner_ok {cfg : PassConfig} {stakingConfig : Pubkey} {u : Unit}
    (h : Pass.requireStakingSigner cfg stakingConfig x L = .ok u) :
    stakingConfig ∈ x.signers ∧ stakingConfig = .config cfg.stakingProgram := by
  simp only [Pass.requireStakingSigner, bind_ok, require_ok, exists_const] at h
  exact ⟨h.1, h.2.1⟩

/-- **Minting**, by a payer that is a wallet: the asset and the record were free addresses. -/
theorem Pass.mint_ok {category : ℕ} {name uri : Text}
    (h : Pass.mint P now category name uri x L = .ok L')
    (hout : ∀ k ∈ x.signers, k.derivedBy .proPass = false) :
    ∃ cfg stakingConfig holder payer, x.keys[1]? = some stakingConfig ∧
      x.keys[2]? = some holder ∧ x.keys[6]? = some payer ∧
      (L (.config .proPass)).data = .passConfig cfg ∧ stakingConfig ∈ x.signers ∧
      stakingConfig = .config cfg.stakingProgram ∧
      Free (L (.pass .proPass holder)) ∧ Free (L (.passMeta .proPass holder)) ∧
      0 < (L' (.pass .proPass holder)).lamports ∧ isLiveCoreAsset (L' (.pass .proPass holder)) ∧
      ∀ k, k ≠ .pass .proPass holder → k ≠ .passMeta .proPass holder → k ≠ payer → L' k = L k := by
  simp only [Pass.mint, bind_ok, account_ok, require_ok, revertIf_ok, pure_ok, exists_const] at h
  obtain ⟨config, -, stakingConfig, h1, holder, h2, asset, -, passMeta, -, freeze, -, payer, h6,
    core, -, systemProgram, -, cfg, hcfg, _, hsigner, hpayer, -, -, -, rfl, -, rfl, hmeta, -, -, -,
    w₁, hcreate, w₂, hrecord, w₃, hverify, rfl⟩ := h
  replace hpayer := hout payer hpayer
  have hpass : payer ≠ .pass .proPass holder := by
    rintro rfl
    simp [Pubkey.derivedBy] at hpayer
  have hpassMeta : payer ≠ .passMeta .proPass holder := by
    rintro rfl
    simp [Pubkey.derivedBy] at hpayer
  obtain ⟨hfree, hpos, hlive, hframe⟩ := P.createV1_ok (invoke_ok hcreate).1
  have hsame : w₁.ledger (.passMeta .proPass holder) = L (.passMeta .proPass holder) :=
    hframe _ (by simp) (Ne.symm hpassMeta)
  obtain ⟨hfreeMeta, hframe'⟩ : Free (L (.passMeta .proPass holder)) ∧
      ∀ k, k ≠ .passMeta .proPass holder → k ≠ payer → w₂.ledger k = w₁.ledger k := by
    unfold createMeta at hrecord
    split at hrecord
    · obtain ⟨-, hfreeMeta, -, -, hframe'⟩ := createAccount_ok (invoke_ok hrecord).1
      rw [hsame] at hfreeMeta
      exact ⟨hfreeMeta, hframe'⟩
    · -- a record with lamports was refused
      rename_i hthere
      rw [hsame] at hthere
      refine absurd ⟨fun he => hthere (.inl he), ?_⟩ hmeta
      exact Nat.pos_of_ne_zero fun he => hthere (.inr he)
  have hL : w₃.ledger = Function.update w₂.ledger (.passMeta .proPass holder)
      { w₂.ledger (.passMeta .proPass holder) with
        data := .passMeta ⟨holder, category, name, uri, now⟩ } :=
    (verify_ok hverify).1
  have hasset : w₃.ledger (.pass .proPass holder) = w₁.ledger (.pass .proPass holder) := by
    rw [hL, Function.update_of_ne (by simp), hframe' _ (by simp) (Ne.symm hpass)]
  obtain ⟨hstaking, hderived⟩ := Pass.requireStakingSigner_ok hsigner
  obtain ⟨rfl, -, hdata⟩ := Pass.loadConfig_ok hcfg
  refine ⟨cfg, stakingConfig, holder, payer, h1, h2, h6, hdata, hstaking, hderived, hfree,
    hfreeMeta, ?_, ?_, ?_⟩
  · rw [hasset]
    exact hpos
  · rw [hasset]
    exact isLive_of_coreAt hlive
  · intro k hk hkm hkp
    rw [hL, Function.update_of_ne hkm, hframe' k hkm hkp]
    exact hframe k hk hkp

/-- **Closing a pass**: what is not its own keeps owner and data and loses no lamports. -/
theorem Pass.closePass_ok {holder : Pubkey} (h : Pass.closePass P holder x L = .ok L') :
    ∃ cfg stakingConfig payer, x.keys[1]? = some stakingConfig ∧
      x.keys[7]? = some payer ∧ (L (.config .proPass)).data = .passConfig cfg ∧
      stakingConfig ∈ x.signers ∧ stakingConfig = .config cfg.stakingProgram ∧
      ∀ k, k ≠ .pass .proPass holder → k ≠ .passMeta .proPass holder → k ≠ payer →
        (L k).Untouched (L' k) := by
  simp only [Pass.closePass, bind_ok, account_ok, require_ok, pure_ok, exists_const] at h
  obtain ⟨config, -, stakingConfig, h1, asset, -, passMeta, -, freeze, -, holderAi, -,
    rentRecipient, -, payer, h7, core, -, systemProgram, -, cfg, hcfg, _, hsigner, -, -, rfl, -, -,
    w₁, hburn, w₂, hclose, w₃, hverify, rfl⟩ := h
  obtain ⟨hstaking, hderived⟩ := Pass.requireStakingSigner_ok hsigner
  obtain ⟨rfl, -, hdata⟩ := Pass.loadConfig_ok hcfg
  refine ⟨cfg, stakingConfig, payer, h1, h7, hdata, hstaking, hderived, ?_⟩
  intro k hk hkm hkp
  have hburnt : w₁.ledger k = L k := by
    simp only [Pass.thawAndBurn, bind_ok, require_ok, exists_const] at hburn
    obtain ⟨-, w₀, hthaw, hburn⟩ := hburn
    obtain ⟨-, hthawed⟩ := P.updatePluginV1_ok (invoke_ok hthaw).1
    obtain ⟨-, -, -, -, hburned⟩ := P.burnV1_ok (invoke_ok hburn).1
    rw [hburned k hk hkp]
    exact hthawed k hk hkp
  have hclosed : (w₁.ledger k).Untouched (w₂.ledger k) := by
    unfold Pass.closeMeta at hclose
    split at hclose
    · rename_i hmeta
      simp only [bind_ok, pure_ok] at hclose
      obtain ⟨w, hadd, rfl⟩ := hclose
      obtain rfl := addLamports_ok hadd
      obtain rfl := hmeta.1
      by_cases hr : k = rentRecipient
      · subst hr
        simp [hkm, Account.Untouched]
      · simp [hkm, hr, Account.Untouched]
    · obtain rfl := pure_ok.mp hclose
      exact .refl _
  rw [(verify_ok hverify).1, ← hburnt]
  exact hclosed

/-! ## §2. What the instructions do. -/

/-- A system-owned account without data. -/
def Vacant (a : Account Pubkey Data) : Prop :=
  a.owner = .system ∧ a.data = .empty

/-- The stake account of a wallet is not there, or is one. -/
def StakeAddress (a : Account Pubkey Data) : Prop :=
  Vacant a ∨ a.owner = .proStaking ∧ ∃ r, a.data = .stake r

theorem signer_ne {v k : Pubkey} (hout : Outside x) (hv : v ∈ x.signers)
    (hk : k.derivedBy .proStaking = true ∨ k.derivedBy .proPass = true) : v ≠ k := by
  rintro rfl
  have h := hout v hv
  rcases hk with hk | hk
  · simp [hk] at h
  · simp [hk] at h

/-- The lamports `join` takes for the stake account. -/
def deposit (P : Platform) (a : Account Pubkey Data) (amount : ℕ) : ℕ :=
  if a.data = .empty then P.minimumBalance stakeAccountSpace + amount else amount

/-- The stake account is paid for. -/
theorem join_paid {v : Pubkey} {amount : ℕ} {existing : Option StakeAccount} {u : Unit}
    (haddr : StakeAddress (L (.stake .proStaking v))) (hne : v ≠ .stake .proStaking v)
    (hexisting : existingStake (.stake .proStaking v) v L = .ok existing)
    (hcan : requireCanJoin existing = .ok u)
    (hpaid : (if (L (.stake .proStaking v)).data = .empty ∨ (L (.stake .proStaking v)).lamports = 0
      then createAccount x (saturatingAdd (P.minimumBalance stakeAccountSpace) amount) v
        (.stake .proStaking v) .proStaking
      else systemTransfer x v (.stake .proStaking v) amount) L = .ok L') :
    ((L (.stake .proStaking v)).data = .empty ∧ (L (.stake .proStaking v)).lamports = 0 ∨
      ∃ r, (L (.stake .proStaking v)).data = .stake r ∧ r.active = false ∧ r.unlockAt = 0 ∧
        r.amount = 0) ∧
    (L' (.stake .proStaking v)).owner = .proStaking ∧
    (L' (.stake .proStaking v)).lamports =
      (L (.stake .proStaking v)).lamports + deposit P (L (.stake .proStaking v)) amount ∧
    ∀ k, k ≠ .stake .proStaking v → k ≠ v → L' k = L k := by
  rcases haddr with ⟨-, hempty⟩ | ⟨howner, r, hr⟩
  · rw [if_pos (.inl hempty)] at hpaid
    obtain ⟨-, ⟨-, -, hzero⟩, hlt, haccount, hframe⟩ := createAccount_ok hpaid
    refine ⟨.inl ⟨hempty, hzero⟩, by rw [haccount], ?_, hframe⟩
    rw [haccount, deposit, if_pos hempty, hzero]
    show saturatingAdd _ amount = _
    unfold saturatingAdd at hlt ⊢
    omega
  · have hdata : (L (.stake .proStaking v)).data ≠ .empty := by simp [hr]
    obtain ⟨hactive, hunlock, hamount⟩ :
        r.active = false ∧ r.unlockAt = 0 ∧ r.amount = 0 := by
      unfold existingStake at hexisting
      rw [if_pos ⟨howner, hdata⟩] at hexisting
      cases hload : loadStake (.stake .proStaking v) v L with
      | error e =>
        rw [hload] at hexisting
        cases hexisting
      | ok r' =>
        obtain ⟨-, -, hr'⟩ := loadStake_ok hload
        obtain rfl : r = r' := Data.stake.inj (hr.symm.trans hr')
        rw [hload] at hexisting
        obtain rfl := Except.ok.inj hexisting
        simp only [requireCanJoin, bind_ok, revertIf_ok, exists_const] at hcan
        obtain ⟨hactive, hpending⟩ := hcan
        refine ⟨by simpa using hactive, ?_, ?_⟩
        · omega
        · omega
    refine ⟨.inr ⟨r, hr, hactive, hunlock, hamount⟩, ?_⟩
    split at hpaid
    · -- an account with data is not created
      obtain ⟨-, ⟨-, hempty, -⟩, -⟩ := createAccount_ok hpaid
      exact absurd hempty hdata
    · obtain ⟨-, -, -, hdst, hframe⟩ := systemTransfer_ok hpaid
      rw [hdst hne, deposit, if_neg hdata]
      exact ⟨howner, rfl, hframe⟩

/-- **Joining.** -/
theorem join_ok {amount category : ℕ} {name uri : Text} {e : Option Event}
    (h : join P now amount category name uri x L = .ok (L', e)) (hout : Outside x)
    (haddr : ∀ v, StakeAddress (L (.stake .proStaking v))) :
    ∃ v, v ∈ x.signers ∧ e = some (.verifierJoined v amount) ∧
      ((L (.stake .proStaking v)).data = .empty ∧ (L (.stake .proStaking v)).lamports = 0 ∨
        ∃ r, (L (.stake .proStaking v)).data = .stake r ∧ r.active = false ∧ r.unlockAt = 0 ∧
          r.amount = 0) ∧
      (L' (.stake .proStaking v)).owner = .proStaking ∧
      (L' (.stake .proStaking v)).data = .stake ⟨v, amount, now, true, 0, 0⟩ ∧
      (L' (.stake .proStaking v)).lamports =
        (L (.stake .proStaking v)).lamports + deposit P (L (.stake .proStaking v)) amount ∧
      Free (L (.pass .proPass v)) ∧ Free (L (.passMeta .proPass v)) ∧
      0 < (L' (.pass .proPass v)).lamports ∧ isLiveCoreAsset (L' (.pass .proPass v)) ∧
      ∀ k, k ≠ .stake .proStaking v → k ≠ .pass .proPass v → k ≠ .passMeta .proPass v → k ≠ v →
        L' k = L k := by
  simp only [join, bind_ok, account_ok, require_ok, revertIf_ok, pure_ok, exists_const,
    Prod.mk.injEq] at h
  obtain ⟨config, -, stake, -, v, -, passProgram, -, passConfig, -, passAsset, -, passMeta, -,
    passFreeze, -, core, -, systemProgram, -, hv, cfg, hcfg, -, -, rfl, existing, hexisting, _,
    hcan, w₁, hpaid, w₂, hwritten, w₃, hmint, w₄, hverify, rfl, rfl⟩ := h
  have hstake : v ≠ .stake .proStaking v := signer_ne hout hv (.inl (by simp [Pubkey.derivedBy]))
  obtain ⟨hcan', howner, hlamports, hframe⟩ :=
    join_paid (haddr v) hstake hexisting hcan (invoke_ok hpaid).1
  obtain rfl := writeStake_ok hwritten
  simp only [invokeSigned, bind_ok] at hmint
  obtain ⟨_, -, hmint⟩ := hmint
  obtain ⟨rfl, -, -⟩ := loadConfig_ok hcfg
  have hpayer : ∀ k ∈ (mintCall passConfig (.config .proStaking) v passAsset passMeta passFreeze
      core systemProgram).signers, k.derivedBy .proPass = false := by
    intro k hk
    have hk' : k = .config .proStaking ∨ k = v := by simpa [mintCall] using hk
    rcases hk' with rfl | rfl
    · rfl
    · exact (hout k hv).2
  obtain ⟨cfg', stakingConfig, holder, payer, -, h2, h6, -, -, -, hfree, hfreeMeta, hpos, hlive,
    hmintFrame⟩ := Pass.mint_ok (invoke_ok hmint).1 hpayer
  obtain rfl : v = holder := Option.some.inj h2
  obtain rfl : v = payer := Option.some.inj h6
  have hkept : w₃.ledger (.stake .proStaking v) =
      { w₁.ledger (.stake .proStaking v) with data := .stake ⟨v, amount, now, true, 0, 0⟩ } := by
    rw [hmintFrame _ (by simp) (by simp) (Ne.symm hstake)]
    exact Function.update_self ..
  have hbefore {k : Pubkey} (hk : k ≠ .stake .proStaking v) (hkv : k ≠ v) :
      (w₁.setData (.stake .proStaking v) (.stake ⟨v, amount, now, true, 0, 0⟩)).ledger k = L k := by
    rw [setData_ledger, Function.update_of_ne hk]
    exact hframe k hk hkv
  have hpassNe : v ≠ .pass .proPass v := signer_ne hout hv (.inr (by simp [Pubkey.derivedBy]))
  have hmetaNe : v ≠ .passMeta .proPass v := signer_ne hout hv (.inr (by simp [Pubkey.derivedBy]))
  rw [hbefore (by simp) (Ne.symm hpassNe)] at hfree
  rw [hbefore (by simp) (Ne.symm hmetaNe)] at hfreeMeta
  refine ⟨v, hv, rfl, hcan', ?_⟩
  rw [(verify_ok hverify).1, hkept]
  refine ⟨howner, rfl, hlamports, hfree, hfreeMeta, hpos, hlive, ?_⟩
  intro k hk hkp hkm hkv
  rw [hmintFrame k hkp hkm hkv]
  exact hbefore hk hkv

/-- A verifier's instruction on its stake account: the record is rewritten. -/
theorem rewritten {stake : Pubkey} {r : StakeAccount} (h : writeStake w stake r = .ok w') :
    (w'.ledger stake).owner = (w.ledger stake).owner ∧
      (w'.ledger stake).lamports = (w.ledger stake).lamports ∧
      (w'.ledger stake).data = .stake r ∧ ∀ k, k ≠ stake → w'.ledger k = w.ledger k := by
  obtain rfl := writeStake_ok h
  refine ⟨by simp, by simp, by simp, ?_⟩
  intro k hk
  simp [hk]

/-- **Leaving.** -/
theorem leave_ok {e : Option Event} (h : leave now x L = .ok (L', e)) :
    ∃ v r unlockAt, v ∈ x.signers ∧ e = some (.verifierLeft v r.amount unlockAt) ∧
      (L (.stake .proStaking v)).owner = .proStaking ∧
      (L (.stake .proStaking v)).data = .stake r ∧ r.active = true ∧
      (0 < now → 0 < unlockAt) ∧
      (L' (.stake .proStaking v)).owner = .proStaking ∧
      (L' (.stake .proStaking v)).lamports = (L (.stake .proStaking v)).lamports ∧
      (L' (.stake .proStaking v)).data =
        .stake { r with active := false, unlockAt := unlockAt, verificationFee := 0 } ∧
      ∀ k, k ≠ .stake .proStaking v → L' k = L k := by
  simp only [leave, bind_ok, account_ok, require_ok, pure_ok, exists_const, Prod.mk.injEq] at h
  obtain ⟨config, -, stake, -, v, -, hv, cfg, -, r, hload, hactive, w₁, hwritten, w₂, hverify, rfl,
    rfl⟩ := h
  obtain ⟨rfl, howner, hr⟩ := loadStake_ok hload
  obtain ⟨howner', hlamports, hdata, hframe⟩ := rewritten hwritten
  refine ⟨v, r, saturatingAdd now cfg.unbondingPeriodSecs, hv, rfl, howner, hr, hactive, ?_, ?_⟩
  · unfold saturatingAdd u64Max
    omega
  rw [(verify_ok hverify).1]
  exact ⟨howner'.trans howner, hlamports, hdata, hframe⟩

/-- **Claiming.** -/
theorem claimStake_ok {e : Option Event} (h : claimStake P now x L = .ok (L', e))
    (hout : Outside x) :
    ∃ v r, v ∈ x.signers ∧ e = some (.claimWithdrawn v r.amount) ∧
      (L (.stake .proStaking v)).owner = .proStaking ∧
      (L (.stake .proStaking v)).data = .stake r ∧ r.active = false ∧ r.unlockAt ≠ 0 ∧
      r.unlockAt ≤ now ∧ (L' (.stake .proStaking v)).owner = .proStaking ∧
      (L' (.stake .proStaking v)).lamports + r.amount = (L (.stake .proStaking v)).lamports ∧
      (L' (.stake .proStaking v)).data =
        .stake { r with amount := 0, unlockAt := 0, stakedAt := 0 } ∧
      L' v = { L v with lamports := (L v).lamports + r.amount } ∧
      ∀ k, k ≠ .stake .proStaking v → k ≠ v → L' k = L k := by
  simp only [claimStake, bind_ok, account_ok, require_ok, revertIf_ok, pure_ok, exists_const,
    Prod.mk.injEq] at h
  obtain ⟨config, -, stake, -, v, -, hv, cfg, -, r, hload, hunbond, hready, -, henough, w₁, hadd,
    w₂, hwritten, w₃, hverify, rfl, rfl⟩ := h
  obtain ⟨rfl, howner, hr⟩ := loadStake_ok hload
  obtain rfl := addLamports_ok hadd
  obtain ⟨howner', hlamports, hdata, hframe⟩ := rewritten hwritten
  have hne : v ≠ .stake .proStaking v := signer_ne hout hv (.inl (by simp [Pubkey.derivedBy]))
  refine ⟨v, r, hv, rfl, howner, hr, ?_, ?_, by omega, ?_⟩
  · simpa using fun hactive => hunbond (.inl hactive)
  · exact fun hzero => hunbond (.inr hzero)
  rw [(verify_ok hverify).1, howner', hlamports, hdata, hframe v hne]
  simp only [setLamports_ledger, start_ledger]
  refine ⟨?_, ?_, trivial, ?_, ?_⟩
  · simp [Ne.symm hne, howner]
  · simp only [Function.update_of_ne (Ne.symm hne), Function.update_self]
    omega
  · simp [hne]
  · intro k hk hkv
    rw [hframe k hk]
    simp [hk, hkv]

/-- **A new fee.** -/
theorem setVerificationFee_ok {fee : ℕ} {e : Option Event}
    (h : setVerificationFee fee x L = .ok (L', e)) :
    ∃ v r, v ∈ x.signers ∧ e = some (.verificationFeeUpdated v fee) ∧
      (L (.stake .proStaking v)).owner = .proStaking ∧
      (L (.stake .proStaking v)).data = .stake r ∧ r.active = true ∧
      (L' (.stake .proStaking v)).owner = .proStaking ∧
      (L' (.stake .proStaking v)).lamports = (L (.stake .proStaking v)).lamports ∧
      (L' (.stake .proStaking v)).data = .stake { r with verificationFee := fee } ∧
      ∀ k, k ≠ .stake .proStaking v → L' k = L k := by
  simp only [setVerificationFee, bind_ok, account_ok, require_ok, pure_ok, exists_const,
    Prod.mk.injEq] at h
  obtain ⟨config, -, stake, -, v, -, hv, cfg, -, r, hload, hactive, w₁, hwritten, w₂, hverify, rfl,
    rfl⟩ := h
  obtain ⟨rfl, howner, hr⟩ := loadStake_ok hload
  obtain ⟨howner', hlamports, hdata, hframe⟩ := rewritten hwritten
  refine ⟨v, r, hv, rfl, howner, hr, hactive, ?_⟩
  rw [(verify_ok hverify).1]
  exact ⟨howner'.trans howner, hlamports, hdata, hframe⟩

/-- **A new minimum.** -/
theorem setMinStakeNative_ok {lamports : ℕ} {e : Option Event}
    (h : setMinStakeNative lamports x L = .ok (L', e)) :
    ∃ cfg, e = none ∧ (L (.config .proStaking)).owner = .proStaking ∧
      (L (.config .proStaking)).data = .stakingConfig cfg ∧
      L' (.config .proStaking) = { L (.config .proStaking) with
        data := .stakingConfig { cfg with minStakeLamports := lamports } } ∧
      ∀ k, k ≠ .config .proStaking → L' k = L k := by
  simp only [setMinStakeNative, requireConfigAuthority, bind_ok, account_ok, require_ok,
    revertIf_ok, pure_ok, exists_const, Prod.mk.injEq] at h
  obtain ⟨config, -, authority, -, _, ⟨cfg, hcfg, -, -, rfl⟩, -, w₁, hverify, rfl, rfl⟩ := h
  obtain ⟨rfl, howner, hdata⟩ := loadConfig_ok hcfg
  refine ⟨cfg, rfl, howner, hdata, ?_⟩
  rw [(verify_ok hverify).1]
  refine ⟨by simp, ?_⟩
  intro k hk
  simp [hk]

/-- **Closing a pass**, through the staking program. -/
theorem closePass_ok {e : Option Event} (h : closePass P x L = .ok (L', e)) :
    ∃ v, v ∈ x.signers ∧ e = none ∧
      ∀ k, k ≠ .pass .proPass v → k ≠ .passMeta .proPass v → k ≠ v → (L k).Untouched (L' k) := by
  simp only [closePass, bind_ok, account_ok, require_ok, revertIf_ok, pure_ok, exists_const,
    Prod.mk.injEq] at h
  obtain ⟨config, -, stake, -, v, -, passProgram, -, passConfig, -, passAsset, -, passMeta, -,
    passFreeze, -, rentRecipient, -, core, -, systemProgram, -, hv, cfg, -, -, r, -, -, w₁, hclosed,
    w₂, hverify, rfl, rfl⟩ := h
  simp only [invokeSigned, bind_ok] at hclosed
  obtain ⟨_, -, hclosed⟩ := hclosed
  obtain ⟨cfg', stakingConfig, payer, -, h7, -, -, -, hframe⟩ :=
    Pass.closePass_ok (invoke_ok hclosed).1
  obtain rfl : v = payer := Option.some.inj h7
  refine ⟨v, hv, rfl, ?_⟩
  rw [(verify_ok hverify).1]
  exact hframe

/-- The two programs are set up and bound to each other. -/
structure Configured (L : Ledger) : Prop where
  staking : (L (.config .proStaking)).owner = .proStaking ∧
    0 < (L (.config .proStaking)).lamports ∧
    ∃ cfg, (L (.config .proStaking)).data = .stakingConfig cfg ∧ cfg.passProgram = .proPass
  pass : (L (.config .proPass)).owner = .proPass ∧ 0 < (L (.config .proPass)).lamports ∧
    ∃ cfg, (L (.config .proPass)).data = .passConfig cfg ∧ cfg.stakingProgram = .proStaking

/-- Nobody outside mints or closes a pass: the staking program signs for that. -/
theorem Configured.no_signer (hL : Configured L) (hout : Outside x) {cfg : PassConfig}
    {k : Pubkey} (hcfg : (L (.config .proPass)).data = .passConfig cfg) (hk : k ∈ x.signers)
    (hderived : k = .config cfg.stakingProgram) : False := by
  obtain ⟨-, -, cfg', hcfg', hbound⟩ := hL.pass
  obtain rfl : cfg = cfg' := Data.passConfig.inj (hcfg.symm.trans hcfg')
  have h := (hout k hk).1
  rw [hderived, hbound] at h
  simp [Pubkey.derivedBy] at h

theorem initializeConfig_refused {passProgram : Pubkey} {minStake floor period : ℕ}
    {r : Ledger × Option Event} (hL : Configured L) :
    initializeConfig P passProgram minStake floor period x L ≠ .ok r := by
  intro h
  simp only [initializeConfig, bind_ok, require_ok, revertIf_ok, exists_const] at h
  obtain ⟨config, -, authority, -, _, -, -, -, -, rfl, hempty, -⟩ := h
  obtain ⟨-, -, cfg, hcfg, -⟩ := hL.staking
  simp [hcfg] at hempty

theorem Pass.initializeConfig_refused {stakingProgram : Pubkey} (hL : Configured L) :
    Pass.initializeConfig P stakingProgram x L ≠ .ok L' := by
  intro h
  simp only [Pass.initializeConfig, bind_ok, require_ok, exists_const] at h
  obtain ⟨config, -, authority, -, _, -, -, -, rfl, hempty, -⟩ := h
  obtain ⟨-, -, cfg, hcfg, -⟩ := hL.pass
  simp [hcfg] at hempty

theorem Pass.mint_refused {category : ℕ} {name uri : Text} (hout : Outside x)
    (hL : Configured L) : Pass.mint P now category name uri x L ≠ .ok L' := by
  intro h
  obtain ⟨cfg, k, holder, payer, -, -, -, hcfg, hk, hderived, -⟩ :=
    Pass.mint_ok h fun k hk => (hout k hk).2
  exact hL.no_signer hout hcfg hk hderived

theorem Pass.closePass_refused {holder : Pubkey} (hout : Outside x) (hL : Configured L) :
    Pass.closePass P holder x L ≠ .ok L' := by
  intro h
  obtain ⟨cfg, k, payer, -, -, hcfg, hk, hderived, -⟩ := Pass.closePass_ok h
  exact hL.no_signer hout hcfg hk hderived

theorem map_ok {ε α β : Type} {f : α → β} {r : Except ε α} {b : β} :
    f <$> r = .ok b ↔ ∃ a, r = .ok a ∧ f a = b := by
  cases r with
  | error e =>
    constructor
    · intro h
      cases h
    · rintro ⟨_, h, -⟩
      cases h
  | ok a =>
    show Except.ok (f a) = .ok b ↔ _
    simp

/-! ## §3. Phases. -/

/-- Where a wallet stands. -/
inductive Phase
  | idle
  | active (amount : ℕ)
  | unbonding (amount unlockAt : ℕ)
deriving DecidableEq

def StakeAccount.phase (r : StakeAccount) : Phase :=
  if r.active = true then .active r.amount
  else if r.unlockAt = 0 then .idle
  else .unbonding r.amount r.unlockAt

/-- What the stake account of a wallet says. -/
def phaseAt (L : Ledger) (v : Pubkey) : Phase :=
  match (L (.stake .proStaking v)).data with
  | .stake r => r.phase
  | _ => .idle

theorem phaseAt_of_data {v : Pubkey} {r : StakeAccount}
    (h : (L (.stake .proStaking v)).data = .stake r) : phaseAt L v = r.phase := by
  simp [phaseAt, h]

theorem phaseAt_congr {v : Pubkey}
    (h : (L' (.stake .proStaking v)).data = (L (.stake .proStaking v)).data) :
    phaseAt L' v = phaseAt L v := by
  rw [phaseAt, phaseAt, h]

/-- Whose event it is. -/
def Event.wallet : Event → Pubkey
  | .verifierJoined v _ | .verifierLeft v _ _ | .claimWithdrawn v _
  | .verificationFeeUpdated v _ => v

/-- What the events say, newest first: active from a join on, unbonding from the leave on. -/
def phaseOf (v : Pubkey) : List (ℕ × Event) → Phase
  | [] => .idle
  | (_, e) :: es =>
    if e.wallet = v then
      match e with
      | .verifierJoined _ amount => .active amount
      | .verifierLeft _ amount unlockAt => .unbonding amount unlockAt
      | .claimWithdrawn _ _ => .idle
      | .verificationFeeUpdated _ _ => phaseOf v es
    else phaseOf v es

/-- May the event come in this phase, at this time?  A wallet is paid what it joined with, and
    not before the unlock time. -/
def Event.allowedIn (now : ℕ) : Event → Phase → Prop
  | .verifierJoined _ _, phase => phase = .idle
  | .verifierLeft _ amount _, phase => phase = .active amount
  | .claimWithdrawn _ amount, phase =>
    ∃ unlockAt, phase = .unbonding amount unlockAt ∧ unlockAt ≤ now
  | .verificationFeeUpdated _ _, phase => ∃ amount, phase = .active amount

/-- The events of a wallet come in order. -/
def Lawful (v : Pubkey) : List (ℕ × Event) → Prop
  | [] => True
  | (now, e) :: es => (e.wallet = v → e.allowedIn now (phaseOf v es)) ∧ Lawful v es

/-- What an instruction does to the stake account of a wallet, by the event it logs. -/
inductive StakeStep (P : Platform) (now : ℕ) (v : Pubkey) (L L' : Ledger) : Option Event → Prop
  | quiet {e : Option Event} (he : ∀ e' ∈ e, e'.wallet ≠ v)
      (h : (L (.stake .proStaking v)).Untouched (L' (.stake .proStaking v))) :
      StakeStep P now v L L' e
  | joined (amount : ℕ) (hidle : phaseAt L v = .idle)
      (howner : (L' (.stake .proStaking v)).owner = .proStaking)
      (hlamports : (L' (.stake .proStaking v)).lamports =
        (L (.stake .proStaking v)).lamports + deposit P (L (.stake .proStaking v)) amount)
      (hdata : (L' (.stake .proStaking v)).data = .stake ⟨v, amount, now, true, 0, 0⟩) :
      StakeStep P now v L L' (some (.verifierJoined v amount))
  | left (r : StakeAccount) (unlockAt : ℕ) (hr : (L (.stake .proStaking v)).data = .stake r)
      (hactive : r.active = true) (hunlock : 0 < unlockAt)
      (howner : (L' (.stake .proStaking v)).owner = .proStaking)
      (hlamports : (L' (.stake .proStaking v)).lamports = (L (.stake .proStaking v)).lamports)
      (hdata : (L' (.stake .proStaking v)).data =
        .stake { r with active := false, unlockAt := unlockAt, verificationFee := 0 }) :
      StakeStep P now v L L' (some (.verifierLeft v r.amount unlockAt))
  | claimed (r : StakeAccount) (hr : (L (.stake .proStaking v)).data = .stake r)
      (hinactive : r.active = false) (hunlock : r.unlockAt ≠ 0) (hready : r.unlockAt ≤ now)
      (howner : (L' (.stake .proStaking v)).owner = .proStaking)
      (hlamports : (L' (.stake .proStaking v)).lamports + r.amount =
        (L (.stake .proStaking v)).lamports)
      (hdata : (L' (.stake .proStaking v)).data =
        .stake { r with amount := 0, unlockAt := 0, stakedAt := 0 })
      (hwallet : L' v = { L v with lamports := (L v).lamports + r.amount }) :
      StakeStep P now v L L' (some (.claimWithdrawn v r.amount))
  | fee (r : StakeAccount) (fee : ℕ) (hr : (L (.stake .proStaking v)).data = .stake r)
      (hactive : r.active = true)
      (howner : (L' (.stake .proStaking v)).owner = .proStaking)
      (hlamports : (L' (.stake .proStaking v)).lamports = (L (.stake .proStaking v)).lamports)
      (hdata : (L' (.stake .proStaking v)).data = .stake { r with verificationFee := fee }) :
      StakeStep P now v L L' (some (.verificationFeeUpdated v fee))

theorem phaseOf_other {v : Pubkey} {now : ℕ} {e : Event} {es : List (ℕ × Event)}
    (h : e.wallet ≠ v) : phaseOf v ((now, e) :: es) = phaseOf v es := by
  simp [phaseOf, h]

theorem untouched_of_eq {a b : Account Pubkey Data} (h : b = a) : a.Untouched b :=
  h ▸ .refl _

/-- **One instruction**, for every wallet. -/
theorem processInstruction_stake {ix : Instruction} {e : Option Event}
    (h : processInstruction P now x L ix = .ok (L', e)) (hout : Outside x) (hL : Configured L)
    (haddr : ∀ v, StakeAddress (L (.stake .proStaking v))) (hnow : 0 < now) (v : Pubkey) :
    StakeStep P now v L L' e := by
  have hsigner {u : Pubkey} (hu : u ∈ x.signers) : Pubkey.stake .proStaking v ≠ u :=
    Ne.symm (signer_ne hout hu (.inl (by simp [Pubkey.derivedBy])))
  cases ix with
  | initializeConfig passProgram minStake floor period =>
    exact absurd h (initializeConfig_refused hL)
  | join amount category name uri =>
    obtain ⟨u, hu, rfl, hcan, howner, hdata, hlamports, -, -, -, -, hframe⟩ := join_ok h hout haddr
    by_cases huv : u = v
    · subst huv
      refine .joined amount ?_ howner hlamports hdata
      rcases hcan with ⟨hempty, -⟩ | ⟨r, hr, hinactive, hunlock, -⟩
      · simp [phaseAt, hempty]
      · rw [phaseAt_of_data hr]
        simp [StakeAccount.phase, hinactive, hunlock]
    · refine .quiet (by simpa [Event.wallet] using huv) (untouched_of_eq ?_)
      exact hframe _ (by simpa using Ne.symm huv) (by simp) (by simp) (hsigner hu)
  | leave =>
    obtain ⟨u, r, unlockAt, hu, rfl, -, hr, hactive, hunlock, howner, hlamports, hdata, hframe⟩ :=
      leave_ok h
    by_cases huv : u = v
    · subst huv
      exact .left r unlockAt hr hactive (hunlock hnow) howner hlamports hdata
    · refine .quiet (by simpa [Event.wallet] using huv) (untouched_of_eq ?_)
      exact hframe _ (by simpa using Ne.symm huv)
  | claimStake =>
    obtain ⟨u, r, hu, rfl, -, hr, hinactive, hunlock, hready, howner, hlamports, hdata, hwallet,
      hframe⟩ := claimStake_ok h hout
    by_cases huv : u = v
    · subst huv
      exact .claimed r hr hinactive hunlock hready howner hlamports hdata hwallet
    · refine .quiet (by simpa [Event.wallet] using huv) (untouched_of_eq ?_)
      exact hframe _ (by simpa using Ne.symm huv) (hsigner hu)
  | setVerificationFee fee =>
    obtain ⟨u, r, hu, rfl, -, hr, hactive, howner, hlamports, hdata, hframe⟩ :=
      setVerificationFee_ok h
    by_cases huv : u = v
    · subst huv
      exact .fee r fee hr hactive howner hlamports hdata
    · refine .quiet (by simpa [Event.wallet] using huv) (untouched_of_eq ?_)
      exact hframe _ (by simpa using Ne.symm huv)
  | setMinStakeNative lamports =>
    obtain ⟨cfg, rfl, -, -, -, hframe⟩ := setMinStakeNative_ok h
    exact .quiet (by simp) (untouched_of_eq (hframe _ (by simp)))
  | closePass =>
    obtain ⟨u, hu, rfl, hframe⟩ := closePass_ok h
    exact .quiet (by simp) (hframe _ (by simp) (by simp) (hsigner hu))
  | passInitialize stakingProgram =>
    obtain ⟨_, hmade, -⟩ := map_ok.mp h
    exact absurd hmade (Pass.initializeConfig_refused hL)
  | passMint category name uri =>
    obtain ⟨_, hminted, -⟩ := map_ok.mp h
    exact absurd hminted (Pass.mint_refused hout hL)
  | passClosePass holder =>
    obtain ⟨_, hclosed, -⟩ := map_ok.mp h
    exact absurd hclosed (Pass.closePass_refused hout hL)

end Calls

/-! ## §4. Runs. -/

section Runs

variable {P : Platform} {s s' : State} {a : Step} {v : Pubkey}

/-- A stake account with its rent and what is recorded. -/
structure Staked (P : Platform) (a : Account Pubkey Data) (r : StakeAccount) : Prop where
  owner : a.owner = .proStaking
  data : a.data = .stake r
  backed : P.minimumBalance stakeAccountSpace + r.amount ≤ a.lamports
  settled : r.active = false → r.unlockAt = 0 → r.amount = 0

/-- The stake account of a wallet holds what it must and says what the events say. -/
structure Sound (P : Platform) (s : State) (v : Pubkey) : Prop where
  address : Vacant (s.ledger (.stake .proStaking v)) ∨
    ∃ r, Staked P (s.ledger (.stake .proStaking v)) r
  phase : phaseAt s.ledger v = phaseOf v s.events
  lawful : Lawful v s.events

theorem Sound.stakeAddress (h : Sound P s v) : StakeAddress (s.ledger (.stake .proStaking v)) :=
  h.address.imp id fun ⟨r, hr⟩ => ⟨hr.owner, r, hr.data⟩

theorem Sound.staked (h : Sound P s v) {r : StakeAccount}
    (hr : (s.ledger (.stake .proStaking v)).data = .stake r) :
    Staked P (s.ledger (.stake .proStaking v)) r := by
  rcases h.address with ⟨-, hempty⟩ | ⟨r', hr'⟩
  · cases hr.symm.trans hempty
  · obtain rfl : r = r' := Data.stake.inj (hr.symm.trans hr'.data)
    exact hr'

theorem Staked.untouched {a b : Account Pubkey Data} {r : StakeAccount} (h : Staked P a r)
    (hab : a.Untouched b) : Staked P b r :=
  ⟨hab.1.trans h.owner, hab.2.1.trans h.data, Nat.le_trans h.backed hab.2.2, h.settled⟩

/-- An account that is left alone, by events that are not the wallet's. -/
theorem Sound.quiet (h : Sound P s v)
    (hab : (s.ledger (.stake .proStaking v)).Untouched (s'.ledger (.stake .proStaking v)))
    (hphase : phaseOf v s'.events = phaseOf v s.events) (hlawful : Lawful v s'.events) :
    Sound P s' v := by
  refine ⟨?_, ?_, hlawful⟩
  · rcases h.address with ⟨ho, hd⟩ | ⟨r, hr⟩
    · exact .inl ⟨hab.1.trans ho, hab.2.1.trans hd⟩
    · exact .inr ⟨r, hr.untouched hab⟩
  · rw [phaseAt_congr hab.2.1, h.phase, hphase]

/-- **One instruction** keeps a wallet's account sound. -/
theorem Sound.instruction {L' : Ledger} {e : Option Event} (h : Sound P s v)
    (hstep : StakeStep P s.now v s.ledger L' e) :
    Sound P ⟨L', s.now, e.toList.map (s.now, ·) ++ s.events⟩ v := by
  cases hstep with
  | quiet he hab =>
    cases e with
    | none => exact h.quiet hab rfl h.lawful
    | some e =>
      have hne : e.wallet ≠ v := he e rfl
      exact h.quiet hab (phaseOf_other hne) ⟨fun hv => absurd hv hne, h.lawful⟩
  | joined amount hidle howner hlamports hdata =>
    have hbacked : P.minimumBalance stakeAccountSpace + amount ≤
        (L' (.stake .proStaking v)).lamports := by
      rw [hlamports, deposit]
      rcases h.address with ⟨-, hempty⟩ | ⟨r, hr⟩
      · rw [if_pos hempty]
        omega
      · have := hr.backed
        rw [if_neg (by simp [hr.data])]
        omega
    refine ⟨.inr ⟨_, howner, hdata, hbacked, by simp⟩, ?_, ?_, h.lawful⟩
    · rw [phaseAt_of_data hdata]
      simp [StakeAccount.phase, phaseOf, Event.wallet]
    · intro _
      exact h.phase.symm.trans hidle
  | left r unlockAt hr hactive hunlock howner hlamports hdata =>
    have hstaked := h.staked hr
    refine ⟨.inr ⟨_, howner, hdata, ?_, ?_⟩, ?_, ?_, h.lawful⟩
    · rw [hlamports]
      exact hstaked.backed
    · intro _ hzero
      exact absurd hzero (by simpa using Nat.pos_iff_ne_zero.mp hunlock)
    · rw [phaseAt_of_data hdata]
      simp [StakeAccount.phase, phaseOf, Event.wallet, Nat.pos_iff_ne_zero.mp hunlock]
    · intro _
      refine h.phase.symm.trans ?_
      rw [phaseAt_of_data hr]
      simp [StakeAccount.phase, hactive]
  | claimed r hr hinactive hunlock hready howner hlamports hdata hwallet =>
    have hstaked := h.staked hr
    refine ⟨.inr ⟨_, howner, hdata, ?_, by simp⟩, ?_, ?_, h.lawful⟩
    · have := hstaked.backed
      show _ + 0 ≤ (L' (.stake .proStaking v)).lamports
      omega
    · rw [phaseAt_of_data hdata]
      simp [StakeAccount.phase, phaseOf, Event.wallet, hinactive]
    · intro _
      refine ⟨r.unlockAt, h.phase.symm.trans ?_, hready⟩
      rw [phaseAt_of_data hr]
      simp [StakeAccount.phase, hinactive, hunlock]
  | fee r fee hr hactive howner hlamports hdata =>
    have hstaked := h.staked hr
    have hphase : phaseOf v s.events = .active r.amount := by
      rw [← h.phase, phaseAt_of_data hr]
      simp [StakeAccount.phase, hactive]
    refine ⟨.inr ⟨_, howner, hdata, ?_, ?_⟩, ?_, ?_, h.lawful⟩
    · rw [hlamports]
      exact hstaked.backed
    · intro hinactive
      simp [hactive] at hinactive
    · rw [phaseAt_of_data hdata]
      simp [StakeAccount.phase, phaseOf, Event.wallet, hactive, hphase]
    · intro _
      exact ⟨r.amount, hphase⟩

theorem Configured.untouched {L L' : Ledger} (h : Configured L)
    (hs : (L (.config .proStaking)).Untouched (L' (.config .proStaking)))
    (hp : (L (.config .proPass)).Untouched (L' (.config .proPass))) : Configured L' := by
  refine ⟨⟨hs.1.trans h.staking.1, Nat.lt_of_lt_of_le h.staking.2.1 hs.2.2, ?_⟩,
    hp.1.trans h.pass.1, Nat.lt_of_lt_of_le h.pass.2.1 hp.2.2, ?_⟩
  · rw [hs.2.1]
    exact h.staking.2.2
  · rw [hp.2.1]
    exact h.pass.2.2

/-- **One instruction** leaves the programs bound. -/
theorem processInstruction_configured {now : ℕ} {x : Call} {L L' : Ledger} {ix : Instruction}
    {e : Option Event} (h : processInstruction P now x L ix = .ok (L', e)) (hout : Outside x)
    (hL : Configured L) (haddr : ∀ v, StakeAddress (L (.stake .proStaking v))) : Configured L' := by
  have hs {u : Pubkey} (hu : u ∈ x.signers) : Pubkey.config .proStaking ≠ u :=
    Ne.symm (signer_ne hout hu (.inl (by simp [Pubkey.derivedBy])))
  have hp {u : Pubkey} (hu : u ∈ x.signers) : Pubkey.config .proPass ≠ u :=
    Ne.symm (signer_ne hout hu (.inr (by simp [Pubkey.derivedBy])))
  cases ix with
  | initializeConfig passProgram minStake floor period =>
    exact absurd h (initializeConfig_refused hL)
  | join amount category name uri =>
    obtain ⟨u, hu, -, -, -, -, -, -, -, -, -, hframe⟩ := join_ok h hout haddr
    exact hL.untouched (untouched_of_eq (hframe _ (by simp) (by simp) (by simp) (hs hu)))
      (untouched_of_eq (hframe _ (by simp) (by simp) (by simp) (hp hu)))
  | leave =>
    obtain ⟨u, r, unlockAt, -, -, -, -, -, -, -, -, -, hframe⟩ := leave_ok h
    exact hL.untouched (untouched_of_eq (hframe _ (by simp))) (untouched_of_eq (hframe _ (by simp)))
  | claimStake =>
    obtain ⟨u, r, hu, -, -, -, -, -, -, -, -, -, -, hframe⟩ := claimStake_ok h hout
    exact hL.untouched (untouched_of_eq (hframe _ (by simp) (hs hu)))
      (untouched_of_eq (hframe _ (by simp) (hp hu)))
  | setVerificationFee fee =>
    obtain ⟨u, r, -, -, -, -, -, -, -, -, hframe⟩ := setVerificationFee_ok h
    exact hL.untouched (untouched_of_eq (hframe _ (by simp))) (untouched_of_eq (hframe _ (by simp)))
  | setMinStakeNative lamports =>
    obtain ⟨cfg, -, howner, hdata, hnew, hframe⟩ := setMinStakeNative_ok h
    obtain ⟨-, hpos, cfg', hcfg', hbound⟩ := hL.staking
    obtain rfl : cfg = cfg' := Data.stakingConfig.inj (hdata.symm.trans hcfg')
    refine ⟨?_, ?_⟩
    · rw [hnew]
      exact ⟨howner, hpos, _, rfl, hbound⟩
    · rw [hframe _ (by simp)]
      exact hL.pass
  | closePass =>
    obtain ⟨u, hu, -, hframe⟩ := closePass_ok h
    exact hL.untouched (hframe _ (by simp) (by simp) (hs hu)) (hframe _ (by simp) (by simp) (hp hu))
  | passInitialize stakingProgram =>
    obtain ⟨_, hmade, -⟩ := map_ok.mp h
    exact absurd hmade (Pass.initializeConfig_refused hL)
  | passMint category name uri =>
    obtain ⟨_, hminted, -⟩ := map_ok.mp h
    exact absurd hminted (Pass.mint_refused hout hL)
  | passClosePass holder =>
    obtain ⟨_, hclosed, -⟩ := map_ok.mp h
    exact absurd hclosed (Pass.closePass_refused hout hL)

/-- A transfer takes lamports from its signer only. -/
theorem transfer_untouched {x : Call} {src dst k : Pubkey} {n : ℕ} {L L' : Ledger}
    (h : systemTransfer x src dst n L = .ok L') (hk : src ≠ k) : (L k).Untouched (L' k) := by
  obtain ⟨-, -, -, hdst, hframe⟩ := systemTransfer_ok h
  by_cases hkd : k = dst
  · subst hkd
    rw [hdst hk]
    exact ⟨rfl, rfl, Nat.le_add_right ..⟩
  · exact untouched_of_eq (hframe k hkd (Ne.symm hk))

/-- Sweeping leaves an account with lamports alone. -/
theorem swept_of_pos {L : Ledger} {k : Pubkey} (h : 0 < (L k).lamports) : swept L k = L k := by
  simp [swept, Nat.pos_iff_ne_zero.mp h]

/-- What holds in every state of a run. -/
structure Invariant (P : Platform) (s : State) : Prop where
  configured : Configured s.ledger
  sound : ∀ v, Sound P s v
  time : 0 < s.now

theorem Invariant.stakeAddress (h : Invariant P s) (v : Pubkey) :
    StakeAddress (s.ledger (.stake .proStaking v)) :=
  (h.sound v).stakeAddress

theorem Invariant.swept (h : Invariant P s) :
    Invariant P { s with ledger := ProSvm.swept s.ledger } := by
  refine ⟨?_, fun v => ?_, h.time⟩
  · refine h.configured.untouched (untouched_of_eq ?_) (untouched_of_eq ?_)
    · exact swept_of_pos h.configured.staking.2.1
    · exact swept_of_pos h.configured.pass.2.1
  · refine (h.sound v).quiet ?_ rfl (h.sound v).lawful
    show (s.ledger _).Untouched (ProSvm.swept s.ledger _)
    rcases (h.sound v).address with ⟨ho, hd⟩ | ⟨r, hr⟩
    · unfold ProSvm.swept
      split
      · rename_i hzero
        exact ⟨ho.symm, hd.symm, by simp [hzero]⟩
      · exact .refl _
    · refine untouched_of_eq (swept_of_pos ?_)
      exact Nat.lt_of_lt_of_le (P.minimumBalance_pos stakeAccountSpace)
        (Nat.le_trans (Nat.le_add_right ..) hr.backed)

theorem step_call {ix : Instruction} {x : Call} (h : step P s (.call ix x) = .ok s') :
    Outside x ∧ ∃ L' e, processInstruction P s.now x s.ledger ix = .ok (L', e) ∧
      s' = ⟨L', s.now, e.toList.map (s.now, ·) ++ s.events⟩ := by
  simp only [step, bind_ok, require_ok, exists_const] at h
  obtain ⟨hout, ⟨L', e⟩, hix, h⟩ := h
  obtain rfl := pure_ok.mp h
  exact ⟨hout, L', e, hix, rfl⟩

theorem step_transfer {x : Call} {src dst : Pubkey} {n : ℕ}
    (h : step P s (.transfer x src dst n) = .ok s') :
    Outside x ∧ ∃ L', systemTransfer x src dst n s.ledger = .ok L' ∧
      s' = { s with ledger := L' } := by
  simp only [step, bind_ok, require_ok, pure_ok, exists_const] at h
  obtain ⟨hout, L', hsent, rfl⟩ := h
  exact ⟨hout, L', hsent, rfl⟩

/-- **One step.** -/
theorem Invariant.step (h : Invariant P s) (hstep : ProSvm.step P s a = .ok s') :
    Invariant P s' := by
  cases a with
  | call ix x =>
    obtain ⟨hout, L', e, hix, rfl⟩ := step_call hstep
    exact ⟨processInstruction_configured hix hout h.configured h.stakeAddress,
      fun v => (h.sound v).instruction
        (processInstruction_stake hix hout h.configured h.stakeAddress h.time v), h.time⟩
  | transfer x src dst n =>
    obtain ⟨hout, L', hsent, rfl⟩ := step_transfer hstep
    have hsrc := (systemTransfer_ok hsent).1
    have hs : src ≠ .config .proStaking := signer_ne hout hsrc (.inl (by simp [Pubkey.derivedBy]))
    have hp : src ≠ .config .proPass := signer_ne hout hsrc (.inr (by simp [Pubkey.derivedBy]))
    refine ⟨h.configured.untouched (transfer_untouched hsent hs) (transfer_untouched hsent hp),
      fun v => ?_, h.time⟩
    have hv : src ≠ .stake .proStaking v := signer_ne hout hsrc (.inl (by simp [Pubkey.derivedBy]))
    exact (h.sound v).quiet (transfer_untouched hsent hv) rfl (h.sound v).lawful
  | endTransaction =>
    obtain rfl := pure_ok.mp hstep
    exact h.swept
  | tick secs =>
    obtain rfl := pure_ok.mp hstep
    exact ⟨h.configured, fun v => (h.sound v).quiet (.refl _) rfl (h.sound v).lawful,
      Nat.lt_of_lt_of_le h.time (Nat.le_add_right ..)⟩

/-- Lamports leave the stake account of a wallet only when the wallet claims: what it joined
    with, to the wallet, from the unlock time on, and then it is idle. -/
def PaidOnClaim (s s' : State) (v : Pubkey) : Prop :=
  (s.ledger (.stake .proStaking v)).lamports ≤ (s'.ledger (.stake .proStaking v)).lamports ∧
      (∀ amount, s'.events ≠ (s.now, .claimWithdrawn v amount) :: s.events) ∨
    ∃ amount unlockAt, phaseOf v s.events = .unbonding amount unlockAt ∧ unlockAt ≤ s.now ∧
      s'.events = (s.now, .claimWithdrawn v amount) :: s.events ∧ phaseOf v s'.events = .idle ∧
      (s'.ledger (.stake .proStaking v)).lamports + amount =
        (s.ledger (.stake .proStaking v)).lamports ∧
      s'.ledger v = { s.ledger v with lamports := (s.ledger v).lamports + amount }

theorem Invariant.paidOnClaim (h : Invariant P s) (hstep : ProSvm.step P s a = .ok s')
    (v : Pubkey) : PaidOnClaim s s' v := by
  have hsame (amount : ℕ) : s.events ≠ (s.now, .claimWithdrawn v amount) :: s.events :=
    Ne.symm (List.cons_ne_self _ _)
  cases a with
  | call ix x =>
    obtain ⟨hout, L', e, hix, rfl⟩ := step_call hstep
    cases processInstruction_stake hix hout h.configured h.stakeAddress h.time v with
    | quiet he hab =>
      refine .inl ⟨hab.2.2, fun amount heq => ?_⟩
      cases e with
      | none => exact hsame amount heq
      | some e =>
        obtain rfl : e = .claimWithdrawn v amount := by simpa using heq
        exact he _ rfl rfl
    | joined amount hidle howner hlamports hdata =>
      exact .inl ⟨hlamports ▸ Nat.le_add_right .., by simp⟩
    | left r unlockAt hr hactive hunlock howner hlamports hdata =>
      exact .inl ⟨Nat.le_of_eq hlamports.symm, by simp⟩
    | claimed r hr hinactive hunlock hready howner hlamports hdata hwallet =>
      refine .inr ⟨r.amount, r.unlockAt, ?_, hready, rfl, ?_, hlamports, hwallet⟩
      · rw [← (h.sound v).phase, phaseAt_of_data hr]
        simp [StakeAccount.phase, hinactive, hunlock]
      · simp [phaseOf, Event.wallet]
    | fee r fee hr hactive howner hlamports hdata =>
      exact .inl ⟨Nat.le_of_eq hlamports.symm, by simp⟩
  | transfer x src dst n =>
    obtain ⟨hout, L', hsent, rfl⟩ := step_transfer hstep
    have hv : src ≠ .stake .proStaking v :=
      signer_ne hout (systemTransfer_ok hsent).1 (.inl (by simp [Pubkey.derivedBy]))
    exact .inl ⟨(transfer_untouched hsent hv).2.2, hsame⟩
  | endTransaction =>
    obtain rfl := pure_ok.mp hstep
    refine .inl ⟨?_, hsame⟩
    show (s.ledger _).lamports ≤ (ProSvm.swept s.ledger _).lamports
    unfold ProSvm.swept
    split
    · rename_i hzero
      simp [hzero]
    · exact Nat.le_refl _
  | tick secs =>
    obtain rfl := pure_ok.mp hstep
    exact .inl ⟨Nat.le_refl _, hsame⟩

end Runs

/-! ## §5. Joining again. -/

section Joining

variable {P : Platform} {now : ℕ} {x : Call} {L L' : Ledger} {w : Exec} {v : Pubkey}

theorem verify_unchanged {program : Pubkey} (h : w.verified = w.ledger) :
    (w.verify program x : Except Error Exec) = .ok w := by
  have hall : ∀ k ∈ x.keys, Permitted program (x.isWritable k) (w.verified k) (w.ledger k) := by
    intro k _
    rw [h]
    exact .inl rfl
  simp only [Exec.verify, bind_ok, require_ok, pure_ok, exists_const]
  refine ⟨hall, ?_⟩
  obtain ⟨L₁, L₂, debits⟩ := w
  obtain rfl : L₂ = L₁ := h
  rfl

/-- Its own writable account a program may write. -/
theorem verify_setData {program k : Pubkey} {d : Data} (h : w.verified = w.ledger)
    (ho : (w.ledger k).owner = program) (hw : x.isWritable k) :
    ((w.setData k d).verify program x : Except Error Exec) =
      .ok { w.setData k d with verified := (w.setData k d).ledger } := by
  have hall : ∀ k' ∈ x.keys, Permitted program (x.isWritable k') ((w.setData k d).verified k')
      ((w.setData k d).ledger k') := by
    intro k' _
    show Permitted program (x.isWritable k') (w.verified k') ((w.setData k d).ledger k')
    rw [h, setData_ledger]
    by_cases hk : k' = k
    · subst hk
      rw [Function.update_self]
      exact .inr ⟨hw, rfl, .inl ⟨ho, .inl ho⟩⟩
    · rw [Function.update_of_ne hk]
      exact .inl rfl
  simp only [Exec.verify, bind_ok, require_ok, pure_ok, exists_const]
  exact ⟨hall, trivial⟩

theorem invoke_unchanged {program : Pubkey} {f : Ledger → Except Error Ledger}
    (h : w.verified = w.ledger) (hf : f w.ledger = .ok L') :
    w.invoke program x f = .ok { w with ledger := L', verified := L' } := by
  simp only [Exec.invoke, verify_unchanged h, bind_ok, pure_ok]
  exact ⟨w, rfl, L', hf, rfl⟩

theorem invoke_setData {program k : Pubkey} {d : Data} {f : Ledger → Except Error Ledger}
    (h : w.verified = w.ledger) (ho : (w.ledger k).owner = program) (hw : x.isWritable k)
    (hf : f (w.setData k d).ledger = .ok L') :
    (w.setData k d).invoke program x f = .ok { w with ledger := L', verified := L' } := by
  simp only [Exec.invoke, verify_setData h ho hw, bind_ok, pure_ok]
  exact ⟨_, rfl, L', hf, rfl⟩

theorem createAccount_accepts {n : ℕ} {payer account programId : Pubkey} (hs : x.isSigner payer)
    (hwp : x.isWritable payer) (hwa : x.isWritable account) (hsys : .system ∈ x.keys)
    (hfree : Free (L account)) (ho : (L payer).owner = .system) (hd : (L payer).data = .empty)
    (hn : n ≤ (L payer).lamports) (hmax : n < u64Max) (hne : payer ≠ account) :
    ∃ L', createAccount x n payer account programId L = .ok L' ∧
      L' account = ⟨n, programId, .zeros, false⟩ ∧
      L' payer = { L payer with lamports := (L payer).lamports - n } := by
  let paid := Function.update L payer { L payer with lamports := (L payer).lamports - n }
  refine ⟨Function.update paid account ⟨n, programId, .zeros, false⟩, ?_, by simp, ?_⟩
  · simp only [createAccount, bind_ok, require_ok, exists_const]
    exact ⟨⟨hs, hwp, hwa, hsys⟩, hfree, ⟨ho, hd⟩, ⟨hn, hmax⟩, rfl⟩
  · simp [paid, hne]

theorem systemTransfer_accepts {n : ℕ} {src dst : Pubkey} (hs : x.isSigner src)
    (hws : x.isWritable src) (hwd : x.isWritable dst) (hsys : .system ∈ x.keys)
    (ho : (L src).owner = .system) (hd : (L src).data = .empty) (hn : n ≤ (L src).lamports)
    (hne : src ≠ dst) :
    ∃ L', systemTransfer x src dst n L = .ok L' ∧
      L' dst = { L dst with lamports := (L dst).lamports + n } ∧
      L' src = { L src with lamports := (L src).lamports - n } := by
  let paid := Function.update L src { L src with lamports := (L src).lamports - n }
  refine ⟨Function.update paid dst { paid dst with lamports := (paid dst).lamports + n },
    ?_, ?_, ?_⟩
  · simp only [systemTransfer, bind_ok, require_ok, exists_const]
    exact ⟨⟨hs, hws, hwd, hsys⟩, ⟨ho, hd⟩, hn, rfl⟩
  · simp [paid, Ne.symm hne]
  · simp [paid, hne]

/-- What a wallet asks to join with. -/
structure Application where
  amount : ℕ
  category : ℕ
  name : Text
  metadataUri : Text

/-- The least stake. -/
def minStake (L : Ledger) : ℕ :=
  match (L (.config .proStaking)).data with
  | .stakingConfig cfg => cfg.minStakeLamports
  | _ => 0

/-- The checks of the arguments. -/
def Application.Valid (j : Application) (L : Ledger) : Prop :=
  minStake L ≤ j.amount ∧ j.name ≠ [] ∧ j.metadataUri ≠ [] ∧
    j.metadataUri.byteLen ≤ passportUriCeilingBytes ∧ j.category ≤ maxCategory

/-- The record of the pass. -/
def Application.record (j : Application) (v : Pubkey) (now : ℕ) : PassMeta :=
  ⟨v, j.category, j.name, j.metadataUri, now⟩

instance (j : Application) (L : Ledger) : Decidable (j.Valid L) :=
  inferInstanceAs (Decidable (_ ∧ _))

/-- A wallet that has what joining costs: the stake with its rent if it has no stake account yet,
    and the rent of the asset and of the record.  There are fewer lamports than `u64::MAX`. -/
def CanPay (P : Platform) (now : ℕ) (L : Ledger) (v : Pubkey) (j : Application) : Prop :=
  (L v).owner = .system ∧ (L v).data = .empty ∧ (L v).lamports < u64Max ∧
    deposit P (L (.stake .proStaking v)) j.amount + P.rent j.name j.metadataUri +
      P.minimumBalance (j.record v now).space ≤ (L v).lamports

instance (j : Application) : Decidable (CanPay P now L v j) :=
  inferInstanceAs (Decidable (_ ∧ _))

/-- Nothing of an earlier cycle or an outsider stands at the addresses of the wallet. -/
def Clear (L : Ledger) (v : Pubkey) : Prop :=
  ((L (.stake .proStaking v)).data ≠ .empty ∨ (L (.stake .proStaking v)).lamports = 0) ∧
    Free (L (.pass .proPass v)) ∧ Free (L (.passMeta .proPass v))

/-- The canonical accounts of `join`. -/
def joinCall (v : Pubkey) : Call :=
  ⟨[.config .proStaking, .stake .proStaking v, v, .proPass, .config .proPass, .pass .proPass v,
    .passMeta .proPass v, .freeze .proPass, .mplCore, .system], [v],
    [.stake .proStaking v, v, .config .proPass, .pass .proPass v, .passMeta .proPass v]⟩

/-- What `join` hands on. -/
abbrev joinMintCall (v : Pubkey) : Call :=
  mintCall (.config .proPass) (.config .proStaking) v (.pass .proPass v) (.passMeta .proPass v)
    (.freeze .proPass) .mplCore .system

/-- A wallet is not an address the programs derive. -/
def IsWallet (v : Pubkey) : Prop := v.derivedBy .proStaking = false ∧ v.derivedBy .proPass = false

theorem IsWallet.ne {k : Pubkey} (h : IsWallet v)
    (hk : k.derivedBy .proStaking = true ∨ k.derivedBy .proPass = true) : v ≠ k := by
  rintro rfl
  rcases hk with hk | hk
  · exact absurd (h.1.symm.trans hk) (by decide)
  · exact absurd (h.2.symm.trans hk) (by decide)

/-- **Minting is accepted** for the staking program, at free addresses. -/
theorem Pass.mint_accepts (P : Platform) (now : ℕ) {j : Application} (hL : Configured L)
    (hv : IsWallet v) (hj : j.Valid L) (hpass : Free (L (.pass .proPass v)))
    (hmeta : Free (L (.passMeta .proPass v)))
    (ho : (L v).owner = .system) (hd : (L v).data = .empty) (hmax : (L v).lamports < u64Max)
    (hpay : P.rent j.name j.metadataUri + P.minimumBalance (j.record v now).space ≤
      (L v).lamports) :
    ∃ L', Pass.mint P now j.category j.name j.metadataUri (joinMintCall v) L = .ok L' := by
  obtain ⟨hpo, -, cfg, hcfg, hbound⟩ := hL.pass
  obtain ⟨-, hname, huri, hlen, hcategory⟩ := hj
  have hnePass : v ≠ .pass .proPass v := hv.ne (.inr (by simp [Pubkey.derivedBy]))
  have hneMeta : v ≠ .passMeta .proPass v := hv.ne (.inr (by simp [Pubkey.derivedBy]))
  obtain ⟨L₁, hcreate, ho₁, hd₁, hpaid⟩ : ∃ L₁,
      P.createV1 (.pass .proPass v :: .config .proPass :: (joinMintCall v).signers)
        (.pass .proPass v) v v (.config .proPass) j.name j.metadataUri (.freeze .proPass) true L =
          .ok L₁ ∧ (L₁ v).owner = .system ∧ (L₁ v).data = .empty ∧
        (L v).lamports = (L₁ v).lamports + P.rent j.name j.metadataUri :=
    P.createV1_accepts (by simp [mintCall]) (by simp) (by simp) hpass ho hd (by omega)
  obtain ⟨-, -, -, hframe⟩ := P.createV1_ok hcreate
  have hmeta₁ : Free (L₁ (.passMeta .proPass v)) := by
    rw [hframe _ (by simp) (Ne.symm hneMeta)]
    exact hmeta
  let w₁ : Exec := { Exec.start L with ledger := L₁, verified := L₁ }
  have h₁ : (Exec.start L).invoke .proPass (joinMintCall v)
      (P.createV1 (.pass .proPass v :: .config .proPass :: (joinMintCall v).signers)
        (.pass .proPass v) v v (.config .proPass) j.name j.metadataUri (.freeze .proPass) true) =
      .ok w₁ := invoke_unchanged rfl hcreate
  obtain ⟨L₂, hmade, hrecord, -⟩ : ∃ L₂, createAccount (joinMintCall v)
        (P.minimumBalance (j.record v now).space) v (.passMeta .proPass v) .proPass L₁ = .ok L₂ ∧
      L₂ (.passMeta .proPass v) =
        ⟨P.minimumBalance (j.record v now).space, .proPass, .zeros, false⟩ ∧ _ :=
    createAccount_accepts (by simp [Call.isSigner, mintCall]) (by simp [Call.isWritable, mintCall])
      (by simp [Call.isWritable, mintCall]) (by simp [mintCall]) hmeta₁ ho₁ hd₁ (by omega)
      (by omega) hneMeta
  let w₂ : Exec := { w₁ with ledger := L₂, verified := L₂ }
  have h₂ : createMeta P (joinMintCall v) v (.passMeta .proPass v) (j.record v now).space w₁ =
      .ok w₂ := by
    unfold createMeta
    rw [if_pos (.inl hmeta₁.2.1)]
    exact invoke_unchanged rfl hmade
  have howner : (w₂.ledger (.passMeta .proPass v)).owner = .proPass :=
    congrArg Account.owner hrecord
  have h₃ := verify_setData (x := joinMintCall v) (d := .passMeta (j.record v now)) rfl howner
    (by simp [Call.isWritable, mintCall])
  refine ⟨(w₂.setData (.passMeta .proPass v) (.passMeta (j.record v now))).ledger, ?_⟩
  simp only [Pass.mint, bind_ok, account_ok, require_ok, revertIf_ok]
  refine ⟨_, rfl, _, rfl, _, rfl, _, rfl, _, rfl, _, rfl, _, rfl, _, rfl, _, rfl, cfg, ?_, (), ?_,
    (), ?_, (), ?_, (), ?_, (), ?_, (), rfl, (), ?_, (), rfl, (), ?_, (), rfl, (), rfl, (), rfl, w₁,
    h₁, w₂, h₂, _, h₃, rfl⟩
  · simp only [Pass.loadConfig, bind_ok, require_ok, load_ok, exists_const]
    exact ⟨trivial, hpo, hcfg⟩
  · simp only [Pass.requireStakingSigner, bind_ok, require_ok, exists_const]
    rw [hbound]
    exact ⟨by simp [Call.isSigner, mintCall], rfl, hL.staking.1⟩
  · simp [Call.isSigner, mintCall]
  · simp [hname, huri]
  · omega
  · omega
  · exact fun hlive => by simp [isLiveCoreAsset, hpass.1] at hlive
  · exact fun hthere => hthere.1 hmeta.2.1

/-- **Paying for the stake account is accepted**, if it is there or its address is free. -/
theorem join_paid_accepts {j : Application} (hv : IsWallet v)
    (haddr : StakeAddress (L (.stake .proStaking v)))
    (hclear : (L (.stake .proStaking v)).data ≠ .empty ∨ (L (.stake .proStaking v)).lamports = 0)
    (hpos : (L (.stake .proStaking v)).data ≠ .empty → 0 < (L (.stake .proStaking v)).lamports)
    (ho : (L v).owner = .system) (hd : (L v).data = .empty) (hmax : (L v).lamports < u64Max)
    (hpay : deposit P (L (.stake .proStaking v)) j.amount ≤ (L v).lamports) :
    ∃ L', (if (L (.stake .proStaking v)).data = .empty ∨ (L (.stake .proStaking v)).lamports = 0
        then createAccount (joinCall v)
          (saturatingAdd (P.minimumBalance stakeAccountSpace) j.amount) v (.stake .proStaking v)
          .proStaking
        else systemTransfer (joinCall v) v (.stake .proStaking v) j.amount) L = .ok L' ∧
      (L' (.stake .proStaking v)).owner = .proStaking ∧
      ((L' (.stake .proStaking v)).data = .zeros ∨
        ∃ r, (L' (.stake .proStaking v)).data = .stake r) ∧
      (L' v).owner = .system ∧ (L' v).data = .empty ∧
      (L' v).lamports + deposit P (L (.stake .proStaking v)) j.amount = (L v).lamports ∧
      ∀ k, k ≠ .stake .proStaking v → k ≠ v → L' k = L k := by
  have hne : v ≠ .stake .proStaking v := hv.ne (.inl (by simp [Pubkey.derivedBy]))
  rcases haddr with ⟨howner, hempty⟩ | ⟨howner, r, hr⟩
  · have hzero : (L (.stake .proStaking v)).lamports = 0 := hclear.resolve_left (fun h => h hempty)
    rw [deposit, if_pos hempty] at hpay
    have hsat : saturatingAdd (P.minimumBalance stakeAccountSpace) j.amount =
        P.minimumBalance stakeAccountSpace + j.amount := by
      unfold saturatingAdd
      omega
    obtain ⟨L', hmade, hstake, hwallet⟩ := createAccount_accepts (x := joinCall v)
      (by simp [Call.isSigner, joinCall]) (by simp [Call.isWritable, joinCall])
      (by simp [Call.isWritable, joinCall]) (by simp [joinCall]) ⟨howner, hempty, hzero⟩ ho hd hpay
      (Nat.lt_of_le_of_lt hpay hmax) hne
    refine ⟨L', ?_, congrArg Account.owner hstake, .inl (congrArg Account.data hstake), ?_⟩
    · rw [if_pos (.inl hempty), hsat]
      exact hmade
    · obtain ⟨-, -, -, -, hframe⟩ := createAccount_ok hmade
      rw [hwallet, deposit, if_pos hempty]
      exact ⟨ho, hd, by simp; omega, hframe⟩
  · have hdata : (L (.stake .proStaking v)).data ≠ .empty := by simp [hr]
    have hthere : ¬ ((L (.stake .proStaking v)).data = .empty ∨
        (L (.stake .proStaking v)).lamports = 0) := by
      rintro (hempty | hzero)
      · exact hdata hempty
      · exact Nat.pos_iff_ne_zero.mp (hpos hdata) hzero
    rw [deposit, if_neg hdata] at hpay
    obtain ⟨L', hsent, hstake, hwallet⟩ := systemTransfer_accepts (x := joinCall v)
      (by simp [Call.isSigner, joinCall]) (by simp [Call.isWritable, joinCall])
      (by simp [Call.isWritable, joinCall]) (by simp [joinCall]) ho hd hpay hne
    refine ⟨L', ?_, ?_, .inr ⟨r, ?_⟩, ?_⟩
    · rw [if_neg hthere]
      exact hsent
    · rw [hstake]
      exact howner
    · rw [hstake]
      exact hr
    · obtain ⟨-, -, -, -, hframe⟩ := systemTransfer_ok hsent
      rw [hwallet, deposit, if_neg hdata]
      exact ⟨ho, hd, by simp; omega, hframe⟩

theorem existingStake_accepts (haddr : StakeAddress (L (.stake .proStaking v)))
    (hidle : phaseAt L v = .idle)
    (hsettled : ∀ r, (L (.stake .proStaking v)).data = .stake r → r.active = false →
      r.unlockAt = 0 → r.amount = 0) :
    ∃ existing, existingStake (.stake .proStaking v) v L = .ok existing ∧
      requireCanJoin existing = .ok () := by
  unfold existingStake
  rcases haddr with ⟨-, hempty⟩ | ⟨howner, r, hr⟩
  · rw [if_neg (fun h => h.2 hempty)]
    exact ⟨none, rfl, rfl⟩
  · rw [if_pos ⟨howner, by simp [hr]⟩]
    refine ⟨some r, ?_, ?_⟩
    · refine map_ok.mpr ⟨r, ?_, rfl⟩
      simp only [loadStake, bind_ok, require_ok, load_ok, exists_const]
      exact ⟨trivial, howner, hr⟩
    · rw [phaseAt_of_data hr] at hidle
      have hinactive : r.active = false := by
        by_contra hactive
        have hactive' : r.active = true := by simpa using hactive
        simp [StakeAccount.phase, hactive'] at hidle
      have hunlock : r.unlockAt = 0 := by
        by_contra hunlock
        simp [StakeAccount.phase, hinactive, hunlock] at hidle
      have hamount := hsettled r hr hinactive hunlock
      simp only [requireCanJoin, bind_ok, revertIf_ok]
      exact ⟨(), by simp [hinactive], by simp [hunlock, hamount]⟩

/-- **Joining is accepted** exactly when the addresses of the wallet are clear. -/
theorem join_accepted_iff {j : Application} (hL : Configured L) (hv : IsWallet v)
    (haddr : ∀ v, StakeAddress (L (.stake .proStaking v)))
    (hpos : (L (.stake .proStaking v)).data ≠ .empty → 0 < (L (.stake .proStaking v)).lamports)
    (hidle : phaseAt L v = .idle)
    (hsettled : ∀ r, (L (.stake .proStaking v)).data = .stake r → r.active = false →
      r.unlockAt = 0 → r.amount = 0)
    (hj : j.Valid L) (hpay : CanPay P now L v j) :
    (∃ r, join P now j.amount j.category j.name j.metadataUri (joinCall v) L = .ok r) ↔
      Clear L v := by
  constructor
  · rintro ⟨⟨L', e⟩, h⟩
    have hout : Outside (joinCall v) := by
      intro k hk
      obtain rfl := List.mem_singleton.mp hk
      exact hv
    obtain ⟨u, hu, -, hcan, -, -, -, hfree, hfreeMeta, -⟩ := join_ok h hout haddr
    obtain rfl := List.mem_singleton.mp hu
    refine ⟨?_, hfree, hfreeMeta⟩
    rcases hcan with ⟨-, hzero⟩ | ⟨r, hr, -⟩
    · exact .inr hzero
    · exact .inl (by simp [hr])
  · rintro ⟨hstake, hpass, hmeta⟩
    obtain ⟨ho, hd, hmax, hcost⟩ := hpay
    obtain ⟨existing, hexisting, hcan⟩ := existingStake_accepts (haddr v) hidle hsettled
    obtain ⟨L₁, hpaid, howner, hdata, ho₁, hd₁, hlamports, hframe⟩ :=
      join_paid_accepts (P := P) (j := j) hv (haddr v) hstake hpos ho hd hmax (by omega)
    have hne : v ≠ .stake .proStaking v := hv.ne (.inl (by simp [Pubkey.derivedBy]))
    let record : StakeAccount := ⟨v, j.amount, now, true, 0, 0⟩
    let w₁ : Exec := { Exec.start L with ledger := L₁, verified := L₁ }
    let w₂ := w₁.setData (.stake .proStaking v) (.stake record)
    have h₂ : writeStake w₁ (.stake .proStaking v) record = .ok w₂ := by
      unfold writeStake
      rw [show w₁.ledger = L₁ from rfl]
      rcases hdata with hzeros | ⟨r, hr⟩
      · rw [hzeros]
      · rw [hr]
    -- the other accounts are as they were
    have hsame (k : Pubkey) (hk : k ≠ .stake .proStaking v) (hkv : v ≠ k) : w₂.ledger k = L k := by
      show Function.update L₁ _ _ k = L k
      rw [Function.update_of_ne hk]
      exact hframe k hk (Ne.symm hkv)
    have hcfgNe : v ≠ .config .proStaking := hv.ne (.inl (by simp [Pubkey.derivedBy]))
    have hpassCfgNe : v ≠ .config .proPass := hv.ne (.inr (by simp [Pubkey.derivedBy]))
    have hpassNe : v ≠ .pass .proPass v := hv.ne (.inr (by simp [Pubkey.derivedBy]))
    have hmetaNe : v ≠ .passMeta .proPass v := hv.ne (.inr (by simp [Pubkey.derivedBy]))
    have hwallet : w₂.ledger v = L₁ v := Function.update_of_ne hne ..
    have hL₂ : Configured w₂.ledger :=
      hL.untouched (untouched_of_eq (hsame _ (by simp) hcfgNe))
        (untouched_of_eq (hsame _ (by simp) hpassCfgNe))
    have hj₂ : j.Valid w₂.ledger := by
      refine ⟨?_, hj.2⟩
      unfold minStake
      rw [hsame _ (by simp) hcfgNe]
      exact hj.1
    obtain ⟨L₃, hmint⟩ := Pass.mint_accepts P now hL₂ hv hj₂
      (by rw [hsame _ (by simp) hpassNe]; exact hpass)
      (by rw [hsame _ (by simp) hmetaNe]; exact hmeta)
      (by rw [hwallet]; exact ho₁) (by rw [hwallet]; exact hd₁) (by rw [hwallet]; omega)
      (by rw [hwallet]; omega)
    let w₃ : Exec := { w₁ with ledger := L₃, verified := L₃ }
    have h₃ : invokeSigned (joinCall v) (joinMintCall v) [.config .proStaking] w₂
        (Pass.mint P now j.category j.name j.metadataUri (joinMintCall v)) = .ok w₃ := by
      simp only [invokeSigned, bind_ok, require_ok]
      refine ⟨(), ⟨?_, ?_⟩, invoke_setData rfl howner (by simp [Call.isWritable, joinCall]) hmint⟩
      · simp [mintCall, Call.isWritable, joinCall]
      · simp [mintCall, Call.isSigner, joinCall]
    obtain ⟨hso, -, cfg, hcfg, hbound⟩ := hL.staking
    refine ⟨(L₃, some (.verifierJoined v j.amount)), ?_⟩
    simp only [join, bind_ok, account_ok, require_ok, revertIf_ok]
    refine ⟨_, rfl, _, rfl, _, rfl, _, rfl, _, rfl, _, rfl, _, rfl, _, rfl, _, rfl, _, rfl, (), ?_,
      cfg, ?_, (), hbound.symm, (), ?_, (), rfl, existing, hexisting, (), hcan, w₁, ?_, w₂, h₂,
      w₃, h₃, w₃, verify_unchanged rfl, rfl⟩
    · simp [Call.isSigner, joinCall]
    · simp only [loadConfig, bind_ok, require_ok, load_ok, exists_const]
      exact ⟨trivial, hso, hcfg⟩
    · have hmin := hj.1
      simp only [minStake, hcfg] at hmin
      exact Nat.not_lt.mpr hmin
    · exact invoke_unchanged rfl hpaid

end Joining

/-! ## §6. The lifecycle. -/

section Lifecycle

variable {P : Platform} {s s' s₀ : State} {a : Step} {as : List Step} {v : Pubkey}

/-- The programs are set up, and nobody has joined or sent anything to a derived address. -/
structure Fresh (s : State) : Prop where
  configured : Configured s.ledger
  stake : ∀ v, Free (s.ledger (.stake .proStaking v))
  pass : ∀ v, Free (s.ledger (.pass .proPass v))
  passMeta : ∀ v, Free (s.ledger (.passMeta .proPass v))
  time : 0 < s.now
  events : s.events = []

theorem Fresh.invariant (h : Fresh s) : Invariant P s := by
  refine ⟨h.configured, fun v => ⟨.inl ⟨(h.stake v).1, (h.stake v).2.1⟩, ?_, ?_⟩, h.time⟩
  · rw [h.events]
    simp [phaseAt, (h.stake v).2.1, phaseOf]
  · rw [h.events]
    trivial

/-- `Join` with the canonical accounts is accepted. -/
def JoinAccepted (P : Platform) (s : State) (v : Pubkey) (j : Application) : Prop :=
  ∃ s', step P s (.call (.join j.amount j.category j.name j.metadataUri) (joinCall v)) = .ok s'

theorem Invariant.join_iff {j : Application} (h : Invariant P s) (hv : IsWallet v)
    (hidle : phaseAt s.ledger v = .idle) (hj : j.Valid s.ledger)
    (hpay : CanPay P s.now s.ledger v j) : JoinAccepted P s v j ↔ Clear s.ledger v := by
  have hpos : (s.ledger (.stake .proStaking v)).data ≠ .empty →
      0 < (s.ledger (.stake .proStaking v)).lamports := by
    intro hdata
    rcases (h.sound v).address with ⟨-, hempty⟩ | ⟨r, hr⟩
    · exact absurd hempty hdata
    · exact Nat.lt_of_lt_of_le (P.minimumBalance_pos stakeAccountSpace)
        (Nat.le_trans (Nat.le_add_right ..) hr.backed)
  rw [← join_accepted_iff h.configured hv h.stakeAddress hpos hidle
    (fun r hr => ((h.sound v).staked hr).settled) hj hpay]
  have hout : Outside (joinCall v) := by
    intro k hk
    obtain rfl := List.mem_singleton.mp hk
    exact hv
  constructor
  · rintro ⟨s', hstep⟩
    obtain ⟨-, L', e, hix, -⟩ := step_call hstep
    exact ⟨_, hix⟩
  · rintro ⟨⟨L', e⟩, hix⟩
    refine ⟨⟨L', s.now, e.toList.map (s.now, ·) ++ s.events⟩, ?_⟩
    simp only [ProSvm.step, bind_ok, require_ok]
    exact ⟨(), hout, (L', e), hix, rfl⟩

/-- Is it an address derived from a wallet? -/
def Pubkey.ofWallet : Pubkey → Bool
  | .stake .proStaking v | .pass .proPass v | .passMeta .proPass v =>
    !v.derivedBy .proStaking && !v.derivedBy .proPass
  | _ => false

/-- No pass is closed, and nobody sends lamports to an address of a wallet before it is in use. -/
def undisturbed (s : State) : Step → Prop
  | .call .closePass _ => False
  | .call _ _ => True
  | .transfer _ _ dst amount => amount = 0 ∨ dst.ofWallet = false ∨ (s.ledger dst).owner ≠ .system
  | .endTransaction => True
  | .tick _ => True

instance undisturbed.decidable (s : State) : (a : Step) → Decidable (undisturbed s a)
  | .call .closePass _ => isFalse id
  | .call (.initializeConfig ..) _ | .call (.join ..) _ | .call .leave _ | .call .claimStake _
  | .call (.setVerificationFee _) _ | .call (.setMinStakeNative _) _ | .call (.passInitialize _) _
  | .call (.passMint ..) _ | .call (.passClosePass _) _ => isTrue trivial
  | .transfer _ _ _ _ => inferInstanceAs (Decidable (_ ∨ _))
  | .endTransaction => isTrue trivial
  | .tick _ => isTrue trivial

/-- The wallet has a live pass, or its addresses are as they were in the beginning. -/
def Undisturbed (L : Ledger) (v : Pubkey) : Prop :=
  ((L (.stake .proStaking v)).data ≠ .empty ∨ Free (L (.stake .proStaking v))) ∧
    (isLiveCoreAsset (L (.pass .proPass v)) ∧ 0 < (L (.pass .proPass v)).lamports ∨
      Free (L (.pass .proPass v)) ∧ Free (L (.passMeta .proPass v)))

theorem Undisturbed.clear {L : Ledger} (h : Undisturbed L v)
    (hnone : ¬ isLiveCoreAsset (L (.pass .proPass v))) : Clear L v := by
  refine ⟨h.1.imp id fun hfree => hfree.2.2, ?_⟩
  exact h.2.resolve_left fun hlive => hnone hlive.1

theorem Undisturbed.congr {L L' : Ledger} (h : Undisturbed L v)
    (hs : L' (.stake .proStaking v) = L (.stake .proStaking v))
    (hp : L' (.pass .proPass v) = L (.pass .proPass v))
    (hm : L' (.passMeta .proPass v) = L (.passMeta .proPass v)) : Undisturbed L' v := by
  unfold Undisturbed
  rw [hs, hp, hm]
  exact h

/-- A stake account that is written is there. -/
theorem Undisturbed.written {L L' : Ledger} {u : Pubkey} {r : StakeAccount} (h : Undisturbed L v)
    (hdata : (L' (.stake .proStaking u)).data = .stake r)
    (hframe : ∀ k, k ≠ .stake .proStaking u → k ≠ u → L' k = L k)
    (hp : Pubkey.pass .proPass v ≠ u) (hm : Pubkey.passMeta .proPass v ≠ u)
    (hs : Pubkey.stake .proStaking v ≠ u) : Undisturbed L' v := by
  by_cases huv : u = v
  · subst huv
    refine ⟨.inl (by simp [hdata]), ?_⟩
    rw [hframe _ (by simp) hp, hframe _ (by simp) hm]
    exact h.2
  · exact h.congr (hframe _ (by simpa using Ne.symm huv) hs) (hframe _ (by simp) hp)
      (hframe _ (by simp) hm)

/-- **One instruction**, if it closes no pass. -/
theorem Undisturbed.instruction {now : ℕ} {x : Call} {L L' : Ledger} {ix : Instruction}
    {e : Option Event} (h : Undisturbed L v) (hix : processInstruction P now x L ix = .ok (L', e))
    (hout : Outside x) (hL : Configured L) (haddr : ∀ v, StakeAddress (L (.stake .proStaking v)))
    (hclose : ix ≠ .closePass) : Undisturbed L' v := by
  have hs {u : Pubkey} (hu : u ∈ x.signers) : Pubkey.stake .proStaking v ≠ u :=
    Ne.symm (signer_ne hout hu (.inl (by simp [Pubkey.derivedBy])))
  have hp {u : Pubkey} (hu : u ∈ x.signers) : Pubkey.pass .proPass v ≠ u :=
    Ne.symm (signer_ne hout hu (.inr (by simp [Pubkey.derivedBy])))
  have hm {u : Pubkey} (hu : u ∈ x.signers) : Pubkey.passMeta .proPass v ≠ u :=
    Ne.symm (signer_ne hout hu (.inr (by simp [Pubkey.derivedBy])))
  cases ix with
  | initializeConfig passProgram minStake floor period =>
    exact absurd hix (initializeConfig_refused hL)
  | join amount category name uri =>
    obtain ⟨u, hu, -, -, -, hdata, -, -, -, hpos, hlive, hframe⟩ := join_ok hix hout haddr
    by_cases huv : u = v
    · subst huv
      exact ⟨.inl (by simp [hdata]), .inl ⟨hlive, hpos⟩⟩
    · have hvu : v ≠ u := Ne.symm huv
      exact h.congr (hframe _ (by simpa using hvu) (by simp) (by simp) (hs hu))
        (hframe _ (by simp) (by simpa using hvu) (by simp) (hp hu))
        (hframe _ (by simp) (by simp) (by simpa using hvu) (hm hu))
  | leave =>
    obtain ⟨u, r, unlockAt, hu, -, -, -, -, -, -, -, hdata, hframe⟩ := leave_ok hix
    exact h.written hdata (fun k hk _ => hframe k hk) (hp hu) (hm hu) (hs hu)
  | claimStake =>
    obtain ⟨u, r, hu, -, -, -, -, -, -, -, -, hdata, -, hframe⟩ := claimStake_ok hix hout
    exact h.written hdata hframe (hp hu) (hm hu) (hs hu)
  | setVerificationFee fee =>
    obtain ⟨u, r, hu, -, -, -, -, -, -, hdata, hframe⟩ := setVerificationFee_ok hix
    exact h.written hdata (fun k hk _ => hframe k hk) (hp hu) (hm hu) (hs hu)
  | setMinStakeNative lamports =>
    obtain ⟨cfg, -, -, -, -, hframe⟩ := setMinStakeNative_ok hix
    exact h.congr (hframe _ (by simp)) (hframe _ (by simp)) (hframe _ (by simp))
  | closePass => exact absurd rfl hclose
  | passInitialize stakingProgram =>
    obtain ⟨_, hmade, -⟩ := map_ok.mp hix
    exact absurd hmade (Pass.initializeConfig_refused hL)
  | passMint category name uri =>
    obtain ⟨_, hminted, -⟩ := map_ok.mp hix
    exact absurd hminted (Pass.mint_refused hout hL)
  | passClosePass holder =>
    obtain ⟨_, hclosed, -⟩ := map_ok.mp hix
    exact absurd hclosed (Pass.closePass_refused hout hL)

theorem swept_free {L : Ledger} {k : Pubkey} (h : Free (L k)) : Free (swept L k) := by
  unfold swept
  rw [if_pos h.2.2]
  exact ⟨rfl, rfl, rfl⟩

/-- A transfer to an address of a wallet finds it in use. -/
theorem transfer_address {x : Call} {src dst k : Pubkey} {n : ℕ} {L' : Ledger}
    (h : systemTransfer x src dst n s.ledger = .ok L') (hok : undisturbed s (.transfer x src dst n))
    (hk : k.ofWallet = true) (hne : src ≠ k) :
    L' k = s.ledger k ∨ (s.ledger k).owner ≠ .system ∧
      L' k = { s.ledger k with lamports := (s.ledger k).lamports + n } := by
  obtain ⟨-, -, -, hdst, hframe⟩ := systemTransfer_ok h
  by_cases hkd : k = dst
  · subst hkd
    rcases hok with rfl | hnot | howner
    · exact .inl (hdst hne)
    · exact absurd (hk.symm.trans hnot) (by decide)
    · exact .inr ⟨howner, hdst hne⟩
  · exact .inl (hframe k hkd (Ne.symm hne))

/-- **One step**, if it is not a disturbing one. -/
theorem Undisturbed.step (h : Undisturbed s.ledger v) (hv : IsWallet v) (hinv : Invariant P s)
    (hok : undisturbed s a) (hstep : ProSvm.step P s a = .ok s') : Undisturbed s'.ledger v := by
  cases a with
  | call ix x =>
    obtain ⟨hout, L', e, hix, rfl⟩ := step_call hstep
    refine h.instruction hix hout hinv.configured hinv.stakeAddress ?_
    rintro rfl
    exact hok
  | transfer x src dst n =>
    obtain ⟨hout, L', hsent, rfl⟩ := step_transfer hstep
    have hsrc := (systemTransfer_ok hsent).1
    have hfree {k : Pubkey} (hk : k.ofWallet = true)
        (hd : k.derivedBy .proStaking = true ∨ k.derivedBy .proPass = true) :
        Free (s.ledger k) → Free (L' k) := by
      intro hfree
      rcases transfer_address hsent hok hk (signer_ne hout hsrc hd) with heq | ⟨howner, -⟩
      · rwa [heq]
      · exact absurd hfree.1 howner
    have hkept {k : Pubkey} (hd : k.derivedBy .proStaking = true ∨ k.derivedBy .proPass = true) :
        (s.ledger k).Untouched (L' k) :=
      transfer_untouched hsent (signer_ne hout hsrc hd)
    have hwallet : (!v.derivedBy .proStaking && !v.derivedBy .proPass) = true := by
      simp [hv.1, hv.2]
    have hs := hkept (k := .stake .proStaking v) (.inl (by simp [Pubkey.derivedBy]))
    have hp := hkept (k := .pass .proPass v) (.inr (by simp [Pubkey.derivedBy]))
    refine ⟨h.1.imp ?_ ?_, h.2.imp ?_ ?_⟩
    · intro hdata
      rw [hs.2.1]
      exact hdata
    · exact hfree hwallet (.inl (by simp [Pubkey.derivedBy]))
    · rintro ⟨hlive, hpos⟩
      unfold isLiveCoreAsset
      rw [hp.1, hp.2.1]
      exact ⟨hlive, Nat.lt_of_lt_of_le hpos hp.2.2⟩
    · rintro ⟨hpass, hmeta⟩
      exact ⟨hfree hwallet (.inr (by simp [Pubkey.derivedBy])) hpass,
        hfree hwallet (.inr (by simp [Pubkey.derivedBy])) hmeta⟩
  | endTransaction =>
    obtain rfl := pure_ok.mp hstep
    refine ⟨?_, ?_⟩
    · rcases h.1 with hdata | hfree
      · left
        show (swept s.ledger _).data ≠ _
        rcases (hinv.sound v).address with ⟨-, hempty⟩ | ⟨r, hr⟩
        · exact absurd hempty hdata
        · rw [swept_of_pos (Nat.lt_of_lt_of_le (P.minimumBalance_pos stakeAccountSpace)
            (Nat.le_trans (Nat.le_add_right ..) hr.backed))]
          exact hdata
      · exact .inr (swept_free hfree)
    · rcases h.2 with ⟨hlive, hpos⟩ | ⟨hpass, hmeta⟩
      · left
        show isLiveCoreAsset (swept s.ledger _) ∧ 0 < (swept s.ledger _).lamports
        rw [swept_of_pos hpos]
        exact ⟨hlive, hpos⟩
      · exact .inr ⟨swept_free hpass, swept_free hmeta⟩
  | tick secs =>
    obtain rfl := pure_ok.mp hstep
    exact h

/-- **The lifecycle of a verifier**, after any run of the two programs.  Every stake account
    holds its rent and what it records, and says what the events say; they come in order; a stake
    is paid back once, to its wallet, not before the unlock time.  An idle wallet that can pay
    joins exactly if nothing stands at its addresses, and always in a run in which no pass was
    closed and nobody sent lamports ahead to such an address. -/
theorem verifier_lifecycle (P : Platform) (h0 : Fresh s₀) (hr : run (step P) s₀ as = .ok s) :
    (∀ v, Sound P s v) ∧
    (∀ a s', step P s a = .ok s' → ∀ v, PaidOnClaim s s' v) ∧
    (∀ v j, IsWallet v → phaseAt s.ledger v = .idle → j.Valid s.ledger →
      CanPay P s.now s.ledger v j → (JoinAccepted P s v j ↔ Clear s.ledger v)) ∧
    (Along (step P) undisturbed s₀ as → ∀ v j, IsWallet v → phaseAt s.ledger v = .idle →
      ¬ isLiveCoreAsset (s.ledger (.pass .proPass v)) → j.Valid s.ledger →
      CanPay P s.now s.ledger v j → JoinAccepted P s v j) := by
  have hinv : Invariant P s :=
    run_invariant (fun _ _ _ h hstep => h.step hstep) h0.invariant hr
  refine ⟨hinv.sound, fun a s' hstep => hinv.paidOnClaim hstep, ?_, ?_⟩
  · exact fun v j hv hidle hj hpay => hinv.join_iff hv hidle hj hpay
  · intro hok v j hv hidle hnone hj hpay
    have hstart : Undisturbed s₀.ledger v := ⟨.inr (h0.stake v), .inr ⟨h0.pass v, h0.passMeta v⟩⟩
    have hboth : Invariant P s ∧ Undisturbed s.ledger v :=
      run_invariant_along
        (fun (s : State) _ s' (h : Invariant P s ∧ Undisturbed s.ledger v) hok hstep =>
          (⟨h.1.step hstep, h.2.step hv h.1 hok hstep⟩ : Invariant P s' ∧ Undisturbed s'.ledger v))
        ⟨h0.invariant, hstart⟩ hok hr
    exact (hinv.join_iff hv hidle hj hpay).mpr (hboth.2.clear hnone)

end Lifecycle

/-- The programs with two wallets, and nothing else. -/
def deployed : State where
  ledger
    | .config .proStaking =>
      ⟨1, .proStaking, .stakingConfig ⟨.key 0, .proPass, 100, 10, 5⟩, false⟩
    | .config .proPass => ⟨1, .proPass, .passConfig ⟨.key 0, .proStaking⟩, false⟩
    | .key 1 | .key 2 => ⟨10 ^ 9, .system, .empty, false⟩
    | _ => ⟨0, .system, .empty, false⟩
  now := 1
  events := []

theorem deployed_fresh : Fresh deployed where
  configured := ⟨⟨rfl, by decide, _, rfl, rfl⟩, rfl, by decide, _, rfl, rfl⟩
  stake _ := ⟨rfl, rfl, rfl⟩
  pass _ := ⟨rfl, rfl, rfl⟩
  passMeta _ := ⟨rfl, rfl, rfl⟩
  time := by decide
  events := rfl

def mechanic : Application := ⟨100, 0, "m".toList, "ar://m".toList⟩

/-- The accounts of `leave` and `claim_stake`. -/
def stakeCall (v : Pubkey) : Call :=
  ⟨[.config .proStaking, .stake .proStaking v, v], [v], [.stake .proStaking v, v]⟩

/-- The canonical accounts of `close_pass`. -/
def closeCall (v : Pubkey) : Call :=
  ⟨[.config .proStaking, .stake .proStaking v, v, .proPass, .config .proPass, .pass .proPass v,
    .passMeta .proPass v, .freeze .proPass, v, .mplCore, .system], [v],
    [v, .pass .proPass v, .passMeta .proPass v]⟩

/-- A wallet joins, leaves and claims. -/
def servedOnce (v : Pubkey) : List Step := [
  .call (.join mechanic.amount mechanic.category mechanic.name mechanic.metadataUri) (joinCall v),
  .endTransaction,
  .call .leave (stakeCall v),
  .tick 5,
  .call .claimStake (stakeCall v)]

/-- And closes its pass. -/
def passClosed (v : Pubkey) : List Step :=
  servedOnce v ++ [.call .closePass (closeCall v), .endTransaction]

/-- Another wallet joins after it. -/
theorem verifier_lifecycle_deployed :
    JoinAccepted .reference (finalState (step .reference) deployed (servedOnce (.key 1))) (.key 2)
      mechanic :=
  (verifier_lifecycle .reference deployed_fresh (run_finalState (by decide +kernel))).2.2.2
    (by decide +kernel) (.key 2) mechanic ⟨rfl, rfl⟩ (by decide +kernel) (by decide +kernel)
    (by decide +kernel) (by decide +kernel)

/-- **A wallet cannot come back.**  Once its pass is closed, the byte Core leaves at the address
    of the asset refuses every new one. -/
theorem rejoin_refused : Fresh deployed ∧
    ∃ s, run (step .reference) deployed (passClosed (.key 1)) = .ok s ∧
    IsWallet (.key 1) ∧ phaseAt s.ledger (.key 1) = .idle ∧
    ¬ isLiveCoreAsset (s.ledger (.pass .proPass (.key 1))) ∧ mechanic.Valid s.ledger ∧
    CanPay .reference s.now s.ledger (.key 1) mechanic ∧
    ¬ JoinAccepted .reference s (.key 1) mechanic := by
  refine ⟨deployed_fresh, _, run_finalState (by decide +kernel), ⟨rfl, rfl⟩, by decide +kernel,
    by decide +kernel, by decide +kernel, by decide +kernel, ?_⟩
  rintro ⟨s', hstep⟩
  have hrefused : (step .reference (finalState (step .reference) deployed (passClosed (.key 1)))
      (.call (.join mechanic.amount mechanic.category mechanic.name mechanic.metadataUri)
        (joinCall (.key 1)))).isOk = false := by decide +kernel
  rw [hstep] at hrefused
  cases hrefused

end Kargain.ProSvm
