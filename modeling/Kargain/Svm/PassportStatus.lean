/-
  Kargain.Svm.PassportStatus — challenges and the status of a passport.

  Of every passport `Trust` keeps the status and whether its own challenge
  account is active.  `TrustStep` lists what an instruction does to the
  two when the challenge account it is handed is that of its own token,
  and `execute_trust` says every instruction is one of these.  Runs follow:
  a passport is disputed exactly while its challenge is active, and the
  log shows how each verification came about.

  Main result: `status_rule`.  `crossed_challenge` is what happens when a
  withdrawal is handed another token's challenge: kar-passport never ties
  the account to the token.
-/
import Kargain.Base.Runs
import Kargain.Svm.PassportEffects

namespace Kargain.Svm.Passport

open Kargain.Accounts Function

/-! ## §1. Runs of the program. -/

/-- What everybody else may do to one account: add lamports; change what is neither the
    program's nor derived by it, handing it over to the program with zeroed data at most;
    and, where the account is Core's, what Core does.  The update authority of an asset is
    the only one to change its URI, and an address of the program does not sign elsewhere. -/
inductive OutsideMay (k : Pubkey) (b : Account Pubkey Data) : Account Pubkey Data → Prop
  | untouched {a : Account Pubkey Data} (h : b.Untouched a) : OutsideMay k b a
  | foreign {a : Account Pubkey Data} (ho : b.owner ≠ programId)
      (hk : k.derivedBy programId = false)
      (hz : a.owner = programId → a.data = a.data.zeroed) : OutsideMay k b a
  | asset {a : Account Pubkey Data} {r r' : CoreAsset} (ho : b.owner = .mplCore)
      (ho' : a.owner = .mplCore) (hd : b.data = .coreAsset r) (hd' : a.data = .coreAsset r')
      (hu : r.updateAuthority.derivedBy programId = true →
        r'.uri = r.uri ∧ r'.updateAuthority = r.updateAuthority) : OutsideMay k b a
  | burned {a : Account Pubkey Data} {r : CoreAsset} (ho : b.owner = .mplCore)
      (ho' : a.owner = .mplCore) (hd : b.data = .coreAsset r) (hd' : a.data = .byte) :
      OutsideMay k b a

/-- `OutsideMay`, as a check. -/
def outsideOk (k : Pubkey) (b a : Account Pubkey Data) : Bool :=
  decide (b.Untouched a) ||
    decide (b.owner ≠ programId ∧ k.derivedBy programId = false ∧
      (a.owner = programId → a.data = a.data.zeroed)) ||
    decide (b.owner = .mplCore ∧ a.owner = .mplCore) && match b.data, a.data with
      | .coreAsset r, .coreAsset r' => decide (r.updateAuthority.derivedBy programId = true →
          r'.uri = r.uri ∧ r'.updateAuthority = r.updateAuthority)
      | .coreAsset _, .byte => true
      | _, _ => false

theorem outsideMay_of_ok {k : Pubkey} {b a : Account Pubkey Data} (h : outsideOk k b a = true) :
    OutsideMay k b a := by
  simp only [outsideOk, Bool.or_eq_true, Bool.and_eq_true, decide_eq_true_eq] at h
  rcases h with (h | ⟨ho, hk, hz⟩) | ⟨⟨ho, ho'⟩, h⟩
  · exact .untouched h
  · exact .foreign ho hk hz
  · split at h
    · rename_i r r' hd hd'
      exact .asset ho ho' hd hd' (of_decide_eq_true h)
    · rename_i r hd hd'
      exact .burned ho ho' hd hd'
    · cases h

inductive Action
  | instruction (x : Call) (ix : Instruction)
  | outside (k : Pubkey) (a : Account Pubkey Data)
  | tick (now : ℕ)

/-- An accepted action, with the ledger before and after it. -/
structure Entry where
  action : Action
  before : Ledger
  after : Ledger

structure System where
  ledger : Ledger
  now : ℕ
  past : List Entry

/-- Nobody signs for an address the program derives; everything else is the caller's. -/
def step (P : Platform) (s : System) : Action → Except Error System
  | .instruction x ix => do
    require (∀ k ∈ x.signers, k.derivedBy programId = false) .missingRequiredSignature
    let L ← execute P s.now x ix s.ledger
    pure { s with ledger := L, past := ⟨.instruction x ix, s.ledger, L⟩ :: s.past }
  | .outside k a => do
    require (outsideOk k (s.ledger k) a = true) .externalAccountModified
    let L := update s.ledger k a
    pure { s with ledger := L, past := ⟨.outside k a, s.ledger, L⟩ :: s.past }
  | .tick n => do
    require (s.now ≤ n) .invalidArgument
    pure { s with now := n, past := ⟨.tick n, s.ledger, s.ledger⟩ :: s.past }

/-- The program is deployed and has no accounts; its addresses hold at most lamports. -/
structure Genesis (s : System) : Prop where
  fresh : ∀ k, (s.ledger k).owner ≠ programId
  derived : ∀ d, (s.ledger (.pda programId d)).owner = .system ∧
    (s.ledger (.pda programId d)).data = .empty
  now_pos : 0 < s.now
  past : s.past = []

/-! ## §2. Trust. -/

/-- Status and challenge of every passport. -/
structure Trust where
  status : TokenId → Option Status
  active : TokenId → Bool

def View.status (v : View) (t : TokenId) : Option Status :=
  match v.data (statePda programId t) with
  | .passportState st => some st.status
  | _ => none

def View.active (v : View) (t : TokenId) : Bool :=
  match v.data (challengePda programId t) with
  | .challenge c => c.isActive
  | _ => false

def View.trust (v : View) : Trust := ⟨View.status v, View.active v⟩

def trust (L : Ledger) : Trust := View.trust (view L)

def Trust.set (T : Trust) (t : TokenId) (s : Status) (b : Bool) : Trust :=
  ⟨update T.status t (some s), update T.active t b⟩

section TrustLemmas

variable {v : View} {t : TokenId} {k : Pubkey} {d : Data} {a : CoreAsset}

theorem trust_put (hs : ∀ t, statePda programId t ≠ k) (hc : ∀ t, challengePda programId t ≠ k) :
    View.trust (v.put k d) = View.trust v := by
  unfold View.trust View.status View.active
  simp [hs, hc]

/-- Writing an asset, or over an asset, is seen by neither. -/
theorem trust_congr {v' : View} (h : ∀ k', k' ≠ k → v'.data k' = v.data k')
    (hd : ∀ st c, v.data k ≠ .passportState st ∧ v.data k ≠ .challenge c)
    (hd' : ∀ st c, v'.data k ≠ .passportState st ∧ v'.data k ≠ .challenge c) :
    View.trust v' = View.trust v := by
  unfold View.trust
  congr 1
  · funext t
    unfold View.status
    by_cases hk : statePda programId t = k
    · rw [hk]
      split
      · rename_i st e
        exact absurd e (hd' st default).1
      · split
        · rename_i st e
          exact absurd e (hd st default).1
        · rfl
    · rw [h _ hk]
  · funext t
    unfold View.active
    by_cases hk : challengePda programId t = k
    · rw [hk]
      split
      · rename_i c e
        exact absurd e (hd' default c).2
      · split
        · rename_i c e
          exact absurd e (hd default c).2
        · rfl
    · rw [h _ hk]

theorem trust_putAsset (hd : (∃ a₀, v.data k = .coreAsset a₀) ∨ v.data k = .empty) :
    View.trust (v.putAsset k a) = View.trust v := by
  refine trust_congr (k := k) (fun k' hk => by simp [hk]) (fun st c => ?_) (fun st c => by simp)
  obtain ⟨a₀, hd⟩ | hd := hd <;> simp [hd]

theorem trust_burn {b : CoreAsset} (hd : v.data k = .coreAsset b) :
    View.trust (v.burn k) = View.trust v := by
  refine trust_congr (k := k) (fun k' hk => by simp [hk]) (fun st c => ?_) (fun st c => by simp)
  simp [hd]

theorem trust_putState {st : PassportState} :
    View.trust (v.put (statePda programId t) (.passportState st)) =
      (View.trust v).set t st.status ((View.trust v).active t) := by
  unfold View.trust Trust.set
  congr 1
  · funext t'
    by_cases ht : t' = t
    · subst ht
      simp [View.status]
    · simp [View.status, ht]
  · simp only [update_eq_self]
    funext t'
    simp [View.active]

theorem trust_putChallenge {c : ChallengeAccount} :
    View.trust (v.put (challengePda programId t) (.challenge c)) =
      { View.trust v with active := update (View.trust v).active t c.isActive } := by
  have hst : View.status (v.put (challengePda programId t) (.challenge c)) = View.status v := by
    funext t'
    simp [View.status]
  have hact : View.active (v.put (challengePda programId t) (.challenge c)) =
      update (View.active v) t c.isActive := by
    funext t'
    by_cases ht : t' = t
    · subst ht
      simp [View.active]
    · simp [View.active, ht]
  unfold View.trust
  rw [hst, hact]

theorem trust_putRecord {t' i : ℕ} :
    View.trust (v.put (.pda programId (.record t' i)) d) = View.trust v :=
  trust_put (by simp) (by simp)

theorem trust_putConfig : View.trust (v.put (configPda programId) d) = View.trust v :=
  trust_put (by simp) (by simp)

end TrustLemmas

theorem status_of_hasState {L : Ledger} {t : TokenId} {st : PassportState} (h : HasState L t st) :
    (trust L).status t = some st.status := by
  simp [trust, View.trust, View.status, h.2]

theorem data_of_coreAt {L : Ledger} {k : Pubkey} {a : CoreAsset} (h : coreAt L k = some a) :
    (view L).data k = .coreAsset a :=
  (coreAt_eq_some.mp h).2

/-! ## §3. Instructions. -/

/-- The passport an instruction is about a challenge of. -/
def Instruction.challenged : Instruction → Option TokenId
  | .openChallenge t | .withdrawChallenge t | .judgeChallenge t _ | .concludeChallenge t => some t
  | _ => none

/-- The passport a gateway instruction writes the state of. -/
def Instruction.bridged : Instruction → Option TokenId
  | .bridgeMint _ t _ | .bridgeBurn t | .bridgeResetOnUnlock t _ => some t
  | _ => none

/-- The challenge account an instruction ends is the one of its own token, the asset a
    verifier looks at is that of its own token, and the gateway leaves passports under
    challenge alone. -/
def Sound (L : Ledger) (x : Call) : Instruction → Prop
  | .withdrawChallenge t | .judgeChallenge t _ => x.keys[4]? = some (challengePda programId t)
  | .concludeChallenge t => x.keys[3]? = some (challengePda programId t)
  | .verifyPassport t => x.keys[1]? = some (assetPda programId t)
  | ix => ∀ t, ix.bridged = some t → (trust L).active t = false

def SoundAction (s : System) : Action → Prop
  | .instruction x ix => Sound s.ledger x ix
  | _ => True

/-- What an instruction does to status and challenge. -/
inductive TrustStep (now : ℕ) (T : Trust) : Instruction → Trust → Prop
  | same {ix : Instruction} (h : ix.challenged = none) : TrustStep now T ix T
  | minted {ix : Instruction} {t : TokenId} (h : ix.challenged = none) (hn : T.status t = none) :
      TrustStep now T ix (T.set t .unverified (T.active t))
  | lapsed {ix : Instruction} {t : TokenId} (h : ix.challenged = none)
      (hs : T.status t = some .verified ∨ T.active t = false) :
      TrustStep now T ix (T.set t .unverified (T.active t))
  | verified {t : TokenId} (hs : T.status t = some .unverified) :
      TrustStep now T (.verifyPassport t) (T.set t .verified (T.active t))
  | opened {t : TokenId} (hs : T.status t = some .verified) :
      TrustStep now T (.openChallenge t) (T.set t .disputed (decide (now ≠ 0)))
  | withdrawn {t : TokenId} (hs : T.active t = true) :
      TrustStep now T (.withdrawChallenge t) (T.set t .verified false)
  | rejected {t : TokenId} (hs : T.active t = true) :
      TrustStep now T (.judgeChallenge t 1) (T.set t .verified false)
  | upheld {t : TokenId} {o : ℕ} (hs : T.active t = true) :
      TrustStep now T (.judgeChallenge t o) (T.set t .unverified false)
  | concluded {t : TokenId} (hs : T.active t = true) :
      TrustStep now T (.concludeChallenge t) (T.set t .unverified false)

section Execute

variable {P : Platform} {now : ℕ} {x : Call} {ix : Instruction} {L L' : Ledger} {w w' : Exec}
  {t : TokenId}

theorem execute_ok (h : execute P now x ix L = .ok L') :
    ∃ w, processInstruction P now x (Exec.start L) ix = .ok w ∧ L' = w.ledger := by
  simp only [execute, bind_ok, pure_ok] at h
  obtain ⟨w, hw, w₁, hv, rfl⟩ := h
  exact ⟨w, hw, (verify_ok hv).1⟩

theorem configChanged_trust (h : ConfigChanged L (view w'.ledger)) : trust w'.ledger = trust L := by
  obtain ⟨cfg, hv⟩ := h
  unfold trust
  rw [hv, trust_putConfig]

theorem recordAppended_trust (h : RecordAppended L t (view w'.ledger)) :
    trust w'.ledger = trust L := by
  obtain ⟨st, d, hst, hv⟩ := h
  have hsame : (trust L).status = update (trust L).status t (some st.status) := by
    rw [← status_of_hasState hst, update_eq_self]
  show View.trust (view w'.ledger) = trust L
  rw [hv, trust_putState, trust_putRecord]
  show Trust.set (trust L) t st.status ((trust L).active t) = trust L
  unfold Trust.set
  rw [update_eq_self, ← hsame]

/-- What a gateway instruction leaves: the state unverified, the challenge as it was. -/
theorem bridged_step {st : PassportState} {v : View} (hix : ix.challenged = none)
    (hv : View.trust v = trust L) (hun : st.status = .unverified)
    (hs : (trust L).status t = some .verified ∨ (trust L).active t = false)
    (hw : view w'.ledger = v.put (statePda programId t) (.passportState st)) :
    TrustStep now (trust L) ix (trust w'.ledger) := by
  have htr : trust w'.ledger = (trust L).set t .unverified ((trust L).active t) := by
    unfold trust at hv ⊢
    rw [hw, trust_putState, hv, hun]
  rw [htr]
  exact .lapsed hix hs

theorem ended_trust {st : PassportState} {c : ChallengeAccount} {v : View}
    (hv : View.trust v = { trust L with active := update (trust L).active t c.cleared.isActive })
    (hw : view w'.ledger = v.put (statePda programId t) (.passportState st)) :
    trust w'.ledger = (trust L).set t st.status false := by
  unfold trust at hv ⊢
  rw [hw, trust_putState, hv]
  simp [Trust.set]

/-- **Every accepted instruction is one of the steps.** -/
theorem execute_trust (h : execute P now x ix L = .ok L') (hs : Sound L x ix) :
    TrustStep now (trust L) ix (trust L') := by
  obtain ⟨w, hp, rfl⟩ := execute_ok h
  cases ix with
  | initializeConfig =>
    rw [configChanged_trust (initializeConfig_ok hp)]
    exact .same rfl
  | setBridgeGateway =>
    rw [configChanged_trust (setBridgeGateway_ok hp)]
    exact .same rfl
  | setStakingProgram =>
    rw [configChanged_trust (setStakingProgram_ok hp)]
    exact .same rfl
  | setDisputeDeposit =>
    rw [configChanged_trust (setDisputeDeposit_ok hp)]
    exact .same rfl
  | addEncumbranceSource =>
    rw [configChanged_trust (addEncumbranceSource_ok hp)]
    exact .same rfl
  | removeEncumbranceSource =>
    rw [configChanged_trust (removeEncumbranceSource_ok hp)]
    exact .same rfl
  | appendRecord =>
    rw [recordAppended_trust (appendRecord_ok hp).1]
    exact .same rfl
  | reportDiscrepancy =>
    rw [recordAppended_trust (reportDiscrepancy_ok hp)]
    exact .same rfl
  | appendAttestation =>
    rw [recordAppended_trust (appendAttestation_ok hp)]
    exact .same rfl
  | may =>
    obtain rfl := may_ok hp
    exact .same rfl
  | withdrawClaim =>
    obtain ⟨recipient, d, hv⟩ := withdrawClaim_ok hp
    have htr : trust w.ledger = trust L := by
      unfold trust
      rw [hv]
      exact trust_put (by simp) (by simp)
    rw [htr]
    exact .same rfl
  | transferPassport t =>
    obtain ⟨asset, owner, newOwner, a, -, -, -, ha, -, hv⟩ := transferPassport_ok hp
    have htr : trust w.ledger = trust L := by
      unfold trust
      rw [hv]
      exact trust_putAsset (.inl ⟨a, data_of_coreAt ha⟩)
    rw [htr]
    exact .same rfl
  | mintPassport uri =>
    obtain ⟨t, owner, freeze, cfg, hfree, he, hv⟩ := mintPassport_ok hp
    have hn : (trust L).status t = none := by
      have hd : (L (statePda programId t)).data = .empty := he
      simp [trust, View.trust, View.status, hd]
    have htr : trust w.ledger = (trust L).set t .unverified ((trust L).active t) := by
      unfold trust
      rw [hv, trust_putConfig, trust_putState, trust_putAsset (.inr hfree.2.1)]
      rfl
    rw [htr]
    exact .minted rfl hn
  | setPassportUri t uri =>
    obtain ⟨asset, a, owner, st, -, -, -, hst, hnd, ha, -, hv⟩ := setPassportUri_ok hp
    have hput : View.trust ((view L).putAsset asset { a with uri := uri }) = trust L :=
      trust_putAsset (.inl ⟨a, data_of_coreAt ha⟩)
    by_cases hver : st.status = .verified
    · rw [if_pos hver] at hv
      exact bridged_step rfl hput rfl (.inl (hver ▸ status_of_hasState hst)) hv
    · rw [if_neg hver] at hv
      have htr : trust w.ledger = trust L := by
        show View.trust (view w.ledger) = trust L
        rw [hv]
        exact hput
      rw [htr]
      exact .same rfl
  | setCustodyLock t locked =>
    obtain ⟨asset, a, st, -, ha, hst, hv⟩ := setCustodyLock_ok hp
    have htr : trust w.ledger = trust L := by
      have hput : View.trust ((view L).putAsset asset { a with frozen := locked }) = trust L :=
        trust_putAsset (.inl ⟨a, data_of_coreAt ha⟩)
      have hst' : (trust L).status t = some st.status := status_of_hasState hst
      have hsame : (trust L).status = update (trust L).status t (some st.status) := by
        rw [← hst', update_eq_self]
      show View.trust (view w.ledger) = trust L
      rw [hv, show (Exec.start L).ledger = L from rfl, trust_putState, hput]
      unfold Trust.set
      rw [update_eq_self, ← hsame]
    rw [htr]
    exact .same rfl
  | bridgeMint receiver t uri =>
    obtain ⟨freeze, st, hfree, hun, -, hv⟩ := bridgeMint_ok hp
    exact bridged_step rfl (trust_putAsset (.inr hfree.2.1)) hun (.inr (hs t rfl)) hv
  | bridgeBurn t =>
    obtain ⟨asset, a, st, -, ha, -, hv⟩ := bridgeBurn_ok hp
    refine bridged_step rfl ?_ rfl (.inr (hs t rfl)) hv
    rw [trust_burn (b := { a with frozen := false }) (by simp)]
    exact trust_putAsset (.inl ⟨a, data_of_coreAt ha⟩)
  | bridgeResetOnUnlock t uri =>
    obtain ⟨asset, a, st, -, ha, -, hv⟩ := bridgeResetOnUnlock_ok hp
    exact bridged_step rfl (trust_putAsset (.inl ⟨a, data_of_coreAt ha⟩)) rfl (.inr (hs t rfl)) hv
  | verifyPassport t =>
    obtain ⟨asset, verifier, cfg, st, -, -, -, -, -, hst, hun, -, -, hv⟩ := verifyPassport_ok hp
    have htr : trust w.ledger = (trust L).set t .verified ((trust L).active t) := by
      show View.trust (view w.ledger) = _
      rw [hv, trust_putState]
      rfl
    rw [htr]
    exact .verified (hun ▸ status_of_hasState hst)
  | openChallenge t =>
    obtain ⟨st, c, hst, hver, -, hnow, hv⟩ := openChallenge_ok hp
    have htr : trust w.ledger = (trust L).set t .disputed (decide (now ≠ 0)) := by
      have hact : c.isActive = decide (now ≠ 0) := by
        simp [ChallengeAccount.isActive, hnow]
      show View.trust (view w.ledger) = _
      rw [hv, trust_putState, trust_putChallenge, hact]
      simp only [Trust.set, Function.update_self, Function.update_idem]
      rfl
    rw [htr]
    exact .opened (hver ▸ status_of_hasState hst)
  | withdrawChallenge t =>
    obtain ⟨challenge, c, st, st', d, hk, hst, hd, hact, hver, hv⟩ := withdrawChallenge_ok hp
    obtain rfl : challenge = challengePda programId t := Option.some.inj (hk.symm.trans hs)
    have hT : (trust L).active t = true := by
      have hd' : (L (challengePda programId t)).data = .challenge c := hd
      simp [trust, View.trust, View.active, hd', hact]
    rw [ended_trust (c := c) (by rw [trust_putRecord, trust_putChallenge]; rfl) hv, hver]
    exact .withdrawn hT
  | judgeChallenge t outcome =>
    obtain ⟨judge, asset, challenge, c, st, o, -, -, hk, -, -, -, ho, hst, hd, hact, hv⟩ :=
      judgeChallenge_ok hp
    obtain rfl : challenge = challengePda programId t := Option.some.inj (hk.symm.trans hs)
    have hT : (trust L).active t = true := by
      have hd' : (L (challengePda programId t)).data = .challenge c := hd
      simp [trust, View.trust, View.active, hd', hact]
    rw [ended_trust (c := c) (by rw [trust_putChallenge]; rfl) hv]
    obtain ⟨rfl, rfl⟩ | ⟨rfl, rfl⟩ := ho
    · exact .upheld hT
    · exact .rejected hT
  | concludeChallenge t =>
    obtain ⟨challenge, c, st, hk, hst, hd, hact, hv⟩ := concludeChallenge_ok hp
    obtain rfl : challenge = challengePda programId t := Option.some.inj (hk.symm.trans hs)
    have hT : (trust L).active t = true := by
      have hd' : (L (challengePda programId t)).data = .challenge c := hd
      simp [trust, View.trust, View.active, hd', hact]
    rw [ended_trust (c := c) (by rw [trust_putChallenge]; rfl) hv]
    exact .concluded hT

/-- **A challenge is about one passport.**  No other's state or challenge is written. -/
theorem execute_frame (h : execute P now x ix L = .ok L') (hs : Sound L x ix)
    (hix : ix.challenged = some t) {t' : TokenId} (ht : t' ≠ t) :
    (L' (statePda programId t')).data = (L (statePda programId t')).data ∧
      (L' (challengePda programId t')).data = (L (challengePda programId t')).data := by
  obtain ⟨w, hp, rfl⟩ := execute_ok h
  show (view w.ledger).data _ = (view (Exec.start L).ledger).data _ ∧
    (view w.ledger).data _ = (view (Exec.start L).ledger).data _
  cases ix with
  | openChallenge t₁ =>
    obtain rfl : t₁ = t := Option.some.inj hix
    obtain ⟨st, c, -, -, -, -, hv⟩ := openChallenge_ok hp
    simp [hv, ht]
  | withdrawChallenge t₁ =>
    obtain rfl : t₁ = t := Option.some.inj hix
    obtain ⟨challenge, c, st, st', d, hk, -, -, -, -, hv⟩ := withdrawChallenge_ok hp
    obtain rfl : challenge = challengePda programId t₁ := Option.some.inj (hk.symm.trans hs)
    simp [hv, ht]
  | judgeChallenge t₁ outcome =>
    obtain rfl : t₁ = t := Option.some.inj hix
    obtain ⟨judge, asset, challenge, c, st, o, -, -, hk, -, -, -, -, -, -, -, hv⟩ :=
      judgeChallenge_ok hp
    obtain rfl : challenge = challengePda programId t₁ := Option.some.inj (hk.symm.trans hs)
    simp [hv, ht]
  | concludeChallenge t₁ =>
    obtain rfl : t₁ = t := Option.some.inj hix
    obtain ⟨challenge, c, st, hk, -, -, -, hv⟩ := concludeChallenge_ok hp
    obtain rfl : challenge = challengePda programId t₁ := Option.some.inj (hk.symm.trans hs)
    simp [hv, ht]
  | _ => cases hix

/-- What everybody else does is seen by neither. -/
theorem outside_trust {k : Pubkey} {a : Account Pubkey Data} (h : OutsideMay k (L k) a) :
    trust (update L k a) = trust L := by
  have hne : ∀ k', k' ≠ k → (view (update L k a)).data k' = (view L).data k' := by
    intro k' hk
    simp [hk]
  cases h with
  | untouched h =>
    have hv : view (update L k a) = view L := by
      apply view_congr
      intro k'
      by_cases hk : k' = k
      · subst hk
        simp [h.1, h.2.1]
      · simp [hk]
    unfold trust
    rw [hv]
  | foreign ho hk hz =>
    have hs : ∀ t, statePda programId t ≠ k := by
      rintro t rfl
      simp [Pubkey.derivedBy] at hk
    have hc : ∀ t, challengePda programId t ≠ k := by
      rintro t rfl
      simp [Pubkey.derivedBy] at hk
    unfold trust View.trust View.status View.active
    simp [hs, hc]
  | asset ho ho' hd hd' hu =>
    exact trust_congr hne (fun st c => by simp [hd]) (fun st c => by simp [hd'])
  | burned ho ho' hd hd' =>
    exact trust_congr hne (fun st c => by simp [hd]) (fun st c => by simp [hd'])

end Execute

section TrustSteps

variable {now : ℕ} {T T' : Trust} {ix : Instruction} {t : TokenId}

/-- A passport is disputed exactly while its challenge is active. -/
def Trust.Agrees (T : Trust) : Prop := ∀ t, T.status t = some .disputed ↔ T.active t = true

theorem Trust.Agrees.set {s : Status} {b : Bool} (hT : T.Agrees) (h : s = .disputed ↔ b = true) :
    (T.set t s b).Agrees := by
  intro t'
  by_cases ht : t' = t
  · subst ht
    simpa [Trust.set] using h
  · simpa [Trust.set, ht] using hT t'

/-- **Every step keeps the agreement.** -/
theorem TrustStep.agrees (h : TrustStep now T ix T') (hnow : 0 < now) (hT : T.Agrees) :
    T'.Agrees := by
  -- a passport that is not disputed has no active challenge
  have hno : ∀ {t s}, T.status t = some s → s ≠ .disputed → T.active t = false := by
    intro t s hs hne
    rw [← Bool.not_eq_true, ← hT t, hs]
    simpa using hne
  cases h with
  | same h => exact hT
  | minted h hn =>
    apply hT.set
    rw [← hT, hn]
    simp
  | lapsed h hs =>
    apply hT.set
    rcases hs with hs | hs
    · simp [hno hs (by simp)]
    · simp [hs]
  | verified hs =>
    apply hT.set
    simp [hno hs (by simp)]
  | opened hs =>
    apply hT.set
    simp [Nat.pos_iff_ne_zero.mp hnow]
  | withdrawn hs | rejected hs | upheld hs | concluded hs =>
    apply hT.set
    simp

/-- What verifies a passport. -/
theorem TrustStep.verified_of (h : TrustStep now T ix T') (hv : T'.status t = some .verified)
    (hn : T.status t ≠ some .verified) :
    ix = .verifyPassport t ∨
      (ix = .withdrawChallenge t ∨ ix = .judgeChallenge t 1) ∧ T.active t = true := by
  -- the token written is `t`, or its status is as before
  have hset : ∀ {t' s b}, (T.set t' s b).status t = some .verified → t = t' ∧ s = .verified := by
    intro t' s b hst
    by_cases ht : t = t'
    · subst ht
      simpa [Trust.set] using hst
    · simp only [Trust.set, Function.update_of_ne ht] at hst
      exact absurd hst hn
  cases h with
  | same h => exact absurd hv hn
  | minted h hs => cases (hset hv).2
  | lapsed h hs => cases (hset hv).2
  | opened hs => cases (hset hv).2
  | upheld hs => cases (hset hv).2
  | concluded hs => cases (hset hv).2
  | verified hs =>
    obtain ⟨rfl, -⟩ := hset hv
    exact .inl rfl
  | withdrawn hs =>
    obtain ⟨rfl, -⟩ := hset hv
    exact .inr ⟨.inl rfl, hs⟩
  | rejected hs =>
    obtain ⟨rfl, -⟩ := hset hv
    exact .inr ⟨.inr rfl, hs⟩

/-- An active challenge was opened by the step, on a verified passport, or left alone by it. -/
theorem TrustStep.active_of (h : TrustStep now T ix T') (ha : T'.active t = true) :
    ix = .openChallenge t ∧ T.status t = some .verified ∨
      ix.challenged ≠ some t ∧ T.active t = true := by
  -- an instruction about no challenge
  have hkept : ∀ {t' s}, ix.challenged = none → (T.set t' s (T.active t')).active t = true →
      ix.challenged ≠ some t ∧ T.active t = true := by
    intro t' s hix hact
    simp only [Trust.set, update_eq_self] at hact
    exact ⟨by simp [hix], hact⟩
  -- an instruction that ends the challenge of `t'`
  have hended : ∀ {t' s}, (T.set t' s false).active t = true → t' ≠ t ∧ T.active t = true := by
    intro t' s hact
    by_cases ht : t = t'
    · subst ht
      simp [Trust.set] at hact
    · simp only [Trust.set, Function.update_of_ne ht] at hact
      exact ⟨fun e => ht e.symm, hact⟩
  cases h with
  | same h => exact .inr ⟨by simp [h], ha⟩
  | minted h hs => exact .inr (hkept h ha)
  | lapsed h hs => exact .inr (hkept h ha)
  | verified hs => exact .inr (hkept rfl ha)
  | @opened t' hs =>
    by_cases ht : t = t'
    · subst ht
      exact .inl ⟨rfl, hs⟩
    · simp only [Trust.set, Function.update_of_ne ht] at ha
      exact .inr ⟨by simpa [Instruction.challenged] using fun e => ht e.symm, ha⟩
  | withdrawn hs | rejected hs | upheld hs | concluded hs =>
    obtain ⟨hne, hact⟩ := hended ha
    exact .inr ⟨by simpa [Instruction.challenged] using hne, hact⟩

end TrustSteps

/-! ## §4. The law. -/

/-- The passport the entry's instruction is about a challenge of. -/
def Entry.challenged (e : Entry) : Option TokenId :=
  match e.action with
  | .instruction _ ix => ix.challenged
  | _ => none

/-- The last instruction about a challenge of `t` opened one, on a verified passport. -/
def ChallengedVerified (t : TokenId) : List Entry → Prop
  | [] => False
  | e :: older =>
    if e.challenged = some t then
      (∃ x, e.action = .instruction x (.openChallenge t)) ∧
        (trust e.before).status t = some .verified
    else ChallengedVerified t older

/-- `VerifyPassport`, signed by an active verifier who does not own the passport's asset. -/
def VerifiedBy (L : Ledger) (t : TokenId) (x : Call) : Prop :=
  ∃ verifier cfg a, x.isSigner verifier ∧ HasConfig L cfg ∧
    ActiveVerifier L cfg.stakingProgram verifier ∧
    coreAt L (assetPda programId t) = some a ∧ a.owner ≠ verifier

/-- A passport becomes verified because a verifier says so, or because one of the
    instructions in `ends` ends the challenge of its verification. -/
def VerifiedRule (ends : TokenId → List Instruction) (older : List Entry) (e : Entry) : Prop :=
  ∀ t, (trust e.after).status t = some .verified → (trust e.before).status t ≠ some .verified →
    ∃ x ix, e.action = .instruction x ix ∧ (ix = .verifyPassport t ∧ VerifiedBy e.before t x ∨
      ix ∈ ends t ∧ (trust e.before).active t = true ∧ ChallengedVerified t older)

/-- The challenger gives up, or a judge finds the challenge unfounded. -/
def restoring (t : TokenId) : List Instruction := [.withdrawChallenge t, .judgeChallenge t 1]

/-- An instruction about a challenge of one passport leaves state and challenge of every
    other. -/
def ChallengeFrame (e : Entry) : Prop :=
  ∀ t t', e.challenged = some t → t' ≠ t →
    (e.after (statePda programId t')).data = (e.before (statePda programId t')).data ∧
      (e.after (challengePda programId t')).data = (e.before (challengePda programId t')).data

structure StatusInv (s : System) : Prop where
  now_pos : 0 < s.now
  agrees : (trust s.ledger).Agrees
  opened : ∀ t, (trust s.ledger).active t = true → ChallengedVerified t s.past
  rule : Throughout (fun older e => VerifiedRule restoring older e ∧ ChallengeFrame e) s.past

section Law

variable {P : Platform} {s s' : System}

theorem Genesis.trust (h : Genesis s) (t : TokenId) :
    (trust s.ledger).status t = none ∧ (trust s.ledger).active t = false := by
  unfold Passport.trust View.trust View.status View.active
  simp [(h.derived (.state t)).2, (h.derived (.challenge t)).2]

theorem Genesis.statusInv (h : Genesis s) : StatusInv s where
  now_pos := h.now_pos
  agrees t := by simp [h.trust t]
  opened t ha := by simp [h.trust t] at ha
  rule := by
    rw [h.past]
    trivial

/-- An action that leaves status and challenge of every passport as they were. -/
theorem StatusInv.push {now : ℕ} {a : Action} {L' : Ledger} (h : StatusInv s) (hnow : 0 < now)
    (ha : Entry.challenged ⟨a, s.ledger, L'⟩ = none) (ht : trust L' = trust s.ledger) :
    StatusInv ⟨L', now, ⟨a, s.ledger, L'⟩ :: s.past⟩ where
  now_pos := hnow
  agrees := by
    show (trust L').Agrees
    rw [ht]
    exact h.agrees
  opened t hact := by
    have hact' : (trust L').active t = true := hact
    rw [ht] at hact'
    simp only [ChallengedVerified, ha, reduceCtorEq, if_false]
    exact h.opened t hact'
  rule := by
    refine ⟨⟨fun t hv hn => ?_, fun t t' hc => ?_⟩, h.rule⟩
    · rw [ht] at hv
      exact absurd hv hn
    · rw [ha] at hc
      cases hc

/-- A verification: the asset it looks at is that of its own passport. -/
theorem verifiedBy {L L' : Ledger} {t : TokenId} {x : Call} {now : ℕ}
    (h : execute P now x (.verifyPassport t) L = .ok L') (hs : Sound L x (.verifyPassport t)) :
    VerifiedBy L t x := by
  obtain ⟨w, hp, rfl⟩ := execute_ok h
  obtain ⟨asset, verifier, cfg, st, hk, -, -, hsign, hcfg, -, -, hact, ⟨a, ha, hne⟩, -⟩ :=
    verifyPassport_ok hp
  obtain rfl : asset = assetPda programId t := Option.some.inj (hk.symm.trans hs)
  exact ⟨verifier, cfg, a, hsign, hcfg, hact, ha, hne⟩

theorem StatusInv.instruction {x : Call} {ix : Instruction} {L' : Ledger} (h : StatusInv s)
    (hs : Sound s.ledger x ix) (he : execute P s.now x ix s.ledger = .ok L') :
    StatusInv ⟨L', s.now, ⟨.instruction x ix, s.ledger, L'⟩ :: s.past⟩ := by
  have hstep : TrustStep s.now (trust s.ledger) ix (trust L') := execute_trust he hs
  refine ⟨h.now_pos, hstep.agrees h.now_pos h.agrees, fun t ha => ?_, ⟨fun t hv hn => ?_,
    fun t t' hc ht => execute_frame he hs hc ht⟩, h.rule⟩
  · show ite (ix.challenged = some t) _ _
    rcases hstep.active_of ha with ⟨rfl, hst⟩ | ⟨hne, hact⟩
    · rw [if_pos (by rfl)]
      exact ⟨⟨x, rfl⟩, hst⟩
    · rw [if_neg hne]
      exact h.opened t hact
  · refine ⟨x, ix, rfl, ?_⟩
    rcases hstep.verified_of hv hn with rfl | ⟨hix, hact⟩
    · exact .inl ⟨rfl, verifiedBy he hs⟩
    · exact .inr ⟨by simpa [restoring] using hix, hact, h.opened t hact⟩

theorem StatusInv.step {a : Action} (h : StatusInv s) (hs : SoundAction s a)
    (hr : step P s a = .ok s') : StatusInv s' := by
  cases a with
  | instruction x ix =>
    simp only [Passport.step, bind_ok, require_ok, pure_ok, exists_const] at hr
    obtain ⟨-, L', he, rfl⟩ := hr
    exact h.instruction hs he
  | outside k a =>
    simp only [Passport.step, bind_ok, require_ok, pure_ok, exists_const] at hr
    obtain ⟨hok, rfl⟩ := hr
    exact h.push h.now_pos rfl (outside_trust (outsideMay_of_ok hok))
  | tick n =>
    simp only [Passport.step, bind_ok, require_ok, pure_ok, exists_const] at hr
    obtain ⟨hle, rfl⟩ := hr
    exact h.push (Nat.lt_of_lt_of_le h.now_pos hle) rfl rfl

/-- **The status rule.**  In every run that hands each instruction the challenge and the asset
    of its own passport, a passport is disputed exactly while its challenge is active, and only
    a verifier, or the end of a challenge that found it verified, verifies it. -/
theorem status_rule {s₀ : System} {as : List Action} (h₀ : Genesis s₀)
    (hs : Along (step P) SoundAction s₀ as) (hr : run (step P) s₀ as = .ok s) :
    (∀ t, (trust s.ledger).status t = some .disputed ↔ (trust s.ledger).active t = true) ∧
      Throughout (fun older e => VerifiedRule restoring older e ∧ ChallengeFrame e) s.past := by
  have hinv : StatusInv s :=
    run_invariant_along (fun _ _ _ h hs hr => h.step hs hr) h₀.statusInv hs hr
  exact ⟨hinv.agrees, hinv.rule⟩

end Law

/-! ## §5. Where it fails. -/

section Examples

/-- An authority (9), a verifier (2) and others; the gateway program is 4, staking is 5. -/
def smallLedger : Ledger
  | .key _ => ⟨10 ^ 12, .system, .empty, false⟩
  | .pda (.program 4) .config => ⟨10 ^ 7, .program 4, .other none, false⟩
  | .stake (.program 5) (.key 2) => ⟨10 ^ 7, .program 5, .stake ⟨.key 2, true⟩, false⟩
  | .stake (.program 5) (.key 4) => ⟨10 ^ 7, .program 5, .stake ⟨.key 4, true⟩, false⟩
  | _ => ⟨0, .system, .empty, false⟩

def smallSystem : System := ⟨smallLedger, 100, []⟩

theorem smallSystem_genesis : Genesis smallSystem where
  fresh k := by
    simp only [smallSystem, smallLedger]
    split <;> simp
  derived d := by simp [smallSystem, smallLedger]
  now_pos := by decide
  past := rfl

/-- Everybody's account may be written. -/
def ask (keys signers : List Pubkey) (ix : Instruction) : Action :=
  .instruction ⟨keys, signers, keys⟩ ix

/-- The id of the `n`th passport of chain 1. -/
def nth (n : ℕ) : TokenId := tokenIdFromParts 1 n

def configured : List Action :=
  [ask [configPda programId, .key 9, .system] [.key 9] (.initializeConfig 1 5 (.program 5) (.key 9)),
    ask [configPda programId, .key 9] [.key 9] (.setBridgeGateway (configPda (.program 4)))]

def mints (n owner : ℕ) : Action :=
  ask [configPda programId, assetPda programId (nth n), statePda programId (nth n), .key owner,
    .key owner, freezePda (.program 4), configPda (.program 4), .mplCore, .system] [.key owner]
    (.mintPassport ['a'])

/-- 2 verifies the `n`th passport, and hands in the asset of the `m`th. -/
def verifies (n m : ℕ) : Action :=
  ask [configPda programId, assetPda programId (nth m), statePda programId (nth n),
    .stake (.program 5) (.key 2), .key 2] [.key 2] (.verifyPassport (nth n))

def opensChallenge (n challenger : ℕ) : Action :=
  ask [.key challenger, configPda programId, assetPda programId (nth n), statePda programId (nth n),
    challengePda programId (nth n), .system, .key challenger] [.key challenger]
    (.openChallenge (nth n))

def challengedRun : List Action := configured ++ [mints 1 1, verifies 1 1, opensChallenge 1 3]

/-- The challenge of passport 1, opened by 3, is judged unfounded by 4. -/
def judgement : Action :=
  ask [.key 4, configPda programId, assetPda programId (nth 1), statePda programId (nth 1),
    challengePda programId (nth 1), .key 9, .stake (.program 5) (.key 4), .program 5, .key 4] [.key 4]
    (.judgeChallenge (nth 1) 1)

/-- 3 challenges its own passport 1, and takes the bond back as if from passport 2. -/
def crossedRun : List Action := configured ++
  [mints 1 3, verifies 1 1, mints 2 3, opensChallenge 1 3,
  ask [.key 3, configPda programId, assetPda programId (nth 2), statePda programId (nth 2),
    challengePda programId (nth 1), .pda programId (.record (nth 2) 0), .system, .key 3] [.key 3]
    (.withdrawChallenge (nth 2))]

/-- The gateway takes passport 1 back while its challenge is active. -/
def resetRun : List Action := challengedRun ++ [ask [configPda programId, configPda (.program 4),
  assetPda programId (nth 1), statePda programId (nth 1), .key 9, freezePda (.program 4), .mplCore,
  .system] [configPda (.program 4), .key 9, freezePda (.program 4)] (.bridgeResetOnUnlock (nth 1) [])]

/-- The entry of the last instruction of an accepted run. -/
theorem past_finalState {P : Platform} {s₀ : System} {as : List Action} {x : Call}
    {ix : Instruction} (h : (run (step P) s₀ (as ++ [.instruction x ix])).isOk = true) :
    (finalState (step P) s₀ (as ++ [.instruction x ix])).past =
      ⟨.instruction x ix, (finalState (step P) s₀ as).ledger,
        (finalState (step P) s₀ (as ++ [.instruction x ix])).ledger⟩ ::
          (finalState (step P) s₀ as).past := by
  obtain ⟨s₁, h₁, hlast⟩ := run_append_ok.mp (run_finalState h)
  obtain ⟨s₂, hstep, hnil⟩ := run_cons_ok.mp hlast
  have he : s₂ = finalState (step P) s₀ (as ++ [.instruction x ix]) := by
    simpa [run] using hnil
  have h₀ : finalState (step P) s₀ as = s₁ := by
    simp only [finalState, h₁]
  rw [← he, h₀]
  simp only [step, bind_ok, require_ok, pure_ok, exists_const] at hstep
  obtain ⟨-, L', -, rfl⟩ := hstep
  rfl

/-- A run whose last entry breaks a law breaks it. -/
theorem run_breaks {P : Platform} {s₀ : System} {as : List Action} {x : Call} {ix : Instruction}
    {ok : List Entry → Entry → Prop}
    (h : (run (step P) s₀ (as ++ [.instruction x ix])).isOk = true)
    (hn : ¬ ok (finalState (step P) s₀ as).past ⟨.instruction x ix, (finalState (step P) s₀ as).ledger,
      (finalState (step P) s₀ (as ++ [.instruction x ix])).ledger⟩) :
    ∃ s, run (step P) s₀ (as ++ [.instruction x ix]) = .ok s ∧ ¬ Throughout ok s.past := by
  refine ⟨_, run_finalState h, fun hall => ?_⟩
  rw [past_finalState h] at hall
  exact hn hall.1

/-- **A judgement verifies, and a challenge is ended as another's.**  Judged unfounded, a
    challenge leaves its passport verified.  Handed the challenge of passport 1, a withdrawal on
    passport 2 verifies what nobody looked at, and 1 is disputed without a challenge; unlocked by
    the gateway, 1 has a challenge and no dispute. -/
theorem crossed_challenge : Genesis smallSystem ∧
    (∃ s, run (step .reference) smallSystem (challengedRun ++ [judgement]) = .ok s ∧
      ¬ Throughout (VerifiedRule fun t => [.withdrawChallenge t]) s.past) ∧
    (∃ s, run (step .reference) smallSystem crossedRun = .ok s ∧
      (trust s.ledger).status (nth 1) = some .disputed ∧ (trust s.ledger).active (nth 1) = false ∧
      (trust s.ledger).status (nth 2) = some .verified) ∧
    ∃ s, run (step .reference) smallSystem resetRun = .ok s ∧
      (trust s.ledger).status (nth 1) = some .unverified ∧
      (trust s.ledger).active (nth 1) = true := by
  refine ⟨smallSystem_genesis, ?_, ?_, ?_⟩
  · apply run_breaks (by decide +kernel)
    intro h
    have hv : (trust (finalState (step .reference) smallSystem
        (challengedRun ++ [judgement])).ledger).status (nth 1) = some .verified := by
      decide +kernel
    have hn : (trust (finalState (step .reference) smallSystem challengedRun).ledger).status
        (nth 1) ≠ some .verified := by
      decide +kernel
    obtain ⟨x, ix, hix, hcase⟩ := h (nth 1) hv hn
    obtain ⟨-, rfl⟩ := Action.instruction.inj hix
    simp at hcase
  · have hs : (trust (finalState (step .reference) smallSystem crossedRun).ledger).status (nth 1) =
          some .disputed ∧
        (trust (finalState (step .reference) smallSystem crossedRun).ledger).active (nth 1) = false ∧
        (trust (finalState (step .reference) smallSystem crossedRun).ledger).status (nth 2) =
          some .verified := by
      decide +kernel
    exact ⟨_, run_finalState (by decide +kernel), hs⟩
  · have hs : (trust (finalState (step .reference) smallSystem resetRun).ledger).status (nth 1) =
          some .unverified ∧
        (trust (finalState (step .reference) smallSystem resetRun).ledger).active (nth 1) = true := by
      decide +kernel
    exact ⟨_, run_finalState (by decide +kernel), hs⟩

/-- A challenge judged unfounded, within the rule. -/
theorem status_rule_judged : Genesis smallSystem ∧
    Along (step .reference) SoundAction smallSystem (challengedRun ++ [judgement]) ∧
    Throughout (fun older e => VerifiedRule restoring older e ∧ ChallengeFrame e)
      (finalState (step .reference) smallSystem (challengedRun ++ [judgement])).past := by
  have hs : Along (step .reference) SoundAction smallSystem (challengedRun ++ [judgement]) := by
    simp [challengedRun, configured, mints, verifies, opensChallenge, judgement, ask, Along,
      SoundAction, Sound, Instruction.bridged]
  exact ⟨smallSystem_genesis, hs,
    (status_rule smallSystem_genesis hs (run_finalState (by decide +kernel))).2⟩

end Examples

end Kargain.Svm.Passport
