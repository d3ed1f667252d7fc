/-
  Kargain.Svm.PassportUri — what was verified, and who may say so.

  The URI of a passport lives in its Core asset, its verification in its
  state account.  Instructions find the state by its address; five read
  an owner from, or edit, whatever asset they are handed, and so does the
  unlock of the gateway.  Handed the asset of their own passport
  (`Tied`), they change no URI that stays verified, and whoever they take
  for the owner is the owner.

  Main result: `uri_rule`, over runs.  `swapped_asset` is the run of an
  owner who rewrites a verified passport through another one.
-/
import Kargain.Svm.PassportStatus

namespace Kargain.Svm.Passport

open Kargain.Accounts Function

/-! ## §1. Definitions. -/

/-- The asset handed to the instruction is that of the passport it names. -/
def Tied (x : Call) : Instruction → Prop
  | .setPassportUri t _ | .verifyPassport t | .appendRecord t _ _ _ =>
    x.keys[1]? = some (assetPda programId t)
  | .judgeChallenge t _ | .bridgeResetOnUnlock t _ => x.keys[2]? = some (assetPda programId t)
  | .transferPassport t => x.keys[0]? = some (assetPda programId t)
  | _ => True

def TiedAction (_ : System) : Action → Prop
  | .instruction x ix => Tied x ix
  | _ => True

/-- While a passport stays verified, so does what its asset says. -/
def UriKept (e : Entry) : Prop :=
  ∀ t, (trust e.before).status t = some .verified → (trust e.after).status t = some .verified →
    ∀ a, coreAt e.after (assetPda programId t) = some a →
      ∃ b, coreAt e.before (assetPda programId t) = some b ∧ b.uri = a.uri

/-- The owner of the passport's own asset signs. -/
def OwnerSigns (L : Ledger) (x : Call) (t : TokenId) : Prop :=
  ∃ a, coreAt L (assetPda programId t) = some a ∧ x.isSigner a.owner

/-- Whom an instruction takes for the owner, and the state it works on. -/
def OwnerRule (L : Ledger) (x : Call) : Instruction → Prop
  | .setPassportUri t _ | .appendRecord t _ _ _ =>
    x.keys[2]? = some (statePda programId t) ∧ OwnerSigns L x t
  | .transferPassport t => x.keys[1]? = some (statePda programId t) ∧ OwnerSigns L x t
  | .verifyPassport t => x.keys[2]? = some (statePda programId t) ∧
    ∃ verifier a, x.keys[4]? = some verifier ∧ x.isSigner verifier ∧
      coreAt L (assetPda programId t) = some a ∧ a.owner ≠ verifier
  | .judgeChallenge t _ => x.keys[3]? = some (statePda programId t) ∧
    ∃ judge, x.keys[0]? = some judge ∧ x.isSigner judge ∧
      ∀ a, coreAt L (assetPda programId t) = some a → a.owner ≠ judge
  | _ => True

/-- The entry keeps every verified URI, and takes nobody but the owner for the owner. -/
def ContentRule (e : Entry) : Prop :=
  UriKept e ∧ ∀ x ix, e.action = .instruction x ix → OwnerRule e.before x ix

/-! ## §2. Instructions. -/

section Execute

variable {P : Platform} {now : ℕ} {x : Call} {ix : Instruction} {L L' : Ledger} {w : Exec}
  {t : TokenId}

/-- Whoever the instruction takes for the owner of `t` is the owner of its asset. -/
theorem execute_ownerRule (h : execute P now x ix L = .ok L') (ht : Tied x ix) :
    OwnerRule L x ix := by
  obtain ⟨w, hp, rfl⟩ := execute_ok h
  cases ix with
  | setPassportUri t uri =>
    obtain ⟨asset, a, owner, st, hk, hst, hs, -, -, ha, rfl, -⟩ := setPassportUri_ok hp
    obtain rfl : asset = assetPda programId t := Option.some.inj (hk.symm.trans ht)
    exact ⟨hst, a, ha, hs⟩
  | appendRecord t recordType description cid =>
    obtain ⟨-, asset, author, a, hk, hst, hs, ha, rfl⟩ := appendRecord_ok hp
    obtain rfl : asset = assetPda programId t := Option.some.inj (hk.symm.trans ht)
    exact ⟨hst, a, ha, hs⟩
  | transferPassport t =>
    obtain ⟨asset, owner, newOwner, a, hk, hst, hs, ha, rfl, -⟩ := transferPassport_ok hp
    obtain rfl : asset = assetPda programId t := Option.some.inj (hk.symm.trans ht)
    exact ⟨hst, a, ha, hs⟩
  | verifyPassport t =>
    obtain ⟨asset, verifier, cfg, st, hk, hst, hv, hs, -, -, -, -, ⟨a, ha, hne⟩, -⟩ :=
      verifyPassport_ok hp
    obtain rfl : asset = assetPda programId t := Option.some.inj (hk.symm.trans ht)
    exact ⟨hst, verifier, a, hv, hs, ha, hne⟩
  | judgeChallenge t outcome =>
    obtain ⟨judge, asset, challenge, c, st, o, hk, hst, -, hj, hs, hne, -⟩ := judgeChallenge_ok hp
    obtain rfl : asset = assetPda programId t := Option.some.inj (hk.symm.trans ht)
    exact ⟨hst, judge, hj, hs, hne⟩
  | _ => trivial

/-- What an instruction makes of the assets: an asset that is there was there with its URI, or
    it is that of a passport left unverified. -/
def AssetStep (v v' : View) : Prop :=
  ∀ k a', v'.core k = some a' →
    (∃ a, v.core k = some a ∧ a'.uri = a.uri ∧ a'.updateAuthority = a.updateAuthority) ∨
      ∃ t, k = assetPda programId t ∧ View.status v' t ≠ some .verified ∧
        (a'.updateAuthority = configPda programId ∨
          ∃ a, v.core k = some a ∧ a'.updateAuthority = a.updateAuthority)

variable {v v' : View} {k : Pubkey} {a b : CoreAsset}

theorem AssetStep.of_core (h : v'.core = v.core) : AssetStep v v' := by
  intro k a ha
  rw [h] at ha
  exact .inl ⟨a, ha, rfl, rfl⟩

/-- The asset under `k` is written, not its URI. -/
theorem AssetStep.of_write (ha : v.core k = some a)
    (hcore : v'.core = (v.putAsset k b).core) (hu : b.uri = a.uri)
    (hau : b.updateAuthority = a.updateAuthority) : AssetStep v v' := by
  intro k' a' ha'
  rw [hcore, View.putAsset_core] at ha'
  split at ha'
  · rename_i hk
    obtain rfl := Option.some.inj ha'
    exact .inl ⟨a, hk ▸ ha, hu, hau⟩
  · exact .inl ⟨a', ha', rfl, rfl⟩

/-- The asset of an unverified passport is written. -/
theorem AssetStep.of_unverified (hcore : v'.core = (v.putAsset (assetPda programId t) b).core)
    (hst : View.status v' t ≠ some .verified)
    (hau : b.updateAuthority = configPda programId ∨
      ∃ a, v.core (assetPda programId t) = some a ∧ b.updateAuthority = a.updateAuthority) :
    AssetStep v v' := by
  intro k a' ha'
  rw [hcore, View.putAsset_core] at ha'
  split at ha'
  · rename_i hk
    obtain rfl := Option.some.inj ha'
    exact .inr ⟨t, hk, hst, hk ▸ hau⟩
  · exact .inl ⟨a', ha', rfl, rfl⟩

theorem RecordAppended.core (h : RecordAppended L t v) : v.core = (view L).core := by
  obtain ⟨st, d, -, rfl⟩ := h
  rfl

theorem ConfigChanged.core (h : ConfigChanged L v) : v.core = (view L).core := by
  obtain ⟨cfg, rfl⟩ := h
  rfl

/-- **Every instruction is such a step.** -/
theorem execute_assetStep (h : execute P now x ix L = .ok L') (ht : Tied x ix) :
    AssetStep (view L) (view L') := by
  obtain ⟨w, hp, rfl⟩ := execute_ok h
  cases ix with
  | initializeConfig => exact .of_core (initializeConfig_ok hp).core
  | setBridgeGateway => exact .of_core (setBridgeGateway_ok hp).core
  | setStakingProgram => exact .of_core (setStakingProgram_ok hp).core
  | setDisputeDeposit => exact .of_core (setDisputeDeposit_ok hp).core
  | addEncumbranceSource => exact .of_core (addEncumbranceSource_ok hp).core
  | removeEncumbranceSource => exact .of_core (removeEncumbranceSource_ok hp).core
  | appendRecord => exact .of_core (appendRecord_ok hp).1.core
  | reportDiscrepancy => exact .of_core (reportDiscrepancy_ok hp).core
  | appendAttestation => exact .of_core (appendAttestation_ok hp).core
  | may =>
    obtain rfl := may_ok hp
    exact .of_core rfl
  | withdrawClaim =>
    obtain ⟨recipient, d, hv⟩ := withdrawClaim_ok hp
    exact .of_core (by rw [hv]; rfl)
  | verifyPassport t =>
    obtain ⟨asset, verifier, cfg, st, -, -, -, -, -, -, -, -, -, hv⟩ := verifyPassport_ok hp
    exact .of_core (by rw [hv]; rfl)
  | openChallenge t =>
    obtain ⟨st, c, -, -, -, -, hv⟩ := openChallenge_ok hp
    exact .of_core (by rw [hv]; rfl)
  | withdrawChallenge t =>
    obtain ⟨challenge, c, st, st', d, -, -, -, -, -, hv⟩ := withdrawChallenge_ok hp
    exact .of_core (by rw [hv]; rfl)
  | judgeChallenge t outcome =>
    obtain ⟨judge, asset, challenge, c, st, o, -, -, -, -, -, -, -, -, -, -, hv⟩ :=
      judgeChallenge_ok hp
    exact .of_core (by rw [hv]; rfl)
  | concludeChallenge t =>
    obtain ⟨challenge, c, st, -, -, -, -, hv⟩ := concludeChallenge_ok hp
    exact .of_core (by rw [hv]; rfl)
  | transferPassport t =>
    obtain ⟨asset, owner, newOwner, a, -, -, -, ha, -, hv⟩ := transferPassport_ok hp
    exact .of_write (b := { a with owner := newOwner, transferDelegate := none }) ha
      (by rw [hv]; rfl) rfl rfl
  | setCustodyLock t locked =>
    obtain ⟨asset, a, st, -, ha, -, hv⟩ := setCustodyLock_ok hp
    exact .of_write (b := { a with frozen := locked }) ha (by rw [hv]; rfl) rfl rfl
  | mintPassport uri =>
    obtain ⟨t, owner, freeze, cfg, -, -, hv⟩ := mintPassport_ok hp
    refine .of_unverified (t := t)
      (b := ⟨owner, uri, configPda programId, false, some freeze, none⟩) (by rw [hv]; rfl) ?_ (.inl rfl)
    simp [hv, View.status, newUnverified]
  | bridgeMint receiver t uri =>
    obtain ⟨freeze, st, -, hun, -, hv⟩ := bridgeMint_ok hp
    refine .of_unverified (t := t)
      (b := ⟨receiver, uri, configPda programId, false, some freeze, none⟩) (by rw [hv]; rfl) ?_
      (.inl rfl)
    simp [hv, View.status, hun]
  | bridgeBurn t =>
    obtain ⟨asset, a, st, -, ha, -, hv⟩ := bridgeBurn_ok hp
    intro k b hb
    simp only [hv, View.put_core, View.burn_core, View.putAsset_core] at hb
    split at hb
    · cases hb
    · exact .inl ⟨b, hb, rfl, rfl⟩
  | bridgeResetOnUnlock t uri =>
    obtain ⟨asset, a, st, hk, ha, -, hv⟩ := bridgeResetOnUnlock_ok hp
    obtain rfl : asset = assetPda programId t := Option.some.inj (hk.symm.trans ht)
    refine .of_unverified
      (b := { a with frozen := false, uri := if uri = [] then a.uri else uri }) (by rw [hv]; rfl) ?_
      (.inr ⟨a, ha, rfl⟩)
    simp [hv, View.status, PassportState.lapsed]
  | setPassportUri t uri =>
    obtain ⟨asset, a, owner, st, hk, -, -, hst, -, ha, -, hv⟩ := setPassportUri_ok hp
    obtain rfl : asset = assetPda programId t := Option.some.inj (hk.symm.trans ht)
    -- a verified passport lapses, any other was not verified before
    by_cases hver : st.status = .verified
    · rw [if_pos hver] at hv
      refine .of_unverified (b := { a with uri := uri }) (by rw [hv]; rfl) ?_ (.inr ⟨a, ha, rfl⟩)
      simp [hv, View.status, PassportState.lapsed]
    · rw [if_neg hver] at hv
      refine .of_unverified (b := { a with uri := uri }) (by rw [hv]; rfl) ?_ (.inr ⟨a, ha, rfl⟩)
      have hd : (view L).data (statePda programId t) = .passportState st := hst.2
      simp only [hv, View.status, View.putAsset_data, reduceCtorEq, Pubkey.pda.injEq, and_false,
        if_false]
      rw [show (Exec.start L).ledger = L from rfl, hd]
      simpa using hver

end Execute

/-! ## §3. Runs. -/

/-- Only the config changes what an asset under a passport's address says. -/
def ConfigUpdates (L : Ledger) : Prop :=
  ∀ t a, coreAt L (assetPda programId t) = some a → a.updateAuthority = configPda programId

structure UriInv (s : System) : Prop where
  config : ConfigUpdates s.ledger
  rule : Throughout (fun _ e => ContentRule e) s.past

section Law

variable {P : Platform} {s s' : System}

theorem Genesis.uriInv (h : Genesis s) : UriInv s where
  config t a ha := by
    have hd := (coreAt_eq_some.mp ha).2
    rw [(h.derived (.asset t)).2] at hd
    cases hd
  rule := by
    rw [h.past]
    trivial

theorem AssetStep.config {L L' : Ledger} (h : AssetStep (view L) (view L'))
    (hc : ConfigUpdates L) : ConfigUpdates L' := by
  intro t a' ha'
  rcases h _ a' ha' with ⟨a, ha, -, hau⟩ | ⟨-, -, -, hau | ⟨a, ha, hau⟩⟩
  · exact hau.trans (hc t a ha)
  · exact hau
  · exact hau.trans (hc t a ha)

theorem AssetStep.uriKept {e : Entry} (h : AssetStep (view e.before) (view e.after)) :
    UriKept e := by
  intro t _ hafter a' ha'
  rcases h _ a' ha' with ⟨a, ha, hu, -⟩ | ⟨t', hk, hst, -⟩
  · exact ⟨a, ha, hu.symm⟩
  · obtain rfl : t = t' := by simpa using hk
    exact absurd hafter hst

/-- What everybody else does leaves the URI of an asset that the config updates. -/
theorem outside_assetStep {L : Ledger} {k : Pubkey} {b : Account Pubkey Data}
    (h : OutsideMay k (L k) b) (hc : ConfigUpdates L) {t : TokenId} {a' : CoreAsset}
    (ha' : coreAt (update L k b) (assetPda programId t) = some a') :
    ∃ a, coreAt L (assetPda programId t) = some a ∧ a'.uri = a.uri ∧
      a'.updateAuthority = a.updateAuthority := by
  by_cases hk : assetPda programId t = k
  · subst hk
    obtain ⟨ho', hd'⟩ := coreAt_eq_some.mp ha'
    simp only [update_self] at ho' hd'
    cases h with
    | untouched h => exact ⟨a', coreAt_eq_some.mpr ⟨h.1 ▸ ho', h.2.1 ▸ hd'⟩, rfl, rfl⟩
    | foreign ho hk hz => simp [Pubkey.derivedBy] at hk
    | @asset r r' ho ho₁ hd hd₁ hu =>
      obtain rfl : r' = a' := by simpa using hd₁.symm.trans hd'
      have ha : coreAt L (assetPda programId t) = some r := coreAt_eq_some.mpr ⟨ho, hd⟩
      have hconfig : r.updateAuthority = configPda programId := hc t r ha
      exact ⟨r, ha, hu (by simp [hconfig, Pubkey.derivedBy])⟩
    | burned ho ho₁ hd hd₁ =>
      rw [hd₁] at hd'
      cases hd'
  · have hsame : coreAt (update L k b) (assetPda programId t) = coreAt L (assetPda programId t) :=
      coreAt_congr (by simp [hk]) (by simp [hk])
    exact ⟨a', hsame ▸ ha', rfl, rfl⟩

theorem UriInv.step {a : Action} (h : UriInv s) (ht : TiedAction s a)
    (hr : step P s a = .ok s') : UriInv s' := by
  cases a with
  | instruction x ix =>
    simp only [Passport.step, bind_ok, require_ok, pure_ok, exists_const] at hr
    obtain ⟨-, L', he, rfl⟩ := hr
    have hstep : AssetStep (view s.ledger) (view L') := execute_assetStep he ht
    refine ⟨hstep.config h.config, ⟨hstep.uriKept, fun x' ix' e => ?_⟩, h.rule⟩
    obtain ⟨rfl, rfl⟩ := Action.instruction.inj e
    exact execute_ownerRule he ht
  | outside k b =>
    simp only [Passport.step, bind_ok, require_ok, pure_ok, exists_const] at hr
    obtain ⟨hok, rfl⟩ := hr
    refine ⟨fun t a' ha' => ?_, ⟨fun t _ _ a' ha' => ?_, fun x ix e => by cases e⟩, h.rule⟩
    · obtain ⟨a, ha, -, hau⟩ := outside_assetStep (outsideMay_of_ok hok) h.config ha'
      exact hau.trans (h.config t a ha)
    · obtain ⟨a, ha, hu, -⟩ := outside_assetStep (outsideMay_of_ok hok) h.config ha'
      exact ⟨a, ha, hu.symm⟩
  | tick n =>
    simp only [Passport.step, bind_ok, require_ok, pure_ok, exists_const] at hr
    obtain ⟨-, rfl⟩ := hr
    exact ⟨h.config, ⟨fun t _ _ a ha => ⟨a, ha, rfl⟩, fun x ix e => by cases e⟩, h.rule⟩

/-- **The URI rule.**  In every run that hands each instruction the asset of its own passport,
    no URI changes while its passport stays verified, and nobody but the owner of a passport is
    taken for its owner. -/
theorem uri_rule {s₀ : System} {as : List Action} (h₀ : Genesis s₀)
    (ht : Along (step P) TiedAction s₀ as) (hr : run (step P) s₀ as = .ok s) :
    Throughout (fun _ e => ContentRule e) s.past := by
  have hinv : UriInv s :=
    run_invariant_along (fun _ _ _ h ht hr => h.step ht hr) h₀.uriInv ht hr
  exact hinv.rule

end Law

/-! ## §4. Where it fails. -/

/-- 1 owns a verified passport and another. -/
def ownedRun : List Action := configured ++ [mints 1 1, verifies 1 1, mints 2 1]

/-- It writes the URI of the first as if it were the second's. -/
def rewrite : Action :=
  ask [configPda programId, assetPda programId (nth 1), statePda programId (nth 2), .key 1, .key 1,
    .mplCore, .system] [.key 1] (.setPassportUri (nth 2) ['b'])

/-- The verifier owns a passport, and 1 another. -/
def mintedRun : List Action := configured ++ [mints 1 2, mints 2 1]

/-- **A verified passport is rewritten.**  The state of the second passport would lapse; the
    first stays verified.  And a verifier verifies its own passport, handing in another's
    asset. -/
theorem swapped_asset : Genesis smallSystem ∧
    (∃ s, run (step .reference) smallSystem (ownedRun ++ [rewrite]) = .ok s ∧
      ¬ Throughout (fun _ e => ContentRule e) s.past) ∧
    ∃ s, run (step .reference) smallSystem (mintedRun ++ [verifies 1 2]) = .ok s ∧
      ¬ Throughout (fun _ e => ContentRule e) s.past := by
  refine ⟨smallSystem_genesis, ?_, ?_⟩
  · apply run_breaks (by decide +kernel)
    intro h
    have hv : (trust (finalState (step .reference) smallSystem ownedRun).ledger).status (nth 1) =
          some .verified ∧
        (trust (finalState (step .reference) smallSystem (ownedRun ++ [rewrite])).ledger).status
          (nth 1) = some .verified := by
      decide +kernel
    have hu : (coreAt (finalState (step .reference) smallSystem ownedRun).ledger
          (assetPda programId (nth 1))).map CoreAsset.uri = some ['a'] ∧
        (coreAt (finalState (step .reference) smallSystem (ownedRun ++ [rewrite])).ledger
          (assetPda programId (nth 1))).map CoreAsset.uri = some ['b'] := by
      decide +kernel
    obtain ⟨a, ha, hua⟩ := Option.map_eq_some_iff.mp hu.2
    obtain ⟨b, hb, hub⟩ := h.1 (nth 1) hv.1 hv.2 a ha
    have hub' := hu.1
    rw [hb, Option.map_some, hub, hua] at hub'
    cases hub'
  · apply run_breaks (by decide +kernel)
    intro h
    have ho : (coreAt (finalState (step .reference) smallSystem mintedRun).ledger
        (assetPda programId (nth 1))).map CoreAsset.owner = some (.key 2) := by
      decide +kernel
    obtain ⟨-, verifier, a, hk, -, ha, hne⟩ := h.2 _ _ rfl
    rw [ha] at ho
    obtain rfl : Pubkey.key 2 = verifier := by simpa using hk
    exact hne (by simpa using ho)

/-- A passport minted and verified. -/
theorem uri_rule_verified : Genesis smallSystem ∧
    Along (step .reference) TiedAction smallSystem (configured ++ [mints 1 1, verifies 1 1]) ∧
    Throughout (fun _ e => ContentRule e)
      (finalState (step .reference) smallSystem (configured ++ [mints 1 1, verifies 1 1])).past := by
  have ht : Along (step .reference) TiedAction smallSystem
      (configured ++ [mints 1 1, verifies 1 1]) := by
    simp [configured, mints, verifies, ask, Along, TiedAction, Tied]
  exact ⟨smallSystem_genesis, ht,
    uri_rule smallSystem_genesis ht (run_finalState (by decide +kernel))⟩

end Kargain.Svm.Passport
