/-
  Kargain.Svm.Returns — a home passport comes back and is let out.

  `Locked` is how a departure leaves a home passport: in the gateway's
  hands, frozen, its state kept.  From there an authentic message with
  a URI that is text is always accepted (`return_settled`).
-/
import Kargain.Svm.Arrivals

namespace Kargain.Svm

open Kargain.Accounts

namespace Passport

/-! ## §1. The passport program. -/

/-- The asset of `t` is the gateway's, which may thaw it, and the state of `t` is there. -/
structure Locked (L : Ledger) (t : TokenId) (gateway freeze : Pubkey) : Prop where
  asset : ∃ a, coreAt L (assetPda programId t) = some a ∧ a.owner = gateway ∧
    a.updateAuthority = configPda programId ∧ a.freezeAuthority = some freeze
  state : ∃ st, HasState L t st

section Unlock

variable {P : Platform} {x : Call} {w : Exec} {L : Ledger} {t : TokenId}
  {payer freeze : Pubkey} {uri : Text} {cfg : PassportConfig}

theorem setFrozen_settled {asset : Pubkey} {a : CoreAsset} (frozen : Bool) (h : w.verified = w.ledger)
    (hp : x.isSigner payer) (hf : x.isSigner freeze) (ha : coreAt w.ledger asset = some a)
    (hfa : a.freezeAuthority = some freeze) :
    ∃ L', setFrozen P x w asset payer freeze .mplCore frozen = .ok ⟨L', L', w.debits⟩ ∧
      coreAt L' asset = some { a with frozen := frozen } ∧ ∀ k, k ≠ asset → L' k = w.ledger k := by
  obtain ⟨L', hL, hframe⟩ : ∃ L', P.updatePluginV1 x.signers asset payer freeze frozen w.ledger =
      .ok L' ∧ ∀ k, k ≠ asset → L' k = w.ledger k :=
    P.updatePluginV1_accepts hp hf ha hfa
  obtain ⟨⟨a', ha', -, -, hcore⟩, -⟩ := P.updatePluginV1_ok hL
  obtain rfl : a = a' := Option.some.inj (ha.symm.trans ha')
  refine ⟨L', ?_, hcore, hframe⟩
  unfold setFrozen
  simp only [require, if_true, hf]
  exact invoke_settled h hL

theorem updateUri_settled {asset : Pubkey} {a : CoreAsset} (uri : Text) (h : w.verified = w.ledger)
    (hp : x.isSigner payer) (ha : coreAt w.ledger asset = some a)
    (hu : a.updateAuthority = configPda programId) (hpay : Solvent w.ledger payer (P.rent uri)) :
    ∃ L', updateUri P x w asset payer (configPda programId) .mplCore uri = .ok ⟨L', L', w.debits⟩ ∧
      coreAt L' asset = some { a with uri := uri } ∧
      ∀ k, k ≠ asset → k ≠ payer → L' k = w.ledger k := by
  obtain ⟨L', hL, hframe⟩ := P.updateV1_accepts (List.mem_cons_of_mem (configPda programId) hp)
    (List.mem_cons_self ..) ha hu hpay.owner hpay.data hpay.funds
  obtain ⟨⟨a', ha', -, -, hcore⟩, -⟩ := P.updateV1_ok hL
  obtain rfl : a = a' := Option.some.inj (ha.symm.trans ha')
  refine ⟨L', ?_, hcore, hframe⟩
  unfold updateUri
  simp only [require, if_true]
  exact invoke_settled h hL

/-- The accounts of an unlocking are where the program expects them. -/
structure UnlockPlaces (x : Call) (t : TokenId) (gateway payer freeze : Pubkey) : Prop where
  keys : x.keys = [configPda programId, gateway, assetPda programId t, statePda programId t, payer,
    freeze, .mplCore, .system]
  signs : x.isSigner payer ∧ x.isSigner gateway ∧ x.isSigner freeze
  state : x.isWritable (statePda programId t)
  outside : payer.derivedBy programId = false

theorem UnlockPlaces.ne {gateway : Pubkey} (h : UnlockPlaces x t gateway payer freeze) (d : Seed) :
    payer ≠ .pda programId d := by
  rintro rfl
  have := h.outside
  simp [Pubkey.derivedBy] at this

/-- Thawed, and with the URI of the message if there is one. -/
theorem thawed_settled {asset : Pubkey} {a : CoreAsset} (uri : Text) (h : w.verified = w.ledger)
    (hp : x.isSigner payer) (hf : x.isSigner freeze) (hne : payer ≠ asset)
    (ha : coreAt w.ledger asset = some a) (hfa : a.freezeAuthority = some freeze)
    (hu : a.updateAuthority = configPda programId) (hpay : Solvent w.ledger payer (P.rent uri)) :
    ∃ L' b, (setFrozen P x w asset payer freeze .mplCore false >>= fun w =>
        if uri ≠ [] then updateUri P x w asset payer (configPda programId) .mplCore uri else pure w) =
          .ok ⟨L', L', w.debits⟩ ∧
      coreAt L' asset = some b ∧ b.owner = a.owner ∧ b.frozen = false ∧
      ∀ k, k ≠ asset → k ≠ payer → L' k = w.ledger k := by
  obtain ⟨L₁, h₁, hcore₁, hframe₁⟩ := setFrozen_settled (P := P) false h hp hf ha hfa
  rw [h₁]
  by_cases he : uri = []
  · refine ⟨L₁, { a with frozen := false }, ?_, hcore₁, rfl, rfl, fun k hk _ => hframe₁ k hk⟩
    show (if uri ≠ [] then _ else _) = _
    rw [if_neg (not_not.mpr he)]
    rfl
  · have hpay₁ : Solvent L₁ payer (P.rent uri) := by
      have hsame := hframe₁ payer hne
      exact ⟨hsame ▸ hpay.owner, hsame ▸ hpay.data, hsame ▸ hpay.funds⟩
    obtain ⟨L₂, h₂, hcore₂, hframe₂⟩ := updateUri_settled (P := P) (w := ⟨L₁, L₁, w.debits⟩) uri rfl
      hp hcore₁ hu hpay₁
    refine ⟨L₂, { a with frozen := false, uri := uri }, ?_, hcore₂, rfl, rfl, fun k hk hkp => ?_⟩
    · show (if uri ≠ [] then _ else _) = _
      rw [if_pos he]
      exact h₂
    · exact (hframe₂ k hk hkp).trans (hframe₁ k hk)

/-- **A home passport is reset.**  The passport program takes the return of a locked passport. -/
theorem bridgeResetOnUnlock_settled (now : ℕ) {gateway : Pubkey} (hx : UnlockPlaces x t gateway payer freeze)
    (hcfg : HasConfig L cfg) (hbound : cfg.bridgeGateway = gateway) (hz : gateway ≠ .zero)
    (hhome : isHomeToken t cfg.tokenNamespace = true) (hlocked : Locked L t gateway freeze)
    (hpay : Solvent L payer (P.rent uri)) :
    ∃ L' b, execute P now x (.bridgeResetOnUnlock t uri) L = .ok L' ∧
      coreAt L' (assetPda programId t) = some b ∧ b.owner = gateway ∧ b.frozen = false := by
  obtain ⟨⟨a, ha, ho, hu, hfa⟩, st, hst⟩ := hlocked
  obtain ⟨L₁, b, h₁, hb, hbo, hbf, hframe⟩ := thawed_settled (P := P) (w := Exec.start L) uri rfl
    hx.signs.1 hx.signs.2.2 (hx.ne _) ha hfa hu hpay
  have hstate : L₁ (statePda programId t) = L (statePda programId t) :=
    hframe _ (by simp) (hx.ne _).symm
  have hst₁ : HasState L₁ t st := by
    unfold HasState
    rw [hstate]
    exact hst
  let w₂ : Exec := Exec.setData ⟨L₁, L₁, []⟩ (statePda programId t)
    (.passportState { st.lapsed with custodyLocked := false })
  have hstore : (Exec.store ⟨L₁, L₁, []⟩ (statePda programId t)
      { st.lapsed with custodyLocked := false } : Except Error Exec) = .ok w₂ :=
    store_settled (e := st) hst₁.2
  have hwritten : Written programId x L₁ w₂.ledger := .setData (.refl L₁) hst₁.1 hx.state
  have hreset : bridgeResetOnUnlock P x (Exec.start L) t uri = .ok w₂ := by
    have hgateway : requireGateway x cfg gateway = .ok () := by
      simp only [requireGateway, bind_ok, require_ok, exists_const]
      exact ⟨hx.signs.2.1, hbound ▸ hz, hbound⟩
    have hlive : isLiveCoreAsset L (assetPda programId t) = true := isLiveCoreAsset_of_core ha
    obtain ⟨w₁, hfrozen, hrest⟩ := bind_ok.mp h₁
    obtain ⟨hkeys, hsigns, -, -⟩ := hx
    obtain ⟨keys, signers, writable⟩ := x
    subst hkeys
    simp only [bridgeResetOnUnlock, bind_ok, account_ok, require_ok, exists_const]
    exact ⟨_, rfl, _, rfl, _, rfl, _, rfl, _, rfl, _, rfl, _, rfl, _, rfl, hsigns.1, cfg,
      loadConfig_settled hcfg, (), hgateway, st, loadState_settled hst, hhome, hlive, w₁, hfrozen, _,
      hrest, hstore⟩
  refine ⟨w₂.ledger, b, ?_, ?_, hbo.trans ho, hbf⟩
  · show (bridgeResetOnUnlock P x (Exec.start L) t uri >>= _) = _
    rw [hreset]
    show ((w₂.verify programId x : Except Error Exec) >>= _) = _
    rw [verify_written hwritten]
    rfl
  · have hne : (L₁ (statePda programId t)).owner ≠ .mplCore := by
      rw [hst₁.1]
      decide
    rw [← view_core, view_setData (w := ⟨L₁, L₁, []⟩) hne, View.put_core, view_core]
    exact hb

end Unlock

end Passport

namespace Gateway

/-! ## §2. The gateway. -/

section Deliveries

variable {P : Platform} {N : Network} {x : Call} {L : Ledger} {w : Exec} {m : Message}
  {cfg : GatewayConfig} {pcfg : PassportConfig} {payer : Pubkey}

/-- The accounts `deliver` passes on for a return. -/
def returnKeys (m : Message) (payer : Pubkey) : List Pubkey :=
  [configPda Passport.programId, configPda programId, assetPda Passport.programId m.tokenId,
    statePda Passport.programId m.tokenId, payer, freezePda programId, .mplCore, .system]

theorem Delivery.unlockPlaces (h : Delivery N x L m cfg pcfg payer w) :
    Passport.UnlockPlaces (forwarded x (returnKeys m payer) [configPda programId, freezePda programId])
      m.tokenId (configPda programId) payer (freezePda programId) where
  keys := rfl
  signs := ⟨List.mem_filter.mpr ⟨by simp [returnKeys], decide_eq_true (.inl h.payer_signs)⟩,
    List.mem_filter.mpr ⟨by simp [returnKeys], decide_eq_true (.inr (by simp))⟩,
    List.mem_filter.mpr ⟨by simp [returnKeys], decide_eq_true (.inr (by simp))⟩⟩
  state := List.mem_filter.mpr ⟨by simp [returnKeys], decide_eq_true h.state_writable⟩
  outside := (h.signed payer h.payer_signs).1

theorem Delivery.locked (h : Delivery N x L m cfg pcfg payer w) {gateway freeze : Pubkey}
    (hl : Passport.Locked L m.tokenId gateway freeze) :
    Passport.Locked w.ledger m.tokenId gateway freeze := by
  have hcleared := h.cleared_ledger
  obtain ⟨⟨a, ha, hrest⟩, st, hst⟩ := hl
  refine ⟨⟨a, ?_, hrest⟩, st, ?_⟩
  · rw [← ha]
    exact coreAt_congr (by rw [hcleared.asset]) (by rw [hcleared.asset])
  · unfold Passport.HasState
    rw [hcleared.state]
    exact hst

/-- **When a return is accepted.**  An authentic message for a home token the gateway holds is
    accepted exactly if its URI is text. -/
theorem return_iff (now : ℕ) (hd : Delivery N x L m cfg pcfg payer w)
    (hhome : Passport.isHomeToken m.tokenId cfg.tokenNamespace = true)
    (hl : Passport.Locked L m.tokenId (configPda programId) (freezePda programId))
    (hpay : Solvent w.ledger payer (P.rent ((fromUtf8 m.uri).getD []))) :
    (∃ L', execute P N now x m.received L = .ok L') ↔ (fromUtf8 m.uri).isSome := by
  constructor
  · rintro ⟨L', h⟩
    obtain ⟨w', h, -⟩ := execute_received h
    obtain ⟨uri, hutf, -⟩ := (lzReceive_deliver hd).mp h
    simp [hutf]
  · intro hutf
    obtain ⟨uri, hutf⟩ := Option.isSome_iff_exists.mp hutf
    rw [hutf, Option.getD_some] at hpay
    obtain ⟨L₁, b, hexec, hb, hbo, hbf⟩ := Passport.bridgeResetOnUnlock_settled (P := P) now
      hd.unlockPlaces hd.cleared_ledger.config hd.bound (by simp) (hd.chain ▸ hhome) (hd.locked hl) hpay
    have hpayer : payer ∈ [configPda programId] ++ x.signers :=
      List.mem_append_right _ hd.payer_signs
    obtain ⟨L₂, htransfer⟩ : ∃ L₂, P.transferV1 ([configPda programId] ++ x.signers)
        (assetPda Passport.programId m.tokenId) payer (configPda programId) (N.pubkey m.sendTo) L₁ = .ok L₂ :=
      P.transferV1_accepts hpayer (by simp) hb hbo hbf
    have hrecv : lzReceive P N now x (Exec.start L) m.srcEid m.sender m.nonce m.guid m.bytes =
        .ok ⟨L₂, L₂, w.debits⟩ := by
      refine (lzReceive_deliver hd).mpr ⟨uri, hutf, ?_⟩
      rw [if_pos hhome]
      simp only [deliver, bind_ok, require_ok, transferAsset, exists_const]
      exact ⟨rfl, _, cpiPassport_settled (clearMessage_verified hd.cleared) hexec, rfl,
        invoke_settled rfl htransfer⟩
    refine ⟨L₂, ?_⟩
    show (lzReceive P N now x (Exec.start L) _ _ _ _ _ >>= _) = _
    rw [hrecv]
    show ((Exec.verify programId x ⟨L₂, L₂, w.debits⟩ : Except Error Exec) >>= _) = _
    rw [verify_settled rfl]
    rfl

end Deliveries

end Gateway

end Kargain.Svm
