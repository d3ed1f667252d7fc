/-
  Kargain.Svm.Modes — what the two commerce programs do alike.

  kar-fixed-price and kar-ascending carry their own copies of these
  handlers, the same but for the program id and the config they read;
  here they take the id.  An account that comes without a check is taken
  as it comes.
-/
import Kargain.Svm.Payouts

namespace Kargain.Svm

open Kargain.Accounts

/-! ## §1. Sizes of the records. -/

def consignmentSpace : ℕ := 8 + 32 * 4 + 1 + 32 + 8 + 1 + 2 + 2 + 8 + 8 + 1 + 1 + 1
def mandateSpace : ℕ := 8 + 32 + 32 + 8 + 32 + 1 + 32 + 8 + 1 + 2 + 1 + 1
def passportBindingSpace : ℕ := 8 + 32 + 1

section Handlers

variable (P : Platform) (programId : Pubkey) (x : Call) (w : Exec)

/-! ## §2. The passport program. -/

/-- `bind_passport_program`, once the config's authority is known. -/
def bindPassportProgram (authority : Pubkey → Except Error Pubkey) : Except Error Exec := do
  let caller ← x.account 0
  let config ← x.account 1
  let binding ← x.account 2
  let passportProgram ← x.account 3
  let payer ← x.account 5
  require (x.isSigner payer) .missingRequiredSignature
  let expected ← authority config
  requireConfigAuthority programId x caller config expected
  require ((w.ledger passportProgram).executable = true) .invalidAccountData
  require (binding = passportBindingPda programId) .invalidSeeds
  requireBindingUninitialised w.ledger binding
  let w ← createPda P programId x w payer binding programId passportBindingSpace
    (.passportBinding default)
  w.store binding (⟨passportProgram⟩ : PassportBinding)

/-! ## §3. Mandates. -/

def grant (t : TokenId) (agent : Pubkey) (expiry : ℕ) (asset : Pubkey)
    (denomKind currencyCode floor form commissionBps : ℕ) : Except Error Exec := do
  let owner ← x.account 0
  let binding ← x.account 1
  let passport ← x.account 2
  let mandate ← x.account 3
  let consignment ← x.account 4
  let custody ← x.account 5
  let payer ← x.account 7
  require (x.isSigner owner ∧ x.isSigner payer) .missingRequiredSignature
  let passportProgram ← requireBoundPassportProgram programId w.ledger binding
  requirePassportCoreAsset passportProgram t w.ledger passport
  let passportOwner ← coreAssetOwner w.ledger passport
  require (custody = .custody programId) .invalidSeeds
  let transferDelegateOk ← hasTransferDelegate w.ledger passport custody
  let isLive ← consignmentAccountIsLive w.ledger consignment
  let denomination ← parseDenom denomKind currencyCode
  let compensation ← parseComp form commissionBps
  require (mandate = mandatePda programId t) .invalidSeeds
  let record ← grantMandate t passportOwner owner isLive transferDelegateOk
    ⟨agent, expiry, asset, denomination, floor, compensation⟩
  let w ← ensurePda P programId x w payer mandate programId mandateSpace (.mandate default)
  w.store mandate record

/-- `revoke`: mandate and consignment are not tied to the token. -/
def revoke (t : TokenId) : Except Error Exec := do
  let owner ← x.account 0
  let binding ← x.account 1
  let passport ← x.account 2
  let mandate ← x.account 3
  let consignment ← x.account 4
  require (x.isSigner owner) .missingRequiredSignature
  let passportProgram ← requireBoundPassportProgram programId w.ledger binding
  requirePassportCoreAsset passportProgram t w.ledger passport
  let passportOwner ← coreAssetOwner w.ledger passport
  let m : MandateRecord ← load w.ledger mandate
  let isLive ← consignmentAccountIsLive w.ledger consignment
  revokeMandate m passportOwner owner isLive
  w.store mandate { m with active := false }

/-! ## §4. Opening a lot. -/

/-- `count` accounts from the `i`th on. -/
def accountsFrom (i : ℕ) : ℕ → Except Error (List Pubkey)
  | 0 => .ok []
  | count + 1 => do
    let k ← x.account i
    let ks ← accountsFrom (i + 1) count
    pure (k :: ks)

/-- What the passport program's answer leaves an opening with; the accounts go on at `next`. -/
structure Admitted where
  passportProgram : Pubkey
  seedPrefix : List ℕ
  asset : Pubkey
  next : ℕ

/-- The middle of every open, its accounts from the `i`th on: the passport program says the
    passport may be consigned. -/
def mayOpen (i : ℕ) (t : TokenId) : Except Error Admitted := do
  let binding ← x.account i
  let passportConfig ← x.account (i + 1)
  let asset ← x.account (i + 2)
  let challenge ← x.account (i + 3)
  let passportProgram ← requireBoundPassportProgram programId w.ledger binding
  let (seedPrefix, count) ←
    encumbranceSeedPrefixForSource w.ledger passportConfig passportProgram programId
  let answers ← accountsFrom x (i + 4) count
  let allowed ← resolveMayAccounts passportProgram w.ledger passportConfig asset challenge answers
    t intentOpenConsignment
  revertIf (allowed = false) (.custom .openConsignmentRefused)
  pure ⟨passportProgram, seedPrefix, asset, i + 4 + count⟩

/-- No live lot in the account handed in. -/
def requireNoLiveLot (L : Ledger) (consignment : Pubkey) : Except Error Unit := do
  let isLive ← consignmentAccountIsLive L consignment
  revertIf (isLive = true) (.custom .liveConsignment)

/-- `ensure_consignment_account`. -/
def ensureConsignmentAccount (payer consignment : Pubkey) (t : TokenId) : Except Error Exec := do
  require (consignment = consignmentPda programId t) .invalidSeeds
  ensurePda P programId x w payer consignment programId consignmentSpace (.consignment default)

end Handlers

section Specs

variable {P : Platform} {p : Pubkey} {x : Call} {w w' : Exec} {f : Pubkey → Data}

/-- The bound program is the one recorded in the mode's own binding account. -/
theorem requireBoundPassportProgram_ok {L : Ledger} {binding q : Pubkey}
    (h : requireBoundPassportProgram p L binding = .ok q) :
    binding = passportBindingPda p ∧ (L (passportBindingPda p)).owner = p ∧
      (L (passportBindingPda p)).data = .passportBinding ⟨q⟩ := by
  simp only [requireBoundPassportProgram, bind_ok, require_ok, revertIf_ok, orRevert_ok, pure_ok,
    Record.ofData_eq, exists_const] at h
  obtain ⟨rfl, -, ho, b, hb, rfl⟩ := h
  exact ⟨rfl, ho, hb⟩

theorem bindPassportProgram_ok {authority : Pubkey → Except Error Pubkey} (hb : Books p f w.ledger)
    (h : bindPassportProgram P p x w authority = .ok w') :
    ∃ caller q, x.keys[0]? = some caller ∧ x.keys[1]? = some (configPda p) ∧
      authority (configPda p) = .ok caller ∧ x.isSigner caller ∧
      (w.ledger (passportBindingPda p)).data = .empty ∧
      Books p (Function.update f (passportBindingPda p) (.passportBinding ⟨q⟩)) w'.ledger := by
  simp only [bindPassportProgram, requireConfigAuthority, requireBindingUninitialised, bind_ok,
    account_ok, require_ok, exists_const] at h
  obtain ⟨caller, hc, config, hcfg, binding, -, q, -, payer, -, -, expected, hauth,
    ⟨rfl, hsign, rfl⟩, -, rfl, hempty, w₁, h₁, h₂⟩ := h
  refine ⟨caller, q, hc, hcfg, hauth, hsign, hempty, ?_⟩
  have hb' := (hb.createPda h₁).store h₂
  rwa [Function.update_idem] at hb'

/-- A grant is the passport owner's, and writes the mandate of the token. -/
theorem grant_ok {t : TokenId} {agent asset : Pubkey}
    {expiry denomKind currencyCode floor form commissionBps : ℕ} (hb : Books p f w.ledger)
    (h : grant P p x w t agent expiry asset denomKind currencyCode floor form commissionBps =
      .ok w') :
    ∃ q a m, (w.ledger (passportBindingPda p)).data = .passportBinding ⟨q⟩ ∧
      coreAt w.ledger (assetPda q t) = some a ∧ x.keys[0]? = some a.owner ∧ m.tokenId = t ∧
      Books p (Function.update f (mandatePda p t) (.mandate m)) w'.ledger := by
  simp only [grant, requirePassportCoreAsset, coreAssetOwner, bind_ok, account_ok, require_ok,
    pure_ok, load_ok, exists_const] at h
  obtain ⟨owner, ho, binding, -, passport, -, mandate, -, consignment, -, custody, -, payer, -, -,
    q, hq, ⟨rfl, hlive⟩, _, ⟨a, ha, rfl⟩, -, _, -, _, -, _, -, _, -, rfl, m, hm, w₁, h₁, h₂⟩ := h
  obtain ⟨-, -, hbind⟩ := requireBoundPassportProgram_ok hq
  simp only [isLiveCoreAsset, decide_eq_true_eq] at hlive
  simp only [grantMandate, bind_ok, revertIf_ok, pure_ok, exists_const, not_not] at hm
  obtain ⟨hown, -, -, -, rfl⟩ := hm
  subst hown
  exact ⟨q, a, _, hbind, coreAt_eq_some.mpr ⟨hlive.1, ha⟩, ho, rfl, hb.ensureStore h₁ h₂⟩

/-- A revocation deactivates whatever mandate account it is handed. -/
theorem revoke_ok {t : TokenId} (hb : Books p f w.ledger) (h : revoke p x w t = .ok w') :
    ∃ mandate m, x.keys[3]? = some mandate ∧ (w.ledger mandate).data = .mandate m ∧
      Books p (Function.update f mandate (.mandate { m with active := false })) w'.ledger := by
  simp only [revoke, bind_ok, account_ok, require_ok, load_ok, exists_const] at h
  obtain ⟨_, -, _, -, _, -, mandate, hk, _, -, -, _, -, _, -, _, -, m, hm, _, -, _, -, hs⟩ := h
  exact ⟨mandate, m, hk, hm, hb.store hs⟩

theorem consignmentAccountIsLive_false {L : Ledger} {k : Pubkey}
    (h : consignmentAccountIsLive L k = .ok false) :
    (L k).data = .empty ∨ ∃ c : ConsignmentRecord, (L k).data = .consignment c ∧ c.isLive = false := by
  unfold consignmentAccountIsLive at h
  split at h
  · rename_i he
    exact .inl he
  · simp only [bind_ok, load_ok, pure_ok] at h
    exact .inr h

theorem requireNoLiveLot_ok {L : Ledger} {k : Pubkey} {u : Unit}
    (h : requireNoLiveLot L k = .ok u) :
    (L k).data = .empty ∨ ∃ c : ConsignmentRecord, (L k).data = .consignment c ∧ c.isLive = false := by
  simp only [requireNoLiveLot, bind_ok, revertIf_ok, Bool.not_eq_true] at h
  obtain ⟨_, h, rfl⟩ := h
  exact consignmentAccountIsLive_false h

theorem mayOpen_ok {i : ℕ} {t : TokenId} {o : Admitted} (h : mayOpen p x w i t = .ok o) :
    (w.ledger (passportBindingPda p)).data = .passportBinding ⟨o.passportProgram⟩ ∧
      o.asset = assetPda o.passportProgram t ∧ x.keys[i + 2]? = some o.asset := by
  simp only [mayOpen, resolveMayAccounts, bind_ok, account_ok, require_ok, revertIf_ok,
    pure_ok, exists_const, Prod.exists] at h
  obtain ⟨_, -, _, -, asset, hasset, _, -, q, hq, seedPrefix, count, -, answers, -, _,
    ⟨-, -, -, -, _, -, rfl, -⟩, -, rfl⟩ := h
  exact ⟨(requireBoundPassportProgram_ok hq).2.2, rfl, hasset⟩

theorem ensureConsignmentAccount_ok {payer consignment : Pubkey} {t : TokenId}
    (h : ensureConsignmentAccount P p x w payer consignment t = .ok w') :
    consignment = consignmentPda p t ∧
      ensurePda P p x w payer consignment p consignmentSpace (.consignment default) = .ok w' := by
  simp only [ensureConsignmentAccount, bind_ok, require_ok, exists_const] at h
  exact h

end Specs

/-! ## §5. Everybody else. -/

/-- Who signs a transaction: none of the addresses the mode derives. -/
def SignedFromOutside (p : Pubkey) (x : Call) : Prop := ∀ k ∈ x.signers, k.derivedBy p = false

instance (p : Pubkey) (x : Call) : Decidable (SignedFromOutside p x) :=
  inferInstanceAs (Decidable (∀ k ∈ _, _))

/-- What everybody else may do to an account: only add lamports to the mode's, and to an
    address of the mode nobody has an account at; any other account may change, and be handed
    to the mode once it is zeroed.  The runtime forgets what a closed claim leaves behind. -/
def OutsideMay (p k : Pubkey) (b a : Account Pubkey Data) : Prop :=
  b.Untouched a ∨
    b.owner ≠ p ∧ (b.owner = .system → k.derivedBy p = false) ∧ (a.owner = p → a.data = a.data.zeroed) ∨
    k.isRecord = false ∧ b.owner = .system ∧ b.lamports = 0 ∧ a = ⟨0, .system, .empty, false⟩

instance (p k : Pubkey) (b a : Account Pubkey Data) : Decidable (OutsideMay p k b a) :=
  inferInstanceAs (Decidable (_ ∨ _))

/-- Nobody else writes the books. -/
theorem outside_sameBooks {p k : Pubkey} {L : Ledger} {a : Account Pubkey Data}
    (hs : Seated p L) (h : OutsideMay p k (L k) a) : SameBooks p L (Function.update L k a) := by
  intro s hb
  by_cases hk : Pubkey.pda p s = k
  · subst hk
    rw [Function.update_self]
    rcases h with hu | ⟨hne, hsys, -⟩ | ⟨hr, -⟩
    · exact ⟨hu.1, hu.2.1⟩
    · rcases (hs s hb).1 with ho | ho
      · exact absurd ho hne
      · simpa [Pubkey.derivedBy] using hsys ho
    · cases hr
  · rw [Function.update_of_ne hk]
    exact ⟨rfl, rfl⟩

end Kargain.Svm
