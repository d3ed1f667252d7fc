/-
  Kargain.Svm.Platform — the programs the programs call.

  The system program is written out.  The token programs and Core are
  not in the repository; `CoreProgram` and `Platform` are what they do,
  as far as the programs rely on it.  A commerce program calls whatever
  program it is handed as the token program, so the token laws hold of
  every program: it cannot write the caller's accounts, and nothing
  moves that none of the signers of the call has a say over.
  `Platform.reference` is Core and the classic token program on plain
  assets and transfers.
-/
import Kargain.Svm.Types

namespace Kargain.Svm

open Kargain.Accounts

/-! ## §1. The platform. -/

/-- The token instructions the commerce programs send. -/
inductive TokenInstruction
  | transfer (source destination authority : Pubkey) (amount : ℕ)
  | initializeAccount3 (account mint owner : Pubkey)
  | closeAccount (account destination authority : Pubkey)

/-- The live Core asset under `k`. -/
def coreAt (L : Ledger) (k : Pubkey) : Option CoreAsset :=
  (held .mplCore L k).bind Record.ofData

/-- `k` is a live Core asset owned by `c`. -/
def CoreOwned (c : Pubkey) (L : Ledger) (k : Pubkey) : Prop :=
  ∃ a, coreAt L k = some a ∧ a.owner = c

/-- Nobody may transfer for `c` the assets it owns. -/
def NoDelegates (c : Pubkey) (L : Ledger) : Prop :=
  ∀ k a, coreAt L k = some a → a.owner = c → a.transferDelegate = none

theorem coreAt_eq_some {L : Ledger} {k : Pubkey} {a : CoreAsset} :
    coreAt L k = some a ↔ (L k).owner = .mplCore ∧ (L k).data = .coreAsset a := by
  unfold coreAt held
  split <;> simp_all [Record.ofData_eq, Record.toData]

theorem coreAt_of_owner {L : Ledger} {k : Pubkey} (h : (L k).owner ≠ .mplCore) :
    coreAt L k = none := by
  simp [coreAt, held, h]

theorem coreAt_of_data {L : Ledger} {k : Pubkey} (h : ∀ a, (L k).data ≠ .coreAsset a) :
    coreAt L k = none := by
  rw [Option.eq_none_iff_forall_ne_some]
  exact fun a ha => h a (coreAt_eq_some.mp ha).2

theorem coreAt_congr {L L' : Ledger} {k : Pubkey} (ho : (L' k).owner = (L k).owner)
    (hd : (L' k).data = (L k).data) : coreAt L' k = coreAt L k := by
  rw [coreAt, held_congr ho hd, coreAt]

def Pubkey.isTokenProgram (k : Pubkey) : Prop := k = .splToken ∨ k = .splToken2022

instance (k : Pubkey) : Decidable k.isTokenProgram := inferInstanceAs (Decidable (_ ∨ _))

/-- A token account, of a mint with no permanent delegate among `signers`. -/
def IsTokenAccount (L : Ledger) (signers : Pubkey → Prop) (k : Pubkey) (r : TokenAccount) : Prop :=
  (L k).owner.isTokenProgram ∧ (L k).data = .token r ∧
    ∀ m : MintAccount, (L r.mint).data = .mint m → ∀ d, m.permanentDelegate = some d → ¬ signers d

/-- A system-owned account without data and lamports: what `create_account` asks of the new
    address. -/
def Free (a : Account Pubkey Data) : Prop :=
  a.owner = .system ∧ a.data = .empty ∧ a.lamports = 0

instance (a : Account Pubkey Data) : Decidable (Free a) := inferInstanceAs (Decidable (_ ∧ _))

/-- A Core instruction on `asset` changes nothing else, but for the rent `payer` pays. -/
def CoreFrame (asset payer : Pubkey) (L L' : Ledger) : Prop :=
  (∀ k, k ≠ asset → (L' k).owner = (L k).owner ∧ (L' k).data = (L k).data) ∧
    ∀ k, k ≠ asset → (k = payer → (L k).owner ≠ .system) → (L k).lamports ≤ (L' k).lamports

/-- What Core does.  An instruction names its accounts; `signers` have signed for it.

    Create makes a live asset of a free address that signs; burn leaves the one-byte account,
    which keeps lamports; an asset moves only with its owner or its transfer delegate signing,
    and the move drops the delegate; the URI is the update authority's to change and the
    permanent freeze its authority's.  What the instructions ask besides is in the laws named
    `accepts`: the payer has `rent` for a URI of that length. -/
structure CoreProgram where
  rent : Text → ℕ
  createV1 : (signers : List Pubkey) → (asset payer owner updateAuthority : Pubkey) →
    (uri : Text) → (freezeAuthority : Pubkey) → (frozen : Bool) → Ledger → Except Error Ledger
  burnV1 : (signers : List Pubkey) → (asset payer authority : Pubkey) → Ledger →
    Except Error Ledger
  transferV1 : (signers : List Pubkey) → (asset payer authority newOwner : Pubkey) → Ledger →
    Except Error Ledger
  updateV1 : (signers : List Pubkey) → (asset payer authority : Pubkey) → (uri : Text) →
    Ledger → Except Error Ledger
  updatePluginV1 : (signers : List Pubkey) → (asset payer authority : Pubkey) →
    (frozen : Bool) → Ledger → Except Error Ledger
  createV1_ok : ∀ {signers asset payer owner updateAuthority uri freezeAuthority frozen L L'},
    createV1 signers asset payer owner updateAuthority uri freezeAuthority frozen L = .ok L' →
    asset ∈ signers ∧ Free (L asset) ∧
      coreAt L' asset = some ⟨owner, uri, updateAuthority, frozen, some freezeAuthority, none⟩ ∧
      CoreFrame asset payer L L'
  burnV1_ok : ∀ {signers asset payer authority L L'},
    burnV1 signers asset payer authority L = .ok L' →
    (∃ a, coreAt L asset = some a) ∧ (L' asset).owner = .mplCore ∧ (L' asset).data = .byte ∧
      0 < (L' asset).lamports ∧ CoreFrame asset payer L L'
  transferV1_ok : ∀ {signers asset payer authority newOwner L L'},
    transferV1 signers asset payer authority newOwner L = .ok L' →
    (∃ a, coreAt L asset = some a ∧ authority ∈ signers ∧
      (a.owner = authority ∨ a.transferDelegate = some authority) ∧
      coreAt L' asset = some { a with owner := newOwner, transferDelegate := none }) ∧
    CoreFrame asset payer L L'
  updateV1_ok : ∀ {signers asset payer authority uri L L'},
    updateV1 signers asset payer authority uri L = .ok L' →
    (∃ a, coreAt L asset = some a ∧ authority ∈ signers ∧ a.updateAuthority = authority ∧
      coreAt L' asset = some { a with uri := uri }) ∧ CoreFrame asset payer L L'
  updatePluginV1_ok : ∀ {signers asset payer authority frozen L L'},
    updatePluginV1 signers asset payer authority frozen L = .ok L' →
    (∃ a, coreAt L asset = some a ∧ authority ∈ signers ∧ a.freezeAuthority = some authority ∧
      coreAt L' asset = some { a with frozen := frozen }) ∧ CoreFrame asset payer L L'
  createV1_accepts : ∀ {signers asset payer owner updateAuthority uri freezeAuthority frozen L},
    payer ∈ signers → asset ∈ signers → updateAuthority ∈ signers → Free (L asset) →
    (L payer).owner = .system → (L payer).data = .empty → rent uri ≤ (L payer).lamports →
    ∃ L', createV1 signers asset payer owner updateAuthority uri freezeAuthority frozen L = .ok L' ∧
      (L' payer).owner = .system ∧ (L' payer).data = .empty ∧
      (L payer).lamports ≤ (L' payer).lamports + rent uri ∧
      ∀ k, k ≠ asset → k ≠ payer → L' k = L k
  transferV1_accepts : ∀ {signers asset payer authority newOwner L a},
    payer ∈ signers → authority ∈ signers → coreAt L asset = some a → a.owner = authority →
    a.frozen = false → ∃ L', transferV1 signers asset payer authority newOwner L = .ok L'
  updateV1_accepts : ∀ {signers asset payer authority uri L a},
    payer ∈ signers → authority ∈ signers → coreAt L asset = some a →
    a.updateAuthority = authority → (L payer).owner = .system → (L payer).data = .empty →
    rent uri ≤ (L payer).lamports →
    ∃ L', updateV1 signers asset payer authority uri L = .ok L' ∧
      ∀ k, k ≠ asset → k ≠ payer → L' k = L k
  updatePluginV1_accepts : ∀ {signers asset payer authority frozen L a},
    payer ∈ signers → authority ∈ signers → coreAt L asset = some a →
    a.freezeAuthority = some authority →
    ∃ L', updatePluginV1 signers asset payer authority frozen L = .ok L' ∧
      ∀ k, k ≠ asset → L' k = L k

/-- What the system, the token programs and Core do.

    `token_caller`: a program is not re-entered, so nobody writes its accounts while it calls;
    `token_records`: its record addresses are its own or still empty, and only it signs for
    them; `token_core`: an asset moves only with its owner or its transfer delegate signing,
    and only the owner approves a delegate; `token_escrowed`: tokens leave an account only by
    its authority or the permanent delegate of the mint; `token_mint`: the token programs'
    own account instructions leave mints alone. -/
structure Platform extends CoreProgram where
  minimumBalance : ℕ → ℕ
  tokenProgram : (caller program : Pubkey) → (signers : List Pubkey) → TokenInstruction →
    Ledger → Except Error Ledger
  minimumBalance_pos : ∀ n, 0 < minimumBalance n
  token_caller : ∀ {caller program signers ix L L'},
    tokenProgram caller program signers ix L = .ok L' →
    ∀ k, (L k).owner = caller → (L k).Untouched (L' k)
  token_records : ∀ {caller program signers ix L L'},
    tokenProgram caller program signers ix L = .ok L' →
    ∀ s, (L (.pda caller s)).Untouched (L' (.pda caller s))
  token_core : ∀ {caller program signers ix L L' c},
    tokenProgram caller program signers ix L = .ok L' → c ∉ signers → NoDelegates c L →
    NoDelegates c L' ∧ ∀ k, CoreOwned c L k → CoreOwned c L' k
  token_escrowed : ∀ {caller program signers ix L L'},
    tokenProgram caller program signers ix L = .ok L' →
    ∀ k r, IsTokenAccount L (· ∈ signers) k r → r.authority.derivedBy caller = true →
    r.authority ∉ signers →
    (L' k).owner = (L k).owner ∧ ∃ r', (L' k).data = .token r' ∧ r'.mint = r.mint ∧
      r'.authority = r.authority ∧ r.amount ≤ r'.amount
  token_mint : ∀ {caller program signers ix L L'},
    tokenProgram caller program signers ix L = .ok L' → program.isTokenProgram →
    ∀ k (m : MintAccount), (L' k).data = .mint m → (L k).data = .mint m

/-! ## §2. The system program. -/

/-- `CreateAccount`, the new address being derived by `programId`. -/
def createAccount (x : Call) (lamports : ℕ) (payer account programId : Pubkey) (data : Data)
    (L : Ledger) : Except Error Ledger := do
  require (x.isSigner payer ∧ x.isWritable payer ∧ x.isWritable account ∧ .system ∈ x.keys)
    .missingRequiredSignature
  require ((L account).owner = .system ∧ (L account).data = .empty ∧ (L account).lamports = 0)
    .accountAlreadyInitialized
  require ((L payer).owner = .system ∧ (L payer).data = .empty) .invalidAccountData
  require (lamports ≤ (L payer).lamports) .insufficientFunds
  pure (Function.update
    (Function.update L payer { L payer with lamports := (L payer).lamports - lamports })
    account ⟨lamports, programId, data, false⟩)

/-- `Transfer`. -/
def systemTransfer (x : Call) (src dst : Pubkey) (amount : ℕ) (L : Ledger) :
    Except Error Ledger := do
  require (x.isSigner src ∧ x.isWritable src ∧ x.isWritable dst ∧ .system ∈ x.keys)
    .missingRequiredSignature
  require ((L src).owner = .system ∧ (L src).data = .empty) .invalidAccountData
  require (amount ≤ (L src).lamports) .insufficientFunds
  let L := Function.update L src { L src with lamports := (L src).lamports - amount }
  pure (Function.update L dst { L dst with lamports := (L dst).lamports + amount })

/-! ## §3. Calls. -/

section Calls

variable (P : Platform) (programId : Pubkey) (x : Call)

/-- `create_pda`. -/
def createPda (w : Exec) (payer account owner : Pubkey) (space : ℕ) (data : Data) :
    Except Error Exec :=
  w.invoke programId x (createAccount x (P.minimumBalance space) payer account owner data)

/-- `pay_native`. -/
def payNative (w : Exec) (src dst : Pubkey) (amount : ℕ) : Except Error Exec :=
  if amount = 0 then .ok w else w.invoke programId x (systemTransfer x src dst amount)

/-- Call the program handed in as token program, `seeds` signing besides the signers of the
    transaction. -/
def invokeToken (w : Exec) (tokenProgram : Pubkey) (seeds : List Pubkey)
    (ix : TokenInstruction) : Except Error Exec :=
  w.invoke programId x (P.tokenProgram programId tokenProgram (seeds ++ x.signers) ix)

/-- `pay_native_from_pda`. -/
def payNativeFromPda (w : Exec) (src dst : Pubkey) (amount : ℕ) : Except Error Exec :=
  if amount = 0 then .ok w
  else do
    revertIf ((w.ledger src).lamports < amount) .insufficientFunds
    pure (w.move src dst amount)

/-- `close_pda`: drain, zero, hand back to the system program. -/
def closePda (w : Exec) (account recipient : Pubkey) : Exec :=
  let w := w.move account recipient (w.ledger account).lamports
  let w := w.setData account (w.ledger account).data.zeroed
  w.assign account .system

end Calls

/-! ## §4. The reference platform. -/

namespace Platform

def rentExempt (n : ℕ) : ℕ := (128 + n) * 6960

/-- Rent of an asset account with a URI of that length. -/
def assetRent (uri : Text) : ℕ := rentExempt (200 + uri.byteLen)

/-- Write the asset under `k`. -/
def putAsset (L : Ledger) (k : Pubkey) (a : CoreAsset) : Ledger :=
  Function.update L k { L k with data := .coreAsset a }

/-- Core's `CreateV1` of an asset without a collection: `create_account` on the address of
    the asset, then the asset is written. -/
def coreCreateV1 (signers : List Pubkey) (asset payer owner updateAuthority : Pubkey)
    (uri : Text) (freezeAuthority : Pubkey) (frozen : Bool) (L : Ledger) :
    Except Error Ledger := do
  require (payer ∈ signers ∧ asset ∈ signers ∧ updateAuthority ∈ signers)
    .missingRequiredSignature
  require (Free (L asset)) .accountAlreadyInitialized
  require ((L payer).owner = .system ∧ (L payer).data = .empty ∧ payer ≠ asset)
    .invalidAccountData
  require (assetRent uri ≤ (L payer).lamports) .insufficientFunds
  let L := Function.update L payer
    { L payer with lamports := (L payer).lamports - assetRent uri }
  pure (Function.update L asset ⟨assetRent uri, .mplCore,
    .coreAsset ⟨owner, uri, updateAuthority, frozen, some freezeAuthority, none⟩, false⟩)

/-- Core's `BurnV1`: one byte is left, with its rent; the payer gets the rest. -/
def coreBurnV1 (signers : List Pubkey) (asset payer authority : Pubkey) (L : Ledger) :
    Except Error Ledger := do
  require ((L asset).owner = .mplCore) .incorrectProgramId
  let a : CoreAsset ← load L asset
  require (authority ∈ signers ∧ a.owner = authority) .missingRequiredSignature
  revertIf (a.frozen = true) .invalidAccountData
  require (rentExempt 1 ≤ (L asset).lamports ∧ payer ≠ asset) .insufficientFunds
  let L' := Function.update L payer
    { L payer with lamports := (L payer).lamports + ((L asset).lamports - rentExempt 1) }
  pure (Function.update L' asset { L asset with lamports := rentExempt 1, data := .byte })

/-- Core's `TransferV1` of an asset without a collection. -/
def coreTransferV1 (signers : List Pubkey) (asset payer authority newOwner : Pubkey)
    (L : Ledger) : Except Error Ledger := do
  require ((L asset).owner = .mplCore) .incorrectProgramId
  let a : CoreAsset ← load L asset
  require (payer ∈ signers ∧ authority ∈ signers ∧
    (a.owner = authority ∨ a.transferDelegate = some authority)) .missingRequiredSignature
  revertIf (a.frozen = true) .invalidAccountData
  pure (putAsset L asset { a with owner := newOwner, transferDelegate := none })

/-- Core's `UpdateV1` with a new URI; the payer tops up the rent. -/
def coreUpdateV1 (signers : List Pubkey) (asset payer authority : Pubkey) (uri : Text)
    (L : Ledger) : Except Error Ledger := do
  require ((L asset).owner = .mplCore) .incorrectProgramId
  let a : CoreAsset ← load L asset
  require (payer ∈ signers ∧ authority ∈ signers ∧ a.updateAuthority = authority)
    .missingRequiredSignature
  let due := assetRent uri - (L asset).lamports
  require ((L payer).owner = .system ∧ due ≤ (L payer).lamports) .insufficientFunds
  let L := Function.update L payer { L payer with lamports := (L payer).lamports - due }
  pure (Function.update L asset { L asset with
    lamports := (L asset).lamports + due, data := .coreAsset { a with uri := uri } })

/-- Core's `UpdatePluginV1` of the permanent freeze. -/
def coreUpdatePluginV1 (signers : List Pubkey) (asset payer authority : Pubkey)
    (frozen : Bool) (L : Ledger) : Except Error Ledger := do
  require ((L asset).owner = .mplCore) .incorrectProgramId
  let a : CoreAsset ← load L asset
  require (payer ∈ signers ∧ authority ∈ signers ∧ a.freezeAuthority = some authority)
    .missingRequiredSignature
  pure (putAsset L asset { a with frozen := frozen })

theorem coreAt_putAsset {L : Ledger} {k : Pubkey} {a : CoreAsset}
    (ho : (L k).owner = .mplCore) : coreAt (putAsset L k a) k = some a := by
  apply coreAt_eq_some.mpr
  simp [putAsset, ho]

theorem putAsset_frame {L : Ledger} {k payer : Pubkey} {a : CoreAsset} :
    CoreFrame k payer L (putAsset L k a) := by
  constructor
  · intro k' hk
    simp [putAsset, hk]
  · intro k' hk _
    simp [putAsset, hk]

/-- Paying from `payer` and writing under `asset` stays inside the frame. -/
theorem paid_coreFrame {L : Ledger} {asset payer : Pubkey} {n : ℕ} {b : Account Pubkey Data}
    (hp : (L payer).owner = .system) :
    CoreFrame asset payer L (Function.update (Function.update L payer
      { L payer with lamports := (L payer).lamports - n }) asset b) := by
  constructor
  · intro k hk
    by_cases hkp : k = payer
    · subst hkp
      simp [hk]
    · simp [hk, hkp]
  · intro k hk hkp
    have hne : k ≠ payer := fun e => hkp e (e ▸ hp)
    simp [hk, hne]

theorem core_createV1_ok :
    ∀ {signers asset payer owner updateAuthority uri freezeAuthority frozen L L'},
    coreCreateV1 signers asset payer owner updateAuthority uri freezeAuthority frozen L = .ok L' →
    asset ∈ signers ∧ Free (L asset) ∧
      coreAt L' asset = some ⟨owner, uri, updateAuthority, frozen, some freezeAuthority, none⟩ ∧
      CoreFrame asset payer L L' := by
  intro signers asset payer owner updateAuthority uri freezeAuthority frozen L L' h
  simp only [coreCreateV1, bind_ok, require_ok, pure_ok, exists_const] at h
  obtain ⟨⟨-, hs, -⟩, hfree, ⟨hp, -⟩, -, rfl⟩ := h
  refine ⟨hs, hfree, ?_, paid_coreFrame hp⟩
  apply coreAt_eq_some.mpr
  simp

theorem core_burnV1_ok : ∀ {signers asset payer authority L L'},
    coreBurnV1 signers asset payer authority L = .ok L' →
    (∃ a, coreAt L asset = some a) ∧ (L' asset).owner = .mplCore ∧ (L' asset).data = .byte ∧
      0 < (L' asset).lamports ∧ CoreFrame asset payer L L' := by
  intro signers asset payer authority L L' h
  simp only [coreBurnV1, bind_ok, require_ok, load_ok, revertIf_ok, pure_ok, Record.toData,
    exists_const] at h
  obtain ⟨ho, a, hd, -, -, ⟨-, hne⟩, rfl⟩ := h
  refine ⟨⟨a, coreAt_eq_some.mpr ⟨ho, hd⟩⟩, by simp [ho], by simp, ?_, ?_, ?_⟩
  · rw [Function.update_self]
    show 0 < rentExempt 1
    unfold rentExempt
    omega
  · intro k hk
    by_cases hkp : k = payer
    · subst hkp
      simp [hk]
    · simp [hk, hkp]
  · intro k hk _
    by_cases hkp : k = payer
    · subst hkp
      simp [hk]
    · simp [hk, hkp]

theorem core_transferV1_ok : ∀ {signers asset payer authority newOwner L L'},
    coreTransferV1 signers asset payer authority newOwner L = .ok L' →
    (∃ a, coreAt L asset = some a ∧ authority ∈ signers ∧
      (a.owner = authority ∨ a.transferDelegate = some authority) ∧
      coreAt L' asset = some { a with owner := newOwner, transferDelegate := none }) ∧
    CoreFrame asset payer L L' := by
  intro signers asset payer authority newOwner L L' h
  simp only [coreTransferV1, bind_ok, require_ok, load_ok, revertIf_ok, pure_ok, Record.toData,
    exists_const] at h
  obtain ⟨ho, a, hd, ⟨-, hsign, hauth⟩, -, rfl⟩ := h
  exact ⟨⟨a, coreAt_eq_some.mpr ⟨ho, hd⟩, hsign, hauth, coreAt_putAsset ho⟩, putAsset_frame⟩

theorem core_updateV1_ok : ∀ {signers asset payer authority uri L L'},
    coreUpdateV1 signers asset payer authority uri L = .ok L' →
    (∃ a, coreAt L asset = some a ∧ authority ∈ signers ∧ a.updateAuthority = authority ∧
      coreAt L' asset = some { a with uri := uri }) ∧ CoreFrame asset payer L L' := by
  intro signers asset payer authority uri L L' h
  simp only [coreUpdateV1, bind_ok, require_ok, load_ok, pure_ok, Record.toData,
    exists_const] at h
  obtain ⟨ho, a, hd, ⟨-, hsign, hauth⟩, ⟨hp, -⟩, rfl⟩ := h
  refine ⟨⟨a, coreAt_eq_some.mpr ⟨ho, hd⟩, hsign, hauth, ?_⟩, paid_coreFrame hp⟩
  apply coreAt_eq_some.mpr
  by_cases hap : asset = payer
  · subst hap
    simp [ho]
  · simp [ho, hap]

theorem core_updatePluginV1_ok : ∀ {signers asset payer authority frozen L L'},
    coreUpdatePluginV1 signers asset payer authority frozen L = .ok L' →
    (∃ a, coreAt L asset = some a ∧ authority ∈ signers ∧ a.freezeAuthority = some authority ∧
      coreAt L' asset = some { a with frozen := frozen }) ∧ CoreFrame asset payer L L' := by
  intro signers asset payer authority frozen L L' h
  simp only [coreUpdatePluginV1, bind_ok, require_ok, load_ok, pure_ok, Record.toData,
    exists_const] at h
  obtain ⟨ho, a, hd, ⟨-, hsign, hauth⟩, rfl⟩ := h
  exact ⟨⟨a, coreAt_eq_some.mpr ⟨ho, hd⟩, hsign, hauth, coreAt_putAsset ho⟩, putAsset_frame⟩

theorem core_createV1_accepts :
    ∀ {signers asset payer owner updateAuthority uri freezeAuthority frozen L},
    payer ∈ signers → asset ∈ signers → updateAuthority ∈ signers → Free (L asset) →
    (L payer).owner = .system → (L payer).data = .empty → assetRent uri ≤ (L payer).lamports →
    ∃ L',
      coreCreateV1 signers asset payer owner updateAuthority uri freezeAuthority frozen L = .ok L' ∧
      (L' payer).owner = .system ∧ (L' payer).data = .empty ∧
      (L payer).lamports ≤ (L' payer).lamports + assetRent uri ∧
      ∀ k, k ≠ asset → k ≠ payer → L' k = L k := by
  intro signers asset payer owner updateAuthority uri freezeAuthority frozen L hp ha hu hfree
    hpo hpe hrent
  have hne : payer ≠ asset := by
    rintro rfl
    have : 0 < assetRent uri := by
      unfold assetRent rentExempt
      omega
    have hz : (L payer).lamports = 0 := hfree.2.2
    omega
  let L₁ := Function.update L payer
    { L payer with lamports := (L payer).lamports - assetRent uri }
  refine ⟨Function.update L₁ asset ⟨assetRent uri, .mplCore,
    .coreAsset ⟨owner, uri, updateAuthority, frozen, some freezeAuthority, none⟩, false⟩, ?_, ?_⟩
  · simp only [coreCreateV1, bind_ok, require_ok, pure_ok, exists_const]
    exact ⟨⟨hp, ha, hu⟩, hfree, ⟨hpo, hpe, hne⟩, hrent, rfl⟩
  · refine ⟨by simp [L₁, hne, hpo], by simp [L₁, hne, hpe], ?_, ?_⟩
    · show (L payer).lamports ≤ (Function.update L₁ asset _ payer).lamports + assetRent uri
      simp [L₁, hne]
      omega
    · intro k hk hkp
      simp [L₁, hk, hkp]

theorem core_transferV1_accepts : ∀ {signers asset payer authority newOwner L a},
    payer ∈ signers → authority ∈ signers → coreAt L asset = some a → a.owner = authority →
    a.frozen = false → ∃ L', coreTransferV1 signers asset payer authority newOwner L = .ok L' := by
  intro signers asset payer authority newOwner L a hp hs ha ho hf
  obtain ⟨hco, hd⟩ := coreAt_eq_some.mp ha
  refine ⟨putAsset L asset { a with owner := newOwner, transferDelegate := none }, ?_⟩
  simp only [coreTransferV1, bind_ok, require_ok, load_ok, revertIf_ok, pure_ok, Record.toData,
    exists_const]
  exact ⟨hco, a, hd, ⟨hp, hs, .inl ho⟩, by simp [hf], rfl⟩

theorem core_updateV1_accepts : ∀ {signers asset payer authority uri L a},
    payer ∈ signers → authority ∈ signers → coreAt L asset = some a →
    a.updateAuthority = authority → (L payer).owner = .system → (L payer).data = .empty →
    assetRent uri ≤ (L payer).lamports →
    ∃ L', coreUpdateV1 signers asset payer authority uri L = .ok L' ∧
      ∀ k, k ≠ asset → k ≠ payer → L' k = L k := by
  intro signers asset payer authority uri L a hp hs ha hu hpo hpe hrent
  obtain ⟨hco, hd⟩ := coreAt_eq_some.mp ha
  let due := assetRent uri - (L asset).lamports
  let L₁ := Function.update L payer { L payer with lamports := (L payer).lamports - due }
  refine ⟨Function.update L₁ asset { L₁ asset with
    lamports := (L₁ asset).lamports + due, data := .coreAsset { a with uri := uri } }, ?_, ?_⟩
  · simp only [coreUpdateV1, bind_ok, require_ok, load_ok, pure_ok, Record.toData,
      exists_const]
    exact ⟨hco, a, hd, ⟨hp, hs, hu⟩, ⟨hpo, by omega⟩, rfl⟩
  · intro k hk hkp
    simp [L₁, hk, hkp]

theorem core_updatePluginV1_accepts : ∀ {signers asset payer authority frozen L a},
    payer ∈ signers → authority ∈ signers → coreAt L asset = some a →
    a.freezeAuthority = some authority →
    ∃ L', coreUpdatePluginV1 signers asset payer authority frozen L = .ok L' ∧
      ∀ k, k ≠ asset → L' k = L k := by
  intro signers asset payer authority frozen L a hp hs ha hf
  obtain ⟨hco, hd⟩ := coreAt_eq_some.mp ha
  refine ⟨putAsset L asset { a with frozen := frozen }, ?_, ?_⟩
  · simp only [coreUpdatePluginV1, bind_ok, require_ok, load_ok, pure_ok, Record.toData,
      exists_const]
    exact ⟨hco, a, hd, ⟨hp, hs, hf⟩, rfl⟩
  · intro k hk
    simp [putAsset, hk]

/-- Core on plain assets. -/
def coreReference : CoreProgram where
  rent := assetRent
  createV1 := coreCreateV1
  burnV1 := coreBurnV1
  transferV1 := coreTransferV1
  updateV1 := coreUpdateV1
  updatePluginV1 := coreUpdatePluginV1
  createV1_ok := @core_createV1_ok
  burnV1_ok := @core_burnV1_ok
  transferV1_ok := @core_transferV1_ok
  updateV1_ok := @core_updateV1_ok
  updatePluginV1_ok := @core_updatePluginV1_ok
  createV1_accepts := @core_createV1_accepts
  transferV1_accepts := @core_transferV1_accepts
  updateV1_accepts := @core_updateV1_accepts
  updatePluginV1_accepts := @core_updatePluginV1_accepts

/-- The classic token program's `Transfer`. -/
def splTransfer (signers : List Pubkey) (source destination authority : Pubkey) (amount : ℕ)
    (L : Ledger) : Except Error Ledger := do
  require ((L source).owner = .splToken ∧ (L destination).owner = .splToken) .incorrectProgramId
  let s : TokenAccount ← load L source
  let d : TokenAccount ← load L destination
  require (s.state = .initialized ∧ d.state = .initialized ∧ s.mint = d.mint) .invalidAccountData
  require (authority ∈ signers ∧ s.authority = authority) .missingRequiredSignature
  revertIf (s.amount < amount) .insufficientFunds
  if source = destination then pure L
  else
    let L := Function.update L source
      { L source with data := .token { s with amount := s.amount - amount } }
    pure (Function.update L destination
      { L destination with data := .token { d with amount := d.amount + amount } })

/-- The classic token program's `InitializeAccount3`. -/
def splInitializeAccount3 (account mint owner : Pubkey) (L : Ledger) : Except Error Ledger := do
  require ((L account).owner = .splToken) .incorrectProgramId
  let r : TokenAccount ← load L account
  require (r = default ∧ (L mint).owner = .splToken) .invalidAccountData
  pure (Function.update L account
    { L account with data := .token ⟨mint, owner, 0, .initialized⟩ })

/-- The classic token program's `CloseAccount`. -/
def splCloseAccount (signers : List Pubkey) (account destination authority : Pubkey)
    (L : Ledger) : Except Error Ledger := do
  require ((L account).owner = .splToken ∧ account ≠ destination) .incorrectProgramId
  let r : TokenAccount ← load L account
  require (authority ∈ signers ∧ r.authority = authority) .missingRequiredSignature
  require (r.amount = 0) .invalidAccountData
  let L' := Function.update L destination
    { L destination with lamports := (L destination).lamports + (L account).lamports }
  pure (Function.update L' account ⟨0, .system, .empty, false⟩)

def splProgram (caller program : Pubkey) (signers : List Pubkey) (ix : TokenInstruction)
    (L : Ledger) : Except Error Ledger := do
  require (program = .splToken ∧ caller ≠ .splToken) .incorrectProgramId
  match ix with
  | .transfer source destination authority amount => do
    -- record addresses are never token accounts
    revertIf (source.isRecord ∨ destination.isRecord) .invalidAccountData
    splTransfer signers source destination authority amount L
  | .initializeAccount3 account mint owner => do
    revertIf account.isRecord .invalidAccountData
    splInitializeAccount3 account mint owner L
  | .closeAccount account destination authority => do
    revertIf account.isRecord .invalidAccountData
    splCloseAccount signers account destination authority L

/-- What the classic token program does to an account: nothing but add lamports, or it is one
    of its token accounts and keeps its tokens unless its authority signs. -/
def SplStep (signers : List Pubkey) (k : Pubkey) (a b : Account Pubkey Data) : Prop :=
  a.Untouched b ∨ a.owner = .splToken ∧ k.isRecord = false ∧ b.owner ≠ .mplCore ∧
    (∀ c : CoreAsset, b.data ≠ .coreAsset c) ∧ (∀ m : MintAccount, b.data ≠ .mint m) ∧
    ∃ r : TokenAccount, a.data = .token r ∧
      (r = default ∨ r.authority ∈ signers ∨ b.owner = a.owner ∧ ∃ r' : TokenAccount,
        b.data = .token r' ∧ r'.mint = r.mint ∧ r'.authority = r.authority ∧ r.amount ≤ r'.amount)

theorem splTransfer_step {signers : List Pubkey} {source destination authority : Pubkey}
    {amount : ℕ} {L L' : Ledger} (hs : source.isRecord = false) (hd : destination.isRecord = false)
    (h : splTransfer signers source destination authority amount L = .ok L') (k : Pubkey) :
    SplStep signers k (L k) (L' k) := by
  simp only [splTransfer, bind_ok, require_ok, load_ok, revertIf_ok, exists_const, Record.toData] at h
  obtain ⟨⟨hos, hod⟩, rs, hrs, rd, hrd, -, ⟨hsign, hauth⟩, -, h⟩ := h
  split at h
  · obtain rfl := pure_ok.mp h
    exact .inl (.refl _)
  · rename_i hne
    obtain rfl := pure_ok.mp h
    by_cases hk : k = destination
    · subst hk
      have hks : k ≠ source := fun e => hne e.symm
      refine .inr ⟨hod, hd, by simp [hks, hod], by simp, by simp, rd, hrd, .inr (.inr ?_)⟩
      exact ⟨by simp [hks], { rd with amount := rd.amount + amount }, by simp, rfl, rfl, by simp⟩
    · by_cases hk' : k = source
      · subst hk'
        refine .inr ⟨hos, hs, by simp [hk, hos], by simp [hk], by simp [hk], rs, hrs, .inr (.inl ?_)⟩
        exact hauth ▸ hsign
      · exact .inl (by simp [hk, hk', Account.Untouched])

theorem splInitializeAccount3_step {signers : List Pubkey} {account mint owner : Pubkey}
    {L L' : Ledger} (hr : account.isRecord = false)
    (h : splInitializeAccount3 account mint owner L = .ok L') (k : Pubkey) :
    SplStep signers k (L k) (L' k) := by
  simp only [splInitializeAccount3, bind_ok, require_ok, load_ok, pure_ok, exists_const,
    Record.toData] at h
  obtain ⟨ho, r, hd, ⟨rfl, -⟩, rfl⟩ := h
  by_cases hk : k = account
  · subst hk
    exact .inr ⟨ho, hr, by simp [ho], by simp, by simp, _, hd, .inl rfl⟩
  · exact .inl (by simp [hk, Account.Untouched])

theorem splCloseAccount_step {signers : List Pubkey} {account destination authority : Pubkey}
    {L L' : Ledger} (hr : account.isRecord = false)
    (h : splCloseAccount signers account destination authority L = .ok L') (k : Pubkey) :
    SplStep signers k (L k) (L' k) := by
  simp only [splCloseAccount, bind_ok, require_ok, load_ok, pure_ok, exists_const,
    Record.toData] at h
  obtain ⟨⟨ho, -⟩, r, hd, ⟨hsign, hauth⟩, -, rfl⟩ := h
  by_cases hk : k = account
  · subst hk
    exact .inr ⟨ho, hr, by simp, by simp, by simp, r, hd, .inr (.inl (hauth ▸ hsign))⟩
  · by_cases hk' : k = destination
    · subst hk'
      exact .inl ⟨by simp [hk], by simp [hk], by simp [hk]⟩
    · exact .inl (by simp [hk, hk', Account.Untouched])

theorem splProgram_step {caller program : Pubkey} {signers : List Pubkey} {ix : TokenInstruction}
    {L L' : Ledger} (h : splProgram caller program signers ix L = .ok L') :
    caller ≠ .splToken ∧ ∀ k, SplStep signers k (L k) (L' k) := by
  simp only [splProgram, bind_ok, require_ok, exists_const] at h
  obtain ⟨⟨-, hc⟩, h⟩ := h
  refine ⟨hc, fun k => ?_⟩
  cases ix <;> simp only [bind_ok, revertIf_ok, exists_const, not_or, Bool.not_eq_true] at h
  · exact splTransfer_step h.1.1 h.1.2 h.2 k
  · exact splInitializeAccount3_step h.1 h.2 k
  · exact splCloseAccount_step h.1 h.2 k

/-- Core and the classic token program. -/
def reference : Platform where
  toCoreProgram := coreReference
  minimumBalance := rentExempt
  tokenProgram := splProgram
  minimumBalance_pos n := by
    unfold rentExempt
    omega
  token_caller := by
    intro caller program signers ix L L' h k hk
    obtain ⟨hc, hstep⟩ := splProgram_step h
    exact (hstep k).resolve_right fun hs => hc (hk.symm.trans hs.1)
  token_records := by
    intro caller program signers ix L L' h s
    exact ((splProgram_step h).2 _).resolve_right fun hs => by cases hs.2.1
  token_core := by
    intro caller program signers ix L L' c h _ hnd
    have hstep := (splProgram_step h).2
    constructor
    · intro k a ha hc
      rcases hstep k with hu | ⟨-, -, -, hn, -, -⟩
      · exact hnd k a (coreAt_congr hu.1 hu.2.1 ▸ ha) hc
      · exact absurd (coreAt_eq_some.mp ha).2 (hn a)
    · rintro k ⟨a, ha, hc⟩
      rcases hstep k with hu | ⟨hs, -⟩
      · exact ⟨a, coreAt_congr hu.1 hu.2.1 ▸ ha, hc⟩
      · rw [(coreAt_eq_some.mp ha).1] at hs
        cases hs
  token_escrowed := by
    rintro caller program signers ix L L' h k r ⟨-, hd, -⟩ hder hsig
    rcases (splProgram_step h).2 k with hu | ⟨-, -, -, -, -, r₀, hd₀, hcase⟩
    · exact ⟨hu.1, r, hu.2.1.trans hd, rfl, rfl, Nat.le_refl _⟩
    · obtain rfl : r = r₀ := by simpa using hd.symm.trans hd₀
      rcases hcase with rfl | hs | hkeep
      · cases hder
      · exact absurd hs hsig
      · exact hkeep
  token_mint := by
    intro caller program signers ix L L' h _ k m hd
    rcases (splProgram_step h).2 k with hu | ⟨-, -, -, -, hn, -⟩
    · exact hu.2.1 ▸ hd
    · exact absurd hd (hn m)

end Platform

end Kargain.Svm
