/-
  Kargain.Svm.Custody — passports in the custody of a commerce mode.

  crates/kargain-consignment-base (core_custody.rs, passport_binding.rs)
  and crates/kargain-encumbrance.  A mode is bound to one passport
  program; it takes a passport into its custody address, lets it out
  again, and keeps one answer account for each intent while it has it.

  The books of a mode are its accounts under fixed seeds, all but the
  answers.  `Books p f L` says that they read `f` in `L`, and that each
  is the mode's or still the system program's; custody and obligations
  leave the books alone, so a handler's effect on them is what it stores.
-/
import Kargain.Svm.Consignment
import Kargain.Svm.Effects
import Kargain.Svm.May

namespace Kargain.Svm

open Kargain.Accounts

abbrev consignmentPda (program : Pubkey) (t : TokenId) : Pubkey := .pda program (.consignment t)

abbrev mandatePda (program : Pubkey) (t : TokenId) : Pubkey := .pda program (.mandate t)

abbrev recallPda (program : Pubkey) (t : TokenId) : Pubkey := .pda program (.recall t)

abbrev passportBindingPda (program : Pubkey) : Pubkey := .pda program .passportBind

/-! ## §1. The passport program a mode is bound to. -/

/-- `require_bound_passport_program`. -/
def requireBoundPassportProgram (programId : Pubkey) (L : Ledger) (binding : Pubkey) :
    Except Error Pubkey := do
  require (binding = passportBindingPda programId) .invalidSeeds
  revertIf ((L binding).data = .empty) (.custom .passportProgramUnbound)
  require ((L binding).owner = programId) .incorrectProgramId
  let b : PassportBinding ← orRevert (Record.ofData (L binding).data)
    (.custom .passportProgramUnbound)
  pure b.passportProgram

/-- `require_binding_uninitialised`. -/
def requireBindingUninitialised (L : Ledger) (binding : Pubkey) : Except Error Unit :=
  require ((L binding).data = .empty) .accountAlreadyInitialized

/-- `encumbrance_seed_prefix_for_source`: the mode's prefix, and how many sources there are. -/
def encumbranceSeedPrefixForSource (L : Ledger) (config passportProgram source : Pubkey) :
    Except Error (List ℕ × ℕ) := do
  require (config = configPda passportProgram) .invalidSeeds
  require ((L config).owner = passportProgram) .incorrectProgramId
  let cfg : PassportConfig ← load L config
  let entry ← orRevert (cfg.encumbranceSources.find? (·.programId = source))
    (.custom .modeNotEncumbranceSource)
  pure (entry.seedPrefix, cfg.encumbranceSources.length)

/-! ## §2. Core assets. -/

/-- `require_passport_core_asset`. -/
def requirePassportCoreAsset (passportProgram : Pubkey) (t : TokenId) (L : Ledger)
    (asset : Pubkey) : Except Error Unit := do
  require (asset = assetPda passportProgram t) .invalidSeeds
  require (isLiveCoreAsset L asset = true) (.custom .notLiveCoreAsset)

/-- `core_asset_owner`. -/
def coreAssetOwner (L : Ledger) (asset : Pubkey) : Except Error Pubkey := do
  let a : CoreAsset ← load L asset
  pure a.owner

def requireNotFrozen (L : Ledger) (asset : Pubkey) : Except Error Unit := do
  let a : CoreAsset ← load L asset
  revertIf (a.frozen = true) (.custom .assetFrozen)

def hasTransferDelegate (L : Ledger) (asset expected : Pubkey) : Except Error Bool := do
  let a : CoreAsset ← load L asset
  pure (a.transferDelegate = some expected)

def requireTransferDelegate (L : Ledger) (asset expected : Pubkey) : Except Error Unit := do
  let ok ← hasTransferDelegate L asset expected
  revertIf (ok = false) (.custom .notTransferDelegate)

section Moves

variable (P : Platform) (programId : Pubkey) (x : Call) (w : Exec)

/-- `transfer_v1`, `seeds` signing besides the signers of the transaction. -/
def transferV1 (seeds : List Pubkey) (asset payer authority newOwner coreProgram : Pubkey) :
    Except Error Exec := do
  require (coreProgram = .mplCore) .incorrectProgramId
  w.invoke programId x (P.transferV1 (seeds ++ x.signers) asset payer authority newOwner)

def transferOwnerToCustody (passportProgram : Pubkey) (t : TokenId)
    (asset owner custody payer coreProgram : Pubkey) : Except Error Exec := do
  requirePassportCoreAsset passportProgram t w.ledger asset
  requireNotFrozen w.ledger asset
  require (x.isSigner owner) .missingRequiredSignature
  require (custody = .custody programId) .invalidSeeds
  transferV1 P programId x w [] asset payer owner custody coreProgram

def transferDelegateToCustody (passportProgram : Pubkey) (t : TokenId)
    (asset custody payer coreProgram : Pubkey) : Except Error Exec := do
  requirePassportCoreAsset passportProgram t w.ledger asset
  requireNotFrozen w.ledger asset
  require (custody = .custody programId) .invalidSeeds
  requireTransferDelegate w.ledger asset custody
  transferV1 P programId x w [custody] asset payer custody custody coreProgram

def transferCustodyToRecipient (passportProgram : Pubkey) (t : TokenId)
    (asset custody recipient payer coreProgram : Pubkey) : Except Error Exec := do
  requirePassportCoreAsset passportProgram t w.ledger asset
  requireNotFrozen w.ledger asset
  require (custody = .custody programId) .invalidSeeds
  transferV1 P programId x w [custody] asset payer custody recipient coreProgram

def transferOwnerToRecipient (passportProgram : Pubkey) (t : TokenId)
    (asset owner recipient payer coreProgram : Pubkey) : Except Error Exec := do
  requirePassportCoreAsset passportProgram t w.ledger asset
  requireNotFrozen w.ledger asset
  require (x.isSigner owner) .missingRequiredSignature
  let current ← coreAssetOwner w.ledger asset
  require (current = owner) (.custom .notPassportHolder)
  transferV1 P programId x w [] asset payer owner recipient coreProgram

/-! ## §3. Obligations. -/

def encumbranceAnswerSpace : ℕ := 8 + 32 + 1 + 1 + 32

/-- `derive_encumbrance_answer_pda`. -/
def encumbranceAnswerPda (source : Pubkey) (seedPrefix : List ℕ) (t : TokenId) (intent : ℕ) :
    Except Error Pubkey := do
  requireValidSeedPrefix seedPrefix
  requireValidIntent intent
  pure (.pda source (.answer seedPrefix t intent))

def requireAnswerSlotFree (L : Ledger) (answer : Pubkey) : Except Error Unit :=
  require ((L answer).data = .empty ∧ (L answer).lamports = 0) .accountAlreadyInitialized

def createAnswerPda (payer answer : Pubkey) (seedPrefix : List ℕ) (t : TokenId) (intent : ℕ)
    (funder : Pubkey) : Except Error Exec := do
  let expected ← encumbranceAnswerPda programId seedPrefix t intent
  require (answer = expected) .invalidSeeds
  requireAnswerSlotFree w.ledger answer
  createPda P programId x w payer answer programId encumbranceAnswerSpace
    (.answer ⟨t, intent, false, funder⟩)

/-- Both answers are created, refusing both intents; the payer is the funder. -/
def openObligation (payer leave open' : Pubkey) (seedPrefix : List ℕ) (t : TokenId) :
    Except Error Exec := do
  requireValidSeedPrefix seedPrefix
  requireAnswerSlotFree w.ledger leave
  requireAnswerSlotFree w.ledger open'
  let w ← createAnswerPda P programId x w payer leave seedPrefix t intentLeaveChain payer
  createAnswerPda P programId x w payer open' seedPrefix t intentOpenConsignment payer

/-- The recorded funder of an answer about to be closed. -/
def verifyAnswerForClose (L : Ledger) (answer : Pubkey) (seedPrefix : List ℕ) (t : TokenId)
    (intent : ℕ) : Except Error Pubkey := do
  let expected ← encumbranceAnswerPda programId seedPrefix t intent
  require (answer = expected) .invalidSeeds
  revertIf ((L answer).data = .empty) .uninitializedAccount
  require ((L answer).owner = programId) .incorrectProgramId
  let a : EncumbranceAnswer ← load L answer
  require (a.tokenId = t ∧ a.intent = intent) .invalidAccountData
  pure a.funder

/-- `close_answer_account_to_funder`: the data is resized to nothing, so `may` reads no
    obligation. -/
def closeAnswerAccountToFunder (answer funder : Pubkey) : Exec :=
  ((w.move answer funder (w.ledger answer).lamports).setData answer .empty).assign answer .system

def closeObligation (funder leave open' : Pubkey) (seedPrefix : List ℕ) (t : TokenId) :
    Except Error Exec := do
  requireValidSeedPrefix seedPrefix
  let leaveFunder ← verifyAnswerForClose programId w.ledger leave seedPrefix t intentLeaveChain
  let openFunder ←
    verifyAnswerForClose programId w.ledger open' seedPrefix t intentOpenConsignment
  require (leaveFunder = openFunder) .invalidAccountData
  require (funder = leaveFunder) (.custom .wrongAnswerFunder)
  require (x.isWritable funder) .invalidAccountData
  pure (closeAnswerAccountToFunder (closeAnswerAccountToFunder w leave funder) open' funder)

end Moves

/-! ## §4. The books of a mode. -/

/-- Is this one of the accounts a mode keeps its books in?  Answers and assets are not. -/
def Seed.isBook : Seed → Bool
  | .answer _ _ _ | .asset _ => false
  | _ => true

/-- The books of `p` read `f`. -/
def Books (p : Pubkey) (f : Pubkey → Data) (L : Ledger) : Prop :=
  ∀ s : Seed, s.isBook = true → ((L (.pda p s)).owner = p ∨ (L (.pda p s)).owner = .system) ∧
    (L (.pda p s)).data = f (.pda p s)

/-- An operation leaves the books of `p` alone. -/
def SameBooks (p : Pubkey) (L L' : Ledger) : Prop :=
  ∀ s : Seed, s.isBook = true → (L' (.pda p s)).owner = (L (.pda p s)).owner ∧
    (L' (.pda p s)).data = (L (.pda p s)).data

/-- The account data of a ledger. -/
abbrev dataOf (L : Ledger) : Pubkey → Data := fun k => (L k).data

/-- Every book is the mode's or still the system program's. -/
def Seated (p : Pubkey) (L : Ledger) : Prop := Books p (dataOf L) L

section BookLemmas

variable {P : Platform} {p : Pubkey} {x : Call} {w w' : Exec} {L L' L'' : Ledger}
  {f : Pubkey → Data} {k : Pubkey} {s : Seed} {d : Data}

theorem SameBooks.refl : SameBooks p L L := fun _ _ => ⟨rfl, rfl⟩

theorem SameBooks.trans (h : SameBooks p L L') (h' : SameBooks p L' L'') : SameBooks p L L'' :=
  fun s hs => ⟨(h' s hs).1.trans (h s hs).1, (h' s hs).2.trans (h s hs).2⟩

theorem Books.same (h : Books p f L) (h' : SameBooks p L L') : Books p f L' := by
  intro s hs
  rw [(h' s hs).1, (h' s hs).2]
  exact h s hs

theorem Books.seated (h : Books p f L) : Seated p L := fun s hs => ⟨(h s hs).1, rfl⟩

theorem Books.data (h : Books p f L) (hs : s.isBook = true) :
    (L (.pda p s)).data = f (.pda p s) :=
  (h s hs).2

/-- Writing data under a key writes it into the books, if the key is one. -/
theorem Books.setData (h : Books p f w.ledger) :
    Books p (Function.update f k d) (w.setData k d).ledger := by
  intro s hs
  by_cases hk : Pubkey.pda p s = k
  · subst hk
    simpa [Exec.setData, Exec.set] using (h s hs).1
  · simpa [Exec.setData, Exec.set, hk] using h s hs

theorem Books.store {R : Type} [Record Data R] {r : R} (h : Books p f w.ledger)
    (hw : w.store k r = (.ok w' : Except Error Exec)) :
    Books p (Function.update f k (Record.toData r)) w'.ledger := by
  obtain ⟨-, rfl⟩ := store_ok hw
  exact h.setData

theorem Books.createPda {payer : Pubkey} {space : ℕ} (h : Books p f w.ledger)
    (hw : createPda P p x w payer k p space d = .ok w') :
    Books p (Function.update f k d) w'.ledger := by
  intro s hs
  by_cases hk : Pubkey.pda p s = k
  · subst hk
    obtain ⟨-, -, -, -, -, -, hl, -⟩ := createPda_ok hw
    simp [hl]
  · obtain ⟨ho, hd, -⟩ := createPda_frame hw hk
    rw [ho, hd, Function.update_of_ne hk]
    exact h s hs

theorem sameBooks_createPda {payer owner : Pubkey} {space : ℕ}
    (hk : ∀ s : Seed, s.isBook = true → Pubkey.pda p s ≠ k)
    (hw : Svm.createPda P p x w payer k owner space d = .ok w') : SameBooks p w.ledger w'.ledger := by
  intro s hs
  obtain ⟨ho, hd, -⟩ := createPda_frame hw (hk s hs)
  exact ⟨ho, hd⟩

theorem sameBooks_payNative {src dst : Pubkey} {n : ℕ} (hw : payNative p x w src dst n = .ok w') :
    SameBooks p w.ledger w'.ledger := by
  intro s _
  obtain ⟨ho, hd, -⟩ := payNative_frame (k := .pda p s) hw
  exact ⟨ho, hd⟩

theorem sameBooks_move {src dst : Pubkey} {n : ℕ} :
    SameBooks p w.ledger (w.move src dst n).ledger :=
  fun _ _ => ⟨move_frame.1, move_frame.2.1⟩

theorem sameBooks_payNativeFromPda {src dst : Pubkey} {n : ℕ}
    (hw : payNativeFromPda w src dst n = .ok w') : SameBooks p w.ledger w'.ledger := by
  intro s _
  obtain ⟨ho, hd, -⟩ := paid_frame (k := .pda p s) hw
  exact ⟨ho, hd⟩

theorem sameBooks_token {tp : Pubkey} {seeds : List Pubkey} {ix : TokenInstruction}
    (hw : invokeToken P p x w tp seeds ix = .ok w') : SameBooks p w.ledger w'.ledger := by
  intro s _
  have hu := P.token_records (invoke_ok hw).1 s
  exact ⟨hu.1, hu.2.1⟩

theorem sameBooks_setData (hk : ∀ s : Seed, s.isBook = true → Pubkey.pda p s ≠ k) :
    SameBooks p w.ledger (w.setData k d).ledger := by
  intro s hs
  simp [Exec.setData, Exec.set, hk s hs]

/-- Core moves the asset of a passport, which is no book. -/
theorem sameBooks_transferV1 {seeds : List Pubkey} {q payer authority newOwner coreProgram : Pubkey}
    {t : TokenId}
    (hw : transferV1 P p x w seeds (assetPda q t) payer authority newOwner coreProgram = .ok w') :
    SameBooks p w.ledger w'.ledger := by
  simp only [transferV1, bind_ok, require_ok, exists_const] at hw
  obtain ⟨-, hrest, -⟩ := P.transferV1_ok (invoke_ok hw.2).1
  intro s hs
  apply hrest
  intro he
  obtain ⟨-, rfl⟩ := Pubkey.pda.inj he
  cases hs

/-- An accepted move is Core's transfer of the asset of `t`. -/
theorem transferCustodyToRecipient_ok {q : Pubkey} {t : TokenId}
    {asset custody recipient payer coreProgram : Pubkey}
    (hw : transferCustodyToRecipient P p x w q t asset custody recipient payer coreProgram =
      .ok w') :
    asset = assetPda q t ∧ custody = .custody p ∧
      transferV1 P p x w [custody] asset payer custody recipient coreProgram = .ok w' := by
  simp only [transferCustodyToRecipient, requirePassportCoreAsset, bind_ok, require_ok,
    exists_const] at hw
  obtain ⟨⟨ha, -⟩, _, -, hc, hw⟩ := hw
  exact ⟨ha, hc, hw⟩

theorem sameBooks_transferCustodyToRecipient {q : Pubkey} {t : TokenId}
    {asset custody recipient payer coreProgram : Pubkey}
    (hw : transferCustodyToRecipient P p x w q t asset custody recipient payer coreProgram =
      .ok w') : SameBooks p w.ledger w'.ledger := by
  obtain ⟨rfl, -, h⟩ := transferCustodyToRecipient_ok hw
  exact sameBooks_transferV1 h

theorem transferOwnerToCustody_ok {q : Pubkey} {t : TokenId}
    {asset owner custody payer coreProgram : Pubkey}
    (hw : transferOwnerToCustody P p x w q t asset owner custody payer coreProgram = .ok w') :
    asset = assetPda q t ∧ transferV1 P p x w [] asset payer owner custody coreProgram = .ok w' := by
  simp only [transferOwnerToCustody, requirePassportCoreAsset, bind_ok, require_ok,
    exists_const] at hw
  obtain ⟨⟨ha, -⟩, _, -, -, -, hw⟩ := hw
  exact ⟨ha, hw⟩

theorem sameBooks_transferOwnerToCustody {q : Pubkey} {t : TokenId}
    {asset owner custody payer coreProgram : Pubkey}
    (hw : transferOwnerToCustody P p x w q t asset owner custody payer coreProgram = .ok w') :
    SameBooks p w.ledger w'.ledger := by
  obtain ⟨rfl, h⟩ := transferOwnerToCustody_ok hw
  exact sameBooks_transferV1 h

theorem transferDelegateToCustody_ok {q : Pubkey} {t : TokenId}
    {asset custody payer coreProgram : Pubkey}
    (hw : transferDelegateToCustody P p x w q t asset custody payer coreProgram = .ok w') :
    asset = assetPda q t ∧
      transferV1 P p x w [custody] asset payer custody custody coreProgram = .ok w' := by
  simp only [transferDelegateToCustody, requirePassportCoreAsset, bind_ok, require_ok,
    exists_const] at hw
  obtain ⟨⟨ha, -⟩, _, -, -, _, -, hw⟩ := hw
  exact ⟨ha, hw⟩

theorem sameBooks_transferDelegateToCustody {q : Pubkey} {t : TokenId}
    {asset custody payer coreProgram : Pubkey}
    (hw : transferDelegateToCustody P p x w q t asset custody payer coreProgram = .ok w') :
    SameBooks p w.ledger w'.ledger := by
  obtain ⟨rfl, h⟩ := transferDelegateToCustody_ok hw
  exact sameBooks_transferV1 h

theorem transferOwnerToRecipient_ok {q : Pubkey} {t : TokenId}
    {asset owner recipient payer coreProgram : Pubkey}
    (hw : transferOwnerToRecipient P p x w q t asset owner recipient payer coreProgram = .ok w') :
    asset = assetPda q t ∧
      transferV1 P p x w [] asset payer owner recipient coreProgram = .ok w' := by
  simp only [transferOwnerToRecipient, requirePassportCoreAsset, bind_ok, require_ok,
    exists_const] at hw
  obtain ⟨⟨ha, -⟩, _, -, -, _, -, -, hw⟩ := hw
  exact ⟨ha, hw⟩

theorem sameBooks_transferOwnerToRecipient {q : Pubkey} {t : TokenId}
    {asset owner recipient payer coreProgram : Pubkey}
    (hw : transferOwnerToRecipient P p x w q t asset owner recipient payer coreProgram = .ok w') :
    SameBooks p w.ledger w'.ledger := by
  obtain ⟨rfl, h⟩ := transferOwnerToRecipient_ok hw
  exact sameBooks_transferV1 h

theorem encumbranceAnswerPda_ok {q : Pubkey} {seedPrefix : List ℕ} {t : TokenId} {intent : ℕ}
    (h : encumbranceAnswerPda q seedPrefix t intent = .ok k) :
    k = .pda q (.answer seedPrefix t intent) := by
  simp only [encumbranceAnswerPda, bind_ok, pure_ok] at h
  obtain ⟨_, -, _, -, h⟩ := h
  exact h.symm

theorem not_book_answer {seedPrefix : List ℕ} {t : TokenId} {intent : ℕ} :
    ∀ s : Seed, s.isBook = true → Pubkey.pda p s ≠ .pda p (.answer seedPrefix t intent) := by
  rintro s hs he
  obtain ⟨-, rfl⟩ := Pubkey.pda.inj he
  cases hs

theorem sameBooks_createAnswerPda {payer answer funder : Pubkey} {seedPrefix : List ℕ}
    {t : TokenId} {intent : ℕ}
    (hw : createAnswerPda P p x w payer answer seedPrefix t intent funder = .ok w') :
    SameBooks p w.ledger w'.ledger := by
  simp only [createAnswerPda, bind_ok, require_ok, exists_const] at hw
  obtain ⟨expected, he, rfl, _, -, hw⟩ := hw
  obtain rfl := encumbranceAnswerPda_ok he
  exact sameBooks_createPda not_book_answer hw

theorem sameBooks_openObligation {payer leave open' : Pubkey} {seedPrefix : List ℕ} {t : TokenId}
    (hw : openObligation P p x w payer leave open' seedPrefix t = .ok w') :
    SameBooks p w.ledger w'.ledger := by
  simp only [openObligation, bind_ok] at hw
  obtain ⟨_, -, _, -, _, -, w₁, h₁, h₂⟩ := hw
  exact (sameBooks_createAnswerPda h₁).trans (sameBooks_createAnswerPda h₂)

theorem sameBooks_closeAnswer {funder : Pubkey} {seedPrefix : List ℕ} {t : TokenId}
    {intent : ℕ} : SameBooks p w.ledger
      (closeAnswerAccountToFunder w (.pda p (.answer seedPrefix t intent)) funder).ledger := by
  intro s hs
  have hne : Pubkey.pda p s ≠ .pda p (.answer seedPrefix t intent) := not_book_answer s hs
  obtain ⟨ho, hd, -⟩ := @closed_frame w (.pda p (.answer seedPrefix t intent)) funder (.pda p s)
    (w.ledger (.pda p (.answer seedPrefix t intent))).lamports .empty hne
  exact ⟨ho, hd⟩

theorem verifyAnswerForClose_key {answer funder : Pubkey} {seedPrefix : List ℕ} {t : TokenId}
    {intent : ℕ} (h : verifyAnswerForClose p L answer seedPrefix t intent = .ok funder) :
    answer = .pda p (.answer seedPrefix t intent) := by
  simp only [verifyAnswerForClose, bind_ok, require_ok, exists_const] at h
  obtain ⟨expected, he, rfl, -⟩ := h
  exact encumbranceAnswerPda_ok he

theorem sameBooks_closeObligation {funder leave open' : Pubkey} {seedPrefix : List ℕ}
    {t : TokenId} (hw : closeObligation p x w funder leave open' seedPrefix t = .ok w') :
    SameBooks p w.ledger w'.ledger := by
  simp only [closeObligation, bind_ok, require_ok, pure_ok, exists_const] at hw
  obtain ⟨_, -, _, hl, _, ho, -, -, -, rfl⟩ := hw
  obtain rfl := verifyAnswerForClose_key hl
  obtain rfl := verifyAnswerForClose_key ho
  exact sameBooks_closeAnswer.trans sameBooks_closeAnswer

end BookLemmas

end Kargain.Svm
