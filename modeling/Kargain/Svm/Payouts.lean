/-
  Kargain.Svm.Payouts — paying the legs of a settlement, and the price of a fiat lot.

  crates/kargain-claimable-payouts and crates/kargain-price.  A token leg
  goes to the recipient's token account when that can receive, else into
  a claim the recipient withdraws later.  Which of the two is decided
  before the transfer, never by its failure.

  The pull of a payment is measured: the word at the amount offset of the
  escrow's token account, before and after.  That word is defined for any
  data long enough; for the programs' own records `AmountOffset` leaves
  it open.
-/
import Kargain.Svm.Custody

namespace Kargain.Svm

open Kargain.Accounts

/-! ## §1. Token accounts. -/

/-- What stands at `SPL_TOKEN_ACCOUNT_AMOUNT_OFFSET`. -/
structure AmountOffset where
  word : Data → Option ℕ
  token : ∀ r : TokenAccount, word (.token r) = some r.amount
  other : ∀ n, word (.other n) = n

/-- No record of a program reaches the offset. -/
def AmountOffset.reference : AmountOffset where
  word
    | .token r => some r.amount
    | .other n => n
    | _ => none
  token _ := rfl
  other _ := rfl

def splTokenAccountAmount (W : AmountOffset) (L : Ledger) (account : Pubkey) : Except Error ℕ :=
  orRevert (W.word (L account).data) (.custom .tokenNonConforming)

def requireFullDelivery (before after expected : ℕ) : Except Error Unit := do
  require (before ≤ after) (.custom .shortDelivery)
  require (after - before = expected) (.custom .shortDelivery)

/-- `classify_spl_receive_reachability`: `true` is reachable. -/
def classifySplReceiveReachability (L : Ledger) (account : Option Pubkey)
    (mint tokenProgram : Pubkey) : Bool :=
  match account with
  | none => false
  | some k =>
    match (L k).data with
    | .token r => (L k).owner = tokenProgram ∧ r.state = .initialized ∧ r.mint = mint
    | _ => false

/-- An account without data, or of another program, is treated as none. -/
def receivingAccount (L : Ledger) (account tokenProgram : Pubkey) : Option Pubkey :=
  if (L account).data = .empty ∨ (L account).owner ≠ tokenProgram then none else some account

/-- `require_admitted_spl_mint_account`: the decimals are read from the mint. -/
def requireAdmittedSplMintAccount (L : Ledger) (mint : Pubkey) : Except Error ℕ := do
  require (L mint).owner.isTokenProgram (.custom .tokenNonConforming)
  revertIf ((L mint).data = .empty) (.custom .tokenHasNoCode)
  let m : MintAccount ← orRevert (Record.ofData (L mint).data) (.custom .tokenNonConforming)
  require (m.conforming = true) (.custom .tokenNonConforming)
  revertIf (m.transferFeeExtension = true) (.custom .transferFeeExtensionForbidden)
  require (m.initialized = true) (.custom .tokenDecimalsUnavailable)
  pure m.decimals

/-! ## §2. Who is paid. -/

inductive PayoutLeg
  | platform
  | seller
  | agent

structure PayoutAuthorities where
  platformRecipient : Pubkey
  seller : Pubkey
  agent : Pubkey

def PayoutAuthorities.expected (a : PayoutAuthorities) : PayoutLeg → Pubkey
  | .platform => a.platformRecipient
  | .seller => a.seller
  | .agent => a.agent

def PayoutLeg.wrongRecipient : PayoutLeg → KargainError
  | .platform => .wrongPlatformRecipient
  | .seller => .wrongSellerRecipient
  | .agent => .wrongAgentRecipient

/-- `verify_payout_recipient`; both modes supply an account for every leg that is paid. -/
def verifyPayoutRecipient (leg : PayoutLeg) (amount : ℕ) (supplied : Pubkey)
    (authorities : PayoutAuthorities) : Except Error Unit :=
  revertIf (amount ≠ 0 ∧ supplied ≠ authorities.expected leg) (.custom leg.wrongRecipient)

theorem verifyPayoutRecipient_ok {leg : PayoutLeg} {amount : ℕ} {supplied : Pubkey}
    {authorities : PayoutAuthorities} {u : Unit} :
    verifyPayoutRecipient leg amount supplied authorities = .ok u ↔
      (amount ≠ 0 → supplied = authorities.expected leg) := by
  unfold verifyPayoutRecipient
  rw [revertIf_ok]
  simp only [ne_eq, not_and, not_not]

/-- The accounts handed in for the three legs. -/
structure Recipients where
  platform : Pubkey
  seller : Pubkey
  agent : Pubkey

def verifyRecipients (r : Recipients) (split : SplitResult) (authorities : PayoutAuthorities) :
    Except Error Unit := do
  verifyPayoutRecipient .platform split.platform r.platform authorities
  verifyPayoutRecipient .seller split.ownerAmount r.seller authorities
  verifyPayoutRecipient .agent split.agentAmount r.agent authorities

theorem verifyRecipients_ok {r : Recipients} {split : SplitResult} {authorities : PayoutAuthorities}
    {u : Unit} (h : verifyRecipients r split authorities = .ok u) :
    (split.platform ≠ 0 → r.platform = authorities.platformRecipient) ∧
      (split.ownerAmount ≠ 0 → r.seller = authorities.seller) ∧
      (split.agentAmount ≠ 0 → r.agent = authorities.agent) := by
  simp only [verifyRecipients, bind_ok, verifyPayoutRecipient_ok, exists_const] at h
  exact h

/-! ## §3. Claims. -/

def claimSpace : ℕ := 8 + 32 + 32 + 8 + 1

def splTokenAccountLen : ℕ := 165

/-- `ClaimAccount::credit`. -/
def ClaimAccount.credit (c : ClaimAccount) (add : ℕ) : Except Error ClaimAccount :=
  if add = 0 then .ok c
  else do
    require (c.amount + add ≤ u64Max) (.custom .arithmeticOverflow)
    pure { c with amount := c.amount + add }

section Claims

variable (P : Platform) (programId : Pubkey) (x : Call) (w : Exec)

/-- Create an account that has no data yet. -/
def ensurePda (payer account owner : Pubkey) (space : ℕ) (data : Data) : Except Error Exec :=
  if (w.ledger account).data = .empty then createPda P programId x w payer account owner space data
  else .ok w

/-- The first half of `ensure_claim`. -/
def ensureClaimRecord (payer claim mint recipient : Pubkey) : Except Error Exec :=
  if (w.ledger claim).data = .empty then do
    let w ← createPda P programId x w payer claim programId claimSpace (.claim default)
    w.store claim (⟨recipient, mint, 0⟩ : ClaimAccount)
  else .ok w

/-- The second half; the two modes call different programs to initialize the token account,
    and the called program must be among the accounts passed. -/
def ensureClaimAta (initProgram payer claim claimAta mint tokenProgram : Pubkey) :
    Except Error Exec :=
  if (w.ledger claimAta).data = .empty then do
    let w ← createPda P programId x w payer claimAta tokenProgram splTokenAccountLen
      (.token default)
    require (initProgram ∈ [claimAta, mint, tokenProgram]) .notEnoughAccountKeys
    invokeToken P programId x w initProgram [] (.initializeAccount3 claimAta mint claim)
  else .ok w

def ensureClaim (initProgram payer claim claimAta mint tokenProgram recipient : Pubkey) :
    Except Error Exec := do
  let w ← ensureClaimRecord P programId x w payer claim mint recipient
  ensureClaimAta P programId x w initProgram payer claim claimAta mint tokenProgram

/-- One leg of a settlement, out of the escrow's token account by its authority. -/
structure SplSource where
  escrowAta : Pubkey
  escrowAuth : Pubkey
  mint : Pubkey
  tokenProgram : Pubkey

/-- A transfer the escrow signs for. -/
def transferFromEscrow (src : SplSource) (destination : Pubkey) (amount : ℕ) :
    Except Error Exec := do
  let w ← invokeToken P programId x w src.tokenProgram [src.escrowAuth]
    (.transfer src.escrowAta destination src.escrowAuth amount)
  pure (w.record (.tokens src.escrowAta src.escrowAuth amount))

/-- Pull a payment into the escrow's token account, by the amount that arrives there.  The
    accounts are `buyer_ata · escrow_ata · mint · token_program`, from the `i`th on; only the
    mint is checked. -/
def pullSpl (W : AmountOffset) (i : ℕ) (asset buyer escrow : Pubkey) (amount : ℕ) :
    Except Error (Exec × SplSource) := do
  let buyerAta ← x.account i
  let escrowAta ← x.account (i + 1)
  let mint ← x.account (i + 2)
  let tokenProgram ← x.account (i + 3)
  require (mint = asset) .invalidAccountData
  let before ← splTokenAccountAmount W w.ledger escrowAta
  let w ← invokeToken P programId x w tokenProgram [] (.transfer buyerAta escrowAta buyer amount)
  let after ← splTokenAccountAmount W w.ledger escrowAta
  requireFullDelivery before after amount
  pure (w, ⟨escrowAta, escrow, mint, tokenProgram⟩)

/-- `pay_spl_leg_signed`. -/
def paySplLegSigned (initProgram payer : Pubkey) (src : SplSource)
    (recipientWallet recipientAta claim claimAta : Pubkey) (amount : ℕ) : Except Error Exec :=
  if amount = 0 then .ok w
  else do
    require (claim = .claim programId recipientWallet src.mint) .invalidSeeds
    require (claimAta = .claimAta programId recipientWallet src.mint) .invalidSeeds
    if classifySplReceiveReachability w.ledger
        (receivingAccount w.ledger recipientAta src.tokenProgram) src.mint src.tokenProgram = true
    then do
      revertIf ((w.ledger claim).data ≠ .empty ∧
        (Record.ofData (w.ledger claim).data : Option ClaimAccount) = none) .invalidAccountData
      transferFromEscrow P programId x w src recipientAta amount
    else do
      let w ← ensureClaim P programId x w initProgram payer claim claimAta src.mint
        src.tokenProgram recipientWallet
      let c : ClaimAccount ← load w.ledger claim
      let w ← transferFromEscrow P programId x w src claimAta amount
      let c ← c.credit amount
      w.store claim c

/-- A leg with its accounts `ata · claim · claim_ata`, from the `i`th on. -/
def paySplLegAt (initProgram payer : Pubkey) (src : SplSource) (i : ℕ) (recipient : Pubkey)
    (amount : ℕ) : Except Error Exec := do
  let ata ← x.account i
  let claim ← x.account (i + 1)
  let claimAta ← x.account (i + 2)
  paySplLegSigned P programId x w initProgram payer src recipient ata claim claimAta amount

/-- The legs in the order platform, seller, agent; the agent's accounts are read only when
    there is something to pay. -/
def paySplLegs (initProgram payer : Pubkey) (src : SplSource) (i : ℕ) (r : Recipients)
    (split : SplitResult) : Except Error Exec := do
  let w ← paySplLegAt P programId x w initProgram payer src i r.platform split.platform
  let w ← paySplLegAt P programId x w initProgram payer src (i + 3) r.seller split.ownerAmount
  if split.agentAmount = 0 then pure w
  else paySplLegAt P programId x w initProgram payer src (i + 6) r.agent split.agentAmount

def payNativeLegs (escrow : Pubkey) (r : Recipients) (split : SplitResult) : Except Error Exec := do
  let w ← payNativeFromPda w escrow r.platform split.platform
  let w ← payNativeFromPda w escrow r.seller split.ownerAmount
  payNativeFromPda w escrow r.agent split.agentAmount

/-- `withdraw_claim_ix`. -/
def withdrawSplClaim : Except Error Exec := do
  let recipient ← x.account 0
  let claim ← x.account 1
  let claimAta ← x.account 2
  let destAta ← x.account 3
  let mint ← x.account 4
  let tokenProgram ← x.account 5
  require (x.isSigner recipient) .missingRequiredSignature
  require (claim = .claim programId recipient mint) .invalidSeeds
  require (claimAta = .claimAta programId recipient mint) .invalidSeeds
  let c : ClaimAccount ← load w.ledger claim
  require (classifySplReceiveReachability w.ledger (some destAta) mint tokenProgram = true)
    (.custom .transferFailed)
  revertIf (c.amount = 0) (.custom .noClaim)
  let w ← invokeToken P programId x w tokenProgram [claim] (.transfer claimAta destAta claim c.amount)
  let w := w.record (.tokens claimAta claim c.amount)
  let w ← invokeToken P programId x w tokenProgram [claim] (.closeAccount claimAta recipient claim)
  pure (closePda w claim recipient)

end Claims

section Frames

variable {P : Platform} {p : Pubkey} {x : Call} {w w' : Exec}

theorem claim_not_book {r m : Pubkey} : ∀ s : Seed, s.isBook = true → Pubkey.pda p s ≠ .claim p r m := by
  intro s _ h
  cases h

theorem claimAta_not_book {r m : Pubkey} :
    ∀ s : Seed, s.isBook = true → Pubkey.pda p s ≠ .claimAta p r m := by
  intro s _ h
  cases h

theorem sameBooks_store {R : Type} [Record Data R] {k : Pubkey} {r : R}
    (hk : ∀ s : Seed, s.isBook = true → Pubkey.pda p s ≠ k)
    (h : w.store k r = (.ok w' : Except Error Exec)) : SameBooks p w.ledger w'.ledger := by
  obtain ⟨-, rfl⟩ := store_ok h
  exact sameBooks_setData hk

theorem sameBooks_closePda {k recipient : Pubkey}
    (hk : ∀ s : Seed, s.isBook = true → Pubkey.pda p s ≠ k) :
    SameBooks p w.ledger (closePda w k recipient).ledger := by
  intro s hs
  obtain ⟨ho, hd, -⟩ := @closed_frame w k recipient (.pda p s) (w.ledger k).lamports
    ((w.move k recipient (w.ledger k).lamports).ledger k).data.zeroed (hk s hs)
  exact ⟨ho, hd⟩

theorem sameBooks_ensureClaim {initProgram payer mint tokenProgram recipient : Pubkey}
    (h : ensureClaim P p x w initProgram payer (.claim p recipient mint)
      (.claimAta p recipient mint) mint tokenProgram recipient = .ok w') :
    SameBooks p w.ledger w'.ledger := by
  simp only [ensureClaim, ensureClaimRecord, ensureClaimAta, bind_ok] at h
  obtain ⟨w₁, h₁, h⟩ := h
  have hclaim : SameBooks p w.ledger w₁.ledger := by
    split at h₁
    · obtain ⟨w₂, h₂, hs⟩ := bind_ok.mp h₁
      exact (sameBooks_createPda claim_not_book h₂).trans (sameBooks_store claim_not_book hs)
    · obtain rfl : w = w₁ := Except.ok.inj h₁
      exact .refl
  refine hclaim.trans ?_
  split at h
  · simp only [bind_ok, require_ok, exists_const] at h
    obtain ⟨w₂, h₂, -, h₃⟩ := h
    exact (sameBooks_createPda claimAta_not_book h₂).trans (sameBooks_token h₃)
  · obtain rfl : w₁ = w' := Except.ok.inj h
    exact .refl

theorem sameBooks_transferFromEscrow {src : SplSource} {destination : Pubkey} {amount : ℕ}
    (h : transferFromEscrow P p x w src destination amount = .ok w') :
    SameBooks p w.ledger w'.ledger := by
  simp only [transferFromEscrow, bind_ok, pure_ok] at h
  obtain ⟨w₁, h₁, rfl⟩ := h
  have ht : SameBooks p w.ledger w₁.ledger := sameBooks_token h₁
  exact ht

theorem sameBooks_ensurePda {payer account owner : Pubkey} {space : ℕ} {d : Data}
    (hk : ∀ s : Seed, s.isBook = true → Pubkey.pda p s ≠ account)
    (h : ensurePda P p x w payer account owner space d = .ok w') :
    SameBooks p w.ledger w'.ledger := by
  unfold ensurePda at h
  split at h
  · exact sameBooks_createPda hk h
  · obtain rfl : w = w' := Except.ok.inj h
    exact .refl

/-- A record made ready to be written: what it held before does not matter any more. -/
theorem Books.ensureStore {R : Type} [Record Data R] {f : Pubkey → Data} {payer account : Pubkey}
    {space : ℕ} {d : Data} {r : R} {w₁ : Exec} (hb : Books p f w.ledger)
    (h : ensurePda P p x w payer account p space d = .ok w₁)
    (hw : w₁.store account r = (.ok w' : Except Error Exec)) :
    Books p (Function.update f account (Record.toData r)) w'.ledger := by
  unfold ensurePda at h
  split at h
  · have h₁ := (hb.createPda h).store hw
    rwa [Function.update_idem] at h₁
  · obtain rfl : w = w₁ := Except.ok.inj h
    exact hb.store hw

/-- Paying a leg leaves the books alone: claims are not kept under seeds. -/
theorem sameBooks_paySplLegSigned {initProgram payer : Pubkey} {src : SplSource}
    {recipientWallet recipientAta claim claimAta : Pubkey} {amount : ℕ}
    (h : paySplLegSigned P p x w initProgram payer src recipientWallet recipientAta claim claimAta
      amount = .ok w') : SameBooks p w.ledger w'.ledger := by
  unfold paySplLegSigned at h
  split at h
  · obtain rfl : w = w' := Except.ok.inj h
    exact .refl
  · simp only [bind_ok, require_ok, exists_const] at h
    obtain ⟨rfl, rfl, h⟩ := h
    split at h
    · obtain ⟨_, -, h⟩ := bind_ok.mp h
      exact sameBooks_transferFromEscrow h
    · simp only [bind_ok] at h
      obtain ⟨w₁, h₁, _, -, w₂, h₂, _, -, h₃⟩ := h
      exact ((sameBooks_ensureClaim h₁).trans (sameBooks_transferFromEscrow h₂)).trans
        (sameBooks_store claim_not_book h₃)

theorem sameBooks_paySplLegAt {initProgram payer recipient : Pubkey} {src : SplSource} {i amount : ℕ}
    (h : paySplLegAt P p x w initProgram payer src i recipient amount = .ok w') :
    SameBooks p w.ledger w'.ledger := by
  simp only [paySplLegAt, bind_ok] at h
  obtain ⟨_, -, _, -, _, -, h⟩ := h
  exact sameBooks_paySplLegSigned h

theorem sameBooks_paySplLegs {initProgram payer : Pubkey} {src : SplSource} {i : ℕ} {r : Recipients}
    {split : SplitResult}
    (h : paySplLegs P p x w initProgram payer src i r split = .ok w') :
    SameBooks p w.ledger w'.ledger := by
  simp only [paySplLegs, bind_ok] at h
  obtain ⟨w₁, h₁, w₂, h₂, h₃⟩ := h
  have h₁₂ := (sameBooks_paySplLegAt h₁).trans (sameBooks_paySplLegAt h₂)
  split at h₃
  · obtain rfl := pure_ok.mp h₃
    exact h₁₂
  · exact h₁₂.trans (sameBooks_paySplLegAt h₃)

theorem sameBooks_payNativeLegs {escrow : Pubkey} {r : Recipients} {split : SplitResult}
    (h : payNativeLegs w escrow r split = .ok w') : SameBooks p w.ledger w'.ledger := by
  simp only [payNativeLegs, bind_ok] at h
  obtain ⟨w₁, h₁, w₂, h₂, h₃⟩ := h
  exact ((sameBooks_payNativeFromPda h₁).trans (sameBooks_payNativeFromPda h₂)).trans
    (sameBooks_payNativeFromPda h₃)

/-- An accepted pull is a transfer the program handed in made, and what arrived is what was
    asked for. -/
theorem pullSpl_ok {W : AmountOffset} {i amount : ℕ} {asset buyer escrow : Pubkey} {src : SplSource}
    (h : pullSpl P p x w W i asset buyer escrow amount = .ok (w', src)) :
    ∃ buyerAta, x.keys[i]? = some buyerAta ∧ x.keys[i + 1]? = some src.escrowAta ∧
      x.keys[i + 2]? = some asset ∧ x.keys[i + 3]? = some src.tokenProgram ∧
      src.escrowAuth = escrow ∧ src.mint = asset ∧
      invokeToken P p x w src.tokenProgram [] (.transfer buyerAta src.escrowAta buyer amount) =
        .ok w' ∧
      ∃ before after, W.word (w.ledger src.escrowAta).data = some before ∧
        W.word (w'.ledger src.escrowAta).data = some after ∧ before + amount = after := by
  simp only [pullSpl, splTokenAccountAmount, requireFullDelivery, bind_ok, account_ok, require_ok,
    orRevert_ok, pure_ok, exists_const, Prod.mk.injEq] at h
  obtain ⟨buyerAta, hb, escrowAta, he, mint, hm, tokenProgram, ht, rfl, before, hbefore, w₁, hw,
    after, hafter, ⟨hle, hd⟩, rfl, rfl⟩ := h
  exact ⟨buyerAta, hb, he, hm, ht, rfl, rfl, hw, before, after, hbefore, hafter, by omega⟩

theorem sameBooks_pullSpl {W : AmountOffset} {i amount : ℕ} {asset buyer escrow : Pubkey}
    {src : SplSource} (h : pullSpl P p x w W i asset buyer escrow amount = .ok (w', src)) :
    SameBooks p w.ledger w'.ledger := by
  obtain ⟨_, -, -, -, -, -, -, hw, -⟩ := pullSpl_ok h
  exact sameBooks_token hw

theorem sameBooks_withdrawSplClaim (h : withdrawSplClaim P p x w = .ok w') :
    SameBooks p w.ledger w'.ledger := by
  simp only [withdrawSplClaim, bind_ok, require_ok, pure_ok, exists_const] at h
  obtain ⟨recipient, -, claim, -, claimAta, -, destAta, -, mint, -, tokenProgram, -, -, rfl, rfl,
    c, -, -, _, -, w₁, h₁, w₂, h₂, rfl⟩ := h
  have h₁' : SameBooks p w.ledger w₁.ledger := sameBooks_token h₁
  have h₂' := sameBooks_token h₂
  exact (h₁'.trans h₂').trans (sameBooks_closePda claim_not_book)

end Frames

/-! ## §4. Prices. -/

def publishAheadSkewSecs : ℤ := 60
def minFeedStaleness : ℕ := 60
def maxFeedStaleness : ℕ := 259200

def i64Max : ℤ := 2 ^ 63 - 1

/-- `read_price_update`: `now` is the clock's signed timestamp. -/
def readPriceUpdate (a : Account Pubkey Data) (expectedProgram : Pubkey) (expectedFeedId : ℕ)
    (now : ℤ) (stalenessTolerance maxConfBps : ℕ) : Except Error PriceUpdate := do
  require (a.owner = expectedProgram) (.custom .invalidFeed)
  let u : PriceUpdate ← orRevert (Record.ofData a.data) (.custom .invalidFeed)
  require (u.feedId = expectedFeedId) (.custom .invalidFeed)
  revertIf (u.price ≤ 0) (.custom .badOracleAnswer)
  revertIf (u.publishTime > min (now + publishAheadSkewSecs) i64Max) (.custom .badOracleAnswer)
  let age := if u.publishTime ≥ now then 0 else min (now - u.publishTime) i64Max
  revertIf (age > stalenessTolerance) (.custom .stalePrice)
  revertIf (u.conf * 10000 / u.price.natAbs > maxConfBps) (.custom .confidenceTooWide)
  pure u

/-- `10u128.checked_pow(n)`: `10 ^ 38 < 2 ^ 128 < 10 ^ 39`. -/
def checkedPow10 (n : ℕ) : Except Error ℕ := do
  require (n ≤ 38) (.custom .arithmeticOverflow)
  pure (10 ^ n)

/-- `u128::checked_mul`. -/
def checkedMul128 (a b : ℕ) : Except Error ℕ := do
  require (a * b < 2 ^ 128) (.custom .arithmeticOverflow)
  pure (a * b)

def priceToUsd1e8 (price expo : ℤ) : Except Error ℕ := do
  revertIf (price ≤ 0) (.custom .badOracleAnswer)
  require (8 + expo < 2 ^ 31) (.custom .arithmeticOverflow)
  if 0 ≤ 8 + expo then do
    let mul ← checkedPow10 (8 + expo).toNat
    checkedMul128 price.toNat mul
  else do
    let div ← checkedPow10 (-(8 + expo)).toNat
    pure (price.toNat / div)

def usd1e8ToAssetAmount (usd1e8 assetPrice1e8 assetDecimals : ℕ) : Except Error ℕ := do
  revertIf (assetPrice1e8 = 0) (.custom .badOracleAnswer)
  let scale ← checkedPow10 assetDecimals
  let num ← checkedMul128 usd1e8 scale
  require (num / assetPrice1e8 ≤ u64Max) (.custom .arithmeticOverflow)
  pure (num / assetPrice1e8)

def fiatUsd1e8ToTokenAmount (fiatPrice1e8 : ℕ) (reading : PriceUpdate) (tokenDecimals : ℕ) :
    Except Error ℕ := do
  let feed ← priceToUsd1e8 reading.price reading.expo
  usd1e8ToAssetAmount fiatPrice1e8 feed tokenDecimals

end Kargain.Svm
