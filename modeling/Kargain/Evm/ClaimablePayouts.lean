/-
  Kargain.Evm.ClaimablePayouts — one payout primitive for ether and tokens.

  ClaimablePayouts.sol: attempt the transfer, and where it fails credit a
  claim the recipient withdraws.  `r` is what the callee does; while it
  holds control it may send messages in (`Reply.reenter`), and a callee
  that fails takes everything it did with it.
-/
import Kargain.Evm.World

namespace Kargain.Evm

variable {P σ : Type}

/-! ## §1. Moving ether and tokens out. -/

def Account.setClaim (a : Account) (account asset : Address) (n : ℕ) : Account :=
  { a with
    pendingClaims := Function.update a.pendingClaims account
      (Function.update (a.pendingClaims account) asset n) }

def Account.record (a : Account) (p : Payout) : Account :=
  { a with payouts := p :: a.payouts }

def Account.setToken (a : Account) (token : Address) (n : ℕ) : Account :=
  { a with tokenBalance := Function.update a.tokenBalance token n }

def World.setAcct (w : World P σ) (a : Account) : World P σ := { w with acct := a }

/-- `to.call{value: amount}("")`.  The call fails without enough balance and where the
    callee refuses it; the mode's own `receive` refuses every plain transfer. -/
def callValue (w : World P σ) (dst : Address) (amount : ℕ) (r : Reply P σ) :
    Bool × World P σ :=
  if amount ≤ w.acct.balance ∧ dst ≠ .self ∧ r.success = true then
    (true, r.reenter (w.setAcct
      ({ w.acct with balance := w.acct.balance - amount }.record
        ⟨.zero, dst, amount, w.acct.balance, true⟩)))
  else
    (false, w.setAcct (w.acct.record ⟨.zero, dst, amount, w.acct.balance, false⟩))

/-- `abi.decode(data, (bool))` on one word. -/
def abiDecodeBool (word : ℕ) : Except Error Bool :=
  if word = 0 then .ok false else if word = 1 then .ok true else .error .abiDecode

/-- The tail of `_tryErc20Transfer`: empty data is success, 32 bytes are a boolean, any
    other length is failure. -/
def transferSucceeded (d : ReturnData) : Except Error Bool :=
  if d.length = 0 then .ok true
  else if d.length ≠ 32 then .ok false
  else abiDecodeBool d.word

/-- The mode's balance after `exact` moved `amount` from it to `dst`. -/
def exactAfter (balance amount : ℕ) (dst : Address) : ℕ :=
  if dst = .self then balance else balance - amount

/-- `_tryErc20Transfer(token, to, amount)`. -/
def tryErc20Transfer (w : World P σ) (token dst : Address) (amount : ℕ) (r : Reply P σ) :
    Except Error (Bool × World P σ) :=
  let available := w.acct.tokenBalance token
  match w.env.tokenKind token with
  | .exact =>
    if amount ≤ available ∧ r.success = true then
      .ok (true, r.reenter (w.setAcct
        ((w.acct.setToken token (exactAfter available amount dst)).record
          ⟨token, dst, amount, available, true⟩)))
    else
      .ok (false, w.setAcct (w.acct.record ⟨token, dst, amount, available, false⟩))
  | .other =>
    if r.success = true then do
      let ok ← transferSucceeded r.data
      pure (ok, r.reenter (w.setAcct
        ((w.acct.setToken token r.balanceAfter).record ⟨token, dst, amount, available, ok⟩)))
    else
      .ok (false, w.setAcct (w.acct.record ⟨token, dst, amount, available, false⟩))

/-- `token.safeTransferFrom(sender, address(this), amount)` with the balance measured
    around it: a revert unless exactly `amount` arrived. -/
def pullErc20 (w : World P σ) (token : Address) (amount : ℕ) (r : Reply P σ) :
    Except Error (World P σ) := do
  let balanceBefore := w.acct.tokenBalance token
  require (r.success = true) .erc20Failed
  let after ← (match w.env.tokenKind token with
    | .exact => pure (balanceBefore + amount)
    | .other => do
      require (r.data.length = 0 ∨ r.data.word = 1) .erc20Failed
      pure r.balanceAfter)
  let w' := r.reenter (w.setAcct (w.acct.setToken token after))
  let delivered ← checkedSub (w'.acct.tokenBalance token) balanceBefore
  revertIf (delivered ≠ amount) .shortDelivery
  pure w'

/-! ## §2. Claims. -/

/-- `_creditClaim`. -/
def creditClaim (w : World P σ) (sender account asset : Address) (amount : ℕ) :
    Except Error (World P σ) := do
  let claim ← checkedAdd (w.acct.pendingClaims account asset) amount
  let acct := w.acct.setClaim account asset claim
  if asset = .zero then
    let total ← checkedAdd acct.totalPendingNative amount
    pure ((w.setAcct { acct with totalPendingNative := total }).emit sender
      (.claimRecorded account asset amount))
  else
    let total ← checkedAdd (acct.totalPendingErc20 asset) amount
    pure ((w.setAcct { acct with
        totalPendingErc20 := Function.update acct.totalPendingErc20 asset total }).emit sender
      (.claimRecorded account asset amount))

/-- `_payNative`. -/
def payNative (w : World P σ) (sender dst : Address) (amount : ℕ) (r : Reply P σ) :
    Except Error (World P σ) :=
  if amount = 0 then .ok w
  else
    let (ok, w') := callValue w dst amount r
    if ok then .ok w' else creditClaim w' sender dst .zero amount

/-- `_payErc20`. -/
def payErc20 (w : World P σ) (sender token dst : Address) (amount : ℕ) (r : Reply P σ) :
    Except Error (World P σ) :=
  if amount = 0 then .ok w
  else do
    let (ok, w') ← tryErc20Transfer w token dst amount r
    if ok then pure w' else creditClaim w' sender dst token amount

/-- `asset == address(0) ? _payNative(to, amount) : _payErc20(asset, to, amount)`, as the
    callers write it. -/
def payOut (w : World P σ) (sender asset dst : Address) (amount : ℕ) (r : Reply P σ) :
    Except Error (World P σ) :=
  if asset = .zero then payNative w sender dst amount r
  else payErc20 w sender asset dst amount r

/-- `_withdrawClaim`. -/
def withdrawClaimBody (w : World P σ) (sender asset : Address) (r : Reply P σ) :
    Except Error (World P σ) := do
  let amount := w.acct.pendingClaims sender asset
  revertIf (amount = 0) .noClaim
  let acct := w.acct.setClaim sender asset 0
  let acct ← (if asset = .zero then do
      let total ← checkedSub acct.totalPendingNative amount
      pure { acct with totalPendingNative := total }
    else do
      let total ← checkedSub (acct.totalPendingErc20 asset) amount
      pure { acct with
        totalPendingErc20 := Function.update acct.totalPendingErc20 asset total })
  let w := w.setAcct acct
  let (ok, w') ← (if asset = .zero then pure (callValue w sender amount r)
    else tryErc20Transfer w asset sender amount r)
  require (ok = true) .transferFailed
  pure (w'.emit sender (.claimWithdrawn sender asset amount))

end Kargain.Evm
