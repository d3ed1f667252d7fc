/-
  Kargain.Storage.DepositFate — what becomes of a pending deposit record.

  A transfer that was recorded has one fate in the end.  A later call of
  `ensureIrysDeposit` finds the record and asks the chain again: the
  funding port on Solana, `confirmEvmTransactionConfirmations` of
  lib/web3/evm-tx-confirm.ts elsewhere.  The chain, the bundler and the
  browser answer here, and each does what it should.

  Main result: `resolved_iff`, for which fates the calls get rid of the
  record.
-/
import Kargain.Storage.IrysDeposit

namespace Kargain.Storage.DepositFate

open Kargain Dialogue

/-! ## §1. `confirmEvmTransactionConfirmations`. -/

inductive ReplacementReason
  | cancelled
  | repriced
  | replaced
deriving DecidableEq

/-- What viem gives to `onReplaced`. -/
structure Replacement where
  reason : ReplacementReason
  hash : TxId
  transactionTo : Option String

/-- A receipt: the source of a deposit reads nothing of it. -/
structure Receipt where
  transactionHash : TxId
  reverted : Bool

inductive WaitError
  | timeout
  | other (message : String)

/-- What `waitForTransactionReceipt` does: its calls of `onReplaced`, and how it ends. -/
structure ReceiptWait where
  replacements : List Replacement
  result : Except WaitError Receipt

/-- The variables `onReplaced` writes. -/
structure Seen where
  finalHash : TxId
  cancelled : Bool
  divertedReplacement : Option TxId

def onReplaced (isAddressEqual : String → String → Bool) (expectedTo : String) (seen : Seen)
    (r : Replacement) : Seen :=
  match r.reason with
  | .cancelled => { seen with cancelled := true }
  | .repriced => { seen with finalHash := r.hash }
  | .replaced =>
    if (r.transactionTo.map (isAddressEqual · expectedTo)).getD false then { seen with finalHash := r.hash }
    else { seen with divertedReplacement := some r.hash }

def confirmEvmTransactionConfirmations (isAddressEqual : String → String → Bool) (hash : TxId)
    (expectedTo : String) (wait : ReceiptWait) : Except Thrown EvmDepositConfirmOutcome :=
  let seen := wait.replacements.foldl (onReplaced isAddressEqual expectedTo) ⟨hash, false, none⟩
  match wait.result with
  | .error .timeout => .ok .timeout
  | .error (.other message) => .error (.error message)
  | .ok _ =>
    if seen.cancelled then .ok .cancelled
    else
      match seen.divertedReplacement with
      | some replacement => .ok (.diverted replacement)
      | none => .ok (.confirmed seen.finalHash)

/-! ## §2. Fates. -/

/-- What became of the transfer: it landed under the hash recorded, and paid or failed; or it never
    lands under that hash, being cancelled, replaced by another, or dropped. -/
inductive Fate
  | paid
  | failed
  | cancelled
  | replaced
  | dropped
deriving DecidableEq

/-- A wait that did not see the original reports no replacement and times out. -/
def Fate.receiptWait (hash : TxId) : Fate → ReceiptWait
  | .paid => ⟨[], .ok ⟨hash, false⟩⟩
  | .failed => ⟨[], .ok ⟨hash, true⟩⟩
  | .cancelled | .replaced | .dropped => ⟨[], .error .timeout⟩

/-- The funding port, of a signature whose fate is visible: what is not in the chain by the end of
    its lifetime has expired, and so, it says, has what the node has forgotten. -/
def Fate.svmOutcome (forgotten : Bool) : Fate → SvmConfirmOutcome
  | .paid => if forgotten then .expired else .landedOk
  | .failed => if forgotten then .expired else .landedWithError
  | .cancelled | .replaced | .dropped => .expired

theorem confirm_resumed (isAddressEqual : String → String → Bool) (hash : TxId) (expectedTo : String)
    (fate : Fate) :
    confirmEvmTransactionConfirmations isAddressEqual hash expectedTo (fate.receiptWait hash) =
      .ok (if fate = .paid ∨ fate = .failed then .confirmed hash else .timeout) := by
  cases fate <;> rfl

/-! ## §3. A later call. -/

/-- An amount as it is answered, and what the source reads of it. -/
structure Amount where
  text : String
  value : ℤ
  reads : parseAtomicAmount text = .ok value

/-- One call: what it is asked, and what is answered.  The bundler answers no real payment with a
    class of its own. -/
structure Call where
  args : EnsureArgs
  price : Amount
  balance : Amount
  /-- the balance once the deposit is credited -/
  after : Amount
  /-- a Solana node no longer has the status of the signature -/
  forgotten : Bool
  rejection : IrysBundlerDepositPostClass
  rejects : rejection ≠ .accepted

/-- The browser's storage, and whether the bundler has credited the transfer. -/
structure World where
  store : String → Option Stored
  credited : Bool

def World.set (w : World) (key : String) (value : Option Stored) : World :=
  { w with store := fun k => if k = key then value else w.store k }

section Calls

variable (lib : Libraries) (isAddressEqual : String → String → Bool) (bundlerAddress : String)
  (transfer : TxId) (fate : Fate)

/-- Every request is answered; what a call with a record does not ask for is refused. -/
def reply (c : Call) (w : World) : (q : Request) → Reply q × World
  | .getPrice _ => (.ok c.price.text, w)
  | .getBalance => (.ok (if w.credited then c.after.text else c.balance.text), w)
  | .getBundlerAddress _ => (.ok bundlerAddress, w)
  | .getItem key => (.ok (w.store key), w)
  | .setItem key value => (.ok (), w.set key (some value))
  | .removeItem key => (.ok (), w.set key none)
  | .dateNow => ((0 : ℕ), w)
  | .confirmSvmFunding _ _ => (.ok (fate.svmOutcome c.forgotten), w)
  | .waitEvmConfirmations txHash _ expectedTo _ =>
    (confirmEvmTransactionConfirmations isAddressEqual txHash expectedTo
      (fate.receiptWait txHash), w)
  | .postBundlerDeposit _ _ txId =>
    if fate = .paid ∧ txId = transfer then (.ok .accepted, { w with credited := true })
    else (.ok c.rejection, w)
  | .fetchBlockhash => (.error (.error "not asked"), w)
  | .signAndSendTransaction _ _ _ _ _ => (⟨.error (.error "not asked"), none⟩, w)
  | .switchChain _ => (.error (.error "not asked"), w)
  | .readEvmAccountKind _ _ => (.error (.error "not asked"), w)
  | .sendEvmTransaction _ _ _ => (⟨.error (.error "not asked"), none⟩, w)

/-- The key a call files its record under. -/
def Call.key (c : Call) (payer : String) : String :=
  irysDepositRecordKey c.args.stack.ns payer bundlerAddress

/-- A call of the payer of the record, set up as the one that wrote it. -/
structure Call.Resumes (c : Call) (vm : Vm) (payer key : String) : Prop where
  account : (∃ chainId, c.args.account = .evm payer chainId) ∨ c.args.account = .svm payer
  key : c.key bundlerAddress payer = key
  chain : c.args.stack.vm = vm
  minConfirm : vm = .evm → (readIrysEvmMinConfirm c.args).isSome
  address : vm = .evm → lib.isAddress bundlerAddress = true
  port : vm = .evm → c.args.ports.waitEvmConfirmations = true

/-- `record` is filed under `key`, and no deposit of it is credited yet. -/
structure World.Pending (w : World) (vm : Vm) (key : String) (record : IrysDepositRecord) : Prop where
  stored : readRecord lib vm (w.store key) = .record record
  uncredited : w.credited = false

/-- What the call leaves of the world. -/
def afterCall (c : Call) (w : World) : World :=
  (evalT (reply isAddressEqual bundlerAddress transfer fate c) (ensureIrysDeposit lib c.args) w).2

end Calls

/-! ## §4. What a call does. -/

section Steps

variable {lib : Libraries} {isAddressEqual : String → String → Bool} {bundlerAddress : String}
  {transfer : TxId} {fate : Fate} {c : Call} {w : World}

/-- An amount is asked and read. -/
theorem eval_amount {β : Type} {x : Async String} {a : Amount} {f : ℤ → Async β} {u : World}
    (hx : evalT (reply isAddressEqual bundlerAddress transfer fate c) x w = (.ok a.text, u)) :
    evalT (reply isAddressEqual bundlerAddress transfer fate c)
        (x >>= fun t => ExceptT.mk (pure (parseAtomicAmount t)) >>= f) w =
      evalT (reply isAddressEqual bundlerAddress transfer fate c) (f a.value) u := by
  rw [evalT_bind_ok _ hx]
  have hread : evalT (reply isAddressEqual bundlerAddress transfer fate c)
      (ExceptT.mk (pure (parseAtomicAmount a.text)) : Async ℤ) u = (.ok a.value, u) := by
    rw [evalT_mk, a.reads]
  exact evalT_bind_ok _ hread

theorem eval_getBalance (hw : w.credited = false) :
    evalT (reply isAddressEqual bundlerAddress transfer fate c) getBalance w =
      (.ok c.balance.text, w) := by
  show (Except.ok (if w.credited = true then c.after.text else c.balance.text), w) = _
  rw [hw]
  rfl

theorem eval_clear (key : String) :
    evalT (reply isAddressEqual bundlerAddress transfer fate c) (clearIrysDepositRecord key) w =
      (.ok (), w.set key none) := rfl

/-- The post of a real payment is accepted, and the record cleared. -/
theorem eval_postDeposit_paid (key : String) (price : ℤ) (hpaid : fate = .paid) :
    (evalT (reply isAddressEqual bundlerAddress transfer fate c)
        (postDeposit c.args key price transfer) w).2 =
      ({ w with credited := true } : World).set key none := by
  have hpost : evalT (reply isAddressEqual bundlerAddress transfer fate c)
      (postBundlerDeposit (trimSlash c.args.bundlerUrl) c.args.paymentToken transfer) w =
        (.ok .accepted, { w with credited := true }) := by
    exact if_pos ⟨hpaid, rfl⟩
  unfold postDeposit
  rw [evalT_bind_ok _ hpost]
  dsimp only
  rw [evalT_bind_ok _ (eval_clear key)]
  have hafter : evalT (reply isAddressEqual bundlerAddress transfer fate c) getBalance
      (({ w with credited := true } : World).set key none) =
        (.ok c.after.text, ({ w with credited := true } : World).set key none) := rfl
  rw [eval_amount hafter]
  split <;> rfl

/-- The post of no real payment leaves the world as it is. -/
theorem eval_postDeposit_unpaid (key : String) (price : ℤ) (hpaid : fate ≠ .paid) (txId : TxId) :
    (evalT (reply isAddressEqual bundlerAddress transfer fate c)
        (postDeposit c.args key price txId) w).2 = w := by
  have hpost : evalT (reply isAddressEqual bundlerAddress transfer fate c)
      (postBundlerDeposit (trimSlash c.args.bundlerUrl) c.args.paymentToken txId) w =
        (.ok c.rejection, w) := by
    exact if_neg (fun h => hpaid h.1)
  unfold postDeposit
  rw [evalT_bind_ok _ hpost]
  cases hr : c.rejection with
  | accepted => exact absurd hr c.rejects
  | notSeenYet => rfl
  | bundlerUnavailable => rfl

theorem eval_resolveSvm (key : String) (price : ℤ) (lastValid amount : String) (createdAt : ℕ) :
    (evalT (reply isAddressEqual bundlerAddress transfer fate c)
        (resolveSvm c.args key price (.svm transfer lastValid amount createdAt)) w).2 =
      (if fate = .paid ∧ c.forgotten = false then ({ w with credited := true } : World).set key none
        else w.set key none) := by
  have hconfirm : evalT (reply isAddressEqual bundlerAddress transfer fate c)
      (confirmSvmFunding transfer (digitsValue lastValid.toList)) w =
        (.ok (fate.svmOutcome c.forgotten), w) := rfl
  unfold resolveSvm
  rw [evalT_bind_ok _ hconfirm]
  cases hf : c.forgotten with
  | true =>
    rw [if_neg (fun h => by cases h.2)]
    cases fate <;> rfl
  | false =>
    cases hfate : fate with
    | paid =>
      subst hfate
      rw [if_pos ⟨rfl, rfl⟩]
      exact eval_postDeposit_paid key price rfl
    | failed => rfl
    | cancelled => rfl
    | replaced => rfl
    | dropped => rfl

/-- Elsewhere a record is cleared only by a payment. -/
theorem eval_resolveEvm (key : String) (price : ℤ) (amount : String) (createdAt : ℕ)
    (hmin : (readIrysEvmMinConfirm c.args).isSome) (haddr : lib.isAddress bundlerAddress = true)
    (hport : c.args.ports.waitEvmConfirmations = true) :
    (evalT (reply isAddressEqual bundlerAddress transfer fate c)
        (resolveEvm lib c.args key price bundlerAddress (.evm transfer amount createdAt)) w).2 =
      (if fate = .paid then ({ w with credited := true } : World).set key none else w) := by
  obtain ⟨minConfirm, hmin⟩ := Option.isSome_iff_exists.mp hmin
  have hwait : evalT (reply isAddressEqual bundlerAddress transfer fate c)
      (waitConfirmed c.args transfer minConfirm (lib.getAddress bundlerAddress)) w =
        (.ok (.ok (if fate = .paid ∨ fate = .failed then .confirmed transfer else .timeout)), w) := by
    unfold waitConfirmed
    apply evalT_tryCatch_ok
    have hask : evalT (reply isAddressEqual bundlerAddress transfer fate c)
        (waitEvmConfirmations transfer minConfirm (lib.getAddress bundlerAddress) c.args.stack.ns) w =
          (.ok (if fate = .paid ∨ fate = .failed then .confirmed transfer else .timeout), w) := by
      show (confirmEvmTransactionConfirmations isAddressEqual transfer _ (fate.receiptWait transfer),
        w) = _
      rw [confirm_resumed]
    rw [evalT_bind_ok _ hask]
    rfl
  unfold resolveEvm
  rw [hmin]
  dsimp only
  rw [haddr, hport]
  simp only [Bool.not_true, Bool.false_eq_true, if_false]
  rw [evalT_bind_ok _ hwait]
  cases hf : fate with
  | paid =>
    subst hf
    show (evalT _ (followHash c.args key price transfer amount createdAt transfer) w).2 = _
    unfold followHash
    rw [if_neg (fun h => h rfl), if_pos rfl]
    exact eval_postDeposit_paid key price rfl
  | failed =>
    subst hf
    show (evalT _ (followHash c.args key price transfer amount createdAt transfer) w).2 = _
    unfold followHash
    rw [if_neg (fun h => h rfl), if_neg (by decide)]
    exact eval_postDeposit_unpaid key price (by decide) transfer
  | cancelled => rfl
  | replaced => rfl
  | dropped => rfl

def recordVm : IrysDepositRecord → Vm
  | .evm _ _ _ => .evm
  | .svm _ _ _ _ => .svm

theorem parseRecord_chain {f : Fields} {vm : Vm} {record : IrysDepositRecord}
    (h : parseRecordForVm lib f vm = some record) : recordVm record = vm := by
  unfold parseRecordForVm at h
  simp only [Option.bind_eq_bind, Option.bind_eq_some_iff] at h
  obtain ⟨amount, -, createdAt, -, h⟩ := h
  by_cases hvm : f.vm ≠ some vm.text
  · rw [if_pos hvm] at h
    cases h
  · rw [if_neg hvm] at h
    cases vm with
    | evm =>
      obtain ⟨txHash, -, h⟩ := Option.bind_eq_some_iff.mp h
      split at h
      · cases h
      · injection h with heq
        rw [← heq]
        rfl
    | svm =>
      obtain ⟨signature, -, h⟩ := Option.bind_eq_some_iff.mp h
      split at h
      · cases h
      · obtain ⟨lastValid, -, h⟩ := Option.bind_eq_some_iff.mp h
        split at h
        · cases h
        · injection h with heq
          rw [← heq]
          rfl

/-- A record read is of the chain it was read for. -/
theorem readRecord_chain {vm : Vm} {stored : Option Stored} {record : IrysDepositRecord}
    (h : readRecord lib vm stored = .record record) : recordVm record = vm := by
  cases stored with
  | none => cases h
  | some stored =>
    cases stored with
    | unparseable text => cases h
    | fields f =>
      cases hparse : parseRecordForVm lib f vm with
      | none =>
        simp only [readRecord, hparse] at h
        cases h
      | some r =>
        simp only [readRecord, hparse] at h
        injection h with heq
        rw [← heq]
        exact parseRecord_chain hparse

/-- **What a resumed call leaves**: the record cleared where the balance is enough, and otherwise
    what resolving the record leaves. -/
theorem ensureFor_eval {vm : Vm} {key payer : String} {record : IrysDepositRecord}
    (hc : c.Resumes lib bundlerAddress vm payer key) (hw : w.Pending lib vm key record) :
    (evalT (reply isAddressEqual bundlerAddress transfer fate c) (ensureFor lib c.args payer) w).2 =
      if c.balance.value ≥ c.price.value then w.set key none
      else (evalT (reply isAddressEqual bundlerAddress transfer fate c)
        (resolveOpenRecord lib c.args record key c.price.value bundlerAddress) w).2 := by
  have hprice : evalT (reply isAddressEqual bundlerAddress transfer fate c)
      (getPrice (lib.estimateIrysUploadBytes c.args.totalBytes)) w = (.ok c.price.text, w) := rfl
  have haddress : evalT (reply isAddressEqual bundlerAddress transfer fate c)
      (getBundlerAddress c.args.paymentToken) w = (.ok bundlerAddress, w) := rfl
  have hkey : irysDepositRecordKey c.args.stack.ns payer bundlerAddress = key := hc.key
  unfold ensureFor
  rw [eval_amount hprice, eval_amount (eval_getBalance hw.uncredited), evalT_bind_ok _ haddress]
  dsimp only
  rw [hkey]
  by_cases hge : c.balance.value ≥ c.price.value
  · rw [if_pos hge, if_pos hge, evalT_bind_ok _ (eval_clear key)]
    rfl
  · rw [if_neg hge, if_neg hge]
    have hread : evalT (reply isAddressEqual bundlerAddress transfer fate c)
        (readIrysDepositRecord lib key c.args.stack.vm) w = (.ok (.record record), w) := by
      unfold readIrysDepositRecord
      apply evalT_tryCatch_ok
      have hget : evalT (reply isAddressEqual bundlerAddress transfer fate c) (getItem key) w =
          (.ok (w.store key), w) := rfl
      rw [evalT_bind_ok _ hget, hc.chain, hw.stored]
      rfl
    rw [evalT_bind_ok _ hread]

theorem afterCall_eq {vm : Vm} {key payer : String} {record : IrysDepositRecord}
    (hc : c.Resumes lib bundlerAddress vm payer key) (hw : w.Pending lib vm key record)
    (htx : recordTxId record = transfer) :
    afterCall lib isAddressEqual bundlerAddress transfer fate c w =
      if c.balance.value ≥ c.price.value then w.set key none
      else if vm = .svm then
        if fate = .paid ∧ c.forgotten = false then
          ({ w with credited := true } : World).set key none
        else w.set key none
      else if fate = .paid then ({ w with credited := true } : World).set key none
      else w := by
  have hensure : afterCall lib isAddressEqual bundlerAddress transfer fate c w =
      (evalT (reply isAddressEqual bundlerAddress transfer fate c)
        (ensureFor lib c.args payer) w).2 := by
    unfold afterCall ensureIrysDeposit
    rcases hc.account with ⟨chainId, hacc⟩ | hacc
    · rw [hacc]
    · rw [hacc]
  rw [hensure, ensureFor_eval hc hw]
  by_cases hge : c.balance.value ≥ c.price.value
  · rw [if_pos hge, if_pos hge]
  · rw [if_neg hge, if_neg hge]
    have hchain := readRecord_chain hw.stored
    unfold resolveOpenRecord
    rw [eval_amount (eval_getBalance hw.uncredited), if_neg hge, hc.chain]
    subst htx
    cases record with
    | svm signature lastValid amount createdAt =>
      have hvm : vm = .svm := hchain.symm
      subst hvm
      rw [if_pos (rfl : Vm.svm = Vm.svm)]
      exact eval_resolveSvm key c.price.value lastValid amount createdAt
    | evm txHash amount createdAt =>
      have hvm : vm = .evm := hchain.symm
      subst hvm
      rw [if_neg (by decide : ¬ Vm.evm = Vm.svm)]
      exact eval_resolveEvm key c.price.value amount createdAt (hc.minConfirm rfl)
        (hc.address rfl) (hc.port rfl)

end Steps

/-! ## §5. Getting rid of the record. -/

section Runs

variable (lib : Libraries) (isAddressEqual : String → String → Bool) (bundlerAddress : String)
  (transfer : TxId) (fate : Fate)

/-- The deposit is credited, or there is no record. -/
def World.Resolved (w : World) (key : String) : Prop := w.credited = true ∨ w.store key = none

/-- The calls made one after another, up to the first that resolves the record. -/
def resumedCalls (key : String) : List Call → World → World
  | [], w => w
  | c :: cs, w =>
    let w' := afterCall lib isAddressEqual bundlerAddress transfer fate c w
    if w'.credited = true ∨ w'.store key = none then w' else resumedCalls key cs w'

variable {lib isAddressEqual bundlerAddress transfer fate}

/-- **One call**: it resolves the record, or leaves everything as it was. -/
theorem afterCall_resolved {c : Call} {w : World} {vm : Vm} {key payer : String}
    {record : IrysDepositRecord} (hc : c.Resumes lib bundlerAddress vm payer key)
    (hw : w.Pending lib vm key record) (htx : recordTxId record = transfer) :
    if c.balance.value ≥ c.price.value ∨ vm = .svm ∨ fate = .paid then
      (afterCall lib isAddressEqual bundlerAddress transfer fate c w).store key = none
    else afterCall lib isAddressEqual bundlerAddress transfer fate c w = w := by
  rw [afterCall_eq hc hw htx]
  by_cases hge : c.balance.value ≥ c.price.value
  · simp [hge, World.set]
  · by_cases hvm : vm = .svm
    · simp only [hge, hvm, if_false, if_true, true_or, or_true]
      split <;> simp [World.set]
    · by_cases hpaid : fate = .paid
      · simp [hge, hpaid, hvm, World.set]
      · simp [hge, hpaid, hvm]

theorem pending_unresolved {w : World} {vm : Vm} {key : String} {record : IrysDepositRecord}
    (hw : w.Pending lib vm key record) : ¬ w.Resolved key := by
  rintro (hcredited | hnone)
  · rw [hw.uncredited] at hcredited
    cases hcredited
  · have hstored := hw.stored
    rw [hnone] at hstored
    cases hstored

/-- **When the calls get rid of a record**, whatever its transfer's fate: if the balance is enough
    at one of them, or there is one and the record is of Solana or was paid as it says.  Any other
    record stays, and every one of them refuses. -/
theorem resolved_iff (calls : List Call) (w : World) (vm : Vm) (key payer : String)
    (record : IrysDepositRecord) (hcalls : ∀ c ∈ calls, c.Resumes lib bundlerAddress vm payer key)
    (hw : w.Pending lib vm key record) (htx : recordTxId record = transfer) :
    (resumedCalls lib isAddressEqual bundlerAddress transfer fate key calls w).Resolved key ↔
      ∃ c ∈ calls, c.balance.value ≥ c.price.value ∨ vm = .svm ∨ fate = .paid := by
  induction calls with
  | nil =>
    constructor
    · intro h
      exact absurd h (pending_unresolved hw)
    · rintro ⟨c, hc, -⟩
      cases hc
  | cons c cs ih =>
    have hstep : if c.balance.value ≥ c.price.value ∨ vm = .svm ∨ fate = .paid then
        (afterCall lib isAddressEqual bundlerAddress transfer fate c w).store key = none
      else afterCall lib isAddressEqual bundlerAddress transfer fate c w = w :=
      afterCall_resolved (hcalls c (by simp)) hw htx
    have ih := ih (fun d hd => hcalls d (by simp [hd]))
    rw [resumedCalls]
    by_cases hcond : c.balance.value ≥ c.price.value ∨ vm = .svm ∨ fate = .paid
    · rw [if_pos hcond] at hstep
      simp only [hstep, or_true, if_true]
      exact ⟨fun _ => ⟨c, by simp, hcond⟩, fun _ => Or.inr hstep⟩
    · rw [if_neg hcond] at hstep
      simp only [hstep]
      have hnot : ¬ (w.credited = true ∨ w.store key = none) := pending_unresolved hw
      rw [if_neg hnot, ih]
      constructor
      · rintro ⟨d, hd, hgood⟩
        exact ⟨d, by simp [hd], hgood⟩
      · rintro ⟨d, hd, hgood⟩
        rcases List.mem_cons.mp hd with rfl | hd
        · exact absurd hgood hcond
        · exact ⟨d, hd, hgood⟩

end Runs

/-! ## §6. A cancelled transfer. -/

def bareLibraries : Libraries where
  isAddress _ := true
  getAddress a := a
  isHash _ := true
  isSolanaAddress _ := true
  isBlockhash _ := true
  base58Encode _ := none
  base58Decode _ := ""
  estimateIrysUploadBytes n := n
  commercialActive _ := none
  isWriteUnion _ := true

def zero : Amount := ⟨"0", 0, rfl⟩
def ten : Amount := ⟨"10", 10, rfl⟩

/-- The price is ten, and nothing is credited. -/
def laterCall : Call where
  args := ⟨⟨8453, .evm, none⟩, .evm "0xa" 8453, some 5, 100, "base-eth", "https://b",
    ⟨false, true, true, true⟩⟩
  price := ten
  balance := zero
  after := ten
  forgotten := false
  rejection := .notSeenYet
  rejects := by decide

def pendingKey : String := irysDepositRecordKey 8453 "0xa" "0xb"

def pendingRecord : IrysDepositRecord := .evm "0x1" "11" 1

def pendingWorld : World where
  store k := if k = pendingKey then some pendingRecord.stringify else none
  credited := false

theorem laterCall_resumes :
    ∀ c ∈ [laterCall], c.Resumes bareLibraries "0xb" .evm "0xa" pendingKey := by
  intro c hc
  rw [List.mem_singleton.mp hc]
  exact ⟨Or.inl ⟨8453, rfl⟩, rfl, rfl, fun _ => rfl, fun _ => rfl, fun _ => rfl⟩

theorem pendingWorld_pending :
    pendingWorld.Pending bareLibraries .evm pendingKey pendingRecord where
  stored := by
    have hstore : pendingWorld.store pendingKey = some pendingRecord.stringify := by
      simp [pendingWorld]
    rw [hstore]
    rfl
  uncredited := rfl

/-- The record of a cancelled transfer stays. -/
theorem cancelled_stays :
    ¬ (resumedCalls bareLibraries (fun a b => a = b) "0xb" "0x1" .cancelled pendingKey [laterCall]
      pendingWorld).Resolved pendingKey := by
  have hresumes := laterCall_resumes laterCall (by simp)
  have htx : recordTxId pendingRecord = "0x1" := rfl
  have hsame : afterCall bareLibraries (fun a b => a = b) "0xb" "0x1" .cancelled laterCall
      pendingWorld = pendingWorld := by
    rw [afterCall_eq hresumes pendingWorld_pending htx]
    rfl
  have hunresolved := pending_unresolved pendingWorld_pending
  have hnot : ¬ (pendingWorld.credited = true ∨ pendingWorld.store pendingKey = none) := hunresolved
  rw [resumedCalls, hsame]
  simp only [if_neg hnot, resumedCalls]
  exact hunresolved

/-- The record of a paid one does not. -/
theorem resolved_iff_paid :
    (resumedCalls bareLibraries (fun a b => a = b) "0xb" "0x1" .paid pendingKey [laterCall]
      pendingWorld).Resolved pendingKey := by
  have htx : recordTxId pendingRecord = "0x1" := rfl
  exact (resolved_iff [laterCall] pendingWorld .evm pendingKey "0xa" pendingRecord
    laterCall_resumes pendingWorld_pending htx).mpr ⟨laterCall, by simp, Or.inr (Or.inr rfl)⟩

end Kargain.Storage.DepositFate
