/-
  Kargain.Evm.ProStaking — KarProStaking and the soulbound pass.

  KarProStaking.sol locks a native stake for each verifier, in two phases:
  leaving ends the role at once, the stake is claimed after the unbonding
  period.  KarProPass.sol is the credential it mints and burns.  Both are
  one world here: the pass stands in the storage part, and a message
  calls either contract.

  The ERC-721 library under the pass is not part of the repository; what
  the pass uses of it enters as a class.  Left out: the wiring call
  `setStaking`, which is made once after both are deployed, and the views.
-/
import Kargain.Evm.Messages

namespace Kargain.Evm

/-! ## §1. KarProPass.sol. -/

/-- The ERC-721 bookkeeping under the pass: owners, balances and `_update(to, tokenId, auth)`,
    where `zero` as `dst` burns and a nonzero `auth` must be allowed to move the token. -/
class PassLedger (Q : Type) where
  ownerOf : Q → TokenId → Option Address
  balanceOf : Q → Address → ℕ
  update : Q → (dst : Address) → TokenId → (auth : Address) → Option Q
  /-- Without `auth` nothing is checked. -/
  update_isSome : ∀ q dst t, (update q dst t .zero).isSome
  /-- Nobody is allowed to move a token that does not exist. -/
  update_missing : ∀ q dst t auth, ownerOf q t = none → auth ≠ .zero → update q dst t auth = none
  ownerOf_update : ∀ {q q' dst t auth}, update q dst t auth = some q' →
    ∀ t', ownerOf q' t' = if t' = t then (if dst = .zero then none else some dst) else ownerOf q t'
  balanceOf_update : ∀ {q q' dst t auth}, update q dst t auth = some q' →
    ∀ a, balanceOf q' a = balanceOf q a - (if ownerOf q t = some a then 1 else 0) +
      (if dst = a ∧ dst ≠ .zero then 1 else 0)

/-- The plain bookkeeping: two maps. -/
structure PassBooks where
  owners : TokenId → Option Address
  balances : Address → ℕ

namespace PassBooks

def empty : PassBooks := ⟨fun _ => none, fun _ => 0⟩

def update (q : PassBooks) (dst : Address) (t : TokenId) (auth : Address) : Option PassBooks :=
  if auth = .zero ∨ q.owners t = some auth then
    some ⟨fun t' => if t' = t then (if dst = .zero then none else some dst) else q.owners t',
      fun a => q.balances a - (if q.owners t = some a then 1 else 0) +
        (if dst = a ∧ dst ≠ .zero then 1 else 0)⟩
  else none

theorem update_some {q q' : PassBooks} {dst auth : Address} {t : TokenId}
    (h : q.update dst t auth = some q') :
    q' = ⟨fun t' => if t' = t then (if dst = .zero then none else some dst) else q.owners t',
      fun a => q.balances a - (if q.owners t = some a then 1 else 0) +
        (if dst = a ∧ dst ≠ .zero then 1 else 0)⟩ := by
  unfold update at h
  split at h
  · exact (Option.some.inj h).symm
  · cases h

end PassBooks

instance : PassLedger PassBooks where
  ownerOf := PassBooks.owners
  balanceOf := PassBooks.balances
  update := PassBooks.update
  update_isSome q dst t := by simp [PassBooks.update]
  update_missing q dst t auth hn ha := by simp [PassBooks.update, hn, ha]
  ownerOf_update h t' := by rw [PassBooks.update_some h]
  balanceOf_update h a := by rw [PassBooks.update_some h]

/-- What the pass shows of its holder. -/
structure Profile where
  category : ℕ
  name : List UInt8
  metadataURI : List UInt8
  deriving Repr, DecidableEq

def Profile.empty : Profile := ⟨0, [], []⟩

/-- `uint8(Category.OTHER)`. -/
def categoryOther : ℕ := 5

structure KarProPass (Q : Type) where
  erc721 : Q
  staking : Address
  profile : TokenId → Profile
  issuedAt : TokenId → ℕ

/-- `uint256(uint160(a))`. -/
def passId : Address → ℕ
  | .zero => 0
  | .self => 1
  | .passport => 2
  | .gateway => 3
  | .account n => n + 4

theorem passId_injective : Function.Injective passId := by
  intro a b h
  unfold passId at h
  split at h <;> split at h <;> first | rfl | (exfalso; omega) | (congr 1; omega)

namespace KarProPass

variable {Q : Type} [PassLedger Q]

/-- `_update`: a token that exists can only be burned. -/
def update (k : KarProPass Q) (dst : Address) (t : TokenId) (auth : Address) :
    Except Error (KarProPass Q) := do
  revertIf ((PassLedger.ownerOf k.erc721 t).isSome = true ∧ dst ≠ .zero) .soulbound
  let q ← orRevert (PassLedger.update k.erc721 dst t auth) .erc721
  pure { k with erc721 := q }

/-- `mint`, up to the receiver's turn in `_safeMint`. -/
def mint (k : KarProPass Q) (sender dst : Address) (profile : Profile) (now : ℕ) :
    Except Error (KarProPass Q) := do
  require (sender = k.staking) .onlyStaking
  revertIf (PassLedger.balanceOf k.erc721 dst > 0) .alreadyHoldsPass
  revertIf (profile.category > categoryOther) .invalidCategory
  let t := passId dst
  let k := { k with profile := Function.update k.profile t profile
                    issuedAt := Function.update k.issuedAt t now }
  -- `_mint` refuses the zero address and a token that exists
  revertIf (dst = .zero ∨ (PassLedger.ownerOf k.erc721 t).isSome = true) .erc721
  k.update dst t .zero

def burn (k : KarProPass Q) (sender holder : Address) : Except Error (KarProPass Q) := do
  require (sender = k.staking) .onlyStaking
  revertIf (PassLedger.balanceOf k.erc721 holder = 0) .doesNotHoldPass
  let t := passId holder
  revertIf (PassLedger.ownerOf k.erc721 t = none) .erc721
  let k ← k.update .zero t .zero
  pure { k with profile := Function.update k.profile t .empty
                issuedAt := Function.update k.issuedAt t 0 }

def updateProfile (k : KarProPass Q) (sender : Address) (profile : Profile) :
    Except Error (KarProPass Q) := do
  let t := passId sender
  revertIf (PassLedger.ownerOf k.erc721 t ≠ some sender) .notHolder
  revertIf (profile.category > categoryOther) .invalidCategory
  pure { k with profile := Function.update k.profile t profile }

/-- `transferFrom` of the library: `_update` with the sender as `auth`. -/
def transferFrom (k : KarProPass Q) (sender dst : Address) (t : TokenId) :
    Except Error (KarProPass Q) := do
  revertIf (dst = .zero) .erc721
  k.update dst t sender

end KarProPass

/-! ## §2. KarProStaking.sol. -/

structure Stake where
  asset : Address
  amount : ℕ
  stakedAt : ℕ
  active : Bool
  unlockAt : ℕ
  deriving Repr, DecidableEq

def Stake.empty : Stake := ⟨.zero, 0, 0, false, 0⟩

/-- The stake of an account whose stake is out. -/
def Stake.cleared (s : Stake) : Stake :=
  { s with amount := 0, unlockAt := 0, asset := .zero, stakedAt := 0 }

inductive StakingEvent where
  | verifierJoined (verifier : Address) (amount : ℕ)
  | verifierLeft (verifier : Address) (amount unlockAt : ℕ)
  | unbondStarted (verifier : Address) (amount unlockAt : ℕ)
  | stakeClaimed (verifier : Address) (amount : ℕ)
  deriving Repr, DecidableEq

/-- The storage of both contracts.  `history` is what the staking contract emitted about
    stakes, newest first, each entry with its block time; no entry point reads it. -/
structure StakingStorage (Q : Type) where
  proPass : KarProPass Q
  minStakeNative : ℕ
  stakes : Address → Stake
  verificationFee : Address → ℕ
  history : List (ℕ × StakingEvent)

namespace Staking

/-- `UNBONDING_PERIOD`, 14 days. -/
def unbondingPeriod : ℕ := 1209600
/-- `MIN_STAKE_FLOOR`, 0.001 ether. -/
def minStakeFloor : ℕ := 10 ^ 15
/-- The minimum the constructor sets, 0.05 ether. -/
def defaultMinStake : ℕ := 5 * 10 ^ 16

variable {P Q : Type}

abbrev World (P Q : Type) := Evm.World P (StakingStorage Q)

def setExt (w : World P Q) (e : StakingStorage Q) : World P Q := { w with ext := e }

def setStake (w : World P Q) (a : Address) (s : Stake) : World P Q :=
  setExt w { w.ext with stakes := Function.update w.ext.stakes a s }

def setPass (w : World P Q) (k : KarProPass Q) : World P Q :=
  setExt w { w.ext with proPass := k }

def setFee (w : World P Q) (a : Address) (fee : ℕ) : World P Q :=
  setExt w { w.ext with verificationFee := Function.update w.ext.verificationFee a fee }

/-- `emit e`. -/
def announce (w : World P Q) (e : StakingEvent) : World P Q :=
  setExt w { w.ext with history := (w.env.now, e) :: w.ext.history }

def isActiveVerifier (w : World P Q) (a : Address) : Bool := (w.ext.stakes a).active

/-- `_requireCanJoin`. -/
def requireCanJoin (w : World P Q) (a : Address) : Except Error Unit := do
  revertIf ((w.ext.stakes a).active = true) .alreadyVerifier
  revertIf ((w.ext.stakes a).unlockAt ≠ 0 ∨ (w.ext.stakes a).amount > 0) .unbondPending

section Pass

variable [PassLedger Q]

/-- Body of `becomeVerifierNative`, after the value has arrived.  The receiver of the pass is
    the caller, who may refuse it or send messages in. -/
def becomeVerifierNativeBody (w : World P Q) (sender : Address) (value : ℕ) (profile : Profile)
    (rs : ℕ → Reply P (StakingStorage Q)) : Except Error (World P Q) := do
  revertIf (value < w.ext.minStakeNative) .belowMinStake
  requireCanJoin w sender
  let w := setStake w sender ⟨.zero, value, w.env.now, true, 0⟩
  let k ← w.ext.proPass.mint .self sender profile w.env.now
  require ((rs 0).success = true) .erc721
  let w := (rs 0).reenter (setPass w k)
  pure (announce w (.verifierJoined sender value))

/-- The pass after the `try` around `burn`. -/
def burnCaught (k : KarProPass Q) (holder : Address) : KarProPass Q :=
  caught k (k.burn .self holder)

/-- Body of `leave`. -/
def leaveBody (w : World P Q) (sender : Address) : Except Error (World P Q) := do
  let s := w.ext.stakes sender
  revertIf (s.active = false) .notVerifier
  let unlockAt ← checkedAdd w.env.now unbondingPeriod
  let w := setFee (setStake w sender { s with active := false, unlockAt := unlockAt }) sender 0
  let w := setPass w (burnCaught w.ext.proPass sender)
  pure (announce (announce w (.verifierLeft sender s.amount unlockAt))
    (.unbondStarted sender s.amount unlockAt))

end Pass

/-- Body of `claimStake`. -/
def claimStakeBody (w : World P Q) (sender : Address)
    (rs : ℕ → Reply P (StakingStorage Q)) : Except Error (World P Q) := do
  let s := w.ext.stakes sender
  revertIf (s.active = true ∨ s.unlockAt = 0) .noUnbond
  revertIf (w.env.now < s.unlockAt) .unbondNotReady
  let w := setStake w sender s.cleared
  let w ← payNative w sender sender s.amount (rs 0)
  pure (announce w (.stakeClaimed sender s.amount))

def setMinStakeNative (w : World P Q) (sender : Address) (v : ℕ) : Except Error (World P Q) := do
  onlyOwner w sender
  revertIf (v < minStakeFloor) .belowMinStakeFloor
  pure (setExt w { w.ext with minStakeNative := v })

def setVerificationFee (w : World P Q) (sender : Address) (fee : ℕ) :
    Except Error (World P Q) := do
  revertIf ((w.ext.stakes sender).active = false) .notVerifier
  pure (setFee w sender fee)

/-! ## §3. The table of entry points. -/

inductive Call where
  | becomeVerifierNative (profile : Profile)
  | leave
  | claimStake
  | withdrawClaim (asset : Address)
  | setMinStakeNative (v : ℕ)
  | setVerificationFee (fee : ℕ)
  | transferOwnership (newOwner : Address)
  -- KarProPass
  | mint (dst : Address) (profile : Profile)
  | burn (holder : Address)
  | updateProfile (profile : Profile)
  | transferFrom (dst : Address) (t : TokenId)
  | approve
  | setApprovalForAll

/-- The entry points that take the guard. -/
def Call.guarded : Call → Bool
  | .becomeVerifierNative _ | .leave | .claimStake | .withdrawClaim _ => true
  | _ => false

section Exec

variable [PassLedger Q]

/-- The entry points that are not payable. -/
def dispatchPlain (sender : Address) (rs : ℕ → Reply P (StakingStorage Q)) (w : World P Q) :
    Call → Except Error (World P Q)
  | .leave => nonReentrant w fun w => leaveBody w sender
  | .claimStake => nonReentrant w fun w => claimStakeBody w sender rs
  | .withdrawClaim asset => nonReentrant w fun w => withdrawClaimBody w sender asset (rs 0)
  | .setMinStakeNative v => setMinStakeNative w sender v
  | .setVerificationFee fee => setVerificationFee w sender fee
  | .transferOwnership newOwner => transferOwnership w sender newOwner
  | .mint dst profile => do
    let k ← w.ext.proPass.mint sender dst profile w.env.now
    pure (setPass w k)
  | .burn holder => do
    let k ← w.ext.proPass.burn sender holder
    pure (setPass w k)
  | .updateProfile profile => do
    let k ← w.ext.proPass.updateProfile sender profile
    pure (setPass w k)
  | .transferFrom dst t => do
    let k ← w.ext.proPass.transferFrom sender dst t
    pure (setPass w k)
  | .approve | .setApprovalForAll => .error .soulbound
  | .becomeVerifierNative _ => .error .nonPayable

/-- Only joining is payable. -/
def dispatch (sender : Address) (value : ℕ) (call : Call)
    (rs : ℕ → Reply P (StakingStorage Q)) (w : World P Q) : Except Error (World P Q) :=
  match call with
  | .becomeVerifierNative profile => nonReentrant (w.receiveValue value) fun w =>
    becomeVerifierNativeBody w sender value profile rs
  | call => do
    nonPayable value
    dispatchPlain sender rs w call

/-- Nothing is sold here: the hooks of a selling mode are idle. -/
def hooks : Hooks P (StakingStorage Q) := ⟨fun _ _ => true, fun _ _ _ _ => .ok (), false⟩

def mode : Mode P (StakingStorage Q) Call := ⟨hooks, dispatch⟩

/-- Both contracts right after deployment, the pass wired to the staking contract, whatever
    ether stands here. -/
structure Genesis (w : World P Q) : Prop where
  wired : w.ext.proPass.staking = .self
  no_pass : ∀ t, PassLedger.ownerOf w.ext.proPass.erc721 t = none
  no_balance : ∀ a, PassLedger.balanceOf w.ext.proPass.erc721 a = 0
  no_stake : ∀ a, w.ext.stakes a = .empty
  minStake : w.ext.minStakeNative = defaultMinStake
  no_claim : ∀ a asset, w.acct.pendingClaims a asset = 0
  no_payout : w.acct.payouts = []
  no_history : w.ext.history = []
  unlocked : w.locked = false

end Exec

end Staking

end Kargain.Evm
