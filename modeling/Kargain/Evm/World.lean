/-
  Kargain.Evm.World — the state one selling mode runs in.

  A `World P σ` is the storage of one mode contract (`σ` is what the
  mode adds to ConsignmentBase), its own ether and token balances, the
  passport registry `P`, and what the mode reads from other contracts.
  Every other contract, the second mode included, acts on it only
  through the passport registry and through messages.

  Two fields are observations that no entry point reads: `log`, the
  events of the mode and the `Transfer` events of the registry, each with
  the `msg.sender` of the call that emitted it, newest first, and
  `payouts`, the outgoing transfers the mode attempted.
-/
import Mathlib
import Kargain.Evm.Passport
import Kargain.Evm.History

namespace Kargain.Evm

/-! ## §1. Tokens and payouts. -/

/-- How an ERC-20 behaves.  `exact` is a conforming token whose transfers move exactly the
    requested amount or revert; of any other token nothing is known. -/
inductive TokenKind where
  | exact
  | other
  deriving Repr, DecidableEq

/-- What a low-level call returned: the length of the data and its first word. -/
structure ReturnData where
  length : ℕ
  word : ℕ
  deriving Repr, DecidableEq

/-- One attempted outgoing transfer of `amount` of `asset` (`zero` is ether), with the
    balance it was attempted against. -/
structure Payout where
  asset : Address
  recipient : Address
  amount : ℕ
  available : ℕ
  paid : Bool
  deriving Repr, DecidableEq

/-! ## §2. The world of a mode. -/

/-- What `latestRoundData` and `decimals` of a price feed answer. -/
structure FeedReading where
  answer : ℤ
  updatedAt : ℕ
  decimals : ℕ
  deriving Repr, DecidableEq

/-- The chain around the mode: `block.timestamp`, `block.chainid`, the passport registry,
    `karProStaking.isActiveVerifier`, where there is code, how each token behaves and what
    each price feed reads (`none` is a feed that reverts). -/
structure Env (P : Type) where
  now : ℕ
  chainId : ℕ
  karPassport : KarPassport P
  isActiveVerifier : Address → Bool
  hasCode : Address → Bool
  tokenKind : Address → TokenKind
  feed : Address → Option FeedReading

/-- The mode's ether and token balances and its ClaimablePayouts storage. -/
structure Account where
  balance : ℕ
  tokenBalance : Address → ℕ
  pendingClaims : Address → Address → ℕ
  totalPendingNative : ℕ
  totalPendingErc20 : Address → ℕ
  payouts : List Payout

/-- BondedChallenge storage (only the auction has it). -/
structure Bonds where
  challenges : TokenId → Challenge
  forfeitRecipient : Address
  windowDuration : ℕ
  configured : Bool
  totalLockedBonds : ℕ

/-- ConsignmentBase storage with Mandate, Recall and Ownable. -/
structure Commerce where
  mandates : TokenId → MandateRecord
  recallRequestedAt : TokenId → ℕ
  platformRecipient : Address
  platformFeeBps : ℕ
  phase : TokenId → Phase
  consignments : TokenId → Consignment
  committedNotOffered : TokenId → Bool
  paused : Bool
  guardian : Address
  owner : Address

structure World (P σ : Type) where
  env : Env P
  acct : Account
  bonds : Bonds
  com : Commerce
  /-- Storage of the mode itself. -/
  ext : σ
  /-- ReentrancyGuard. -/
  locked : Bool
  log : Log

/-- What a callee does with control: whether the call succeeds, what data and (for a token
    that is not exact) what balance it leaves, and the messages it sends in before it
    returns, as the change they make to the world. -/
structure Reply (P σ : Type) where
  success : Bool
  data : ReturnData
  balanceAfter : ℕ
  reenter : World P σ → World P σ

/-- The virtual functions of ConsignmentBase a mode overrides. -/
structure Hooks (P σ : Type) where
  /-- The mode's own answer as an encumbrance source (`may`). -/
  may : World P σ → TokenId → Bool
  /-- `_requireModeOpen(tokenId, runner, denomination, asset)`. -/
  requireModeOpen : World P σ → Address → Denomination → Address → Except Error Unit
  /-- `_releaseCustody` is `safeTransferFrom` (the receiver is called) or `transferFrom`. -/
  safeDelivery : Bool

variable {P σ : Type}

namespace World

/-- `emit e`, in a call sent by `sender`. -/
def emit (w : World P σ) (sender : Address) (e : Event) : World P σ :=
  { w with log := (sender, e) :: w.log }

def setErc721 (w : World P σ) (p : P) : World P σ :=
  { w with env := { w.env with karPassport := { w.env.karPassport with erc721 := p } } }

/-- The registry moved `t` for `caller`, to the ledger `p`. -/
def moved (w : World P σ) (caller src dst : Address) (t : TokenId) (p : P) : World P σ :=
  (w.setErc721 p).emit caller (.transfer src dst t)

def setConsignment (w : World P σ) (t : TokenId) (c : Consignment) : World P σ :=
  { w with com := { w.com with consignments := Function.update w.com.consignments t c } }

def setPhase (w : World P σ) (t : TokenId) (ph : Phase) : World P σ :=
  { w with com := { w.com with phase := Function.update w.com.phase t ph } }

def setCommitted (w : World P σ) (t : TokenId) (b : Bool) : World P σ :=
  { w with com := { w.com with
      committedNotOffered := Function.update w.com.committedNotOffered t b } }

def setMandate (w : World P σ) (t : TokenId) (m : MandateRecord) : World P σ :=
  { w with com := { w.com with mandates := Function.update w.com.mandates t m } }

def setRecallRequest (w : World P σ) (t : TokenId) (at_ : ℕ) : World P σ :=
  { w with com := { w.com with
      recallRequestedAt := Function.update w.com.recallRequestedAt t at_ } }

/-- `ownerOf` in the passport registry of the world. -/
def ownerOf [Erc721 P] (w : World P σ) (t : TokenId) : Option Address :=
  Erc721.ownerOf w.env.karPassport.erc721 t

end World

/-! ## §3. Hooks shared by both modes. -/

section Hooks

variable [Erc721 P]

/-- `passportOwner`: `karPassport.ownerOf`, which reverts on a missing token. -/
def passportOwner (w : World P σ) (t : TokenId) : Except Error Address :=
  orRevert (w.ownerOf t) .erc721

/-- `isEscrowApproved`. -/
def isEscrowApproved (w : World P σ) (t : TokenId) (owner : Address) : Bool :=
  Erc721.getApproved w.env.karPassport.erc721 t == .self ||
    Erc721.isApprovedForAll w.env.karPassport.erc721 owner .self

/-- `_may`. -/
def mayIntent (H : Hooks P σ) (w : World P σ) (t : TokenId) (i : Intent) : Except Error Bool :=
  w.env.karPassport.may (H.may w) t i

/-- `_takeCustody`. -/
def takeCustody (w : World P σ) (t : TokenId) (src : Address) : Except Error (World P σ) := do
  let p ← orRevert (Erc721.transferFrom w.env.karPassport.erc721 .self src .self t) .erc721
  pure (w.moved .self src .self t p)

/-- `_releaseCustody`: the receiver of a safe delivery may refuse it or send messages in. -/
def releaseCustody (H : Hooks P σ) (w : World P σ) (t : TokenId) (dst : Address)
    (r : Reply P σ) : Except Error (World P σ) := do
  let p ← orRevert (Erc721.transferFrom w.env.karPassport.erc721 .self .self dst t) .erc721
  if H.safeDelivery then
    require (r.success = true) .erc721
    pure (r.reenter (w.moved .self .self dst t p))
  else
    pure (w.moved .self .self dst t p)

end Hooks

/-- `nonReentrant`. -/
def nonReentrant (w : World P σ) (body : World P σ → Except Error (World P σ)) :
    Except Error (World P σ) := do
  revertIf (w.locked = true) .reentrantCall
  let w' ← body { w with locked := true }
  pure { w' with locked := false }

/-- `onlyOwner`. -/
def onlyOwner (w : World P σ) (sender : Address) : Except Error Unit :=
  require (sender = w.com.owner) .notOwner

theorem nonReentrant_locked {w : World P σ} {body : World P σ → Except Error (World P σ)}
    (h : w.locked = true) : nonReentrant w body = .error .reentrantCall := by
  simp [nonReentrant, revertIf, h, bind, Except.bind]

theorem nonReentrant_ok {w w' : World P σ} {body : World P σ → Except Error (World P σ)}
    (h : nonReentrant w body = .ok w') :
    w.locked = false ∧ ∃ u, body { w with locked := true } = .ok u ∧
      w' = { u with locked := false } := by
  simp only [nonReentrant, bind_ok, revertIf_ok, pure_ok, exists_const] at h
  obtain ⟨hl, u, hu, rfl⟩ := h
  exact ⟨by simpa using hl, u, hu, rfl⟩

/-! ## §4. The world outside. -/

/-- A call into the ERC-721 side of the passport registry. -/
inductive PassportCall where
  | transferFrom (src dst : Address) (t : TokenId)
  | approve (spender : Address) (t : TokenId)
  | setApprovalForAll (operator : Address) (b : Bool)
  /-- `send` through the bridge gateway, and the two ways a passport arrives. -/
  | send (t : TokenId)
  | receive (dst : Address) (t : TokenId)
  | mintPassport (dst : Address) (t : TokenId)

/-- What happens around the mode without a message to it.  The values other contracts
    answer with may change in any way; ether and tokens may be sent here unasked. -/
inductive Outside where
  | passport (caller : Caller) (c : PassportCall)
  | passportStatus (t : TokenId) (s : Status)
  | passportChallenge (t : TokenId) (b : Bool)
  | encumbranceSources (l : List Address)
  | sourceAnswer (a : Address) (t : TokenId) (i : Intent) (b : Option Bool)
  | activeVerifier (a : Address) (b : Bool)
  | deployed (a : Address)
  | feedReading (a : Address) (reading : Option FeedReading)
  | forceEther (n : ℕ)
  | donateToken (token : Address) (n : ℕ)
  /-- A token that is not exact sets the mode's balance at will. -/
  | setToken (token : Address) (n : ℕ)

section Outside

variable [Erc721 P]

def execPassport (H : Hooks P σ) (w : World P σ) (caller : Address) :
    PassportCall → Except Error (World P σ)
  | .transferFrom src dst t => do
    let p ← orRevert (Erc721.transferFrom w.env.karPassport.erc721 caller src dst t) .erc721
    pure (w.moved caller src dst t p)
  | .approve spender t => do
    let p ← orRevert (Erc721.approve w.env.karPassport.erc721 caller spender t) .erc721
    pure (w.setErc721 p)
  | .setApprovalForAll operator b => do
    let p ← orRevert (Erc721.setApprovalForAll w.env.karPassport.erc721 caller operator b) .erc721
    pure (w.setErc721 p)
  | .send t => do
    let k ← w.env.karPassport.debit (H.may w) w.env.chainId caller t
    let dst := if KarPassport.isHome w.env.chainId t then .gateway else .zero
    pure ({ w with env := { w.env with karPassport := k } }.emit caller (.transfer caller dst t))
  | .receive dst t => do
    let k ← w.env.karPassport.receive w.env.chainId dst t
    let src := if KarPassport.isHome w.env.chainId t then .gateway else .zero
    pure ({ w with env := { w.env with karPassport := k } }.emit .gateway (.transfer src dst t))
  | .mintPassport dst t => do
    require (KarPassport.isHome w.env.chainId t = true) .erc721
    let p ← orRevert (Erc721.mint w.env.karPassport.erc721 dst t) .erc721
    pure (w.moved caller .zero dst t p)

def execOutside (H : Hooks P σ) (w : World P σ) : Outside → Except Error (World P σ)
  | .passport caller c => execPassport H w caller.addr c
  | .passportStatus t s => .ok { w with env := { w.env with karPassport := { w.env.karPassport with
      passportStatus := Function.update w.env.karPassport.passportStatus t s } } }
  | .passportChallenge t b => .ok { w with env := { w.env with
      karPassport := { w.env.karPassport with
        challengeActive := Function.update w.env.karPassport.challengeActive t b } } }
  | .encumbranceSources l => .ok { w with env := { w.env with
      karPassport := { w.env.karPassport with encumbranceSources := l } } }
  | .sourceAnswer a t i b => .ok { w with env := { w.env with
      karPassport := { w.env.karPassport with
        sourceAnswer := fun a' t' i' => if a' = a ∧ t' = t ∧ i' = i then b
          else w.env.karPassport.sourceAnswer a' t' i' } } }
  | .activeVerifier a b => .ok { w with env := { w.env with
      isActiveVerifier := Function.update w.env.isActiveVerifier a b } }
  | .deployed a => .ok { w with env := { w.env with
      hasCode := Function.update w.env.hasCode a true } }
  | .feedReading a reading => .ok { w with env := { w.env with
      feed := Function.update w.env.feed a reading } }
  | .forceEther n => .ok { w with acct := { w.acct with balance := w.acct.balance + n } }
  | .donateToken token n => .ok { w with acct := { w.acct with
      tokenBalance := Function.update w.acct.tokenBalance token
        (w.acct.tokenBalance token + n) } }
  | .setToken token n => do
    require (w.env.tokenKind token = .other) .erc20Failed
    pure { w with acct := { w.acct with
      tokenBalance := Function.update w.acct.tokenBalance token n } }

end Outside

/-! ## §5. A small chain. -/

/-- One verified passport, 7, of account 1, whose operator the mode is; accounts 1 and 2
    are active verifiers, account 8 is a price feed. -/
def smallEnv : Env Registry where
  now := 1000
  chainId := 0
  karPassport :=
    { erc721 := ⟨fun t => if t = 7 then some (.account 1) else none, fun _ => .zero,
        fun a o => a == .account 1 && o == .self⟩
      passportStatus := fun _ => .verified
      challengeActive := fun _ => false
      encumbranceSources := [.self]
      sourceAnswer := fun _ _ _ => none }
  isActiveVerifier := fun a => a == .account 1 || a == .account 2
  hasCode := fun a => a == .account 8
  tokenKind := fun _ => .exact
  feed := fun a => if a = .account 8 then some ⟨2 * 10 ^ 11, 1000, 8⟩ else none

end Kargain.Evm
