/-
  Kargain.Evm.Passport — the passport registry as the selling modes see it.

  KarPassport inherits its ownership bookkeeping from an ERC-721 library
  that is not part of the repository.  It enters as a class: the calls
  the modes and the holders make, with the laws of the standard the code
  relies on (who may move a token, what a move changes, that a move
  clears the token's single approval).  `Registry` is the plain
  instance.

  What KarPassport.sol itself adds and the modes consult is embedded
  here: `may` over the registered encumbrance sources, and the three
  bridge movements of KarPassportBridgeGateway.sol.
-/
import Kargain.Evm.Types

namespace Kargain.Evm

/-! ## §1. ERC-721. -/

/-- An ERC-721 ownership ledger of type `P`.  `none` from a moving call is a revert;
    `none` from `ownerOf` is the revert on a token that does not exist. -/
class Erc721 (P : Type) where
  ownerOf : P → TokenId → Option Address
  getApproved : P → TokenId → Address
  isApprovedForAll : P → Address → Address → Bool
  /-- `transferFrom(src, dst, tokenId)` sent by `caller`. -/
  transferFrom : P → (caller src dst : Address) → TokenId → Option P
  approve : P → (caller spender : Address) → TokenId → Option P
  setApprovalForAll : P → (caller operator : Address) → Bool → Option P
  mint : P → (dst : Address) → TokenId → Option P
  burn : P → TokenId → Option P
  /-- A token moves iff `src` owns it, `dst` is an account and `caller` is the owner,
      one of its operators or the token's approved account. -/
  transferFrom_isSome : ∀ p caller src dst t, (transferFrom p caller src dst t).isSome ↔
    ownerOf p t = some src ∧ dst ≠ .zero ∧ caller ≠ .zero ∧
      (caller = src ∨ isApprovedForAll p src caller = true ∨ getApproved p t = caller)
  ownerOf_transferFrom : ∀ {p p' caller src dst t}, transferFrom p caller src dst t = some p' →
    ∀ t', ownerOf p' t' = if t' = t then some dst else ownerOf p t'
  getApproved_transferFrom : ∀ {p p' caller src dst t},
    transferFrom p caller src dst t = some p' →
    ∀ t', getApproved p' t' = if t' = t then .zero else getApproved p t'
  isApprovedForAll_transferFrom : ∀ {p p' caller src dst t},
    transferFrom p caller src dst t = some p' → isApprovedForAll p' = isApprovedForAll p
  /-- Only the owner or an operator of the owner names a token's approved account. -/
  approve_isSome : ∀ p caller spender t, (approve p caller spender t).isSome ↔
    ∃ o, ownerOf p t = some o ∧ (caller = o ∨ isApprovedForAll p o caller = true)
  ownerOf_approve : ∀ {p p' caller spender t}, approve p caller spender t = some p' →
    ownerOf p' = ownerOf p
  getApproved_approve : ∀ {p p' caller spender t}, approve p caller spender t = some p' →
    ∀ t', getApproved p' t' = if t' = t then spender else getApproved p t'
  isApprovedForAll_approve : ∀ {p p' caller spender t}, approve p caller spender t = some p' →
    isApprovedForAll p' = isApprovedForAll p
  ownerOf_setApprovalForAll : ∀ {p p' caller operator b},
    setApprovalForAll p caller operator b = some p' → ownerOf p' = ownerOf p
  getApproved_setApprovalForAll : ∀ {p p' caller operator b},
    setApprovalForAll p caller operator b = some p' → getApproved p' = getApproved p
  isApprovedForAll_setApprovalForAll : ∀ {p p' caller operator b},
    setApprovalForAll p caller operator b = some p' →
    ∀ a o, isApprovedForAll p' a o =
      if a = caller ∧ o = operator then b else isApprovedForAll p a o
  mint_isSome : ∀ p dst t, (mint p dst t).isSome ↔ ownerOf p t = none ∧ dst ≠ .zero
  ownerOf_mint : ∀ {p p' dst t}, mint p dst t = some p' →
    ∀ t', ownerOf p' t' = if t' = t then some dst else ownerOf p t'
  getApproved_mint : ∀ {p p' dst t}, mint p dst t = some p' → getApproved p' = getApproved p
  isApprovedForAll_mint : ∀ {p p' dst t}, mint p dst t = some p' →
    isApprovedForAll p' = isApprovedForAll p
  burn_isSome : ∀ p t, (burn p t).isSome ↔ (ownerOf p t).isSome
  ownerOf_burn : ∀ {p p' t}, burn p t = some p' →
    ∀ t', ownerOf p' t' = if t' = t then none else ownerOf p t'
  getApproved_burn : ∀ {p p' t}, burn p t = some p' →
    ∀ t', getApproved p' t' = if t' = t then .zero else getApproved p t'
  isApprovedForAll_burn : ∀ {p p' t}, burn p t = some p' →
    isApprovedForAll p' = isApprovedForAll p

/-- The ledger the standard describes: three maps. -/
structure Registry where
  owners : TokenId → Option Address
  approved : TokenId → Address
  operators : Address → Address → Bool

namespace Registry

def empty : Registry := ⟨fun _ => none, fun _ => .zero, fun _ _ => false⟩

def transferFrom (p : Registry) (caller src dst : Address) (t : TokenId) : Option Registry :=
  if p.owners t = some src ∧ dst ≠ .zero ∧ caller ≠ .zero ∧
      (caller = src ∨ p.operators src caller = true ∨ p.approved t = caller) then
    some { p with owners := fun t' => if t' = t then some dst else p.owners t'
                  approved := fun t' => if t' = t then .zero else p.approved t' }
  else none

def approve (p : Registry) (caller spender : Address) (t : TokenId) : Option Registry :=
  match p.owners t with
  | some o =>
    if caller = o ∨ p.operators o caller = true then
      some { p with approved := fun t' => if t' = t then spender else p.approved t' }
    else none
  | none => none

def setApprovalForAll (p : Registry) (caller operator : Address) (b : Bool) : Option Registry :=
  some { p with operators := fun a o =>
    if a = caller ∧ o = operator then b else p.operators a o }

def mint (p : Registry) (dst : Address) (t : TokenId) : Option Registry :=
  if p.owners t = none ∧ dst ≠ .zero then
    some { p with owners := fun t' => if t' = t then some dst else p.owners t' }
  else none

def burn (p : Registry) (t : TokenId) : Option Registry :=
  if (p.owners t).isSome then
    some { p with owners := fun t' => if t' = t then none else p.owners t'
                  approved := fun t' => if t' = t then .zero else p.approved t' }
  else none

theorem transferFrom_some {p p' : Registry} {caller src dst : Address} {t : TokenId}
    (h : p.transferFrom caller src dst t = some p') :
    p' = { p with owners := fun t' => if t' = t then some dst else p.owners t'
                  approved := fun t' => if t' = t then .zero else p.approved t' } := by
  unfold transferFrom at h
  split at h
  · exact (Option.some.inj h).symm
  · cases h

theorem approve_some {p p' : Registry} {caller spender : Address} {t : TokenId}
    (h : p.approve caller spender t = some p') :
    p' = { p with approved := fun t' => if t' = t then spender else p.approved t' } := by
  unfold approve at h
  split at h
  · split at h
    · exact (Option.some.inj h).symm
    · cases h
  · cases h

theorem mint_some {p p' : Registry} {dst : Address} {t : TokenId} (h : p.mint dst t = some p') :
    p' = { p with owners := fun t' => if t' = t then some dst else p.owners t' } := by
  unfold mint at h
  split at h
  · exact (Option.some.inj h).symm
  · cases h

theorem burn_some {p p' : Registry} {t : TokenId} (h : p.burn t = some p') :
    p' = { p with owners := fun t' => if t' = t then none else p.owners t'
                  approved := fun t' => if t' = t then .zero else p.approved t' } := by
  unfold burn at h
  split at h
  · exact (Option.some.inj h).symm
  · cases h

theorem approve_isSome (p : Registry) (caller spender : Address) (t : TokenId) :
    (p.approve caller spender t).isSome ↔
      ∃ o, p.owners t = some o ∧ (caller = o ∨ p.operators o caller = true) := by
  unfold approve
  cases h : p.owners t with
  | none => simp
  | some o => by_cases hc : caller = o ∨ p.operators o caller = true <;> simp [hc]

end Registry

instance : Erc721 Registry where
  ownerOf := Registry.owners
  getApproved := Registry.approved
  isApprovedForAll := Registry.operators
  transferFrom := Registry.transferFrom
  approve := Registry.approve
  setApprovalForAll := Registry.setApprovalForAll
  mint := Registry.mint
  burn := Registry.burn
  transferFrom_isSome p caller src dst t := by
    unfold Registry.transferFrom
    split <;> simp [*]
  ownerOf_transferFrom h t' := by rw [Registry.transferFrom_some h]
  getApproved_transferFrom h t' := by rw [Registry.transferFrom_some h]
  isApprovedForAll_transferFrom h := by rw [Registry.transferFrom_some h]
  approve_isSome := Registry.approve_isSome
  ownerOf_approve h := by rw [Registry.approve_some h]
  getApproved_approve h t' := by rw [Registry.approve_some h]
  isApprovedForAll_approve h := by rw [Registry.approve_some h]
  ownerOf_setApprovalForAll h := by cases h; rfl
  getApproved_setApprovalForAll h := by cases h; rfl
  isApprovedForAll_setApprovalForAll h a o := by cases h; rfl
  mint_isSome p dst t := by
    unfold Registry.mint
    split <;> simp [*]
  ownerOf_mint h t' := by rw [Registry.mint_some h]
  getApproved_mint h := by rw [Registry.mint_some h]
  isApprovedForAll_mint h := by rw [Registry.mint_some h]
  burn_isSome p t := by
    unfold Registry.burn
    split <;> simp [*]
  ownerOf_burn h t' := by rw [Registry.burn_some h]
  getApproved_burn h t' := by rw [Registry.burn_some h]
  isApprovedForAll_burn h := by rw [Registry.burn_some h]

/-! ## §2. Tokens of an account that never approves. -/

/-- Nobody but the mode can move a passport the mode holds: it has named no operator, and a
    token it owns, like one that does not exist, has no approved account. -/
structure RegistryClean {P : Type} [Erc721 P] (p : P) : Prop where
  operators : ∀ a, Erc721.isApprovedForAll p .self a = false
  approved : ∀ t, Erc721.ownerOf p t = none ∨ Erc721.ownerOf p t = some .self →
    Erc721.getApproved p t = .zero

/-- The same of any account `o`. -/
structure NeverApproves {P : Type} [Erc721 P] (o : Address) (p : P) : Prop where
  operators : ∀ a, Erc721.isApprovedForAll p o a = false
  approved : ∀ t, Erc721.ownerOf p t = none ∨ Erc721.ownerOf p t = some o →
    Erc721.getApproved p t = .zero

section Clean

variable {P : Type} [Erc721 P] {p p' : P} {o caller src dst : Address} {t : TokenId}

theorem Erc721.transferFrom_some (h : Erc721.transferFrom p caller src dst t = some p') :
    Erc721.ownerOf p t = some src ∧ dst ≠ .zero ∧ caller ≠ .zero ∧
      (caller = src ∨ Erc721.isApprovedForAll p src caller = true ∨
        Erc721.getApproved p t = caller) :=
  (Erc721.transferFrom_isSome p caller src dst t).mp (by rw [h]; rfl)

/-- A passport `o` holds moves only when `o` moves it. -/
theorem NeverApproves.src_ne (hp : NeverApproves o p) (hc : caller ≠ o)
    (h : Erc721.transferFrom p caller src dst t = some p') : src ≠ o := by
  rintro rfl
  obtain ⟨hown, -, hz, hauth⟩ := Erc721.transferFrom_some h
  rcases hauth with hs | ho | ha
  · exact hc hs
  · rw [hp.operators] at ho
    cases ho
  · rw [hp.approved t (.inr hown)] at ha
    exact hz ha.symm

theorem NeverApproves.transferFrom (hp : NeverApproves o p)
    (h : Erc721.transferFrom p caller src dst t = some p') : NeverApproves o p' := by
  refine ⟨fun a => ?_, fun t' ho => ?_⟩
  · rw [Erc721.isApprovedForAll_transferFrom h]
    exact hp.operators a
  · rw [Erc721.ownerOf_transferFrom h] at ho
    rw [Erc721.getApproved_transferFrom h]
    by_cases ht : t' = t
    · rw [if_pos ht]
    · rw [if_neg ht] at ho ⊢
      exact hp.approved t' ho

theorem NeverApproves.approve (hp : NeverApproves o p) (hc : caller ≠ o)
    (h : Erc721.approve p caller dst t = some p') : NeverApproves o p' := by
  obtain ⟨a, hown, hauth⟩ := (Erc721.approve_isSome p caller dst t).mp (by rw [h]; rfl)
  refine ⟨fun a => ?_, fun t' ho => ?_⟩
  · rw [Erc721.isApprovedForAll_approve h]
    exact hp.operators a
  · rw [Erc721.ownerOf_approve h] at ho
    rw [Erc721.getApproved_approve h]
    by_cases ht : t' = t
    · -- the caller owns `t` or acts for its owner, who is therefore not `o`
      subst ht
      exfalso
      rcases ho with ho | ho
      · rw [hown] at ho
        cases ho
      · rw [hown] at ho
        obtain rfl : a = o := Option.some.inj ho
        rcases hauth with hs | ho
        · exact hc hs
        · rw [hp.operators] at ho
          cases ho
    · rw [if_neg ht]
      exact hp.approved t' ho

theorem NeverApproves.setApprovalForAll {b : Bool} (hp : NeverApproves o p) (hc : caller ≠ o)
    (h : Erc721.setApprovalForAll p caller dst b = some p') : NeverApproves o p' := by
  refine ⟨fun a => ?_, fun t' ho => ?_⟩
  · rw [Erc721.isApprovedForAll_setApprovalForAll h, if_neg (fun e => hc e.1.symm)]
    exact hp.operators a
  · rw [Erc721.ownerOf_setApprovalForAll h] at ho
    rw [Erc721.getApproved_setApprovalForAll h]
    exact hp.approved t' ho

theorem NeverApproves.mint (hp : NeverApproves o p) (h : Erc721.mint p dst t = some p') :
    NeverApproves o p' := by
  obtain ⟨hnone, -⟩ := (Erc721.mint_isSome p dst t).mp (by rw [h]; rfl)
  refine ⟨fun a => ?_, fun t' ho => ?_⟩
  · rw [Erc721.isApprovedForAll_mint h]
    exact hp.operators a
  · rw [Erc721.ownerOf_mint h] at ho
    rw [Erc721.getApproved_mint h]
    by_cases ht : t' = t
    · subst ht
      exact hp.approved t' (.inl hnone)
    · rw [if_neg ht] at ho
      exact hp.approved t' ho

theorem NeverApproves.burn (hp : NeverApproves o p) (h : Erc721.burn p t = some p') :
    NeverApproves o p' := by
  refine ⟨fun a => ?_, fun t' ho => ?_⟩
  · rw [Erc721.isApprovedForAll_burn h]
    exact hp.operators a
  · rw [Erc721.ownerOf_burn h] at ho
    rw [Erc721.getApproved_burn h]
    by_cases ht : t' = t
    · rw [if_pos ht]
    · rw [if_neg ht] at ho ⊢
      exact hp.approved t' ho

theorem RegistryClean.never (hp : RegistryClean p) : NeverApproves .self p :=
  ⟨hp.operators, hp.approved⟩

theorem NeverApproves.clean (hp : NeverApproves .self p) : RegistryClean p :=
  ⟨hp.operators, hp.approved⟩

/-- A passport the mode holds moves only when the mode moves it. -/
theorem RegistryClean.src_ne_self (hp : RegistryClean p) (hc : caller ≠ .self)
    (h : Erc721.transferFrom p caller src dst t = some p') : src ≠ .self :=
  hp.never.src_ne hc h

theorem RegistryClean.transferFrom (hp : RegistryClean p)
    (h : Erc721.transferFrom p caller src dst t = some p') : RegistryClean p' :=
  (hp.never.transferFrom h).clean

theorem RegistryClean.approve (hp : RegistryClean p) (hc : caller ≠ .self)
    (h : Erc721.approve p caller dst t = some p') : RegistryClean p' :=
  (hp.never.approve hc h).clean

theorem RegistryClean.setApprovalForAll {b : Bool} (hp : RegistryClean p) (hc : caller ≠ .self)
    (h : Erc721.setApprovalForAll p caller dst b = some p') : RegistryClean p' :=
  (hp.never.setApprovalForAll hc h).clean

theorem RegistryClean.mint (hp : RegistryClean p) (h : Erc721.mint p dst t = some p') :
    RegistryClean p' :=
  (hp.never.mint h).clean

theorem RegistryClean.burn (hp : RegistryClean p) (h : Erc721.burn p t = some p') :
    RegistryClean p' :=
  (hp.never.burn h).clean

end Clean

/-! ## §3. KarPassport. -/

/-- `Status.UNVERIFIED`, `VERIFIED`, `DISPUTED`. -/
inductive Status where
  | unverified
  | verified
  | disputed
  deriving Repr, DecidableEq

/-- `IKarPassportEncumbrance.Intent`. -/
inductive Intent where
  | leaveChain
  | openConsignment
  deriving Repr, DecidableEq

/-- The part of KarPassport's storage the modes read.  `sourceAnswer a t i` is what the
    registered source `a` answers to `may(t, i)`; `none` is a source that reverts or
    returns anything but one word. -/
structure KarPassport (P : Type) where
  erc721 : P
  passportStatus : TokenId → Status
  challengeActive : TokenId → Bool
  encumbranceSources : List Address
  sourceAnswer : Address → TokenId → Intent → Option Bool

namespace KarPassport

variable {P : Type} [Erc721 P]

/-- The loop of `may` over the registered sources: the first unanswerable source
    reverts, the first refusal ends the loop. -/
def sourcesMay (answer : Address → Option Bool) : List Address → Except Error Bool
  | [] => .ok true
  | a :: rest =>
    match answer a with
    | none => .error .sourceUnanswerable
    | some false => .ok false
    | some true => sourcesMay answer rest

/-- A loop that ends in permission has asked every source. -/
theorem sourcesMay_mem {answer : Address → Option Bool} {l : List Address}
    (h : sourcesMay answer l = .ok true) {a : Address} (ha : a ∈ l) : answer a = some true := by
  induction l with
  | nil => cases ha
  | cons b rest ih =>
    cases hb : answer b with
    | none => simp [sourcesMay, hb] at h
    | some b' =>
      cases b' with
      | false => simp [sourcesMay, hb] at h
      | true =>
        simp only [sourcesMay, hb] at h
        rcases List.mem_cons.mp ha with rfl | ha
        · exact hb
        · exact ih h ha

/-- KarPassport.sol `may`; `selfMay` is the answer of the mode under study, where it
    is itself a registered source. -/
def may (k : KarPassport P) (selfMay : TokenId → Bool) (t : TokenId) (i : Intent) :
    Except Error Bool := do
  revertIf (Erc721.ownerOf k.erc721 t = none) .nonexistentToken
  if k.challengeActive t then
    pure false
  else
    sourcesMay (fun a => if a = .self then some (selfMay t) else k.sourceAnswer a t i)
      k.encumbranceSources

/-- `isEncumbranceSource(self)`. -/
def isSelfEncumbranceSource (k : KarPassport P) : Bool := k.encumbranceSources.contains .self

/-- `_isHome`: the chain id stands in the high 128 bits of a token id. -/
def isHome (chainId : ℕ) (t : TokenId) : Bool := t / 2 ^ 128 == chainId

/-- Gateway `_debit` for `sender`: a home token is locked with the gateway, a foreign
    representation is burned. -/
def debit (k : KarPassport P) (selfMay : TokenId → Bool) (chainId : ℕ) (sender : Address)
    (t : TokenId) : Except Error (KarPassport P) := do
  let ok ← k.may selfMay t .leaveChain
  require (ok = true) .leaveChainRefused
  if isHome chainId t then
    let p ← orRevert (Erc721.transferFrom k.erc721 .gateway sender .gateway t) .erc721
    pure { k with erc721 := p }
  else
    require (Erc721.ownerOf k.erc721 t = some sender) .leaveChainRefused
    let p ← orRevert (Erc721.burn k.erc721 t) .erc721
    pure { k with erc721 := p
                  passportStatus := fun t' =>
                    if t' = t then .unverified else k.passportStatus t' }

/-- Gateway `_lzReceive` and `recoverLockedHome`: a home token is released to `dst`, a
    foreign token is minted to it; either way it arrives unverified. -/
def receive (k : KarPassport P) (chainId : ℕ) (dst : Address) (t : TokenId) :
    Except Error (KarPassport P) := do
  let p ← orRevert (if isHome chainId t then Erc721.transferFrom k.erc721 .gateway .gateway dst t
                    else Erc721.mint k.erc721 dst t) .erc721
  pure { k with erc721 := p
                passportStatus := fun t' => if t' = t then .unverified else k.passportStatus t' }

end KarPassport

end Kargain.Evm
