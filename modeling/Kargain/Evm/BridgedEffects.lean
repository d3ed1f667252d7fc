/-
  Kargain.Evm.BridgedEffects — what each call does to a passport.

  `View` is what the two properties of this part of the development read
  of one passport, `Shell` what they read of the chain besides.  Every
  operation of Kargain.Evm.BridgedPassport changes the view of one
  passport at most; the lemmas say how.
-/
import Kargain.Evm.BridgedPassport

namespace Kargain.Evm.Bridge

/-! ## §1. Views. -/

/-- Was the passport reset by an unlock of the bridge, and not verified since?  The log is
    newest first. -/
def resetByUnlock (t : TokenId) : List Event → Bool
  | [] => false
  | .custodyLockSet t' isLocked :: log =>
    if t' = t ∧ isLocked = false then true else resetByUnlock t log
  | .passportVerified t' _ :: log => if t' = t then false else resetByUnlock t log
  | _ :: log => resetByUnlock t log

structure View where
  owner : Option Address
  status : Status
  verifier : Address
  verifiedAt : ℕ
  active : Bool
  away : Bool
  reset : Bool

structure Shell where
  now : ℕ
  chainId : ℕ
  nextTokenId : ℕ
  bridgeGateway : Address
  locked : Bool
  inbox : List Packet
  outbox : List Packet

/-- Verification gone, as `_lapseVerification` and the bridge leave it. -/
def View.unverified (v : View) : View :=
  { v with status := .unverified, verifier := .zero, verifiedAt := 0 }

variable {P : Type} [Erc721 P]

namespace Chain

def view (c : Chain P) (t : TokenId) : View where
  owner := c.ownerOf t
  status := c.passportStatus t
  verifier := c.passportVerifier t
  verifiedAt := c.passportVerifiedAt t
  active := c.isChallengeActive t
  away := c.custodyLocked t
  reset := resetByUnlock t c.log

omit [Erc721 P] in
def shell (c : Chain P) : Shell :=
  ⟨c.now, c.chainId, c.nextTokenId, c.bridgeGateway, c.locked, c.inbox, c.outbox⟩

end Chain

/-- The ledger of `c'` keeps the gateway from naming anybody, if that of `c` did. -/
def KeepsNames (c c' : Chain P) : Prop :=
  NeverApproves .gateway c.erc721 → NeverApproves .gateway c'.erc721

/-- The views of `c'` are those of `c`, but for `t`'s, which is `v`. -/
def Views (c c' : Chain P) (t : TokenId) (v : View) : Prop :=
  ∀ t', c'.view t' = if t' = t then v else c.view t'

variable {c c' : Chain P} {s src dst : Address} {t t' : TokenId}

theorem Views.self {v : View} (h : Views c c' t v) : c'.view t = v := by
  rw [h t, if_pos rfl]

theorem Views.other {v : View} (h : Views c c' t v) (ht : t' ≠ t) : c'.view t' = c.view t' := by
  rw [h t', if_neg ht]

/-! ## §2. Ownership. -/

theorem views_transferFrom {p : P} (h : Erc721.transferFrom c.erc721 s src dst t = some p) :
    Views c (c.setErc721 p) t { c.view t with owner := some dst } := by
  intro t'
  simp only [Chain.view, Chain.ownerOf, Chain.setErc721, Erc721.ownerOf_transferFrom h]
  split
  · rename_i ht
    subst ht
    rfl
  · rfl

theorem views_same_owner {p : P} (h : Erc721.ownerOf p = Erc721.ownerOf c.erc721) (t : TokenId) :
    (c.setErc721 p).view t = c.view t := by
  simp only [Chain.view, Chain.ownerOf, Chain.setErc721, h]
  rfl

theorem mint_some_none {p : P} (h : Erc721.mint c.erc721 dst t = some p) :
    c.ownerOf t = none ∧ dst ≠ .zero :=
  (Erc721.mint_isSome c.erc721 dst t).mp (by rw [h]; rfl)

/-! ## §3. The gateway's side of the passport. -/

theorem setCustodyLock_ok {b : Bool} (h : setCustodyLock c s t b = .ok c') :
    s = c.bridgeGateway ∧ c.isHome t = true ∧ c'.shell = c.shell ∧ c'.erc721 = c.erc721 ∧
      Views c c' t { c.view t with
        away := b, reset := if b = false then true else (c.view t).reset } := by
  simp only [setCustodyLock, onlyGateway, Chain.requireExists, bind_ok, require_ok, revertIf_ok,
    pure_ok, exists_const] at h
  obtain ⟨hs, hh, -, rfl⟩ := h
  refine ⟨hs, hh, rfl, rfl, fun t' => ?_⟩
  by_cases ht : t' = t
  · subst ht
    cases b <;> simp [Chain.view, Chain.emit, Chain.setLock, Chain.ownerOf,
      Chain.isChallengeActive, resetByUnlock]
  · have ht' : t ≠ t' := fun e => ht e.symm
    simp [Chain.view, Chain.emit, Chain.setLock, Chain.ownerOf, Chain.isChallengeActive,
      resetByUnlock, ht, ht']

theorem bridgeMint_ok (h : bridgeMint c s dst t = .ok c') :
    s = c.bridgeGateway ∧ c.isHome t = false ∧ c.ownerOf t = none ∧ c'.shell = c.shell ∧
      KeepsNames c c' ∧ Views c c' t { c.view t with owner := some dst, status := .unverified } := by
  simp only [bridgeMint, onlyGateway, bind_ok, require_ok, revertIf_ok, orRevert_ok, pure_ok,
    exists_const, Bool.not_eq_true] at h
  obtain ⟨hs, hh, hn, p, hp, rfl⟩ := h
  refine ⟨hs, hh, hn, rfl, fun hk => hk.mint hp, fun t' => ?_⟩
  by_cases ht : t' = t
  · subst ht
    simp [Chain.view, Chain.setErc721, Chain.setStatus, Chain.ownerOf, Chain.isChallengeActive,
      Erc721.ownerOf_mint hp]
  · simp [Chain.view, Chain.setErc721, Chain.setStatus, Chain.ownerOf, Chain.isChallengeActive,
      Erc721.ownerOf_mint hp, ht]

theorem bridgeMintFinish_ok {uri : Uri} (h : bridgeMintFinish c dst t uri = .ok c') :
    c'.shell = c.shell ∧ c'.erc721 = c.erc721 ∧ ∀ t', c'.view t' = c.view t' := by
  simp only [bridgeMintFinish, setTokenURIChecked, bind_ok, revertIf_ok, pure_ok,
    exists_const] at h
  obtain ⟨_, ⟨-, rfl⟩, rfl⟩ := h
  exact ⟨rfl, rfl, fun _ => rfl⟩

theorem bridgeBurn_ok (h : bridgeBurn c s t = .ok c') :
    s = c.bridgeGateway ∧ c.isHome t = false ∧ c'.shell = c.shell ∧ KeepsNames c c' ∧
      Views c c' t { (c.view t).unverified with owner := none } := by
  simp only [bridgeBurn, onlyGateway, Chain.requireExists, bind_ok, require_ok, revertIf_ok,
    orRevert_ok, pure_ok, exists_const, Bool.not_eq_true] at h
  obtain ⟨hs, hh, -, p, hp, rfl⟩ := h
  refine ⟨hs, hh, rfl, fun hk => hk.burn hp, fun t' => ?_⟩
  by_cases ht : t' = t
  · subst ht
    simp [Chain.view, View.unverified, Chain.setErc721, Chain.setTrust, Chain.emit, Chain.ownerOf,
      Chain.isChallengeActive, resetByUnlock, Erc721.ownerOf_burn hp]
  · simp [Chain.view, Chain.setErc721, Chain.setTrust, Chain.emit, Chain.ownerOf,
      Chain.isChallengeActive, resetByUnlock, Erc721.ownerOf_burn hp, ht]

theorem bridgeResetOnUnlock_ok {uri : Uri} (h : bridgeResetOnUnlock c s t uri = .ok c') :
    s = c.bridgeGateway ∧ c.isHome t = true ∧ c'.shell = c.shell ∧ c'.erc721 = c.erc721 ∧
      Views c c' t { (c.view t).unverified with away := false, reset := true } := by
  simp only [bridgeResetOnUnlock, onlyGateway, Chain.requireExists, bind_ok, require_ok,
    revertIf_ok, pure_ok, exists_const] at h
  obtain ⟨hs, hh, -, c₁, h₁, rfl⟩ := h
  -- neither the reset event nor the adopted URI is in view
  generalize hc₀ : (if c.passportStatus t = .verified then
    (c.setTrust t .unverified .zero 0).emit
      (.verificationReset t (c.setTrust t .unverified .zero 0).bridgeGateway)
    else c.setTrust t .unverified .zero 0) = c₀ at h₁
  have hsame : c₀.shell = c.shell ∧ c₀.erc721 = c.erc721 ∧ Views c c₀ t (c.view t).unverified := by
    subst hc₀
    split <;> refine ⟨rfl, rfl, fun t' => ?_⟩ <;> by_cases ht : t' = t <;>
      simp [Chain.view, View.unverified, Chain.setTrust, Chain.emit, Chain.ownerOf,
        Chain.isChallengeActive, resetByUnlock, ht]
  have huri : c₁.shell = c₀.shell ∧ c₁.erc721 = c₀.erc721 ∧ ∀ t', c₁.view t' = c₀.view t' := by
    split at h₁
    · simp only [setTokenURIChecked, bind_ok, revertIf_ok, pure_ok, exists_const] at h₁
      obtain ⟨_, ⟨-, rfl⟩, rfl⟩ := h₁
      exact ⟨rfl, rfl, fun _ => rfl⟩
    · obtain rfl := pure_ok.mp h₁
      exact ⟨rfl, rfl, fun _ => rfl⟩
  refine ⟨hs, hh, ?_, huri.2.1.trans hsame.2.1, fun t' => ?_⟩
  · exact (show _ = c₁.shell from rfl).trans (huri.1.trans hsame.1)
  · have hv : c₁.view t' = if t' = t then (c.view t).unverified else c.view t' :=
      (huri.2.2 t').trans (hsame.2.2 t')
    by_cases ht : t' = t
    · subst ht
      rw [if_pos rfl] at hv ⊢
      rw [← hv]
      simp [Chain.view, Chain.emit, Chain.setLock, Chain.ownerOf, Chain.isChallengeActive,
        resetByUnlock]
    · have ht' : t ≠ t' := fun e => ht e.symm
      rw [if_neg ht] at hv ⊢
      rw [← hv]
      simp [Chain.view, Chain.emit, Chain.setLock, Chain.ownerOf, Chain.isChallengeActive,
        resetByUnlock, ht, ht']

/-! ## §4. Everybody's side. -/

omit [Erc721 P] in
theorem enter_ok (h : enter c = .ok c') : c.locked = false ∧ c' = { c with locked := true } := by
  simp only [enter, bind_ok, revertIf_ok, pure_ok, exists_const, Bool.not_eq_true] at h
  exact ⟨h.1, h.2.symm⟩

theorem mintPassport_ok (h : mintPassport c dst = .ok c') :
    c.locked = false ∧ c.ownerOf c.nextTokenId = none ∧
      c.nextTokenId % 2 ^ 128 ≠ 2 ^ 128 - 1 ∧
      c'.shell = { c.shell with locked := true, nextTokenId := c.nextTokenId + 1 } ∧
      KeepsNames c c' ∧ Views c c' c.nextTokenId
        { c.view c.nextTokenId with owner := some dst, status := .unverified } := by
  simp only [mintPassport, bind_ok, revertIf_ok, orRevert_ok, pure_ok, exists_const] at h
  obtain ⟨c₁, h₁, hx, p, hp, rfl⟩ := h
  obtain ⟨hl, rfl⟩ := enter_ok h₁
  refine ⟨hl, (mint_some_none hp).1, hx, rfl, fun hk => hk.mint hp, fun t' => ?_⟩
  by_cases ht : t' = c.nextTokenId
  · simp [Chain.view, Chain.setErc721, Chain.setStatus, Chain.ownerOf, Chain.isChallengeActive,
      Erc721.ownerOf_mint hp, ht]
  · simp [Chain.view, Chain.setErc721, Chain.setStatus, Chain.ownerOf, Chain.isChallengeActive,
      Erc721.ownerOf_mint hp, ht]

theorem mintPassportFinish_ok {uri : Uri} (h : mintPassportFinish c dst t uri = .ok c') :
    c'.shell = { c.shell with locked := false } ∧ c'.erc721 = c.erc721 ∧
      ∀ t', c'.view t' = c.view t' := by
  simp only [mintPassportFinish, setTokenURIChecked, bind_ok, revertIf_ok, pure_ok,
    exists_const] at h
  obtain ⟨_, ⟨-, rfl⟩, rfl⟩ := h
  exact ⟨rfl, rfl, fun _ => rfl⟩

/-- An edit of the URI unverifies a verified passport, and is refused on a disputed one. -/
theorem setPassportURI_ok {uri : Uri} (h : setPassportURI c s t uri = .ok c') :
    c.locked = false ∧ c'.shell = c.shell ∧ c'.erc721 = c.erc721 ∧
      (c.view t).status ≠ .disputed ∧ Views c c' t (if (c.view t).status = .verified then (c.view t).unverified
        else c.view t) := by
  simp only [setPassportURI, Chain.requireExists, Chain.requireNotBridgedAway, setTokenURIChecked,
    bind_ok, revertIf_ok, require_ok, pure_ok, exists_const] at h
  obtain ⟨c₁, h₁, -, -, -, -, hd, -, c₂, ⟨-, rfl⟩, rfl⟩ := h
  obtain ⟨hl, rfl⟩ := enter_ok h₁
  refine ⟨hl, ?_, ?_, hd, fun t' => ?_⟩
  · simp only [Chain.shell, leave, Chain.emit]
    split <;> simp [hl, Chain.setTrust]
  · simp only [leave, Chain.emit]
    split <;> rfl
  · by_cases ht : t' = t <;> by_cases hv : c.passportStatus t = .verified <;>
      simp [Chain.view, View.unverified, Chain.setTrust, Chain.emit, Chain.ownerOf, leave,
        Chain.isChallengeActive, resetByUnlock, ht, hv]

theorem verifyPassport_ok (h : verifyPassport c s t = .ok c') :
    c.locked = false ∧ c'.shell = c.shell ∧ c'.erc721 = c.erc721 ∧
      (c.view t).status = .unverified ∧ Views c c' t { c.view t with
        status := .verified, verifier := s, verifiedAt := c.now, reset := false } := by
  simp only [verifyPassport, Chain.requireExists, Chain.requireNotBridgedAway, bind_ok,
    revertIf_ok, require_ok, pure_ok, exists_const] at h
  obtain ⟨c₁, h₁, -, -, -, -, hu, rfl⟩ := h
  obtain ⟨hl, rfl⟩ := enter_ok h₁
  refine ⟨hl, by simp [Chain.shell, leave, Chain.emit, Chain.setTrust, hl], rfl, hu,
    fun t' => ?_⟩
  by_cases ht : t' = t
  · subst ht
    simp [Chain.view, Chain.setTrust, Chain.emit, Chain.ownerOf, leave, Chain.isChallengeActive,
      resetByUnlock]
  · have ht' : t ≠ t' := fun e => ht e.symm
    simp [Chain.view, Chain.setTrust, Chain.emit, Chain.ownerOf, leave, Chain.isChallengeActive,
      resetByUnlock, ht, ht']

theorem openDispute_ok {value : ℕ} (h : openDispute c s t value = .ok c') :
    c.locked = false ∧ c'.shell = c.shell ∧ c'.erc721 = c.erc721 ∧
      (c.view t).status = .verified ∧ (c.view t).owner ≠ none ∧ (c.view t).away = false ∧
      Views c c' t { c.view t with status := .disputed, active := c.now != 0 } := by
  simp only [openDispute, openChallenge, Chain.requireExists, Chain.requireNotBridgedAway,
    bind_ok, revertIf_ok, require_ok, pure_ok, exists_const, Bool.not_eq_true] at h
  obtain ⟨c₁, h₁, he, hv, c₂, ⟨-, ha, -, -, total, -, rfl⟩, rfl⟩ := h
  obtain ⟨hl, rfl⟩ := enter_ok h₁
  refine ⟨hl, by simp [Chain.shell, leave, Chain.emit, Chain.setStatus, Chain.setChallenge, hl],
    rfl, hv, he, ha, fun t' => ?_⟩
  by_cases ht : t' = t
  · subst ht
    simp [Chain.view, Chain.setStatus, Chain.setChallenge, Chain.emit, Chain.ownerOf, leave,
      Chain.isChallengeActive, resetByUnlock]
  · simp [Chain.view, Chain.setStatus, Chain.setChallenge, Chain.emit, Chain.ownerOf, leave,
      Chain.isChallengeActive, resetByUnlock, ht]

/-- Clearing a challenge, under the guard. -/
theorem views_cleared {total : ℕ} :
    Views c ({ c with locked := true }.setChallenge t .empty total) t
      { c.view t with active := false } := by
  intro t'
  by_cases ht : t' = t
  · subst ht
    simp [Chain.view, Chain.setChallenge, Chain.ownerOf, Chain.isChallengeActive, Challenge.empty]
  · simp [Chain.view, Chain.setChallenge, Chain.ownerOf, Chain.isChallengeActive, ht]

theorem withdraw_ok (h : withdraw c s t = .ok c') :
    c.locked = false ∧ c'.shell = { c.shell with locked := true } ∧ c'.erc721 = c.erc721 ∧
      (c.view t).active = true ∧ Views c c' t { c.view t with active := false } := by
  simp only [withdraw, Chain.requireNotBridgedAway, requireActiveChallenge,
    clearChallengeAccounting, bind_ok, revertIf_ok, require_ok, pure_ok, exists_const] at h
  obtain ⟨c₁, h₁, -, ch, ⟨ha, -⟩, -, -, -, c₂, ⟨total, -, rfl⟩, -, rfl⟩ := h
  obtain ⟨hl, rfl⟩ := enter_ok h₁
  exact ⟨hl, rfl, rfl, ha, views_cleared⟩

theorem judge_ok {outcome : JudgeOutcome} (h : judge c s t outcome = .ok c') :
    c.locked = false ∧ c'.shell = { c.shell with locked := true } ∧ c'.erc721 = c.erc721 ∧
      (c.view t).active = true ∧ Views c c' t { c.view t with active := false } := by
  simp only [judge, Chain.requireNotBridgedAway, requireActiveChallenge,
    clearChallengeAccounting, bind_ok, revertIf_ok, require_ok, orRevert_ok, pure_ok,
    exists_const] at h
  obtain ⟨c₁, h₁, -, ch, ⟨ha, -⟩, -, -, holder, -, -, -, c₂, ⟨total, -, rfl⟩, -, rfl⟩ := h
  obtain ⟨hl, rfl⟩ := enter_ok h₁
  exact ⟨hl, rfl, rfl, ha, views_cleared⟩

theorem conclude_ok (h : conclude c t = .ok c') :
    c.locked = false ∧ c'.shell = { c.shell with locked := true } ∧ c'.erc721 = c.erc721 ∧
      (c.view t).active = true ∧ Views c c' t { c.view t with active := false } := by
  simp only [conclude, Chain.requireNotBridgedAway, requireActiveChallenge,
    clearChallengeAccounting, bind_ok, revertIf_ok, require_ok, pure_ok, exists_const] at h
  obtain ⟨c₁, h₁, -, ch, ⟨ha, -⟩, -, -, c₂, ⟨total, -, rfl⟩, -, rfl⟩ := h
  obtain ⟨hl, rfl⟩ := enter_ok h₁
  exact ⟨hl, rfl, rfl, ha, views_cleared⟩

/-- A challenge that stands down leaves the passport verified, as it was before it. -/
theorem views_stood {e : Event} (he : ∀ t', resetByUnlock t' (e :: c.log) = resetByUnlock t' c.log) :
    Views c (leave (((c.emit e).setStatus t .verified).emit (.verificationStood t))) t
      { c.view t with status := .verified } := by
  intro t'
  by_cases ht : t' = t
  · subst ht
    simp [Chain.view, Chain.setStatus, Chain.emit, Chain.ownerOf, leave, Chain.isChallengeActive,
      resetByUnlock, he]
  · simp [Chain.view, Chain.setStatus, Chain.emit, Chain.ownerOf, leave, Chain.isChallengeActive,
      resetByUnlock, he, ht]

theorem views_lapsed {e : Event} (he : ∀ t', resetByUnlock t' (e :: c.log) = resetByUnlock t' c.log) :
    Views c (leave (lapseVerification (c.emit e) t)) t (c.view t).unverified := by
  intro t'
  by_cases ht : t' = t
  · subst ht
    simp [Chain.view, View.unverified, lapseVerification, Chain.setTrust, Chain.emit,
      Chain.ownerOf, leave, Chain.isChallengeActive, resetByUnlock, he]
  · simp [Chain.view, lapseVerification, Chain.setTrust, Chain.emit, Chain.ownerOf, leave,
      Chain.isChallengeActive, resetByUnlock, he, ht]

/-! ## §5. The gateway. -/

theorem may_active {i : Intent} (h : c.may t i = .ok true) : c.isChallengeActive t = false := by
  simp only [Chain.may, bind_ok] at h
  obtain ⟨_, -, h⟩ := h
  split at h
  · cases h
  · rename_i ha
    simpa using ha

/-- A passport leaves: a home token is locked with the gateway, a representation is burned. -/
theorem send_ok {dstEid : ℕ} {receiver : Bytes32} (h : send c s dstEid receiver t = .ok c') :
    (c.view t).active = false ∧ (c.view t).owner = some s ∧ c.bridgeGateway = .gateway ∧
      c'.shell = { c.shell with outbox := ⟨dstEid, receiver, t, c.tokenURI t⟩ :: c.outbox } ∧
      KeepsNames c c' ∧ Views c c' t (if c.isHome t then { c.view t with owner := some .gateway, away := true }
        else { (c.view t).unverified with owner := none }) := by
  simp only [send, debit, bind_ok, revertIf_ok, require_ok, pure_ok, exists_const] at h
  obtain ⟨-, -, -, c₁, ⟨ok, hmay, rfl, h₁⟩, rfl⟩ := h
  refine ⟨may_active hmay, ?_⟩
  split at h₁
  · rename_i hh
    simp only [bind_ok, orRevert_ok] at h₁
    obtain ⟨p, hp, h₁⟩ := h₁
    obtain ⟨hg, -, hsh, he, hv⟩ := setCustodyLock_ok h₁
    refine ⟨(Erc721.transferFrom_some hp).1, hg.symm, ?_, fun hk => ?_, fun t' => ?_⟩
    · simp only [Chain.shell, Shell.mk.injEq] at hsh ⊢
      simp_all [Chain.setErc721]
    · exact he ▸ hk.transferFrom hp
    · have hm := views_transferFrom hp t'
      have hs : (c.setErc721 p).view t = _ := (views_transferFrom hp).self
      refine (show _ = c₁.view t' from rfl).trans ((hv t').trans ?_)
      rw [hm, hs, if_pos hh]
      by_cases ht : t' = t <;> simp [ht]
  · rename_i hh
    simp only [bind_ok, require_ok, exists_const] at h₁
    obtain ⟨ho, h₁⟩ := h₁
    obtain ⟨hg, -, hsh, hk, hv⟩ := bridgeBurn_ok h₁
    refine ⟨ho, hg.symm, ?_, hk, fun t' => ?_⟩
    · simp only [Chain.shell, Shell.mk.injEq] at hsh ⊢
      simp_all
    · rw [if_neg hh]
      exact (show _ = c₁.view t' from rfl).trans (hv t')

/-- A home token is unlocked for `dst` by the gateway, which holds it. -/
theorem unlock_ok {uri : Uri} {c₁ : Chain P} {p : P}
    (h : bridgeResetOnUnlock c .gateway t uri = .ok c₁)
    (hp : Erc721.transferFrom c₁.erc721 .gateway .gateway dst t = some p) :
    (c.view t).owner = some .gateway ∧ c.isHome t = true ∧ c.bridgeGateway = .gateway ∧
      (c₁.setErc721 p).shell = c.shell ∧ KeepsNames c (c₁.setErc721 p) ∧ Views c (c₁.setErc721 p) t
        { (c.view t).unverified with owner := some dst, away := false, reset := true } := by
  obtain ⟨hg, hh, hsh, he, hv⟩ := bridgeResetOnUnlock_ok h
  refine ⟨?_, hh, hg.symm, (show _ = c₁.shell from rfl).trans hsh,
    fun hk => NeverApproves.transferFrom (he ▸ hk) hp, fun t' => ?_⟩
  · have := (Erc721.transferFrom_some hp).1
    rwa [he] at this
  · rw [views_transferFrom hp t', hv.self, hv t']
    by_cases ht : t' = t <;> simp [ht]

theorem recoverLockedHome_ok (h : recoverLockedHome c s t dst = .ok c') :
    (c.view t).owner = some .gateway ∧ c.isHome t = true ∧ c'.shell = c.shell ∧
      Views c c' t
        { (c.view t).unverified with owner := some dst, away := false, reset := true } := by
  simp only [recoverLockedHome, bind_ok, revertIf_ok, require_ok, orRevert_ok, pure_ok,
    exists_const] at h
  obtain ⟨-, -, -, -, c₁, h₁, p, hp, rfl⟩ := h
  obtain ⟨ho, hh, -, hsh, -, hv⟩ := unlock_ok h₁ hp
  exact ⟨ho, hh, (show _ = (c₁.setErc721 p).shell from rfl).trans hsh, hv⟩

/-- A passport arrives: a home token is unlocked, a representation is minted. -/
theorem lzReceive_ok {m : Packet} (h : lzReceive c m = .ok c') :
    m ∈ c.inbox ∧ c.bridgeGateway = .gateway ∧
      c'.shell = { c.shell with inbox := c.inbox.erase m } ∧ KeepsNames c c' ∧
      (if c.isHome m.tokenId then (c.view m.tokenId).owner = some .gateway
        else (c.view m.tokenId).owner = none) ∧
      Views c c' m.tokenId (if c.isHome m.tokenId then
          { (c.view m.tokenId).unverified with
            owner := some m.sendTo.low, away := false, reset := true }
        else { c.view m.tokenId with owner := some m.sendTo.low, status := .unverified }) := by
  simp only [lzReceive, bind_ok, require_ok, exists_const] at h
  obtain ⟨hm, h⟩ := h
  refine ⟨hm, ?_⟩
  split at h
  · rename_i hh
    simp only [bind_ok, orRevert_ok, pure_ok] at h
    obtain ⟨c₁, h₁, p, hp, rfl⟩ := h
    obtain ⟨ho, -, hg, hsh, hk, hv⟩ := unlock_ok h₁ hp
    have hh' : c.isHome m.tokenId = true := hh
    rw [if_pos hh', if_pos hh']
    exact ⟨hg, hsh, hk, ho, hv⟩
  · rename_i hh
    obtain ⟨hg, -, ho, hsh, hk, hv⟩ := bridgeMint_ok h
    have hh' : ¬ c.isHome m.tokenId = true := hh
    rw [if_neg hh', if_neg hh']
    exact ⟨hg.symm, hsh, hk, ho, hv⟩

theorem lzReceiveFinish_ok {m : Packet} (h : lzReceiveFinish c m = .ok c') :
    c'.shell = c.shell ∧ c'.erc721 = c.erc721 ∧ ∀ t', c'.view t' = c.view t' := by
  simp only [lzReceiveFinish, bind_ok, pure_ok] at h
  obtain ⟨c₁, h₁, rfl⟩ := h
  split at h₁
  · obtain rfl := pure_ok.mp h₁
    exact ⟨rfl, rfl, fun _ => rfl⟩
  · obtain ⟨hsh, he, hv⟩ := bridgeMintFinish_ok h₁
    exact ⟨hsh, he, hv⟩

end Kargain.Evm.Bridge
