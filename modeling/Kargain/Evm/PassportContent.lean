/-
  Kargain.Evm.PassportContent — the URI of a passport and its verification.

  A passport is verified for what its URI says.  The owner's edit takes
  the verification away first, and a home passport that comes back loses
  it.  A mint and an arrival abroad write the URI last, after the receiver
  has had its turn, and only the mint holds the guard meanwhile: in the
  turn of an arrival the passport can be verified under the URI of an
  earlier stay, or none, and be sent on with it.  The mint on its part
  asks for no URI at all.

  Main results: `content_law`, what holds at every point of every run in
  which this does not happen; `content_fails`, runs in which it does.
-/
import Kargain.Evm.MessageChanges
import Kargain.Evm.SingleRepresentation

namespace Kargain.Evm.Bridge

variable {P : Type} [Erc721 P]

/-! ## §1. What the log says of a URI. -/

/-- The URI a passport was created with or last edited to.  The log is newest first. -/
def lastUri (t : TokenId) : List Event → Option Uri
  | [] => none
  | .passportMinted _ t' uri :: log => if t' = t then some uri else lastUri t log
  | .passportBridgeMinted _ t' uri :: log => if t' = t then some uri else lastUri t log
  | .passportURIUpdated t' uri _ :: log => if t' = t then some uri else lastUri t log
  | _ :: log => lastUri t log

/-- The URI of a passport, and what the log says it is. -/
structure Content where
  uri : Uri
  said : Option Uri

omit [Erc721 P] in
def Chain.content (c : Chain P) (t : TokenId) : Content := ⟨c.tokenURI t, lastUri t c.log⟩

/-- A URI that was just written. -/
def Content.written (uri : Uri) : Content := ⟨uri, some uri⟩

section Content

variable {c c' c₁ c₂ : Chain P} {s : Address} {t t' : TokenId} {uri : Uri}

theorem setPassportURI_content (h : setPassportURI c s t uri = .ok c') :
    uri ≠ [] ∧ ∀ t', c'.content t' = if t' = t then .written uri else c.content t' := by
  simp only [setPassportURI, Chain.requireExists, Chain.requireNotBridgedAway, setTokenURIChecked,
    bind_ok, revertIf_ok, require_ok, pure_ok, exists_const] at h
  obtain ⟨c₁, h₁, -, -, -, hne, -, -, c₂, ⟨-, rfl⟩, rfl⟩ := h
  obtain ⟨-, rfl⟩ := enter_ok h₁
  refine ⟨hne, fun t' => ?_⟩
  by_cases ht : t' = t
  · subst ht
    simp [Chain.content, Content.written, leave, Chain.emit, lastUri]
  · have ht' : t ≠ t' := fun e => ht e.symm
    by_cases hv : c.passportStatus t = .verified <;>
      simp [Chain.content, leave, Chain.emit, Chain.setTrust, lastUri, ht, ht', hv]

/-- An unlock adopts a URI that is there and differs. -/
theorem bridgeResetOnUnlock_content (h : bridgeResetOnUnlock c s t uri = .ok c') (t' : TokenId) :
    c'.content t' = if t' = t ∧ uri ≠ [] ∧ uri ≠ c.tokenURI t then .written uri
      else c.content t' := by
  simp only [bridgeResetOnUnlock, onlyGateway, Chain.requireExists, bind_ok, require_ok,
    revertIf_ok, pure_ok, exists_const] at h
  obtain ⟨-, -, -, c₁, h₁, rfl⟩ := h
  generalize hc₀ : (if c.passportStatus t = .verified then
    (c.setTrust t .unverified .zero 0).emit
      (.verificationReset t (c.setTrust t .unverified .zero 0).bridgeGateway)
    else c.setTrust t .unverified .zero 0) = c₀ at h₁
  have hsame : ∀ t', c₀.content t' = c.content t' := by
    intro t'
    subst hc₀
    split <;> rfl
  have huri : c₀.tokenURI t = c.tokenURI t := congrArg Content.uri (hsame t)
  show c₁.content t' = _
  rw [huri] at h₁
  split at h₁
  · rename_i hadopt
    simp only [setTokenURIChecked, bind_ok, revertIf_ok, pure_ok, exists_const] at h₁
    obtain ⟨_, ⟨-, rfl⟩, rfl⟩ := h₁
    by_cases ht : t' = t
    · subst ht
      rw [if_pos ⟨rfl, hadopt⟩]
      simp [Chain.content, Content.written, Chain.emit, lastUri]
    · have ht' : t ≠ t' := fun e => ht e.symm
      rw [if_neg fun hn => ht hn.1, ← hsame t']
      simp [Chain.content, Chain.emit, lastUri, ht, ht']
  · rename_i hadopt
    obtain rfl := pure_ok.mp h₁
    rw [if_neg fun hn => hadopt hn.2]
    exact hsame t'

/-- A passport that comes home has the URI the message brings. -/
theorem unlocked_uri (h : bridgeResetOnUnlock c s t uri = .ok c') (hne : uri ≠ []) :
    c'.tokenURI t = uri := by
  have hc := congrArg Content.uri (bridgeResetOnUnlock_content h t)
  by_cases hu : uri = c.tokenURI t
  · rw [if_neg fun hn => hn.2.2 hu] at hc
    exact hc.trans hu.symm
  · rw [if_pos ⟨rfl, hne, hu⟩] at hc
    exact hc

/-- The first half of a delivery to its home. -/
theorem lzReceive_unlocks {m : Packet} (h : lzReceive c m = .ok c') (hh : c.isHome m.tokenId = true) :
    ∃ c₁, bridgeResetOnUnlock { c with inbox := c.inbox.erase m } .gateway m.tokenId m.uri = .ok c₁ ∧
      ∀ t, c'.content t = c₁.content t := by
  simp only [lzReceive, bind_ok, require_ok, exists_const] at h
  obtain ⟨-, h⟩ := h
  have hh' : ({ c with inbox := c.inbox.erase m } : Chain P).isHome m.tokenId = true := hh
  rw [if_pos hh'] at h
  simp only [bind_ok, orRevert_ok, pure_ok] at h
  obtain ⟨c₁, h₁, p, -, rfl⟩ := h
  exact ⟨c₁, h₁, fun _ => rfl⟩

theorem lzReceive_mints {m : Packet} (h : lzReceive c m = .ok c') (hh : c.isHome m.tokenId = false)
    (t : TokenId) : c'.content t = c.content t := by
  simp only [lzReceive, bind_ok, require_ok, exists_const] at h
  obtain ⟨-, h⟩ := h
  have hh' : ¬ ({ c with inbox := c.inbox.erase m } : Chain P).isHome m.tokenId = true := by
    simpa [Chain.isHome] using hh
  rw [if_neg hh'] at h
  simp only [bridgeMint, bind_ok, orRevert_ok, pure_ok] at h
  obtain ⟨_, -, _, -, _, -, p, -, rfl⟩ := h
  rfl

/-- **The first half of a call writes a URI only where it leaves the passport unverified.** -/
theorem begin_content {call : Call} (h : begin c s call = .ok c') (t : TokenId) :
    c'.content t = c.content t ∨
      ∃ uri, uri ≠ [] ∧ c'.content t = .written uri ∧ c'.passportStatus t ≠ .verified := by
  cases call with
  | transferFrom src dst t' | safeTransferFrom src dst t' =>
    simp only [begin, bind_ok, orRevert_ok, pure_ok] at h
    obtain ⟨p, -, rfl⟩ := h
    exact .inl rfl
  | approve spender t' =>
    simp only [begin, bind_ok, orRevert_ok, pure_ok] at h
    obtain ⟨p, -, rfl⟩ := h
    exact .inl rfl
  | setApprovalForAll operator b =>
    simp only [begin, bind_ok, orRevert_ok, pure_ok] at h
    obtain ⟨p, -, rfl⟩ := h
    exact .inl rfl
  | mintPassport dst uri =>
    simp only [begin, mintPassport, bind_ok, revertIf_ok, orRevert_ok, pure_ok,
      exists_const] at h
    obtain ⟨c₁, h₁, -, p, -, rfl⟩ := h
    obtain ⟨-, rfl⟩ := enter_ok h₁
    exact .inl rfl
  | setPassportURI t' uri =>
    obtain ⟨hne, hc⟩ := setPassportURI_content h
    obtain ⟨-, -, -, hd, hv⟩ := setPassportURI_ok h
    have hct := hc t
    by_cases ht : t = t'
    · subst ht
      rw [if_pos rfl] at hct
      refine .inr ⟨uri, hne, hct, fun hs => ?_⟩
      -- what was verified is unverified now, and nothing else was verified
      have hview := congrArg View.status hv.self
      rw [show (c'.view t).status = c'.passportStatus t from rfl, hs] at hview
      split at hview
      · cases hview
      · rename_i hn
        exact hn hview.symm
    · rw [if_neg ht] at hct
      exact .inl hct
  | verifyPassport t' =>
    simp only [begin, verifyPassport, bind_ok, pure_ok] at h
    obtain ⟨c₁, h₁, _, -, _, -, _, -, _, -, _, -, rfl⟩ := h
    obtain ⟨-, rfl⟩ := enter_ok h₁
    exact .inl rfl
  | openDispute t' value =>
    simp only [begin, openDispute, openChallenge, bind_ok, pure_ok] at h
    obtain ⟨c₁, h₁, _, -, _, -, c₂, ⟨_, -, _, -, _, -, _, -, total, -, rfl⟩, rfl⟩ := h
    obtain ⟨-, rfl⟩ := enter_ok h₁
    refine .inl ?_
    simp only [Chain.content, leave, Chain.emit, Chain.setStatus, Chain.setChallenge, lastUri]
  | withdraw t' =>
    simp only [begin, withdraw, clearChallengeAccounting, bind_ok, pure_ok] at h
    obtain ⟨c₁, h₁, _, -, ch, -, _, -, _, -, c₂, ⟨total, -, rfl⟩, _, -, rfl⟩ := h
    obtain ⟨-, rfl⟩ := enter_ok h₁
    exact .inl rfl
  | judge t' outcome =>
    simp only [begin, judge, clearChallengeAccounting, bind_ok, pure_ok] at h
    obtain ⟨c₁, h₁, _, -, ch, -, _, -, holder, -, _, -, _, -, c₂, ⟨total, -, rfl⟩, _, -, rfl⟩ := h
    obtain ⟨-, rfl⟩ := enter_ok h₁
    exact .inl rfl
  | conclude t' =>
    simp only [begin, conclude, clearChallengeAccounting, bind_ok, pure_ok] at h
    obtain ⟨c₁, h₁, _, -, ch, -, _, -, c₂, ⟨total, -, rfl⟩, _, -, rfl⟩ := h
    obtain ⟨-, rfl⟩ := enter_ok h₁
    exact .inl rfl
  | setDisputeDeposit amount =>
    simp only [begin, setDisputeDeposit, bind_ok, pure_ok] at h
    obtain ⟨_, -, _, -, rfl⟩ := h
    exact .inl rfl
  | addEncumbranceSource source =>
    simp only [begin, addEncumbranceSource, bind_ok, pure_ok] at h
    obtain ⟨_, -, _, -, _, -, _, -, rfl⟩ := h
    exact .inl rfl
  | removeEncumbranceSource source =>
    simp only [begin, removeEncumbranceSource, bind_ok, pure_ok] at h
    obtain ⟨_, -, _, -, rfl⟩ := h
    exact .inl rfl
  | setBridgeGateway =>
    simp only [begin, setBridgeGateway, bind_ok, pure_ok] at h
    obtain ⟨_, -, _, -, _, -, rfl⟩ := h
    exact .inl rfl
  | setCustodyLock t' b =>
    simp only [begin, setCustodyLock, bind_ok, pure_ok] at h
    obtain ⟨_, -, _, -, _, -, rfl⟩ := h
    exact .inl rfl
  | bridgeMint dst t' uri =>
    simp only [begin, bridgeMint, bind_ok, pure_ok] at h
    obtain ⟨_, -, _, -, _, -, p, -, rfl⟩ := h
    exact .inl rfl
  | bridgeBurn t' =>
    simp only [begin, bridgeBurn, bind_ok, pure_ok] at h
    obtain ⟨_, -, _, -, _, -, p, -, rfl⟩ := h
    exact .inl rfl
  | bridgeResetOnUnlock t' uri =>
    obtain ⟨-, -, -, -, hv⟩ := bridgeResetOnUnlock_ok h
    have hct := bridgeResetOnUnlock_content h t
    split at hct
    · rename_i ht
      obtain ⟨rfl, hne, -⟩ := ht
      refine .inr ⟨uri, hne, hct, fun hs => ?_⟩
      have hview := congrArg View.status hv.self
      rw [show (c'.view t).status = c'.passportStatus t from rfl, hs] at hview
      cases hview
    · exact .inl hct
  | send dstEid dst t' =>
    simp only [begin, send, debit, setCustodyLock, bridgeBurn, bind_ok, pure_ok] at h
    obtain ⟨_, -, _, -, _, -, c₁, ⟨ok, -, _, -, h₁⟩, rfl⟩ := h
    split at h₁
    · simp only [bind_ok, pure_ok] at h₁
      obtain ⟨p, -, _, -, _, -, _, -, rfl⟩ := h₁
      exact .inl rfl
    · simp only [bind_ok, pure_ok] at h₁
      obtain ⟨_, -, _, -, _, -, _, -, p, -, rfl⟩ := h₁
      exact .inl rfl
  | lzReceive m =>
    obtain ⟨-, -, -, -, -, hv⟩ := lzReceive_ok h
    by_cases hh : c.isHome m.tokenId = true
    · obtain ⟨c₁, h₁, hc⟩ := lzReceive_unlocks h hh
      have hct := bridgeResetOnUnlock_content h₁ t
      rw [← hc t] at hct
      split at hct
      · rename_i ht
        obtain ⟨rfl, hne, -⟩ := ht
        refine .inr ⟨m.uri, hne, hct, fun hs => ?_⟩
        have hview := congrArg View.status hv.self
        rw [if_pos hh, show (c'.view m.tokenId).status = c'.passportStatus m.tokenId from rfl,
          hs] at hview
        cases hview
      · exact .inl hct
    · exact .inl (lzReceive_mints h (by simpa using hh) t)
  | recoverLockedHome t' dst =>
    simp only [begin, recoverLockedHome, bind_ok, pure_ok] at h
    obtain ⟨_, -, _, -, _, -, _, -, c₁, h₁, p, -, rfl⟩ := h
    have hct := bridgeResetOnUnlock_content h₁ t
    rw [if_neg fun hn => hn.2.1 rfl] at hct
    exact .inl hct

/-! ## §2. What a finished mint or arrival writes. -/

omit [Erc721 P] in
theorem pendingIn_eq (b : Pending) (c : Chain P) (call : Call) (t : TokenId) :
    pendingIn b c call t = (pendingIn .none c call t).or (b t) := by
  cases call with
  | mintPassport dst uri =>
    simp only [pendingIn, Function.update_apply]
    split <;> rfl
  | lzReceive m =>
    simp only [pendingIn]
    split
    · rfl
    · simp only [Function.update_apply]
      split <;> rfl
  | _ => rfl

/-- A passport a call brings into being is under way in the callee's turn. -/
theorem begin_owned {call : Call} {n : ℕ} (hg : c.bridgeGateway = .zero ∨ c.bridgeGateway = .gateway)
    (h : begin c (.account n) call = .ok c') (hn : pendingIn .none c call t = none)
    (ho : c'.ownerOf t ≠ none) : c.ownerOf t ≠ none := by
  have hne : Address.account n ≠ c.bridgeGateway := by
    rcases hg with hg | hg <;> simp [hg]
  -- a passport whose view changes to `v`, the others staying as they were
  have hviews : ∀ {t' : TokenId} {v : View}, Views c c' t' v →
      (t = t' → v.owner ≠ none → (c.view t').owner ≠ none) → c.ownerOf t ≠ none := by
    intro t' v hv hkeep
    by_cases ht : t = t'
    · subst ht
      refine hkeep rfl fun e => ho ?_
      exact (congrArg View.owner hv.self).trans e
    · have := congrArg View.owner (hv.other ht)
      exact fun e => ho (this.trans e)
  cases call with
  | transferFrom src dst t' | safeTransferFrom src dst t' =>
    simp only [begin, bind_ok, orRevert_ok, pure_ok] at h
    obtain ⟨p, hp, rfl⟩ := h
    refine hviews (views_transferFrom hp) fun _ _ => ?_
    have := (Erc721.transferFrom_some hp).1
    simp [Chain.view, Chain.ownerOf, this]
  | approve spender t' =>
    simp only [begin, bind_ok, orRevert_ok, pure_ok] at h
    obtain ⟨p, hp, rfl⟩ := h
    exact fun e => ho ((congrArg View.owner (views_same_owner (Erc721.ownerOf_approve hp) t)).trans e)
  | setApprovalForAll operator b =>
    simp only [begin, bind_ok, orRevert_ok, pure_ok] at h
    obtain ⟨p, hp, rfl⟩ := h
    exact fun e =>
      ho ((congrArg View.owner (views_same_owner (Erc721.ownerOf_setApprovalForAll hp) t)).trans e)
  | mintPassport dst uri =>
    obtain ⟨-, -, -, -, -, hv⟩ := mintPassport_ok h
    refine hviews hv fun ht _ => ?_
    simp [pendingIn, ht] at hn
  | setPassportURI t' uri =>
    obtain ⟨-, -, -, -, hv⟩ := setPassportURI_ok h
    refine hviews hv fun _ hs => ?_
    split at hs <;> exact hs
  | verifyPassport t' =>
    obtain ⟨-, -, -, -, hv⟩ := verifyPassport_ok h
    exact hviews hv fun _ hs => hs
  | openDispute t' value =>
    obtain ⟨-, -, -, -, -, -, hv⟩ := openDispute_ok h
    exact hviews hv fun _ hs => hs
  | withdraw t' =>
    obtain ⟨-, -, -, -, hv⟩ := withdraw_ok h
    exact hviews hv fun _ hs => hs
  | judge t' outcome =>
    obtain ⟨-, -, -, -, hv⟩ := judge_ok h
    exact hviews hv fun _ hs => hs
  | conclude t' =>
    obtain ⟨-, -, -, -, hv⟩ := conclude_ok h
    exact hviews hv fun _ hs => hs
  | setDisputeDeposit amount =>
    simp only [begin, setDisputeDeposit, bind_ok, pure_ok] at h
    obtain ⟨_, -, _, -, rfl⟩ := h
    exact ho
  | addEncumbranceSource source =>
    simp only [begin, addEncumbranceSource, bind_ok, pure_ok] at h
    obtain ⟨_, -, _, -, _, -, _, -, rfl⟩ := h
    exact ho
  | removeEncumbranceSource source =>
    simp only [begin, removeEncumbranceSource, bind_ok, pure_ok] at h
    obtain ⟨_, -, _, -, rfl⟩ := h
    exact ho
  | setBridgeGateway =>
    simp only [begin, setBridgeGateway, bind_ok, pure_ok] at h
    obtain ⟨_, -, _, -, _, -, rfl⟩ := h
    exact ho
  | setCustodyLock t' b => exact absurd (setCustodyLock_ok h).1 hne
  | bridgeMint dst t' uri => exact absurd (bridgeMint_ok h).1 hne
  | bridgeBurn t' => exact absurd (bridgeBurn_ok h).1 hne
  | bridgeResetOnUnlock t' uri => exact absurd (bridgeResetOnUnlock_ok h).1 hne
  | send dstEid dst t' =>
    obtain ⟨-, hs, -, -, -, hv⟩ := send_ok h
    exact hviews hv fun _ _ => by simp [hs]
  | lzReceive m =>
    obtain ⟨-, -, -, -, hs, hv⟩ := lzReceive_ok h
    refine hviews hv fun ht _ => ?_
    by_cases hh : c.isHome m.tokenId = true
    · rw [if_pos hh] at hs
      simp [hs]
    · simp [pendingIn, hh, ht] at hn
  | recoverLockedHome t' dst =>
    obtain ⟨hs, -, -, hv⟩ := recoverLockedHome_ok h
    exact hviews hv fun _ _ => by simp [hs]

/-- **The second half of a call writes what was under way, and nothing else.** -/
theorem finish_content {c₀ : Chain P} {call : Call} (hid : c₂.chainId = c₀.chainId)
    (hne : ∀ dst t uri, call ≠ .bridgeMint dst t uri) (h : finish c₀ c₂ s call = .ok c')
    (t : TokenId) : c'.ownerOf t = c₂.ownerOf t ∧
      match pendingIn .none c₀ call t with
      | some uri => c'.content t = .written uri ∧ c'.passportStatus t = c₂.passportStatus t
      | none => c'.content t = c₂.content t := by
  cases call with
  | mintPassport dst uri =>
    simp only [finish, mintPassportFinish, setTokenURIChecked, bind_ok, revertIf_ok, pure_ok,
      exists_const] at h
    obtain ⟨_, ⟨-, rfl⟩, rfl⟩ := h
    refine ⟨rfl, ?_⟩
    by_cases ht : t = c₀.nextTokenId
    · subst ht
      simp [pendingIn, Chain.content, Content.written, leave, Chain.emit, lastUri]
    · have ht' : c₀.nextTokenId ≠ t := fun e => ht e.symm
      simp [pendingIn, Pending.none, Chain.content, leave, Chain.emit, lastUri, ht, ht']
  | bridgeMint dst t' uri => exact absurd rfl (hne dst t' uri)
  | judge t' outcome =>
    obtain rfl := pure_ok.mp h
    cases outcome <;> exact ⟨rfl, rfl⟩
  | lzReceive m =>
    simp only [finish, lzReceiveFinish, bind_ok, pure_ok] at h
    obtain ⟨c₁, h₁, rfl⟩ := h
    have hh : c₂.isHome m.tokenId = c₀.isHome m.tokenId := by
      rw [Chain.isHome, Chain.isHome, hid]
    rw [hh] at h₁
    simp only [pendingIn]
    by_cases hb : c₀.isHome m.tokenId = true
    · rw [if_pos hb] at h₁
      obtain rfl := pure_ok.mp h₁
      rw [if_pos hb]
      exact ⟨rfl, rfl⟩
    · rw [if_neg hb] at h₁
      rw [if_neg hb]
      simp only [bridgeMintFinish, setTokenURIChecked, bind_ok, revertIf_ok, pure_ok,
        exists_const] at h₁
      obtain ⟨_, ⟨-, rfl⟩, rfl⟩ := h₁
      refine ⟨rfl, ?_⟩
      by_cases ht : t = m.tokenId
      · subst ht
        simp [Chain.content, Content.written, Chain.emit, lastUri]
      · have ht' : m.tokenId ≠ t := fun e => ht e.symm
        simp [Pending.none, Chain.content, Chain.emit, lastUri, ht, ht']
  | _ =>
    obtain rfl := pure_ok.mp h
    exact ⟨rfl, rfl⟩

/-- Under the guard nothing becomes verified, and the guard stays. -/
theorem begin_guarded {call : Call} (hl : c.locked = true) (h : begin c s call = .ok c') :
    c'.locked = true ∧ holdsGuard call = false ∧
      (c'.passportStatus t = .verified → c.passportStatus t = .verified) := by
  have hshell : c'.locked = c.locked → c'.locked = true := fun e => e.trans hl
  have hviews : ∀ {t' : TokenId} {v : View}, Views c c' t' v →
      (v.status = .verified → (c.view t').status = .verified) →
      (c'.passportStatus t = .verified → c.passportStatus t = .verified) := by
    intro t' v hv hkeep hs
    by_cases ht : t = t'
    · subst ht
      exact hkeep ((congrArg View.status hv.self).symm.trans hs)
    · exact (congrArg View.status (hv.other ht)).symm.trans hs
  have hopen : c.locked = false → False := fun e => by rw [hl] at e; cases e
  cases call with
  | transferFrom src dst t' | safeTransferFrom src dst t' =>
    simp only [begin, bind_ok, orRevert_ok, pure_ok] at h
    obtain ⟨p, -, rfl⟩ := h
    exact ⟨hl, rfl, fun hs => hs⟩
  | approve spender t' =>
    simp only [begin, bind_ok, orRevert_ok, pure_ok] at h
    obtain ⟨p, -, rfl⟩ := h
    exact ⟨hl, rfl, fun hs => hs⟩
  | setApprovalForAll operator b =>
    simp only [begin, bind_ok, orRevert_ok, pure_ok] at h
    obtain ⟨p, -, rfl⟩ := h
    exact ⟨hl, rfl, fun hs => hs⟩
  | mintPassport dst uri => exact (hopen (mintPassport_ok h).1).elim
  | setPassportURI t' uri => exact (hopen (setPassportURI_ok h).1).elim
  | verifyPassport t' => exact (hopen (verifyPassport_ok h).1).elim
  | openDispute t' value => exact (hopen (openDispute_ok h).1).elim
  | withdraw t' => exact (hopen (withdraw_ok h).1).elim
  | judge t' outcome => exact (hopen (judge_ok h).1).elim
  | conclude t' => exact (hopen (conclude_ok h).1).elim
  | setDisputeDeposit amount =>
    simp only [begin, setDisputeDeposit, bind_ok, pure_ok] at h
    obtain ⟨_, -, _, -, rfl⟩ := h
    exact ⟨hl, rfl, fun hs => hs⟩
  | addEncumbranceSource source =>
    simp only [begin, addEncumbranceSource, bind_ok, pure_ok] at h
    obtain ⟨_, -, _, -, _, -, _, -, rfl⟩ := h
    exact ⟨hl, rfl, fun hs => hs⟩
  | removeEncumbranceSource source =>
    simp only [begin, removeEncumbranceSource, bind_ok, pure_ok] at h
    obtain ⟨_, -, _, -, rfl⟩ := h
    exact ⟨hl, rfl, fun hs => hs⟩
  | setBridgeGateway =>
    simp only [begin, setBridgeGateway, bind_ok, pure_ok] at h
    obtain ⟨_, -, _, -, _, -, rfl⟩ := h
    exact ⟨hl, rfl, fun hs => hs⟩
  | setCustodyLock t' b =>
    obtain ⟨-, -, hsh, -, hv⟩ := setCustodyLock_ok h
    exact ⟨hshell (congrArg Shell.locked hsh), rfl, hviews hv fun hs => hs⟩
  | bridgeMint dst t' uri =>
    obtain ⟨-, -, -, hsh, -, hv⟩ := bridgeMint_ok h
    exact ⟨hshell (congrArg Shell.locked hsh), rfl, hviews hv fun hs => by cases hs⟩
  | bridgeBurn t' =>
    obtain ⟨-, -, hsh, -, hv⟩ := bridgeBurn_ok h
    exact ⟨hshell (congrArg Shell.locked hsh), rfl, hviews hv fun hs => by cases hs⟩
  | bridgeResetOnUnlock t' uri =>
    obtain ⟨-, -, hsh, -, hv⟩ := bridgeResetOnUnlock_ok h
    exact ⟨hshell (congrArg Shell.locked hsh), rfl, hviews hv fun hs => by cases hs⟩
  | send dstEid dst t' =>
    obtain ⟨-, -, -, hsh, -, hv⟩ := send_ok h
    refine ⟨hshell (congrArg Shell.locked hsh), rfl, hviews hv fun hs => ?_⟩
    split at hs
    · exact hs
    · cases hs
  | lzReceive m =>
    obtain ⟨-, -, hsh, -, -, hv⟩ := lzReceive_ok h
    refine ⟨hshell (congrArg Shell.locked hsh), rfl, hviews hv fun hs => ?_⟩
    split at hs <;> cases hs
  | recoverLockedHome t' dst =>
    obtain ⟨-, -, hsh, hv⟩ := recoverLockedHome_ok h
    exact ⟨hshell (congrArg Shell.locked hsh), rfl, hviews hv fun hs => by cases hs⟩

/-- Only the calls that hold the guard write a status in their second half. -/
theorem finish_unguarded {c₀ : Chain P} {call : Call} (hh : holdsGuard call = false)
    (h : finish c₀ c₂ s call = .ok c') :
    c'.locked = c₂.locked ∧ ∀ t, c'.passportStatus t = c₂.passportStatus t := by
  cases call with
  | mintPassport dst uri => cases hh
  | withdraw t => cases hh
  | judge t outcome => cases hh
  | conclude t => cases hh
  | bridgeMint dst t uri =>
    obtain ⟨hsh, -, hv⟩ := bridgeMintFinish_ok h
    exact ⟨shell_locked hsh, fun t => congrArg View.status (hv t)⟩
  | lzReceive m =>
    obtain ⟨hsh, -, hv⟩ := lzReceiveFinish_ok h
    exact ⟨shell_locked hsh, fun t => congrArg View.status (hv t)⟩
  | _ =>
    obtain rfl := pure_ok.mp h
    exact ⟨rfl, fun _ => rfl⟩

end Content

/-! ## §3. The law and its condition. -/

/-- The passport has a URI, and it is the one the log says. -/
def Settled (c : Chain P) (t : TokenId) : Prop :=
  c.ownerOf t ≠ none → c.tokenURI t ≠ [] ∧ lastUri t c.log = some (c.tokenURI t)

/-- What holds of every change: verified content is frozen, a passport not under way has the
    URI it was created with or edited to, and a delivery leaves the URI of its message. -/
structure LawfulChange (x : Change P) : Prop where
  frozen : ∀ t, x.before.chain.passportStatus t = .verified →
    x.after.chain.passportStatus t = .verified →
    x.after.chain.tokenURI t = x.before.chain.tokenURI t
  settled : ∀ t, x.after.pending t = none → Settled x.after.chain t
  delivered : ∀ m, x.call = .lzReceive m → x.half = .last →
    x.after.chain.tokenURI m.tokenId = m.uri

omit [Erc721 P] in
/-- A passport is minted with a URI.  A passport whose URI is still to be written is not sent
    on with another, and when an arrival is to write it the passport is not verified under
    another. -/
def careful (x : Change P) : Prop :=
  match x.half, x.call with
  | .first, .mintPassport _ uri => uri ≠ []
  | .first, .send _ _ t => ∀ uri ∈ x.before.pending t, x.before.chain.tokenURI t = uri
  | .last, .lzReceive m => x.before.chain.isHome m.tokenId = false →
      x.before.chain.passportStatus m.tokenId = .verified →
      x.before.chain.tokenURI m.tokenId = m.uri
  | _, _ => True

omit [Erc721 P] in
instance (x : Change P) : Decidable (careful x) := by
  unfold careful
  split <;> infer_instance

/-- What a chain keeps at every moment of a message. -/
structure ContentInv (id : ℕ) (b : Pending) (c : Chain P) : Prop where
  chainId : c.chainId = id
  gateway : c.bridgeGateway = .zero ∨ c.bridgeGateway = .gateway
  namesake : c.nextTokenId / 2 ^ 128 = id
  settled : ∀ t, b t = none → Settled c t
  brings : ∀ t uri, b t = some uri → uri ≠ []
  /-- only a mint is under way for a passport at home, and it holds the guard -/
  minting : ∀ t, b t ≠ none → c.isHome t = true → c.locked = true ∧ c.passportStatus t ≠ .verified
  packets : ∀ m, m ∈ c.inbox ∨ m ∈ c.outbox → m.uri ≠ []

section Law

variable {id : ℕ} {b : Pending} {c c' c₁ c₂ : Chain P} {t : TokenId} {call : Call} {n : ℕ}

omit [Erc721 P] in
theorem pendingIn_none (h : pendingIn b c call t = none) :
    pendingIn .none c call t = none ∧ b t = none := by
  rwa [pendingIn_eq, Option.or_eq_none_iff] at h

/-- The part of the invariant that is in the shell. -/
theorem begin_frame (h : begin c (.account n) call = .ok c') (hi : ContentInv id b c) :
    c'.chainId = id ∧ (c'.bridgeGateway = .zero ∨ c'.bridgeGateway = .gateway) ∧
      c'.nextTokenId / 2 ^ 128 = id := by
  have hsh := begin_shell h
  have hid : c'.chainId = c.chainId := by
    cases call <;> exact congrArg Shell.chainId hsh
  refine ⟨hid.trans hi.chainId, ?_, ?_⟩
  · cases call with
    | setBridgeGateway => exact .inr (congrArg Shell.bridgeGateway hsh)
    | _ =>
      rw [show c'.bridgeGateway = c.bridgeGateway from congrArg Shell.bridgeGateway hsh]
      exact hi.gateway
  · cases call with
    | mintPassport dst uri =>
      obtain ⟨-, -, hx, -⟩ := mintPassport_ok h
      have hn : c'.nextTokenId = c.nextTokenId + 1 := congrArg Shell.nextTokenId hsh
      have := hi.namesake
      omega
    | _ =>
      rw [show c'.nextTokenId = c.nextTokenId from congrArg Shell.nextTokenId hsh]
      exact hi.namesake

omit [Erc721 P] in
/-- At home only a mint is under way. -/
theorem pendingIn_home (hp : pendingIn .none c call t ≠ none) (hh : c.isHome t = true) :
    ∃ dst uri, call = .mintPassport dst uri ∧ t = c.nextTokenId := by
  cases call with
  | mintPassport dst uri =>
    refine ⟨dst, uri, rfl, ?_⟩
    by_contra ht
    simp [pendingIn, Pending.none, ht] at hp
  | lzReceive m =>
    by_cases hm : c.isHome m.tokenId = true
    · simp [pendingIn, hm, Pending.none] at hp
    · by_cases ht : t = m.tokenId
      · exact absurd (ht ▸ hh) hm
      · simp [pendingIn, hm, Pending.none, ht] at hp
  | _ => exact absurd rfl hp

/-- Abroad it is an arrival. -/
theorem pendingIn_abroad {uri : Uri} (hi : ContentInv id b c)
    (hp : pendingIn .none c call t = some uri) (hh : c.isHome t = false) :
    ∃ m, call = .lzReceive m ∧ t = m.tokenId ∧ uri = m.uri := by
  cases call with
  | mintPassport dst uri' =>
    have ht : t ≠ c.nextTokenId := by
      intro ht
      rw [ht, Chain.isHome, KarPassport.isHome, hi.namesake, hi.chainId] at hh
      simp at hh
    simp [pendingIn, Pending.none, ht] at hp
  | lzReceive m =>
    by_cases hm : c.isHome m.tokenId = true
    · simp [pendingIn, hm, Pending.none] at hp
    · by_cases ht : t = m.tokenId
      · subst ht
        simp [pendingIn, hm] at hp
        exact ⟨m, rfl, rfl, hp.symm⟩
      · simp [pendingIn, hm, Pending.none, ht] at hp
  | _ => cases hp

omit [Erc721 P] in
theorem isHome_congr (h : c'.chainId = c.chainId) : c'.isHome t = c.isHome t := by
  rw [Chain.isHome, Chain.isHome, h]

theorem Settled.of_content {t : TokenId} (h : c.content t = c'.content t)
    (hs : (c'.content t).uri ≠ [] ∧ (c'.content t).said = some (c'.content t).uri) :
    Settled c t := by
  intro _
  rw [← h] at hs
  exact hs

/-- **The first half of a call.** -/
theorem ContentInv.first (hi : ContentInv id b c) (h : begin c (.account n) call = .ok c₁)
    (hok : careful ⟨.account n, call, .first, ⟨b, c⟩, ⟨pendingIn b c call, c₁⟩⟩) :
    ContentInv id (pendingIn b c call) c₁ := by
  obtain ⟨hid, hg, hname⟩ := begin_frame h hi
  have hids : c₁.chainId = c.chainId := hid.trans hi.chainId.symm
  refine ⟨hid, hg, hname, fun t hb ho => ?_, fun t uri hb => ?_, fun t hb hh => ?_, fun m hm => ?_⟩
  · obtain ⟨hn, hb⟩ := pendingIn_none hb
    have hs := hi.settled t hb (begin_owned hi.gateway h hn ho)
    rcases begin_content h t with e | ⟨uri, hne, e, -⟩
    · exact Settled.of_content e hs ho
    · have hw : c₁.content t = .written uri := e
      show (c₁.content t).uri ≠ [] ∧ (c₁.content t).said = some (c₁.content t).uri
      rw [hw]
      exact ⟨hne, rfl⟩
  · rw [pendingIn_eq] at hb
    cases hp : pendingIn .none c call t with
    | none =>
      rw [hp] at hb
      exact hi.brings t uri hb
    | some uri' =>
      rw [hp] at hb
      obtain rfl : uri' = uri := Option.some.inj hb
      by_cases hh : c.isHome t = true
      · obtain ⟨dst, u, rfl, rfl⟩ := pendingIn_home (by rw [hp]; simp) hh
        simp only [pendingIn, Function.update_self, Option.some.injEq] at hp
        exact hp ▸ hok
      · obtain ⟨m, rfl, -, rfl⟩ := pendingIn_abroad hi hp (by simpa using hh)
        exact hi.packets m (.inl (lzReceive_ok h).1)
  · rw [isHome_congr hids] at hh
    by_cases hl : c.locked = true
    · -- under the guard no mint begins, so the one under way is an older one
      obtain ⟨hl', hcall, hkeep⟩ := begin_guarded (t := t) hl h
      have hn : pendingIn .none c call t = none := by
        by_contra hp
        obtain ⟨dst, uri, rfl, -⟩ := pendingIn_home hp hh
        cases hcall
      rw [pendingIn_eq, hn, Option.none_or] at hb
      exact ⟨hl', fun hs => (hi.minting t hb hh).2 (hkeep hs)⟩
    · have hb' : b t = none := by
        by_contra hne
        exact hl (hi.minting t hne hh).1
      rw [pendingIn_eq, hb', Option.or_none] at hb
      obtain ⟨dst, uri, rfl, rfl⟩ := pendingIn_home hb hh
      obtain ⟨-, -, -, hsh, -, hv⟩ := mintPassport_ok h
      have hs : c₁.passportStatus c.nextTokenId = .unverified := congrArg View.status hv.self
      exact ⟨congrArg Shell.locked hsh, by rw [hs]; simp⟩
  · rcases begin_boxes h with ⟨dstEid, dst, t, rfl, ho, hin, hout⟩ | ⟨q, rfl, -, hin, hout⟩ |
      ⟨-, hin, hout⟩
    · rw [hin, hout, List.mem_cons] at hm
      rcases hm with hm | rfl | hm
      · exact hi.packets m (.inl hm)
      · -- the packet has the URI of the passport: a settled one, or the one under way
        show c.tokenURI t ≠ []
        cases hb : b t with
        | none => exact (hi.settled t hb (by simp [ho])).1
        | some uri =>
          rw [show c.tokenURI t = uri from hok uri hb]
          exact hi.brings t uri hb
      · exact hi.packets m (.inr hm)
    · rw [hin, hout] at hm
      exact hi.packets m (hm.imp_left List.mem_of_mem_erase)
    · rw [hin, hout] at hm
      exact hi.packets m hm

/-- **The second half.** -/
theorem ContentInv.last (hi : ContentInv id b c) (h₁ : begin c (.account n) call = .ok c₁)
    (hm : ContentInv id (pendingIn b c call) c₂) (h₃ : finish c c₂ (.account n) call = .ok c') :
    ContentInv id b c' := by
  have hsh := finish_shell h₃
  have hids : c'.chainId = c₂.chainId := congrArg Shell.chainId hsh
  have hcall : ∀ dst t uri, call ≠ .bridgeMint dst t uri := by
    rintro dst t uri rfl
    have := (bridgeMint_ok h₁).1
    rcases hi.gateway with hg | hg <;> simp [hg] at this
  have hfin := fun t => finish_content (hm.chainId.trans hi.chainId.symm) hcall h₃ t
  refine ⟨hids.trans hm.chainId, ?_, ?_, fun t hb ho => ?_, hi.brings, fun t hb hh => ?_,
    fun m hp => ?_⟩
  · rw [show c'.bridgeGateway = c₂.bridgeGateway from congrArg Shell.bridgeGateway hsh]
    exact hm.gateway
  · rw [show c'.nextTokenId = c₂.nextTokenId from congrArg Shell.nextTokenId hsh]
    exact hm.namesake
  · obtain ⟨hown, hc⟩ := hfin t
    cases hp : pendingIn .none c call t with
    | none =>
      rw [hp] at hc
      exact Settled.of_content hc
        (hm.settled t (by rw [pendingIn_eq, hp, hb]; rfl) (hown ▸ ho)) ho
    | some uri =>
      rw [hp] at hc
      show (c'.content t).uri ≠ [] ∧ (c'.content t).said = some (c'.content t).uri
      rw [hc.1]
      exact ⟨hm.brings t uri (by rw [pendingIn_eq, hp]; rfl), rfl⟩
  · -- an older mint holds the guard, and this call did not take it
    rw [isHome_congr (hids.trans (hm.chainId.trans hi.chainId.symm))] at hh
    obtain ⟨-, hg, -⟩ := begin_guarded (t := t) (hi.minting t hb hh).1 h₁
    obtain ⟨hl, hs⟩ := finish_unguarded hg h₃
    rw [hl, hs t]
    refine hm.minting t ?_ ?_
    · rw [pendingIn_eq]
      cases pendingIn .none c call t with
      | none => exact hb
      | some uri => simp
    · rw [isHome_congr (hm.chainId.trans hi.chainId.symm)]
      exact hh
  · rw [(finish_boxes h₃).1, (finish_boxes h₃).2] at hp
    exact hm.packets m hp

/-- What is verified when the second half begins, and after it, has kept its URI. -/
theorem ContentInv.last_frozen (hi : ContentInv id b c) (h₁ : begin c (.account n) call = .ok c₁)
    (hm : ContentInv id (pendingIn b c call) c₂) (h₃ : finish c c₂ (.account n) call = .ok c')
    (hok : careful ⟨.account n, call, .last, ⟨pendingIn b c call, c₂⟩, ⟨b, c'⟩⟩)
    (hs : c₂.passportStatus t = .verified) : c'.tokenURI t = c₂.tokenURI t := by
  have hcall : ∀ dst t uri, call ≠ .bridgeMint dst t uri := by
    rintro dst t uri rfl
    have := (bridgeMint_ok h₁).1
    rcases hi.gateway with hg | hg <;> simp [hg] at this
  have hids := hm.chainId.trans hi.chainId.symm
  obtain ⟨-, hc⟩ := finish_content hids hcall h₃ t
  cases hp : pendingIn .none c call t with
  | none =>
    rw [hp] at hc
    exact congrArg Content.uri hc
  | some uri =>
    rw [hp] at hc
    have hb : pendingIn b c call t ≠ none := by rw [pendingIn_eq, hp]; simp
    by_cases hh : c.isHome t = true
    · exact absurd hs (hm.minting t hb (isHome_congr hids ▸ hh)).2
    · obtain ⟨m, rfl, rfl, rfl⟩ := pendingIn_abroad hi hp (by simpa using hh)
      have hh' : c₂.isHome m.tokenId = false := by
        rw [isHome_congr hids]
        simpa using hh
      have hu : c₂.tokenURI m.tokenId = m.uri := hok hh' hs
      exact (congrArg Content.uri hc.1).trans hu.symm

/-- A delivery leaves the URI of its message. -/
theorem ContentInv.delivers {m : Packet} (hi : ContentInv id b c)
    (h₁ : begin c (.account n) (.lzReceive m) = .ok c₁)
    (ht : ∃ accepts calls, calleeTurn c (.lzReceive m) accepts calls c₁ = .ok c₂)
    (hid : c₂.chainId = c.chainId) (h₃ : finish c c₂ (.account n) (.lzReceive m) = .ok c') :
    c'.tokenURI m.tokenId = m.uri := by
  obtain ⟨-, hc⟩ := finish_content hid (by simp) h₃ m.tokenId
  by_cases hh : c.isHome m.tokenId = true
  · -- nobody has a turn when a passport comes home
    obtain ⟨accepts, calls, ht⟩ := ht
    simp only [calleeTurn, turn, if_pos hh, pure_ok] at ht
    subst ht
    simp only [pendingIn, if_pos hh, Pending.none] at hc
    obtain ⟨u, hu, hcu⟩ := lzReceive_unlocks h₁ hh
    have hne := hi.packets m (.inl (lzReceive_ok h₁).1)
    exact (congrArg Content.uri (hc.trans (hcu m.tokenId))).trans (unlocked_uri hu hne)
  · simp only [pendingIn, if_neg hh, Function.update_self] at hc
    exact congrArg Content.uri hc.1

theorem content_halves (id : ℕ) :
    HalvesKeep (P := P) (ContentInv id) careful LawfulChange := by
  refine ⟨fun hi h hok => ?_, fun hi h₁ ht hm h₃ hok => ?_⟩
  · have hi' := hi.first h hok
    refine ⟨hi', fun t _ hs => ?_, hi'.settled, fun m _ e => by cases e⟩
    rcases begin_content h t with e | ⟨uri, -, -, hne⟩
    · exact congrArg Content.uri e
    · exact absurd hs hne
  · have hi' := hi.last h₁ hm h₃
    refine ⟨hi', fun t hs _ => hi.last_frozen h₁ hm h₃ hok hs, hi'.settled, fun m e _ => ?_⟩
    have e : _ = Call.lzReceive m := e
    subst e
    exact hi.delivers h₁ ht (hm.chainId.trans hi.chainId.symm) h₃

end Law

/-! ## §4. Runs over the chains. -/

section Net

variable {eid : ℕ → ℕ} {s₀ s s' : Net P} {as : List NetAction} {i : ℕ} {m : Message} {p : Packet}

/-- In a transaction of the run `p` was sent, with the URI its passport had. -/
def SentBefore (eid : ℕ → ℕ) (s₀ : Net P) (as : List NetAction) (p : Packet) : Prop :=
  ∃ as₁ i m as₂ s, as = as₁ ++ .transaction i m :: as₂ ∧ run (Net.step eid) s₀ as₁ = .ok s ∧
    ∃ x ∈ changes .none m (s.arriving eid i), x.Sends p ∧
      ∀ uri ∈ x.before.pending p.tokenId, p.uri = uri

theorem SentBefore.append {as' : List NetAction} (h : SentBefore eid s₀ as p) :
    SentBefore eid s₀ (as ++ as') p := by
  obtain ⟨as₁, i, m, as₂, s, rfl, hr, hx⟩ := h
  exact ⟨as₁, i, m, as₂ ++ as', s, by simp, hr, hx⟩

/-- The condition on a step of a run. -/
def carefulStep (eid : ℕ → ℕ) (s : Net P) : NetAction → Prop
  | .transaction i m => ∀ x ∈ changes .none m (s.arriving eid i), careful x
  | .outside .. => True

instance (s : Net P) (a : NetAction) : Decidable (carefulStep eid s a) := by
  cases a with
  | transaction i m =>
    exact inferInstanceAs (Decidable (∀ x ∈ changes .none m (s.arriving eid i), careful x))
  | outside => exact isTrue trivial

structure NetContent (eid : ℕ → ℕ) (s₀ : Net P) (as : List NetAction) (s : Net P) : Prop where
  chains : ∀ i, ContentInv i .none (s.chains i)
  flight : ∀ p ∈ s.inFlight, p.uri ≠ [] ∧ SentBefore eid s₀ as p

theorem NetContent.arriving (h : NetContent eid s₀ as s) (i : ℕ) :
    ContentInv i .none (s.arriving eid i) := by
  have hi := h.chains i
  refine ⟨hi.chainId, hi.gateway, hi.namesake, hi.settled, hi.brings, hi.minting, fun p hp => ?_⟩
  rcases hp with hp | hp
  · exact (h.flight p (List.mem_of_mem_filter hp)).1
  · cases hp

theorem NetContent.transaction (h : NetContent eid s₀ as s)
    (hr₀ : run (Net.step eid) s₀ as = .ok s)
    (hc : ∀ x ∈ changes .none m (s.arriving eid i), careful x)
    (hr : Net.step eid s (.transaction i m) = .ok s') :
    NetContent eid s₀ (as ++ [.transaction i m]) s' := by
  simp only [Net.step, bind_ok, require_ok, pure_ok, exists_const] at hr
  obtain ⟨-, c, hx, rfl⟩ := hr
  have hinv := (exec_rule (content_halves i) m (h.arriving i) hc).2 c hx
  refine ⟨fun j => ?_, fun p hp => ?_⟩
  · by_cases e : j = i
    · subst e
      simp only [Net.departed, Function.update_self]
      exact ⟨hinv.chainId, hinv.gateway, hinv.namesake, hinv.settled, hinv.brings, hinv.minting,
        by simp⟩
    · simpa [Net.departed, e] using h.chains j
  · simp only [Net.departed, List.mem_append] at hp
    rcases hp with hp | hp | hp
    · have := h.flight p (List.mem_of_mem_filter hp)
      exact ⟨this.1, this.2.append⟩
    · -- not delivered
      have := h.flight p (List.mem_of_mem_filter (left_mem hx hp))
      exact ⟨this.1, this.2.append⟩
    · refine ⟨hinv.packets p (.inr hp), ?_⟩
      rcases departed_sent (b := .none) hx hp with hp | ⟨x, hx, hs⟩
      · cases hp
      refine ⟨as, i, m, [], s, rfl, hr₀, x, hx, hs, fun uri hu => ?_⟩
      have hcx := hc x hx
      unfold careful at hcx
      rw [hs.half, hs.call] at hcx
      exact hs.uri.symm.trans (hcx uri hu)

theorem NetContent.outside {now : ℕ} {isActiveVerifier : Address → Bool}
    {sourceAnswer : Address → TokenId → Intent → Option Bool} (h : NetContent eid s₀ as s)
    (hr : Net.step eid s (.outside i now isActiveVerifier sourceAnswer) = .ok s') :
    NetContent eid s₀ (as ++ [.outside i now isActiveVerifier sourceAnswer]) s' := by
  simp only [Net.step, Bridge.step, bind_ok, require_ok, pure_ok, exists_const] at hr
  obtain ⟨c, ⟨-, rfl⟩, rfl⟩ := hr
  refine ⟨fun j => ?_, fun p hp => ?_⟩
  · by_cases e : j = i
    · subst e
      have hj := h.chains j
      simp only [Function.update_self]
      exact ⟨hj.chainId, hj.gateway, hj.namesake, hj.settled, hj.brings, hj.minting, hj.packets⟩
    · simpa [e] using h.chains j
  · have := h.flight p hp
    exact ⟨this.1, this.2.append⟩

theorem Net.Fresh.content (h : s₀.Fresh) : NetContent eid s₀ [] s₀ := by
  refine ⟨fun i => ?_, fun p hp => ?_⟩
  · have hd := h.deployed i
    refine ⟨h.chainId i, hd.gateway, ?_, fun t _ ho => absurd (hd.no_passport t) ho,
      fun t uri hb => (nomatch hb), fun t hb => absurd rfl hb, fun p hp => ?_⟩
    · rw [hd.nextTokenId, h.chainId i]
      exact Nat.mul_div_cancel _ (by decide)
    · obtain ⟨hin, hout⟩ := h.boxes i
      simp [hin, hout] at hp
  · rw [h.quiet] at hp
    cases hp

/-- By induction on the run, from its end. -/
theorem content_run (h₀ : s₀.Fresh) (hc : Along (Net.step eid) (carefulStep eid) s₀ as)
    (hr : run (Net.step eid) s₀ as = .ok s) : NetContent eid s₀ as s := by
  induction as using List.reverseRecOn generalizing s with
  | nil =>
    obtain rfl : s₀ = s := by simpa [run] using hr
    exact h₀.content
  | append_singleton as a ih =>
    obtain ⟨s₁, hr₁, hs⟩ := run_append_ok.mp hr
    have hstep : Net.step eid s₁ a = .ok s := by
      obtain ⟨s₂, h₂, h₃⟩ := run_cons_ok.mp hs
      obtain rfl : s₂ = s := by simpa [run] using h₃
      exact h₂
    have h₁ := ih hc.of_append hr₁
    have hlast := hc.last hr₁
    cases a with
    | transaction i m => exact h₁.transaction hr₁ hlast hstep
    | outside i now isActiveVerifier sourceAnswer => exact h₁.outside hstep

/-- **Content and verification.**  After every careful run, every passport has its URI; and
    in every careful transaction that follows, whatever receivers and payees send in, every
    change is lawful and what is delivered was sent, with the URI its passport had. -/
theorem content_law (h₀ : s₀.Fresh) (hr : run (Net.step eid) s₀ as = .ok s)
    (hc : Along (Net.step eid) (carefulStep eid) s₀ (as ++ [.transaction i m])) :
    (∀ j t, Settled (s.chains j) t) ∧
      ∀ x ∈ changes .none m (s.arriving eid i), LawfulChange x ∧
        ∀ p, x.call = .lzReceive p → SentBefore eid s₀ as p := by
  have hinv := content_run h₀ hc.of_append hr
  refine ⟨fun j t => (hinv.chains j).settled t rfl, fun x hx => ⟨?_, fun p hp => ?_⟩⟩
  · exact (exec_rule (content_halves i) m (hinv.arriving i) (hc.last hr)).1 x hx
  · exact (hinv.flight p (List.mem_of_mem_filter (delivered_mem hx hp))).2

end Net

/-! ## §5. Where it fails. -/

/-- Account 1 mints a passport on chain 2 and sends it to account 1 on chain 1. -/
def crossingRun : List NetAction := [
  .transaction 2 (.mk 1 (.mintPassport (.account 1) [97]) true []),
  .transaction 2 (.mk 1 (.approve .gateway (2 * 2 ^ 128)) true []),
  .transaction 2 (.mk 1 (.send 1 ⟨0, .account 1⟩ (2 * 2 ^ 128)) true [])]

/-- Its delivery, in which the receiver has `calls` sent in. -/
def deliveryOf (calls : List Message) : Message :=
  .mk 5 (.lzReceive ⟨1, ⟨0, .account 1⟩, 2 * 2 ^ 128, [97]⟩) true calls

theorem content_law_crossing :
    (∀ j t, Settled ((finalState (Net.step id) smallNet crossingRun).chains j) t) ∧
      ∀ x ∈ changes .none (deliveryOf [])
          ((finalState (Net.step id) smallNet crossingRun).arriving id 1),
        LawfulChange x ∧ ∀ p, x.call = .lzReceive p → SentBefore id smallNet crossingRun p :=
  content_law smallNet_fresh (run_finalState (by decide +kernel)) (by decide +kernel)

/-- The receiver has account 2 verify the passport. -/
def hastyDelivery : Message := deliveryOf [.mk 2 (.verifyPassport (2 * 2 ^ 128)) true []]

/-- **A passport without a URI, and one verified before it has its own.**  A mint asks for no
    URI; and account 2 verifies the arriving passport in the receiver's turn, before the
    arrival changes its URI. -/
theorem content_fails : smallNet.Fresh ∧
    (∃ s, run (Net.step id) smallNet
        [.transaction 1 (.mk 1 (.mintPassport (.account 1) []) true [])] = .ok s ∧
      ¬ Settled (s.chains 1) (2 ^ 128)) ∧
    ∃ s, run (Net.step id) smallNet crossingRun = .ok s ∧
      (∃ s', Net.step id s (.transaction 1 hastyDelivery) = .ok s') ∧
      ∃ x ∈ changes .none hastyDelivery (s.arriving id 1), ¬ LawfulChange x := by
  refine ⟨smallNet_fresh, ⟨_, run_finalState (by decide +kernel), fun h => ?_⟩, _,
    run_finalState (by decide +kernel), exists_of_isOk (by decide +kernel), ?_⟩
  · exact (h (by decide +kernel)).1 (by decide +kernel)
  · -- verified before the last half and after it, with another URI
    have hx : ∃ x ∈ changes .none hastyDelivery
        ((finalState (Net.step id) smallNet crossingRun).arriving id 1),
        x.before.chain.passportStatus (2 * 2 ^ 128) = .verified ∧
          x.after.chain.passportStatus (2 * 2 ^ 128) = .verified ∧
          x.after.chain.tokenURI (2 * 2 ^ 128) ≠ x.before.chain.tokenURI (2 * 2 ^ 128) := by
      decide +kernel
    obtain ⟨x, hx, h₁, h₂, hne⟩ := hx
    exact ⟨x, hx, fun h => hne (h.frozen _ h₁ h₂)⟩

end Kargain.Evm.Bridge
