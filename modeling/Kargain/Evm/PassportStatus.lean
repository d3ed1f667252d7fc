/-
  Kargain.Evm.PassportStatus — verification status, challenges and the bridge.

  Three writers share a passport's status: its owner and the verifiers,
  the challenge, and the gateway.  They agree as long as the gateway
  unlocks no passport that is under challenge, and as long as nobody takes
  a passport over the bridge from inside the payment of its own bond.

  Both can happen.  A plain transfer brings a challenged passport to the
  gateway, whose recovery looks at the owner and not at the lock; and the
  bond is paid before the passport's status is written.

  Main result: `status_law`, the three statements in every state of every
  run in which neither happens; `recovered_under_challenge` and
  `burned_in_withdrawal` are runs in which they do.
-/
import Kargain.Evm.BridgedEffects
import Kargain.Base.Runs

namespace Kargain.Evm.Bridge

variable {P : Type} [Erc721 P]

/-! ## §1. The law. -/

/-- Disputed iff under challenge; verified by somebody at some time; and never under
    challenge while locked away or reset by an unlock. -/
structure StatusLaw (c : Chain P) (t : TokenId) : Prop where
  disputed_iff : c.passportStatus t = .disputed ↔ c.isChallengeActive t = true
  verified : c.passportStatus t = .verified →
    c.passportVerifier t ≠ .zero ∧ c.passportVerifiedAt t ≠ 0
  not_away : c.isChallengeActive t = true → c.custodyLocked t = false
  not_reset : c.isChallengeActive t = true → resetByUnlock t c.log = false

/-! ## §2. The condition. -/

/-- What is pending for a passport: nothing, or the end of a challenge whose bond is being
    paid, after which its verification lapses or stands. -/
inductive Stage where
  | free
  | lapsing
  | standing
  deriving DecidableEq

/-- The stages while the callee of a call has its turn. -/
def during (b : TokenId → Stage) : Call → TokenId → Stage
  | .withdraw t | .judge t .rejected => Function.update b t .standing
  | .conclude t | .judge t .upheld => Function.update b t .lapsing
  | _ => b

/-- The gateway unlocks no passport under challenge, and no passport whose verification is
    about to stand comes in, goes out for good or is recovered. -/
def calm (b : TokenId → Stage) (c : Chain P) : Call → Prop
  | .send _ _ t => c.isHome t = false → b t ≠ .standing
  | .lzReceive m =>
    b m.tokenId ≠ .standing ∧ (c.isHome m.tokenId = true → c.isChallengeActive m.tokenId = false)
  | .recoverLockedHome t _ => b t ≠ .standing ∧ c.isChallengeActive t = false
  | _ => True

mutual

/-- The condition on a message and on all that its callees send in. -/
def Calm (b : TokenId → Stage) : Message → Chain P → Prop
  | .mk sender call accepts calls, c => calm b c call ∧
      (accepts = true → turn c call ≠ .nobody → ∀ c₁, begin c (.account sender) call = .ok c₁ →
        CalmAll (during b call) calls c₁)

def CalmAll (b : TokenId → Stage) : List Message → Chain P → Prop
  | [], _ => True
  | m :: ms, c => Calm b m c ∧ ∀ c', exec m c = .ok c' → CalmAll b ms c'

end

/-- The condition on a step of a run. -/
def calmStep (c : Chain P) : Action → Prop
  | .transaction m => Calm (fun _ => .free) m c
  | _ => True

/-! ## §3. The invariant. -/

def Stage.Ok : Stage → View → Prop
  | .free, v => (v.status = .disputed ↔ v.active = true) ∧
      (v.status ≠ .unverified → v.verifier ≠ .zero ∧ v.verifiedAt ≠ 0) ∧
      (v.active = true → v.away = false ∧ v.owner ≠ none) ∧
      (v.reset = true → v.status = .unverified)
  | .lapsing, v => v.active = false
  | .standing, v => v.active = false ∧ v.verifier ≠ .zero ∧ v.verifiedAt ≠ 0 ∧ v.reset = false

structure Inv (b : TokenId → Stage) (c : Chain P) : Prop where
  now_pos : 0 < c.now
  gateway : c.bridgeGateway = .zero ∨ c.bridgeGateway = .gateway
  ok : ∀ t, (b t).Ok (c.view t)

section Invariant

variable {b b' : TokenId → Stage} {c c' c₁ c₂ : Chain P} {t : TokenId} {v : View}

theorem Inv.same (h : Inv b c) (hn : c'.now = c.now) (hg : c'.bridgeGateway = c.bridgeGateway)
    (hv : ∀ t, c'.view t = c.view t) : Inv b c' :=
  ⟨hn ▸ h.now_pos, hg ▸ h.gateway, fun t => hv t ▸ h.ok t⟩

/-- One passport changes, the rest of the chain in view does not. -/
theorem Inv.views (h : Inv b c) (hn : c'.now = c.now) (hg : c'.bridgeGateway = c.bridgeGateway)
    (hv : Views c c' t v) (hb : ∀ t', t' ≠ t → b' t' = b t') (ht : (b' t).Ok v) : Inv b' c' := by
  refine ⟨hn ▸ h.now_pos, hg ▸ h.gateway, fun t' => ?_⟩
  by_cases e : t' = t
  · subst e
    rwa [hv.self]
  · rw [hv.other e, hb t' e]
    exact h.ok t'

/-- A change of owner is no matter, as long as there is one. -/
theorem Stage.Ok.owner {g : Stage} (h : g.Ok v) (o : Address) : g.Ok { v with owner := some o } := by
  cases g <;> simp_all [Stage.Ok]

omit [Erc721 P] in
theorem shell_now (h : c'.shell = c.shell) : c'.now = c.now := congrArg Shell.now h

omit [Erc721 P] in
theorem shell_gateway (h : c'.shell = c.shell) : c'.bridgeGateway = c.bridgeGateway :=
  congrArg Shell.bridgeGateway h

omit [Erc721 P] in
theorem shell_locked (h : c'.shell = c.shell) : c'.locked = c.locked := congrArg Shell.locked h

omit [Erc721 P] in

/-- A passport under challenge has been verified, and not reset since. -/
theorem Stage.Ok.challenged (h : Stage.free.Ok v) (ha : v.active = true) :
    v.verifier ≠ .zero ∧ v.verifiedAt ≠ 0 ∧ v.reset = false := by
  obtain ⟨hd, hv, -, hr⟩ := h
  have hs : v.status = .disputed := hd.mpr ha
  obtain ⟨h₁, h₂⟩ := hv (by simp [hs])
  refine ⟨h₁, h₂, ?_⟩
  by_contra hne
  rw [hr (by simpa using hne)] at hs
  cases hs

/-- Nobody but the gateway passes `onlyGateway`. -/
theorem Inv.not_gateway (h : Inv b c) {n : ℕ} : Address.account n ≠ c.bridgeGateway := by
  rcases h.gateway with hg | hg <;> simp [hg]

/-- Calls that hold the guard while their callee has its turn. -/
def holdsGuard : Call → Bool
  | .mintPassport .. | .withdraw _ | .judge .. | .conclude _ => true
  | _ => false

theorem during_of_not_holdsGuard {call : Call} (h : holdsGuard call = false) :
    during b call = b := by
  cases call <;> first | rfl | cases h

/-- **The first half of a call.** -/
theorem begin_inv {call : Call} {n : ℕ} (h : Inv b c) (hfree : c.locked = false → ∀ t, b t = .free)
    (hc : calm b c call) (hr : begin c (.account n) call = .ok c₁) :
    Inv (during b call) c₁ ∧ (holdsGuard call = true → c.locked = false) ∧
      c₁.locked = (holdsGuard call || c.locked) := by
  have hok := h.ok
  cases call with
  | transferFrom src dst t | safeTransferFrom src dst t =>
    simp only [begin, bind_ok, orRevert_ok, pure_ok] at hr
    obtain ⟨p, hp, rfl⟩ := hr
    exact ⟨h.views rfl rfl (views_transferFrom hp) (fun _ _ => rfl) ((hok t).owner dst),
      by simp [holdsGuard], rfl⟩
  | approve spender t =>
    simp only [begin, bind_ok, orRevert_ok, pure_ok] at hr
    obtain ⟨p, hp, rfl⟩ := hr
    exact ⟨h.same rfl rfl (views_same_owner (Erc721.ownerOf_approve hp)), by simp [holdsGuard], rfl⟩
  | setApprovalForAll operator b =>
    simp only [begin, bind_ok, orRevert_ok, pure_ok] at hr
    obtain ⟨p, hp, rfl⟩ := hr
    exact ⟨h.same rfl rfl (views_same_owner (Erc721.ownerOf_setApprovalForAll hp)),
      by simp [holdsGuard], rfl⟩
  | mintPassport dst uri =>
    obtain ⟨hl, hn, -, hsh, -, hv⟩ := mintPassport_ok hr
    have hfree := hfree hl
    refine ⟨h.views (congrArg Shell.now hsh) (congrArg Shell.bridgeGateway hsh) hv
      (fun _ _ => rfl) ?_, fun _ => hl, congrArg Shell.locked hsh⟩
    have := hok c.nextTokenId
    simp only [during, hfree, Stage.Ok] at this ⊢
    -- a passport that does not exist is under no challenge
    have ho : (c.view c.nextTokenId).owner = none := hn
    simp_all
  | setPassportURI t uri =>
    obtain ⟨hl, hsh, -, hd, hv⟩ := setPassportURI_ok hr
    have hfree := hfree hl
    refine ⟨h.views (shell_now hsh) (shell_gateway hsh) hv (fun _ _ => rfl) ?_,
      by simp [holdsGuard], shell_locked hsh⟩
    have := hok t
    simp only [during, hfree, Stage.Ok] at this ⊢
    split <;> simp_all [View.unverified]
  | verifyPassport t =>
    obtain ⟨hl, hsh, -, hu, hv⟩ := verifyPassport_ok hr
    have hfree := hfree hl
    refine ⟨h.views (shell_now hsh) (shell_gateway hsh) hv (fun _ _ => rfl) ?_,
      by simp [holdsGuard], shell_locked hsh⟩
    have := hok t
    have hnow := h.now_pos
    simp only [during, hfree, Stage.Ok] at this ⊢
    simp_all
    omega
  | openDispute t value =>
    obtain ⟨hl, hsh, -, hs, ho, ha, hv⟩ := openDispute_ok hr
    have hfree := hfree hl
    refine ⟨h.views (shell_now hsh) (shell_gateway hsh) hv (fun _ _ => rfl) ?_,
      by simp [holdsGuard], shell_locked hsh⟩
    have := hok t
    have hnow := h.now_pos
    simp only [during, hfree, Stage.Ok] at this ⊢
    simp_all
    omega
  | withdraw t =>
    obtain ⟨hl, hsh, -, ha, hv⟩ := withdraw_ok hr
    have hfree := hfree hl
    refine ⟨h.views (congrArg Shell.now hsh) (congrArg Shell.bridgeGateway hsh) hv
      (fun t' ht => by simp [during, ht]) ?_, fun _ => hl, congrArg Shell.locked hsh⟩
    simp only [during, Function.update_self, Stage.Ok]
    exact ⟨trivial, (hfree t ▸ hok t).challenged ha⟩
  | judge t outcome =>
    obtain ⟨hl, hsh, -, ha, hv⟩ := judge_ok hr
    have hfree := hfree hl
    refine ⟨h.views (congrArg Shell.now hsh) (congrArg Shell.bridgeGateway hsh) hv
      (fun t' ht => by cases outcome <;> simp [during, ht]) ?_, fun _ => hl,
      congrArg Shell.locked hsh⟩
    cases outcome <;> simp only [during, Function.update_self, Stage.Ok]
    exact ⟨trivial, (hfree t ▸ hok t).challenged ha⟩
  | conclude t =>
    obtain ⟨hl, hsh, -, ha, hv⟩ := conclude_ok hr
    refine ⟨h.views (congrArg Shell.now hsh) (congrArg Shell.bridgeGateway hsh) hv
      (fun t' ht => by simp [during, ht]) ?_, fun _ => hl, congrArg Shell.locked hsh⟩
    simp only [during, Function.update_self, Stage.Ok]
  | setDisputeDeposit amount =>
    simp only [begin, setDisputeDeposit, bind_ok, pure_ok] at hr
    obtain ⟨_, -, _, -, rfl⟩ := hr
    exact ⟨h.same rfl rfl fun _ => rfl, by simp [holdsGuard], rfl⟩
  | addEncumbranceSource source =>
    simp only [begin, addEncumbranceSource, bind_ok, pure_ok] at hr
    obtain ⟨_, -, _, -, _, -, _, -, rfl⟩ := hr
    exact ⟨h.same rfl rfl fun _ => rfl, by simp [holdsGuard], rfl⟩
  | removeEncumbranceSource source =>
    simp only [begin, removeEncumbranceSource, bind_ok, pure_ok] at hr
    obtain ⟨_, -, _, -, rfl⟩ := hr
    exact ⟨h.same rfl rfl fun _ => rfl, by simp [holdsGuard], rfl⟩
  | setBridgeGateway =>
    simp only [begin, setBridgeGateway, bind_ok, pure_ok] at hr
    obtain ⟨_, -, _, -, _, -, rfl⟩ := hr
    exact ⟨⟨h.now_pos, .inr rfl, hok⟩, by simp [holdsGuard], rfl⟩
  | setCustodyLock t b => exact absurd (setCustodyLock_ok hr).1 h.not_gateway
  | bridgeMint dst t uri => exact absurd (bridgeMint_ok hr).1 h.not_gateway
  | bridgeBurn t => exact absurd (bridgeBurn_ok hr).1 h.not_gateway
  | bridgeResetOnUnlock t uri => exact absurd (bridgeResetOnUnlock_ok hr).1 h.not_gateway
  | send dstEid dst t =>
    obtain ⟨ha, ho, -, hsh, -, hv⟩ := send_ok hr
    refine ⟨h.views (congrArg Shell.now hsh) (congrArg Shell.bridgeGateway hsh) hv
      (fun _ _ => rfl) ?_, by simp [holdsGuard], congrArg Shell.locked hsh⟩
    have := hok t
    by_cases hh : c.isHome t = true
    · cases hb : b t <;> simp only [during, hb, Stage.Ok, hh, if_true] at this ⊢ <;> simp_all
    · have hne := hc (by simpa using hh)
      cases hb : b t <;> simp only [during, hb, Stage.Ok] at this ⊢ <;>
        simp_all [View.unverified]
  | lzReceive m =>
    obtain ⟨-, -, hsh, -, ho, hv⟩ := lzReceive_ok hr
    refine ⟨h.views (congrArg Shell.now hsh) (congrArg Shell.bridgeGateway hsh) hv
      (fun _ _ => rfl) ?_, by simp [holdsGuard], congrArg Shell.locked hsh⟩
    have := hok m.tokenId
    obtain ⟨hne, hact⟩ := hc
    by_cases hh : c.isHome m.tokenId = true
    · have hact : (c.view m.tokenId).active = false := hact hh
      cases hb : b m.tokenId <;> simp only [during, hb, Stage.Ok] at this ⊢ <;>
        simp_all [View.unverified]
    · rw [if_neg hh] at ho
      cases hb : b m.tokenId <;> simp only [during, hb, Stage.Ok] at this ⊢ <;> simp_all
  | recoverLockedHome t dst =>
    obtain ⟨-, -, hsh, hv⟩ := recoverLockedHome_ok hr
    refine ⟨h.views (shell_now hsh) (shell_gateway hsh) hv (fun _ _ => rfl) ?_,
      by simp [holdsGuard], shell_locked hsh⟩
    have := hok t
    obtain ⟨hne, hact⟩ := hc
    have hact : (c.view t).active = false := hact
    cases hb : b t <;> simp only [during, hb, Stage.Ok] at this ⊢ <;> simp_all [View.unverified]

/-- **The second half.**  The end of a challenge writes the status its stage was waiting
    for. -/
theorem finish_inv {call : Call} {n : ℕ} (h : Inv (during b call) c₂)
    (hfree : holdsGuard call = true → ∀ t, b t = .free)
    (hr : finish c c₂ (.account n) call = .ok c') :
    Inv b c' ∧ c'.locked = (!holdsGuard call && c₂.locked) := by
  cases call with
  | mintPassport dst uri =>
    obtain ⟨hsh, -, hv⟩ := mintPassportFinish_ok hr
    exact ⟨h.same (congrArg Shell.now hsh) (congrArg Shell.bridgeGateway hsh) hv,
      congrArg Shell.locked hsh⟩
  | bridgeMint dst t uri =>
    obtain ⟨hsh, -, hv⟩ := bridgeMintFinish_ok hr
    exact ⟨h.same (shell_now hsh) (shell_gateway hsh) hv, shell_locked hsh⟩
  | withdraw t =>
    obtain rfl := pure_ok.mp hr
    have hfree := hfree rfl
    refine ⟨h.views rfl rfl (views_stood fun _ => rfl) (fun t' ht => by simp [during, ht]) ?_, rfl⟩
    have := h.ok t
    simp only [during, Function.update_self, Stage.Ok] at this ⊢
    simp_all
  | judge t outcome =>
    obtain rfl := pure_ok.mp hr
    have hfree := hfree rfl
    have := h.ok t
    cases outcome with
    | upheld =>
      refine ⟨h.views rfl rfl (views_lapsed fun _ => rfl)
        (fun t' ht => by simp [during, ht]) ?_, rfl⟩
      simp only [during, Function.update_self, Stage.Ok] at this ⊢
      simp_all [View.unverified]
    | rejected =>
      refine ⟨h.views rfl rfl (views_stood fun _ => rfl)
        (fun t' ht => by simp [during, ht]) ?_, rfl⟩
      simp only [during, Function.update_self, Stage.Ok] at this ⊢
      simp_all
  | conclude t =>
    obtain rfl := pure_ok.mp hr
    have hfree := hfree rfl
    refine ⟨h.views rfl rfl (views_lapsed fun _ => rfl) (fun t' ht => by simp [during, ht]) ?_, rfl⟩
    have := h.ok t
    simp only [during, Function.update_self, Stage.Ok] at this ⊢
    simp_all [View.unverified]
  | send dstEid dst t =>
    obtain rfl := pure_ok.mp hr
    exact ⟨h.same rfl rfl fun _ => rfl, rfl⟩
  | lzReceive m =>
    obtain ⟨hsh, -, hv⟩ := lzReceiveFinish_ok hr
    exact ⟨h.same (shell_now hsh) (shell_gateway hsh) hv, shell_locked hsh⟩
  | _ =>
    obtain rfl := pure_ok.mp hr
    exact ⟨h, rfl⟩

/-! ## §4. Messages and runs. -/

mutual

/-- **A message keeps the invariant**, whatever its callees send in.  By recursion on the
    tree of messages; the stages say which bonds are being paid further up. -/
theorem exec_inv : ∀ (m : Message) {b : TokenId → Stage} {c c' : Chain P}, Inv b c →
    (c.locked = false → ∀ t, b t = .free) → Calm b m c → exec m c = .ok c' →
    Inv b c' ∧ c'.locked = c.locked
  | .mk sender call accepts calls, b, c, c', h, hfree, hc, hr => by
    simp only [exec, bind_ok] at hr
    obtain ⟨c₁, h₁, c₂, h₂, h₃⟩ := hr
    obtain ⟨hinv, hguard, hlock⟩ := begin_inv h hfree hc.1 h₁
    -- under the guard nothing else is pending
    have hfree₁ : c₁.locked = false → ∀ t, during b call t = .free := by
      intro hl
      rw [hlock, Bool.or_eq_false_iff] at hl
      rw [during_of_not_holdsGuard hl.1]
      exact hfree hl.2
    have hmid : Inv (during b call) c₂ ∧ c₂.locked = c₁.locked := by
      cases ht : turn c call with
      | nobody =>
        rw [ht] at h₂
        obtain rfl := pure_ok.mp h₂
        exact ⟨hinv, rfl⟩
      | required =>
        simp only [ht, bind_ok, require_ok, exists_const] at h₂
        exact execAll_inv calls hinv hfree₁ (hc.2 h₂.1 (by simp [ht]) c₁ h₁) h₂.2
      | caught =>
        simp only [ht] at h₂
        split at h₂
        · rename_i ha
          exact execAll_inv calls hinv hfree₁ (hc.2 ha (by simp [ht]) c₁ h₁) h₂
        · obtain rfl := pure_ok.mp h₂
          exact ⟨hinv, rfl⟩
    obtain ⟨hend, hl⟩ := finish_inv hmid.1 (fun hg => hfree (hguard hg)) h₃
    refine ⟨hend, ?_⟩
    rw [hl, hmid.2, hlock]
    cases hg : holdsGuard call
    · simp
    · simp [hguard hg]

theorem execAll_inv : ∀ (ms : List Message) {b : TokenId → Stage} {c c' : Chain P}, Inv b c →
    (c.locked = false → ∀ t, b t = .free) → CalmAll b ms c → execAll ms c = .ok c' →
    Inv b c' ∧ c'.locked = c.locked
  | [], b, c, c', h, _, _, hr => by
    simp only [execAll, pure_ok] at hr
    subst hr
    exact ⟨h, rfl⟩
  | m :: ms, b, c, c', h, hfree, hc, hr => by
    simp only [execAll, bind_ok] at hr
    obtain ⟨c₁, h₁, hr⟩ := hr
    obtain ⟨hi, hl⟩ := exec_inv m h hfree hc.1 h₁
    obtain ⟨hi', hl'⟩ := execAll_inv ms hi (fun e => hfree (hl ▸ e)) (hc.2 c₁ h₁) hr
    exact ⟨hi', hl'.trans hl⟩

end

/-- Between transactions nothing is pending and the guard is open. -/
def AtRest (c : Chain P) : Prop := Inv (fun _ => .free) c ∧ c.locked = false

theorem AtRest.step {a : Action} (h : AtRest c) (hc : calmStep c a) (hr : step c a = .ok c') :
    AtRest c' := by
  cases a with
  | transaction m =>
    obtain ⟨hi, hl⟩ := exec_inv m h.1 (fun _ _ => rfl) hc hr
    exact ⟨hi, hl.trans h.2⟩
  | arrival m =>
    obtain rfl := pure_ok.mp hr
    exact ⟨h.1.same rfl rfl fun _ => rfl, h.2⟩
  | outside now isActiveVerifier sourceAnswer =>
    simp only [Bridge.step, bind_ok, require_ok, pure_ok, exists_const] at hr
    obtain ⟨hle, rfl⟩ := hr
    exact ⟨⟨Nat.lt_of_lt_of_le h.1.now_pos hle, h.1.gateway, h.1.ok⟩, h.2⟩

theorem Deployed.atRest (h : Deployed c) : AtRest c := by
  refine ⟨⟨h.now_pos, h.gateway, fun t => ?_⟩, h.not_entered⟩
  simp [Stage.Ok, Chain.view, Chain.isChallengeActive, h.unverified, h.no_challenge, h.no_event,
    Challenge.empty, resetByUnlock]

theorem AtRest.law (h : AtRest c) (t : TokenId) : StatusLaw c t := by
  obtain ⟨hd, hv, ha, hreset⟩ := h.1.ok t
  refine ⟨hd, fun e => hv (by simp [Chain.view, e]), fun e => (ha e).1, fun e => ?_⟩
  by_contra hne
  have hs : (c.view t).status = .unverified := hreset (by simpa [Chain.view] using hne)
  rw [hd.mpr e] at hs
  cases hs

/-- **The status law.**  From deployment on, in every run whose messages are all calm, every
    passport's status, challenge and custody agree. -/
theorem status_law {c₀ : Chain P} {as : List Action} (h₀ : Deployed c₀)
    (hc : Along Bridge.step calmStep c₀ as) (hr : run Bridge.step c₀ as = .ok c) (t : TokenId) :
    StatusLaw c t :=
  (run_invariant_along (fun _ _ _ h hc hr => h.step hc hr) h₀.atRest hc hr).law t

end Invariant

/-! ## §5. Where it fails. -/

/-- Chain 1 right after deployment: account 9 owns both contracts, accounts 1 and 2 are
    active verifiers, and the bond is 5. -/
def smallChain : Chain Registry where
  now := 100
  chainId := 1
  isActiveVerifier := fun a => a == .account 1 || a == .account 2
  sourceAnswer := fun _ _ _ => none
  erc721 := .empty
  tokenURI := fun _ => []
  nextTokenId := 2 ^ 128
  passportStatus := fun _ => .unverified
  passportVerifier := fun _ => .zero
  passportVerifiedAt := fun _ => 0
  bridgeGateway := .gateway
  custodyLocked := fun _ => false
  encumbranceSources := []
  disputeDeposit := 5
  bonds := ⟨fun _ => .empty, .account 9, 14 * 24 * 60 * 60, true, 0⟩
  owner := .account 9
  locked := false
  gatewayOwner := .account 9
  inbox := []
  outbox := []
  log := []

theorem smallChain_deployed : Deployed smallChain where
  now_pos := by decide
  no_passport _ := rfl
  nextTokenId := by decide
  unverified _ := rfl
  unlocked _ := rfl
  no_challenge _ := rfl
  gateway := .inr rfl
  not_entered := rfl
  no_event := rfl

/-- A message whose callee, if any, accepts and sends nothing in. -/
def tx (sender : ℕ) (call : Call) : Action := .transaction (.mk sender call true [])

/-- Account 2 verifies a passport of account 1. -/
def verifiedRun : List Action := [tx 1 (.mintPassport (.account 1) [97]), tx 2 (.verifyPassport (2 ^ 128))]

/-- Account 3 challenges it, account 1 transfers it to the gateway and account 9 recovers
    it. -/
def recoveredRun : List Action := verifiedRun ++ [tx 3 (.openDispute (2 ^ 128) 5),
  tx 1 (.transferFrom (.account 1) .gateway (2 ^ 128)),
  tx 9 (.recoverLockedHome (2 ^ 128) (.account 1))]

/-- **A recovery under challenge.**  The passport is unverified and under challenge. -/
theorem recovered_under_challenge : Deployed smallChain ∧
    ∃ c, run step smallChain recoveredRun = .ok c ∧ c.passportStatus (2 ^ 128) = .unverified ∧
      c.isChallengeActive (2 ^ 128) = true ∧ ¬ StatusLaw c (2 ^ 128) := by
  have hs : (finalState step smallChain recoveredRun).passportStatus (2 ^ 128) = .unverified := by
    decide +kernel
  have ha : (finalState step smallChain recoveredRun).isChallengeActive (2 ^ 128) = true := by
    decide +kernel
  refine ⟨smallChain_deployed, _, run_finalState (by decide +kernel), hs, ha, fun h => ?_⟩
  rw [h.disputed_iff.mpr ha] at hs
  cases hs

/-- Passport 7 of chain 2 arrives for account 1, is verified, and account 1 challenges it
    itself; taking back the bond, it sends the passport away again. -/
def burnedRun : List Action :=
  let t := 2 * 2 ^ 128 + 7
  let m : Packet := ⟨1, ⟨0, .account 1⟩, t, [97]⟩
  [.arrival m, tx 5 (.lzReceive m), tx 2 (.verifyPassport t), tx 1 (.openDispute t 5),
    .transaction (.mk 1 (.withdraw t) true [.mk 1 (.send 2 ⟨0, .account 1⟩ t) true []])]

/-- A challenge opened and withdrawn. -/
def withdrawnRun : List Action := verifiedRun ++ [tx 3 (.openDispute (2 ^ 128) 5), tx 3 (.withdraw (2 ^ 128))]

theorem status_law_withdrawn : Deployed smallChain ∧ Along step calmStep smallChain withdrawnRun ∧
    StatusLaw (finalState step smallChain withdrawnRun) (2 ^ 128) := by
  have hc : Along step calmStep smallChain withdrawnRun := by
    simp [withdrawnRun, verifiedRun, Along, calmStep, tx, Calm, CalmAll, calm]
  exact ⟨smallChain_deployed, hc,
    status_law smallChain_deployed hc (run_finalState (by decide +kernel)) _⟩

/-- A withdrawal leaves a burned passport verified by nobody. -/
theorem burned_in_withdrawal : Deployed smallChain ∧
    ∃ c, run step smallChain burnedRun = .ok c ∧
      c.passportStatus (2 * 2 ^ 128 + 7) = .verified ∧
      c.passportVerifier (2 * 2 ^ 128 + 7) = .zero := by
  have h : (finalState step smallChain burnedRun).passportStatus (2 * 2 ^ 128 + 7) = .verified ∧
      (finalState step smallChain burnedRun).passportVerifier (2 * 2 ^ 128 + 7) = .zero := by
    decide +kernel
  exact ⟨smallChain_deployed, _, run_finalState (by decide +kernel), h⟩

end Kargain.Evm.Bridge
