/-
  Kargain.Evm.MessageChanges — a message, change by change.

  `exec` of Kargain.Evm.BridgedPassport says where a message ends.  What
  holds at every point where somebody else has its turn needs the points
  between: `changes` lists what a message does to the chain, one half of a
  call after the other, with the URIs that mints and arrivals under way
  are still to write.

  Main results: `exec_rule`, the induction over a message and all that its
  callees send in; `delivered_mem` and `departed_sent`, where the packets
  of a transaction come from and go to.
-/
import Kargain.Evm.BridgedEffects

namespace Kargain.Evm.Bridge

variable {P : Type} [Erc721 P]

/-! ## §1. Changes. -/

/-- The URIs that mints and arrivals under way are about to write. -/
abbrev Pending := TokenId → Option Uri

/-- Nothing is under way. -/
def Pending.none : Pending := fun _ => .none

omit [Erc721 P] in
/-- What is under way while the callee of a call has its turn. -/
def pendingIn (b : Pending) (c : Chain P) : Call → Pending
  | .mintPassport _ uri => Function.update b c.nextTokenId (some uri)
  | .lzReceive m => if c.isHome m.tokenId then b else Function.update b m.tokenId (some m.uri)
  | _ => b

/-- What the callee makes of the chain in its turn, as `exec` has it. -/
def calleeTurn (c : Chain P) (call : Call) (accepts : Bool) (calls : List Message) (c₁ : Chain P) :
    Except Error (Chain P) :=
  match turn c call with
  | .nobody => pure c₁
  | .required => do
    require (accepts = true) .calleeReverted
    execAll calls c₁
  | .caught => if accepts then execAll calls c₁ else pure c₁

theorem exec_mk {sender : ℕ} {call : Call} {accepts : Bool} {calls : List Message} {c c' : Chain P} :
    exec (.mk sender call accepts calls) c = .ok c' ↔
      ∃ c₁, begin c (.account sender) call = .ok c₁ ∧
        ∃ c₂, calleeTurn c call accepts calls c₁ = .ok c₂ ∧
          finish c c₂ (.account sender) call = .ok c' := by
  have hexec : exec (.mk sender call accepts calls) c =
      begin c (.account sender) call >>= fun c₁ => calleeTurn c call accepts calls c₁ >>= fun c₂ =>
        finish c c₂ (.account sender) call := by
    unfold exec
    rfl
  rw [hexec, bind_ok]
  exact exists_congr fun c₁ => and_congr_right fun _ => bind_ok

inductive Half where
  | first
  | last
  deriving DecidableEq

/-- The chain, and what is under way on it. -/
structure Moment (P : Type) where
  pending : Pending
  chain : Chain P

/-- One half of a call. -/
structure Change (P : Type) where
  sender : Address
  call : Call
  half : Half
  before : Moment P
  after : Moment P

/-- What there is to see of a result that was no revert. -/
def whenOk {α β : Type} (r : Except Error α) (f : α → List β) : List β :=
  match r with
  | .ok a => f a
  | .error _ => []

theorem mem_whenOk {α β : Type} {r : Except Error α} {f : α → List β} {y : β} :
    y ∈ whenOk r f ↔ ∃ a, r = .ok a ∧ y ∈ f a := by
  cases r <;> simp [whenOk]

mutual

/-- What a message does, in order, up to its end or to where it reverts. -/
def changes (b : Pending) : Message → Chain P → List (Change P)
  | .mk sender call accepts calls, c => whenOk (begin c (.account sender) call) fun c₁ =>
    let b₁ := pendingIn b c call
    ⟨.account sender, call, .first, ⟨b, c⟩, ⟨b₁, c₁⟩⟩ ::
      ((if accepts = true ∧ turn c call ≠ .nobody then changesAll b₁ calls c₁ else []) ++
        whenOk (calleeTurn c call accepts calls c₁) fun c₂ =>
          whenOk (finish c c₂ (.account sender) call) fun c' =>
            [⟨.account sender, call, .last, ⟨b₁, c₂⟩, ⟨b, c'⟩⟩])

def changesAll (b : Pending) : List Message → Chain P → List (Change P)
  | [], _ => []
  | m :: ms, c => changes b m c ++ whenOk (exec m c) fun c' => changesAll b ms c'

end

/-- Either half of the call of a message, or a change in its callee's turn. -/
theorem mem_changes {b : Pending} {sender : ℕ} {call : Call} {accepts : Bool}
    {calls : List Message} {c : Chain P} {x : Change P} :
    x ∈ changes b (.mk sender call accepts calls) c ↔
      ∃ c₁, begin c (.account sender) call = .ok c₁ ∧
        (x = ⟨.account sender, call, .first, ⟨b, c⟩, ⟨pendingIn b c call, c₁⟩⟩ ∨
        ((accepts = true ∧ turn c call ≠ .nobody) ∧ x ∈ changesAll (pendingIn b c call) calls c₁) ∨
        ∃ c₂, calleeTurn c call accepts calls c₁ = .ok c₂ ∧
          ∃ c', finish c c₂ (.account sender) call = .ok c' ∧
            x = ⟨.account sender, call, .last, ⟨pendingIn b c call, c₂⟩, ⟨b, c'⟩⟩) := by
  simp only [changes, mem_whenOk, List.mem_cons, List.mem_append, List.mem_ite_nil_right,
    List.not_mem_nil, or_false]

theorem mem_changesAll_cons {b : Pending} {m : Message} {ms : List Message} {c : Chain P}
    {x : Change P} : x ∈ changesAll b (m :: ms) c ↔
      x ∈ changes b m c ∨ ∃ c', exec m c = .ok c' ∧ x ∈ changesAll b ms c' := by
  simp only [changesAll, List.mem_append, mem_whenOk]

/-! ## §2. The rule. -/

/-- What each half of a call does to an invariant of the moments, and to a property of the
    changes, given that the changes meet `ok`. -/
structure HalvesKeep (I : Pending → Chain P → Prop) (ok Q : Change P → Prop) : Prop where
  first : ∀ {b : Pending} {n : ℕ} {call : Call} {c c₁ : Chain P}, I b c →
    begin c (.account n) call = .ok c₁ →
    ok ⟨.account n, call, .first, ⟨b, c⟩, ⟨pendingIn b c call, c₁⟩⟩ →
    I (pendingIn b c call) c₁ ∧ Q ⟨.account n, call, .first, ⟨b, c⟩, ⟨pendingIn b c call, c₁⟩⟩
  last : ∀ {b : Pending} {n : ℕ} {call : Call} {c c₁ c₂ c' : Chain P}, I b c →
    begin c (.account n) call = .ok c₁ →
    (∃ accepts calls, calleeTurn c call accepts calls c₁ = .ok c₂) → I (pendingIn b c call) c₂ →
    finish c c₂ (.account n) call = .ok c' →
    ok ⟨.account n, call, .last, ⟨pendingIn b c call, c₂⟩, ⟨b, c'⟩⟩ →
    I b c' ∧ Q ⟨.account n, call, .last, ⟨pendingIn b c call, c₂⟩, ⟨b, c'⟩⟩

section Rule

variable {I : Pending → Chain P → Prop} {ok Q : Change P → Prop}

mutual

/-- **The induction over a message.**  What both halves of every call keep, a message keeps,
    whatever its callees send in. -/
theorem exec_rule (hk : HalvesKeep I ok Q) : ∀ (m : Message) {b : Pending} {c : Chain P}, I b c →
    (∀ x ∈ changes b m c, ok x) →
    (∀ x ∈ changes b m c, Q x) ∧ ∀ c', exec m c = .ok c' → I b c'
  | .mk sender call accepts calls, b, c, h, hok => by
    -- the callee's turn, from where the first half leaves the chain
    have hinner : ∀ c₁, begin c (.account sender) call = .ok c₁ → accepts = true →
        turn c call ≠ .nobody →
        (∀ x ∈ changesAll (pendingIn b c call) calls c₁, Q x) ∧
          ∀ c₂, execAll calls c₁ = .ok c₂ → I (pendingIn b c call) c₂ := by
      intro c₁ h₁ ha ht
      have hfirst := hk.first h h₁ (hok _ (mem_changes.mpr ⟨c₁, h₁, .inl rfl⟩))
      exact execAll_rule hk calls hfirst.1 fun x hx =>
        hok x (mem_changes.mpr ⟨c₁, h₁, .inr (.inl ⟨⟨ha, ht⟩, hx⟩)⟩)
    have hmid : ∀ c₁ c₂, begin c (.account sender) call = .ok c₁ →
        calleeTurn c call accepts calls c₁ = .ok c₂ → I (pendingIn b c call) c₂ := by
      intro c₁ c₂ h₁ h₂
      have hfirst := hk.first h h₁ (hok _ (mem_changes.mpr ⟨c₁, h₁, .inl rfl⟩))
      unfold calleeTurn at h₂
      cases ht : turn c call with
      | nobody =>
        rw [ht] at h₂
        obtain rfl := pure_ok.mp h₂
        exact hfirst.1
      | required =>
        simp only [ht, bind_ok, require_ok, exists_const] at h₂
        exact (hinner c₁ h₁ h₂.1 (by simp [ht])).2 c₂ h₂.2
      | caught =>
        simp only [ht] at h₂
        split at h₂
        · rename_i ha
          exact (hinner c₁ h₁ ha (by simp [ht])).2 c₂ h₂
        · obtain rfl := pure_ok.mp h₂
          exact hfirst.1
    constructor
    · intro x hx
      have hokx := hok x hx
      obtain ⟨c₁, h₁, rfl | ⟨⟨ha, ht⟩, hx⟩ | ⟨c₂, h₂, c', h₃, rfl⟩⟩ := mem_changes.mp hx
      · exact (hk.first h h₁ hokx).2
      · exact (hinner c₁ h₁ ha ht).1 x hx
      · exact (hk.last h h₁ ⟨accepts, calls, h₂⟩ (hmid c₁ c₂ h₁ h₂) h₃ hokx).2
    · intro c' hr
      obtain ⟨c₁, h₁, c₂, h₂, h₃⟩ := exec_mk.mp hr
      have hokx := hok _ (mem_changes.mpr ⟨c₁, h₁, .inr (.inr ⟨c₂, h₂, c', h₃, rfl⟩)⟩)
      exact (hk.last h h₁ ⟨accepts, calls, h₂⟩ (hmid c₁ c₂ h₁ h₂) h₃ hokx).1

theorem execAll_rule (hk : HalvesKeep I ok Q) : ∀ (ms : List Message) {b : Pending} {c : Chain P},
    I b c → (∀ x ∈ changesAll b ms c, ok x) →
    (∀ x ∈ changesAll b ms c, Q x) ∧ ∀ c', execAll ms c = .ok c' → I b c'
  | [], b, c, h, _ => by
    refine ⟨fun x hx => by simp [changesAll] at hx, fun c' hr => ?_⟩
    simp only [execAll, pure_ok] at hr
    subst hr
    exact h
  | m :: ms, b, c, h, hok => by
    have hm := exec_rule hk m h fun x hx => hok x (mem_changesAll_cons.mpr (.inl hx))
    have hms : ∀ c₁, exec m c = .ok c₁ →
        (∀ x ∈ changesAll b ms c₁, Q x) ∧ ∀ c', execAll ms c₁ = .ok c' → I b c' := by
      intro c₁ h₁
      exact execAll_rule hk ms (hm.2 c₁ h₁) fun x hx =>
        hok x (mem_changesAll_cons.mpr (.inr ⟨c₁, h₁, hx⟩))
    constructor
    · intro x hx
      rcases mem_changesAll_cons.mp hx with hx | ⟨c₁, h₁, hx⟩
      · exact hm.1 x hx
      · exact (hms c₁ h₁).1 x hx
    · intro c' hr
      simp only [execAll, bind_ok] at hr
      obtain ⟨c₁, h₁, hr⟩ := hr
      exact (hms c₁ h₁).2 c' hr

end

end Rule

/-! ## §3. The shell. -/

omit [Erc721 P] in
/-- The shell after the first half of a call. -/
def shellAfter (c : Chain P) : Call → Shell
  | .mintPassport .. => { c.shell with locked := true, nextTokenId := c.nextTokenId + 1 }
  | .withdraw _ | .judge .. | .conclude _ => { c.shell with locked := true }
  | .setBridgeGateway => { c.shell with bridgeGateway := .gateway }
  | .send dstEid dst t =>
    { c.shell with outbox := ⟨dstEid, dst, t, c.tokenURI t⟩ :: c.outbox }
  | .lzReceive m => { c.shell with inbox := c.inbox.erase m }
  | _ => c.shell

theorem begin_shell {c c' : Chain P} {s : Address} {call : Call} (h : begin c s call = .ok c') :
    c'.shell = shellAfter c call := by
  cases call with
  | transferFrom src dst t | safeTransferFrom src dst t =>
    simp only [begin, bind_ok, orRevert_ok, pure_ok] at h
    obtain ⟨p, -, rfl⟩ := h
    rfl
  | approve spender t =>
    simp only [begin, bind_ok, orRevert_ok, pure_ok] at h
    obtain ⟨p, -, rfl⟩ := h
    rfl
  | setApprovalForAll operator b =>
    simp only [begin, bind_ok, orRevert_ok, pure_ok] at h
    obtain ⟨p, -, rfl⟩ := h
    rfl
  | mintPassport dst uri => exact (mintPassport_ok h).2.2.2.1
  | setPassportURI t uri => exact (setPassportURI_ok h).2.1
  | verifyPassport t => exact (verifyPassport_ok h).2.1
  | openDispute t value => exact (openDispute_ok h).2.1
  | withdraw t => exact (withdraw_ok h).2.1
  | judge t outcome => exact (judge_ok h).2.1
  | conclude t => exact (conclude_ok h).2.1
  | setDisputeDeposit amount =>
    simp only [begin, setDisputeDeposit, bind_ok, pure_ok] at h
    obtain ⟨_, -, _, -, rfl⟩ := h
    rfl
  | addEncumbranceSource source =>
    simp only [begin, addEncumbranceSource, bind_ok, pure_ok] at h
    obtain ⟨_, -, _, -, _, -, _, -, rfl⟩ := h
    rfl
  | removeEncumbranceSource source =>
    simp only [begin, removeEncumbranceSource, bind_ok, pure_ok] at h
    obtain ⟨_, -, _, -, rfl⟩ := h
    rfl
  | setBridgeGateway =>
    simp only [begin, setBridgeGateway, bind_ok, pure_ok] at h
    obtain ⟨_, -, _, -, _, -, rfl⟩ := h
    rfl
  | setCustodyLock t b => exact (setCustodyLock_ok h).2.2.1
  | bridgeMint dst t uri => exact (bridgeMint_ok h).2.2.2.1
  | bridgeBurn t => exact (bridgeBurn_ok h).2.2.1
  | bridgeResetOnUnlock t uri => exact (bridgeResetOnUnlock_ok h).2.2.1
  | send dstEid dst t => exact (send_ok h).2.2.2.1
  | lzReceive m => exact (lzReceive_ok h).2.2.1
  | recoverLockedHome t dst => exact (recoverLockedHome_ok h).2.2.1

/-- The second half moves nothing of the shell but the guard. -/
theorem finish_shell {c₀ c c' : Chain P} {s : Address} {call : Call}
    (h : finish c₀ c s call = .ok c') : c'.shell = { c.shell with locked := c'.locked } := by
  cases call with
  | mintPassport dst uri =>
    obtain ⟨hsh, -⟩ := mintPassportFinish_ok h
    have hl : c'.locked = false := congrArg Shell.locked hsh
    rw [hsh, hl]
  | bridgeMint dst t uri =>
    obtain ⟨hsh, -⟩ := bridgeMintFinish_ok h
    rw [show c'.locked = c.locked from congrArg Shell.locked hsh]
    exact hsh
  | judge t outcome =>
    obtain rfl := pure_ok.mp h
    cases outcome <;> rfl
  | lzReceive m =>
    obtain ⟨hsh, -⟩ := lzReceiveFinish_ok h
    rw [show c'.locked = c.locked from congrArg Shell.locked hsh]
    exact hsh
  | _ =>
    obtain rfl := pure_ok.mp h
    rfl

/-! ## §4. Packets. -/

/-- The change takes `p` from its sender: the first half of a `send` of a passport that has
    then the URI of `p`. -/
structure Change.Sends (x : Change P) (p : Packet) : Prop where
  call : x.call = .send p.dstEid p.sendTo p.tokenId
  half : x.half = .first
  uri : x.before.chain.tokenURI p.tokenId = p.uri
  owned : x.before.chain.ownerOf p.tokenId = some x.sender
  out : x.after.chain.outbox = p :: x.before.chain.outbox

section Packets

variable {c c' : Chain P} {s : Address} {call : Call}

/-- Nothing but a send and a delivery moves packets. -/
theorem begin_boxes_still (hs : ∀ dstEid dst t, call ≠ .send dstEid dst t)
    (hl : ∀ m, call ≠ .lzReceive m) (h : begin c s call = .ok c') :
    c'.inbox = c.inbox ∧ c'.outbox = c.outbox := by
  have hsh := begin_shell h
  cases call with
  | send dstEid dst t => exact absurd rfl (hs dstEid dst t)
  | lzReceive m => exact absurd rfl (hl m)
  | _ => exact ⟨congrArg Shell.inbox hsh, congrArg Shell.outbox hsh⟩

/-- Only `send` puts into the outbox and only a delivery takes from the inbox. -/
theorem begin_boxes (h : begin c s call = .ok c') :
    (∃ dstEid dst t, call = .send dstEid dst t ∧ c.ownerOf t = some s ∧ c'.inbox = c.inbox ∧
      c'.outbox = ⟨dstEid, dst, t, c.tokenURI t⟩ :: c.outbox) ∨
    (∃ m, call = .lzReceive m ∧ m ∈ c.inbox ∧ c'.inbox = c.inbox.erase m ∧
      c'.outbox = c.outbox) ∨
    ((∀ m, call ≠ .lzReceive m) ∧ c'.inbox = c.inbox ∧ c'.outbox = c.outbox) := by
  by_cases hs : ∃ dstEid dst t, call = .send dstEid dst t
  · obtain ⟨dstEid, dst, t, rfl⟩ := hs
    obtain ⟨-, ho, -, hsh, -⟩ := send_ok h
    exact .inl ⟨dstEid, dst, t, rfl, ho, congrArg Shell.inbox hsh, congrArg Shell.outbox hsh⟩
  by_cases hl : ∃ m, call = .lzReceive m
  · obtain ⟨m, rfl⟩ := hl
    obtain ⟨hm, -, hsh, -⟩ := lzReceive_ok h
    exact .inr (.inl ⟨m, rfl, hm, congrArg Shell.inbox hsh, congrArg Shell.outbox hsh⟩)
  have hl : ∀ m, call ≠ .lzReceive m := fun m e => hl ⟨m, e⟩
  exact .inr (.inr ⟨hl, begin_boxes_still (fun _ _ _ e => hs ⟨_, _, _, e⟩) hl h⟩)

theorem finish_boxes {c₀ : Chain P} (h : finish c₀ c s call = .ok c') :
    c'.inbox = c.inbox ∧ c'.outbox = c.outbox :=
  ⟨congrArg Shell.inbox (finish_shell h), congrArg Shell.outbox (finish_shell h)⟩

/-- The inbox only empties, and what is delivered comes from it. -/
theorem inbox_halves (inbox : List Packet) :
    HalvesKeep (fun _ (c : Chain P) => c.inbox ⊆ inbox) (fun _ => True)
      (fun x => ∀ p, x.call = .lzReceive p → p ∈ inbox) := by
  refine ⟨fun hi hr _ => ?_, fun hi h₁ _ hm hr _ => ⟨?_, fun p e => ?_⟩⟩
  · rcases begin_boxes hr with ⟨_, _, _, rfl, -, hin, -⟩ | ⟨q, rfl, hq, hin, -⟩ | ⟨hne, hin, -⟩
    · exact ⟨fun _ hp => hi (hin ▸ hp), fun p e => by cases e⟩
    · refine ⟨fun _ hp => hi (List.mem_of_mem_erase (hin ▸ hp)), fun p e => ?_⟩
      cases e
      exact hi hq
    · exact ⟨fun _ hp => hi (hin ▸ hp), fun p e => absurd e (hne p)⟩
  · show (_ : List Packet) ⊆ _
    rw [(finish_boxes hr).1]
    exact hm
  · -- its first half was taken in this transaction too
    have e : _ = Call.lzReceive p := e
    subst e
    rcases begin_boxes h₁ with ⟨_, _, _, e, -⟩ | ⟨q, e, hq, -⟩ | ⟨hne, -⟩
    · cases e
    · cases e
      exact hi hq
    · exact absurd rfl (hne p)

/-- What is delivered in a transaction was in the inbox when it began. -/
theorem delivered_mem {m : Message} {b : Pending} {x : Change P} {p : Packet}
    (hx : x ∈ changes b m c) (hp : x.call = .lzReceive p) : p ∈ c.inbox :=
  (exec_rule (inbox_halves c.inbox) m (fun _ h => h) fun _ _ => trivial).1 x hx p hp

/-- What it leaves in the inbox was there. -/
theorem left_mem {m : Message} {p : Packet} (hr : exec m c = .ok c') (hp : p ∈ c'.inbox) :
    p ∈ c.inbox :=
  (exec_rule (b := .none) (inbox_halves c.inbox) m (fun _ h => h) fun _ _ => trivial).2 c' hr hp

/-- What a transaction leaves in the outbox was there before, or was sent in it. -/
theorem departed_sent {m : Message} {b : Pending} {p : Packet} (hr : exec m c = .ok c')
    (hp : p ∈ c'.outbox) : p ∈ c.outbox ∨ ∃ x ∈ changes b m c, x.Sends p := by
  have hk : HalvesKeep
      (fun _ (c' : Chain P) => ∀ p ∈ c'.outbox, p ∈ c.outbox ∨ ∃ x ∈ changes b m c, x.Sends p)
      (fun x => x ∈ changes b m c) (fun _ => True) := by
    refine ⟨fun hi h₁ hx => ⟨fun p hp => ?_, trivial⟩, fun _ _ _ hm h₃ _ => ⟨?_, trivial⟩⟩
    · rcases begin_boxes h₁ with ⟨_, _, t, rfl, ho, -, hout⟩ | ⟨_, _, _, -, hout⟩ | ⟨-, -, hout⟩
      · rw [hout, List.mem_cons] at hp
        rcases hp with rfl | hp
        · exact .inr ⟨_, hx, rfl, rfl, rfl, ho, hout⟩
        · exact hi p hp
      · exact hi p (hout ▸ hp)
      · exact hi p (hout ▸ hp)
    · show ∀ p ∈ _, _
      rw [(finish_boxes h₃).2]
      exact hm
  exact (exec_rule hk m (fun _ h => .inl h) fun _ hx => hx).2 c' hr p hp

end Packets

end Kargain.Evm.Bridge
