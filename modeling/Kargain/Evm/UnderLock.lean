/-
  Kargain.Evm.UnderLock — what can change inside an external call.

  While the re-entrancy guard is held, only free effects happen inside an
  external call.  They leave the clock, the guard and the mode's own
  records alone, and of a consignment they change at most the two
  conceded terms; the one lot they can end is an offered, uncommitted one
  that its seller recalls.  The guarded entry points rest on this: what
  they read before a payment is still there after it.
-/
import Mathlib
import Kargain.Evm.Effects

namespace Kargain.Evm

open Relation

variable {P σ : Type}

/-- Lot `t` across an external call. -/
inductive LotKept (w w' : World P σ) (t : TokenId) : Prop where
  | kept (phase : w'.com.phase t = w.com.phase t)
      (committed : w'.com.committedNotOffered t = w.com.committedNotOffered t)
      (terms : SameTerms (w.com.consignments t) (w'.com.consignments t))
  | recalled (offered : isOfferedActionable w t = true) (phase : w'.com.phase t = .returned)
      (committed : w'.com.committedNotOffered t = false)

theorem LotKept.refl (w : World P σ) (t : TokenId) : LotKept w w t :=
  .kept rfl rfl (.refl _)

theorem isOfferedActionable_congr {w w' : World P σ} {t : TokenId}
    (hp : w'.com.phase t = w.com.phase t)
    (hc : w'.com.committedNotOffered t = w.com.committedNotOffered t) :
    isOfferedActionable w' t = isOfferedActionable w t := by
  simp only [isOfferedActionable, hp, hc]

theorem LotKept.trans {u v w : World P σ} {t : TokenId} (h : LotKept u v t)
    (k : LotKept v w t) : LotKept u w t := by
  cases h with
  | kept hp hc hs =>
    cases k with
    | kept kp kc ks => exact .kept (kp.trans hp) (kc.trans hc) (hs.trans ks)
    | recalled ko kp kc =>
      exact .recalled ((isOfferedActionable_congr hp hc).symm.trans ko) kp kc
  | recalled ho hp hc =>
    cases k with
    | kept kp kc ks => exact .recalled ho (kp.trans hp) (kc.trans hc)
    | recalled ko _ _ =>
      -- a returned lot is not offered, so it cannot be recalled again
      simp [isOfferedActionable, hp] at ko

/-- The frame of an external call. -/
structure UnderLock (ExtSame : σ → σ → Prop) (w w' : World P σ) : Prop where
  locked : w'.locked = w.locked
  ext : ExtSame w.ext w'.ext
  now : w'.env.now = w.env.now
  lots : ∀ t, LotKept w w' t

/-- The parts of its own storage a mode's administrator leaves alone, as an equality of
    some view of it. -/
structure ExtView (ExtSame : σ → σ → Prop) : Prop where
  refl : ∀ e, ExtSame e e
  trans : ∀ {e f g}, ExtSame e f → ExtSame f g → ExtSame e g

namespace UnderLock

variable {ExtSame : σ → σ → Prop} {u v w w' : World P σ}

theorem refl (hv : ExtView ExtSame) (w : World P σ) : UnderLock ExtSame w w :=
  ⟨rfl, hv.refl _, rfl, LotKept.refl w⟩

theorem trans (hv : ExtView ExtSame) (h : UnderLock ExtSame u v) (k : UnderLock ExtSame v w) :
    UnderLock ExtSame u w :=
  ⟨k.locked.trans h.locked, hv.trans h.ext k.ext, k.now.trans h.now,
    fun t => (h.lots t).trans (k.lots t)⟩

/-- A change that leaves ConsignmentBase, the mode's storage, the guard and the clock alone. -/
theorem of_com (hv : ExtView ExtSame) (hc : w'.com = w.com) (he : w'.ext = w.ext)
    (hl : w'.locked = w.locked) (hn : w'.env.now = w.env.now) : UnderLock ExtSame w w' :=
  ⟨hl, he ▸ hv.refl _, hn, fun t => .kept (by rw [hc]) (by rw [hc]) (by rw [hc]; exact .refl _)⟩

/-- A committed lot stays what it is. -/
theorem committed {t : TokenId} (h : UnderLock ExtSame w w')
    (hc : w.com.committedNotOffered t = true) :
    w'.com.phase t = w.com.phase t ∧ w'.com.committedNotOffered t = true ∧
      SameTerms (w.com.consignments t) (w'.com.consignments t) := by
  cases h.lots t with
  | kept hp hk hs => exact ⟨hp, hk.trans hc, hs⟩
  | recalled ho _ _ => simp [isOfferedActionable, hc] at ho

/-- A lot that is still offered has its terms. -/
theorem offered {t : TokenId} (h : UnderLock ExtSame w w') (hp : w'.com.phase t = .offered) :
    w.com.phase t = .offered ∧
      w'.com.committedNotOffered t = w.com.committedNotOffered t ∧
      SameTerms (w.com.consignments t) (w'.com.consignments t) := by
  cases h.lots t with
  | kept hp' hk hs => exact ⟨hp'.symm.trans hp, hk, hs⟩
  | recalled _ hr _ =>
    rw [hr] at hp
    cases hp

end UnderLock

/-- The surroundings change the registry, what other contracts answer, and balances. -/
theorem execOutside_frame [Erc721 P] {H : Hooks P σ} {w w' : World P σ} {o : Outside}
    (h : execOutside H w o = .ok w') :
    w'.com = w.com ∧ w'.ext = w.ext ∧ w'.locked = w.locked ∧ w'.env.now = w.env.now ∧
      w'.bonds = w.bonds := by
  cases o with
  | passport caller c =>
    cases c <;>
      simp only [execOutside, execPassport, bind_ok, orRevert_ok, require_ok, exists_const,
        pure_ok] at h
    case transferFrom => obtain ⟨p, -, rfl⟩ := h; exact ⟨rfl, rfl, rfl, rfl, rfl⟩
    case approve => obtain ⟨p, -, rfl⟩ := h; exact ⟨rfl, rfl, rfl, rfl, rfl⟩
    case setApprovalForAll => obtain ⟨p, -, rfl⟩ := h; exact ⟨rfl, rfl, rfl, rfl, rfl⟩
    case send => obtain ⟨k, -, rfl⟩ := h; exact ⟨rfl, rfl, rfl, rfl, rfl⟩
    case receive => obtain ⟨k, -, rfl⟩ := h; exact ⟨rfl, rfl, rfl, rfl, rfl⟩
    case mintPassport => obtain ⟨-, p, -, rfl⟩ := h; exact ⟨rfl, rfl, rfl, rfl, rfl⟩
  | setToken token n =>
    simp only [execOutside, bind_ok, require_ok, exists_const, pure_ok] at h
    obtain ⟨-, rfl⟩ := h
    exact ⟨rfl, rfl, rfl, rfl, rfl⟩
  | _ => obtain rfl := Except.ok.inj h; exact ⟨rfl, rfl, rfl, rfl, rfl⟩

/-- What the surroundings do to the registry: nothing that shows in who owns what, or one
    move, with its event, of a passport the mode does not hold. -/
structure RegistryMove [Erc721 P] (w w' : World P σ) (src dst : Address) (t : TokenId) :
    Prop where
  foreign : w.ownerOf t ≠ some .self
  here : w'.ownerOf t = if dst = .zero then none else some dst
  elsewhere : ∀ t', t' ≠ t → w'.ownerOf t' = w.ownerOf t'
  log : ∃ s, w'.log = (s, .transfer src dst t) :: w.log

theorem registryMove_of_transferFrom [Erc721 P] {w w' : World P σ} {caller src dst : Address}
    {t : TokenId} {p : P}
    (hp : Erc721.transferFrom w.env.karPassport.erc721 caller src dst t = some p)
    (hsrc : src ≠ .self) (hr : w'.env.karPassport.erc721 = p)
    (hl : ∃ s, w'.log = (s, .transfer src dst t) :: w.log) : RegistryMove w w' src dst t := by
  obtain ⟨hown, hdst, -⟩ := Erc721.transferFrom_some hp
  refine ⟨fun ho => hsrc (Option.some.inj (hown.symm.trans ho)), ?_, fun t' ht => ?_, hl⟩
  · rw [World.ownerOf, hr, Erc721.ownerOf_transferFrom hp, if_pos rfl, if_neg hdst]
  · rw [World.ownerOf, hr, Erc721.ownerOf_transferFrom hp, if_neg ht]
    rfl

theorem registryMove_of_mint [Erc721 P] {w w' : World P σ} {dst : Address} {t : TokenId} {p : P}
    (hp : Erc721.mint w.env.karPassport.erc721 dst t = some p)
    (hr : w'.env.karPassport.erc721 = p)
    (hl : ∃ s, w'.log = (s, .transfer .zero dst t) :: w.log) :
    RegistryMove w w' .zero dst t := by
  obtain ⟨hnone, hdst⟩ := (Erc721.mint_isSome _ dst t).mp (by rw [hp]; rfl)
  refine ⟨fun ho => ?_, ?_, fun t' ht => ?_, hl⟩
  · rw [World.ownerOf, hnone] at ho
    cases ho
  · rw [World.ownerOf, hr, Erc721.ownerOf_mint hp, if_pos rfl, if_neg hdst]
  · rw [World.ownerOf, hr, Erc721.ownerOf_mint hp, if_neg ht]
    rfl

theorem execOutside_registry [Erc721 P] {H : Hooks P σ} {w w' : World P σ} {o : Outside}
    (hc : RegistryClean w.env.karPassport.erc721) (h : execOutside H w o = .ok w') :
    RegistryClean w'.env.karPassport.erc721 ∧
      (((∀ t, w'.ownerOf t = w.ownerOf t) ∧ w'.log = w.log) ∨
        ∃ src dst t, RegistryMove w w' src dst t) := by
  cases o with
  | passport caller c =>
    cases c with
    | transferFrom src dst t =>
      simp only [execOutside, execPassport, bind_ok, orRevert_ok, pure_ok] at h
      obtain ⟨p, hp, rfl⟩ := h
      have hsrc := hc.src_ne_self caller.ne_self hp
      exact ⟨hc.transferFrom hp,
        .inr ⟨src, dst, t, registryMove_of_transferFrom hp hsrc rfl ⟨_, rfl⟩⟩⟩
    | approve spender t =>
      simp only [execOutside, execPassport, bind_ok, orRevert_ok, pure_ok] at h
      obtain ⟨p, hp, rfl⟩ := h
      exact ⟨hc.approve caller.ne_self hp,
        .inl ⟨fun t' => congrFun (Erc721.ownerOf_approve hp) t', rfl⟩⟩
    | setApprovalForAll operator b =>
      simp only [execOutside, execPassport, bind_ok, orRevert_ok, pure_ok] at h
      obtain ⟨p, hp, rfl⟩ := h
      exact ⟨hc.setApprovalForAll caller.ne_self hp,
        .inl ⟨fun t' => congrFun (Erc721.ownerOf_setApprovalForAll hp) t', rfl⟩⟩
    | send t =>
      simp only [execOutside, execPassport, KarPassport.debit, bind_ok, require_ok,
        exists_const, pure_ok] at h
      obtain ⟨k, ⟨_, -, -, hk⟩, rfl⟩ := h
      split at hk
      · rename_i hhome
        simp only [bind_ok, orRevert_ok, pure_ok] at hk
        obtain ⟨p, hp, rfl⟩ := hk
        rw [if_pos hhome]
        exact ⟨hc.transferFrom hp, .inr ⟨caller.addr, .gateway, t,
          registryMove_of_transferFrom hp caller.ne_self rfl ⟨_, rfl⟩⟩⟩
      · rename_i hhome
        simp only [bind_ok, require_ok, exists_const, orRevert_ok, pure_ok] at hk
        obtain ⟨hown, p, hp, rfl⟩ := hk
        rw [if_neg hhome]
        refine ⟨hc.burn hp, .inr ⟨caller.addr, .zero, t, ?_, ?_, fun t' ht => ?_, ⟨_, rfl⟩⟩⟩
        · exact fun ho => caller.ne_self (Option.some.inj (hown.symm.trans ho))
        · exact (Erc721.ownerOf_burn hp t).trans (if_pos rfl)
        · exact (Erc721.ownerOf_burn hp t').trans (if_neg ht)
    | receive dst t =>
      simp only [execOutside, execPassport, KarPassport.receive, bind_ok, orRevert_ok,
        pure_ok] at h
      obtain ⟨k, ⟨p, hp, rfl⟩, rfl⟩ := h
      split at hp
      · rename_i hhome
        rw [if_pos hhome]
        exact ⟨hc.transferFrom hp, .inr ⟨.gateway, dst, t,
          registryMove_of_transferFrom hp (by simp) rfl ⟨_, rfl⟩⟩⟩
      · rename_i hhome
        rw [if_neg hhome]
        exact ⟨hc.mint hp, .inr ⟨.zero, dst, t, registryMove_of_mint hp rfl ⟨_, rfl⟩⟩⟩
    | mintPassport dst t =>
      simp only [execOutside, execPassport, bind_ok, require_ok, exists_const, orRevert_ok,
        pure_ok] at h
      obtain ⟨-, p, hp, rfl⟩ := h
      exact ⟨hc.mint hp, .inr ⟨.zero, dst, t, registryMove_of_mint hp rfl ⟨_, rfl⟩⟩⟩
  | setToken token n =>
    simp only [execOutside, bind_ok, require_ok, exists_const, pure_ok] at h
    obtain ⟨-, rfl⟩ := h
    exact ⟨hc, .inl ⟨fun _ => rfl, rfl⟩⟩
  | _ => obtain rfl := Except.ok.inj h; exact ⟨hc, .inl ⟨fun _ => rfl, rfl⟩⟩

/-- A consignment write that keeps the terms of lot `t`. -/
theorem lotKept_setConsignment {w : World P σ} {t : TokenId} {c : Consignment}
    (hs : SameTerms (w.com.consignments t) c) (t' : TokenId) :
    LotKept w (w.setConsignment t c) t' := by
  refine .kept rfl rfl ?_
  by_cases ht : t' = t
  · subst ht
    simpa [World.setConsignment] using hs
  · simpa [World.setConsignment, ht] using SameTerms.refl _

section Free

variable [Erc721 P] {H : Hooks P σ} {ExtSame : σ → σ → Prop} {w w' : World P σ}

/-- **Every free effect keeps the frame.** -/
theorem FreeEffect.underLock (hv : ExtView ExtSame) (h : FreeEffect H ExtSame w w') :
    UnderLock ExtSame w w' := by
  cases h with
  | outside o h =>
    obtain ⟨hc, he, hl, hn, -⟩ := execOutside_frame h
    exact .of_com hv hc he hl hn
  | emitted s e _ => exact .of_com hv rfl rfl rfl rfl
  | granted => exact ⟨rfl, hv.refl _, rfl, fun t => .kept rfl rfl (.refl _)⟩
  | revoked => exact ⟨rfl, hv.refl _, rfl, fun t => .kept rfl rfl (.refl _)⟩
  | @floorLowered s t newFloor _ _ _ hlow =>
    have hset : UnderLock ExtSame w
        (w.setConsignment t { w.com.consignments t with floor := newFloor }) :=
      ⟨rfl, hv.refl _, rfl, lotKept_setConsignment ⟨rfl, rfl, rfl, rfl, Nat.le_of_lt hlow⟩⟩
    exact hset.trans hv (.of_com hv rfl rfl rfl rfl)
  | commissionLowered =>
    exact ⟨rfl, hv.refl _, rfl, lotKept_setConsignment ⟨rfl, rfl, rfl, rfl, le_rfl⟩⟩
  | recallSet t n => exact ⟨rfl, hv.refl _, rfl, fun t => .kept rfl rfl (.refl _)⟩
  | administered p g o => exact ⟨rfl, hv.refl _, rfl, fun t => .kept rfl rfl (.refl _)⟩
  | configured he => exact ⟨rfl, he, rfl, fun t => .kept rfl rfl (.refl _)⟩
  | probed paid _ => exact .of_com hv rfl rfl rfl rfl
  | @recalled t ho =>
    refine ⟨rfl, hv.refl _, rfl, fun t' => ?_⟩
    by_cases ht : t' = t
    · subst ht
      exact .recalled ho (by simp [clearConsignment, World.setPhase])
        (by simp [clearConsignment, World.setPhase, World.setConsignment, World.setCommitted])
    · refine .kept ?_ ?_ ?_ <;>
        simp [clearConsignment, World.setPhase, World.setConsignment, World.setCommitted,
          World.setRecallRequest, ht, SameTerms.refl]
  | released _ _ => exact .of_com hv rfl rfl rfl rfl
  | closed s reason _ => exact .of_com hv rfl rfl rfl rfl

theorem underLock_of_chain (hv : ExtView ExtSame) (h : ReflTransGen (FreeEffect H ExtSame) w w') :
    UnderLock ExtSame w w' := by
  induction h with
  | refl => exact .refl hv w
  | tail _ he ih => exact ih.trans hv (he.underLock hv)

/-- A callee that, entered while the guard is held, can only have free effects. -/
def Calm (H : Hooks P σ) (ExtSame : σ → σ → Prop) (r : Reply P σ) : Prop :=
  ∀ u : World P σ, u.locked = true → ReflTransGen (FreeEffect H ExtSame) u (r.reenter u)

theorem Calm.underLock_after {r : Reply P σ} (hv : ExtView ExtSame) (hr : Calm H ExtSame r)
    {u : World P σ} (h : UnderLock ExtSame w u) (hl : w.locked = true) :
    UnderLock ExtSame w (r.reenter u) :=
  h.trans hv (underLock_of_chain hv (hr u (h.locked.trans hl)))

/-! ## Payments under the guard. -/

section Payments

variable {sender dst asset : Address} {amount : ℕ} {r : Reply P σ}

omit [Erc721 P] in
theorem creditClaim_underLock {account : Address} (hv : ExtView ExtSame)
    (h : creditClaim w sender account asset amount = .ok w') : UnderLock ExtSame w w' := by
  simp only [creditClaim, bind_ok, checkedAdd_ok] at h
  obtain ⟨claim, -, h⟩ := h
  split at h <;>
  · simp only [bind_ok, checkedAdd_ok, pure_ok] at h
    obtain ⟨total, -, rfl⟩ := h
    exact .of_com hv rfl rfl rfl rfl

theorem callValue_underLock {v : World P σ} {ok : Bool} (hv : ExtView ExtSame)
    (hl : w.locked = true) (hr : Calm H ExtSame r) (h : callValue w dst amount r = (ok, v)) :
    UnderLock ExtSame w v := by
  unfold callValue at h
  split at h
  · cases h
    exact hr.underLock_after hv (.of_com hv rfl rfl rfl rfl) hl
  · cases h
    exact .of_com hv rfl rfl rfl rfl

theorem tryErc20Transfer_underLock {token : Address} {v : World P σ} {ok : Bool}
    (hv : ExtView ExtSame) (hl : w.locked = true) (hr : Calm H ExtSame r)
    (h : tryErc20Transfer w token dst amount r = .ok (ok, v)) : UnderLock ExtSame w v := by
  simp only [tryErc20Transfer] at h
  split at h <;> split at h
  · cases h
    exact hr.underLock_after hv (.of_com hv rfl rfl rfl rfl) hl
  · cases h
    exact .of_com hv rfl rfl rfl rfl
  · simp only [bind_ok, pure_ok, Prod.mk.injEq] at h
    obtain ⟨ok', -, rfl, rfl⟩ := h
    exact hr.underLock_after hv (.of_com hv rfl rfl rfl rfl) hl
  · cases h
    exact .of_com hv rfl rfl rfl rfl

theorem payOut_underLock (hv : ExtView ExtSame) (hl : w.locked = true) (hr : Calm H ExtSame r)
    (h : payOut w sender asset dst amount r = .ok w') : UnderLock ExtSame w w' := by
  unfold payOut at h
  split at h
  · unfold payNative at h
    split at h
    · cases h
      exact .refl hv w
    · rcases hc : callValue w dst amount r with ⟨ok, v⟩
      rw [hc] at h
      have hcall := callValue_underLock hv hl hr hc
      cases ok with
      | true =>
        obtain rfl : v = w' := Except.ok.inj h
        exact hcall
      | false => exact hcall.trans hv (creditClaim_underLock hv h)
  · unfold payErc20 at h
    split at h
    · cases h
      exact .refl hv w
    · simp only [bind_ok] at h
      obtain ⟨⟨ok, v⟩, hc, h⟩ := h
      have hcall := tryErc20Transfer_underLock hv hl hr hc
      cases ok with
      | true =>
        obtain rfl : v = w' := Except.ok.inj h
        exact hcall
      | false => exact hcall.trans hv (creditClaim_underLock hv h)

theorem pullErc20_underLock {token : Address} (hv : ExtView ExtSame) (hl : w.locked = true)
    (hr : Calm H ExtSame r) (h : pullErc20 w token amount r = .ok w') :
    UnderLock ExtSame w w' := by
  simp only [pullErc20, bind_ok, require_ok, exists_const, checkedSub_ok, revertIf_ok,
    pure_ok] at h
  obtain ⟨-, b, -, -, -, -, rfl⟩ := h
  exact hr.underLock_after hv (.of_com hv rfl rfl rfl rfl) hl

/-- A delivery under the guard, whether or not it calls the receiver. -/
theorem releaseCustody_underLock {t : TokenId} (hv : ExtView ExtSame) (hl : w.locked = true)
    (hr : Calm H ExtSame r) (h : releaseCustody H w t dst r = .ok w') :
    UnderLock ExtSame w w' := by
  simp only [releaseCustody, bind_ok, orRevert_ok] at h
  obtain ⟨p, -, h⟩ := h
  have hmoved : UnderLock ExtSame w (w.moved .self .self dst t p) :=
    .of_com hv rfl rfl rfl rfl
  split at h
  · simp only [bind_ok, require_ok, pure_ok, exists_const] at h
    obtain ⟨-, rfl⟩ := h
    exact hr.underLock_after hv hmoved hl
  · obtain rfl := pure_ok.mp h
    exact hmoved

end Payments

/-! ## The split. -/

theorem computeDirectSplit_sum {settled feeBps : ℕ} {s : SplitResult}
    (h : computeDirectSplit settled feeBps = .ok s) :
    s.platform + s.ownerAmount + s.agentAmount = settled := by
  simp only [computeDirectSplit, bind_ok, checkedMul_ok, checkedSub_ok, pure_ok] at h
  obtain ⟨cut, -, owner, ⟨hle, rfl⟩, rfl⟩ := h
  show cut / bpsDenom + (settled - cut / bpsDenom) + 0 = settled
  omega

theorem computeAgentedSplitAmounts_sum {settled floor feeBps : ℕ} {comp : Compensation}
    {s : SplitResult} (h : computeAgentedSplitAmounts settled floor comp feeBps = .ok s) :
    s.platform + s.ownerAmount + s.agentAmount = settled := by
  simp only [computeAgentedSplitAmounts, bind_ok] at h
  obtain ⟨cut, hcut, base, hbase, h⟩ := h
  split at h
  · rename_i hm
    simp only [bind_ok, require_ok, exists_const, pure_ok] at h
    obtain ⟨hfloor, rfl⟩ := h
    simp only [agentedFloorScaleBase, bind_ok, if_pos hm, checkedSub_ok] at hbase
    obtain ⟨cut', hcut', hle, rfl⟩ := hbase
    obtain rfl : cut = cut' := Except.ok.inj (hcut.symm.trans hcut')
    show cut / bpsDenom + floor + (settled - cut / bpsDenom - floor) = settled
    omega
  · simp only [bind_ok, require_ok, exists_const, pure_ok] at h
    obtain ⟨hle, -, rfl⟩ := h
    show cut / bpsDenom + base + (settled - cut / bpsDenom - base) = settled
    omega

/-- Under Margin the owner's leg is the floor. -/
theorem computeAgentedSplitAmounts_margin {settled floor feeBps : ℕ} {comp : Compensation}
    {s : SplitResult} (hm : comp.form = .margin)
    (h : computeAgentedSplitAmounts settled floor comp feeBps = .ok s) :
    s.ownerAmount = floor := by
  simp only [computeAgentedSplitAmounts, bind_ok, if_pos hm, require_ok, exists_const,
    pure_ok] at h
  obtain ⟨cut, -, base, -, -, rfl⟩ := h
  rfl

/-- The three legs are the settled amount. -/
theorem computeSplit_sum {c : Consignment} {settled : ℕ} {s : SplitResult}
    (h : computeSplit c settled = .ok s) :
    s.platform + s.ownerAmount + s.agentAmount = settled := by
  unfold computeSplit at h
  split at h
  · exact computeDirectSplit_sum h
  · exact computeAgentedSplitAmounts_sum h

variable {Clear : World P σ → TokenId → Prop} {E : Cfg P σ → Cfg P σ → Prop}
  {Good : World P σ → Prop} {x : Flight} {t : TokenId} {sender : Address}

omit [Erc721 P] in
theorem paySplit_live {gross : ℕ} {reason : CloseReason} {r₀ r₁ r₂ : Reply P σ}
    (h : paySplit w sender t gross reason r₀ r₁ r₂ = .ok w') : w.com.phase t = .offered := by
  simp only [paySplit, bind_ok, revertIf_ok, exists_const] at h
  obtain ⟨hlive, -⟩ := h
  simpa [isLiveConsignment] using hlive

/-- **The three payments of a split**, each out of what the one before left in flight. -/
theorem paySplit_legs {gross : ℕ} {reason : CloseReason} {r₀ r₁ r₂ : Reply P σ}
    (hE : HasBase H ExtSame Clear E Good) (hv : ExtView ExtSame)
    (ho : ∀ r ∈ [r₀, r₁, r₂], Obeys E Good r) (hg : Good w)
    (hx : gross ≤ x (w.com.consignments t).asset)
    (h : paySplit w sender t gross reason r₀ r₁ r₂ = .ok w') :
    ∃ split u, computeSplit (w.com.consignments t) gross = .ok split ∧
      ReflTransGen E (w, x) (u, x.sub (w.com.consignments t).asset gross) ∧
      ((∀ r ∈ [r₀, r₁, r₂], Calm H ExtSame r) → w.locked = true → UnderLock ExtSame w u) ∧
      w' = close (u.emit sender (.consignmentSplitPaid t (w.com.consignments t).asset
        (w.com.consignments t).seller split.ownerAmount (w.com.consignments t).agent
        split.agentAmount u.com.platformRecipient split.platform)) sender t reason := by
  simp only [paySplit, bind_ok, revertIf_ok, pure_ok, exists_const] at h
  obtain ⟨-, split, hsplit, u₀, h₀, u₁, h₁, u₂, h₂, rfl⟩ := h
  have hsum := computeSplit_sum hsplit
  set asset := (w.com.consignments t).asset with hasset
  have c₀ := payOut_chain (x := x) hE (ho r₀ (by simp)) hg (by omega) h₀
  have g₀ : Good u₀ := chain_good hE.good c₀ hg
  have c₁ := payOut_chain (x := x.sub asset split.platform) hE (ho r₁ (by simp)) g₀
    (by rw [Flight.sub_self]; omega) h₁
  have g₁ : Good u₁ := chain_good hE.good c₁ g₀
  rw [Flight.sub_sub] at c₁
  have c₂ : ReflTransGen E (u₁, x.sub asset (split.platform + split.ownerAmount))
      (u₂, x.sub asset gross) := by
    split at h₂
    · have c := payOut_chain (x := x.sub asset (split.platform + split.ownerAmount)) hE
        (ho r₂ (by simp)) g₁ (by rw [Flight.sub_self]; omega) h₂
      rwa [Flight.sub_sub, hsum] at c
    · rename_i h0
      obtain rfl := pure_ok.mp h₂
      rw [show gross = split.platform + split.ownerAmount by omega]
  refine ⟨split, u₂, hsplit, (c₀.trans c₁).trans c₂, fun hc hl => ?_, rfl⟩
  have f₀ := payOut_underLock hv hl (hc r₀ (by simp)) h₀
  have f₁ := payOut_underLock hv (f₀.locked.trans hl) (hc r₁ (by simp)) h₁
  have f₂ : UnderLock ExtSame u₁ u₂ := by
    split at h₂
    · exact payOut_underLock hv ((f₁.locked.trans f₀.locked).trans hl) (hc r₂ (by simp)) h₂
    · obtain rfl := pure_ok.mp h₂
      exact .refl hv _
  exact (f₀.trans hv f₁).trans hv f₂

/-- **The split of a lot whose money is in flight.**  The lot may not be recallable while it
    is paid, and stays clearable through the payments. -/
theorem paySplit_chain {gross : ℕ} {reason : CloseReason} {r₀ r₁ r₂ : Reply P σ}
    (hE : HasBase H ExtSame Clear E Good) (hv : ExtView ExtSame)
    (ho : ∀ r ∈ [r₀, r₁, r₂], Obeys E Good r) (hc : ∀ r ∈ [r₀, r₁, r₂], Calm H ExtSame r)
    (hg : Good w) (hl : w.locked = true) (hx : gross ≤ x (w.com.consignments t).asset)
    (hclear : ∀ u, UnderLock ExtSame w u → u.com.phase t = .offered ∧ Clear u t)
    (h : paySplit w sender t gross reason r₀ r₁ r₂ = .ok w') :
    ReflTransGen E (w, x) (w', x.sub (w.com.consignments t).asset gross) := by
  obtain ⟨split, u, hsplit, hlegs, hframe, rfl⟩ := paySplit_legs hE hv ho hg hx h
  have frame := hframe hc hl
  -- the lot is still there, with terms at most conceded
  obtain ⟨hoff, -⟩ := hclear u frame
  obtain ⟨-, -, hsame⟩ := frame.offered hoff
  set y := x.sub (w.com.consignments t).asset gross
  have hsp := hE.base (.splitPaid (x := y) (s := sender) (t := t)
    (by simp [isLiveConsignment, hoff]) hsame hsplit)
  set v := u.emit sender (.consignmentSplitPaid t (w.com.consignments t).asset
    (w.com.consignments t).seller split.ownerAmount (w.com.consignments t).agent
    split.agentAmount u.com.platformRecipient split.platform)
  have hclr : Clear v t := (hclear v (frame.trans hv (.of_com hv rfl rfl rfl rfl))).2
  have hcleared := hE.base (.cleared (x := y) .closed (by simp) hclr)
  have hclosed : E (clearConsignment v t .closed, y) (close v sender t reason, y) :=
    hE.base (.free (.closed sender reason
      (.inl (by simp [clearConsignment, World.setPhase]))))
  exact ((hlegs.tail hsp).tail hcleared).tail hclosed

/-! ## Every message is a chain of effects. -/

/-- A callee a mode can face: a chain of effects in general, free ones under the guard. -/
structure Callback (H : Hooks P σ) (ExtSame : σ → σ → Prop) (E : Cfg P σ → Cfg P σ → Prop)
    (Good : World P σ → Prop) (r : Reply P σ) : Prop where
  obeys : Obeys E Good r
  calm : Calm H ExtSame r

/-- The steps of a `nonReentrant` call: take the guard, run the body, let it go. -/
theorem nonReentrant_chain {x' : Flight} {body : World P σ → Except Error (World P σ)}
    (hE : HasBase H ExtSame Clear E Good) (h : nonReentrant w body = .ok w')
    (hbody : ∀ u, body { w with locked := true } = .ok u →
      ReflTransGen E ({ w with locked := true }, x) (u, x')) :
    ReflTransGen E (w, x) (w', x') := by
  obtain ⟨-, u, hu, rfl⟩ := nonReentrant_ok h
  exact ((ReflTransGen.single (hE.base (.lockSet true))).trans (hbody u hu)).tail
    (hE.base (.lockSet false))

/-- A free effect, as a relation on configurations. -/
def FreeStep (H : Hooks P σ) (ExtSame : σ → σ → Prop) (c c' : Cfg P σ) : Prop :=
  FreeEffect H ExtSame c.1 c'.1 ∧ c.2 = c'.2

theorem freeStep_worlds {c c' : Cfg P σ} (h : ReflTransGen (FreeStep H ExtSame) c c') :
    ReflTransGen (FreeEffect H ExtSame) c.1 c'.1 := by
  induction h with
  | refl => exact .refl
  | tail _ he ih => exact ih.tail he.1

theorem freeStep_lift (h : ReflTransGen (FreeEffect H ExtSame) w w') :
    ReflTransGen (FreeStep H ExtSame) (w, x) (w', x) := by
  induction h with
  | refl => exact .refl
  | tail _ he ih => exact ih.tail ⟨he, rfl⟩

theorem hasFreeStep (hv : ExtView ExtSame) :
    HasFree H ExtSame (FreeStep H ExtSame) (fun w => w.locked = true) :=
  ⟨fun _ h => ⟨h, rfl⟩, fun h hl => (h.1.underLock hv).locked.trans hl⟩

/-- What every message does: a chain of effects, and of free ones under the guard. -/
structure Executed (H : Hooks P σ) (ExtSame : σ → σ → Prop) (E : Cfg P σ → Cfg P σ → Prop)
    (Good : World P σ → Prop) (w w' : World P σ) : Prop where
  chain : Good w → ∀ x, ReflTransGen E (w, x) (w', x)
  calm : w.locked = true → ReflTransGen (FreeEffect H ExtSame) w w'

theorem Executed.refl (w : World P σ) : Executed H ExtSame E Good w w :=
  ⟨fun _ _ => .refl, fun _ => .refl⟩

theorem Executed.trans {u v : World P σ} (hE : HasBase H ExtSame Clear E Good)
    (hv : ExtView ExtSame) (h : Executed H ExtSame E Good u v)
    (k : Executed H ExtSame E Good v w) : Executed H ExtSame E Good u w := by
  constructor
  · intro hg x
    have hc := h.chain hg x
    exact hc.trans (k.chain (chain_good hE.good hc hg) x)
  · intro hl
    have hc := h.calm hl
    exact hc.trans (k.calm ((underLock_of_chain hv hc).locked.trans hl))

theorem Executed.callback {r : Reply P σ} (h : Keeps (Executed H ExtSame E Good) r) :
    Callback H ExtSame E Good r :=
  ⟨fun w x hg => (h w).chain hg x, fun w hl => (h w).calm hl⟩

/-- **Every accepted message of a mode, nested ones included, is a chain of effects**, where
    its guarded entry points are, its unguarded ones are chains of whatever has the free
    effects, and the guard keeps the former out. -/
theorem Mode.exec_executed {γ : Type} {M : Mode P σ γ} (guarded : γ → Bool)
    (hE : HasBase M.hooks ExtSame Clear E Good) (hv : ExtView ExtSame)
    (hfree : ∀ {E' : Cfg P σ → Cfg P σ → Prop} {Good' : World P σ → Prop} {w w' : World P σ}
      {x : Flight} (s : Caller) (value : ℕ) (c : γ) (rs : ℕ → Reply P σ),
      HasFree M.hooks ExtSame E' Good' → (∀ i, Obeys E' Good' (rs i)) → Good' w →
      guarded c = false → M.dispatch s.addr value c rs w = .ok w' →
      ReflTransGen E' (w, x) (w', x))
    (hlocked : ∀ {w w' : World P σ} (s : Caller) (value : ℕ) (c : γ) (rs : ℕ → Reply P σ),
      w.locked = true → guarded c = true → M.dispatch s.addr value c rs w ≠ .ok w')
    (hguarded : ∀ {w w' : World P σ} {x : Flight} (s : Caller) (value : ℕ) (c : γ)
      (rs : ℕ → Reply P σ), (∀ i, Callback M.hooks ExtSame E Good (rs i)) → Good w →
      guarded c = true → M.dispatch s.addr value c rs w = .ok w' →
      ReflTransGen E (w, x) (w', x)) :
    ∀ d m w w', M.exec d m w = .ok w' → Executed M.hooks ExtSame E Good w w' := by
  refine Mode.exec_keeps Executed.refl (Executed.trans hE hv) ?_ ?_
  · intro o u v ho
    exact ⟨fun _ x => .single (hE.base (.free (.outside o ho))), fun _ => .single (.outside o ho)⟩
  · intro s value c rs u v hrs hd
    have hcb : ∀ i, Callback M.hooks ExtSame E Good (rs i) := fun i => Executed.callback (hrs i)
    cases hc : guarded c with
    | true =>
      exact ⟨fun hg x => hguarded s value c rs hcb hg hc hd,
        fun hl => absurd hd (hlocked s value c rs hl hc)⟩
    | false =>
      refine ⟨fun hg x => hfree s value c rs hE.hasFree (fun i => (hcb i).obeys) hg hc hd,
        fun hl => ?_⟩
      exact freeStep_worlds (hfree (x := fun _ => 0) s value c rs (hasFreeStep hv)
        (fun i w x hw => freeStep_lift ((hcb i).calm w hw)) hl hc hd)

end Free

end Kargain.Evm
