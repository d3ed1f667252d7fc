/-
  Kargain.Evm.Effects — the atomic changes behind the base entry points.

  An entry point of a mode runs in pieces: between two pieces it hands
  control to a callee, and what the callee sends in happens there.  This
  file names the pieces.  `FreeEffect` lists the changes the unguarded
  entry points and the surroundings can make; while the re-entrancy guard
  is held nothing else can happen inside an external call.  `BaseEffect`
  adds the changes of the guarded entry points of ConsignmentBase,
  ClaimablePayouts and BondedChallenge.

  A configuration is a world and the units in flight per asset: taken off
  the books by the running call and not yet paid or booked again.  An
  invariant is checked against the effects, one by one; that every
  accepted message is a chain of effects is proved once per mode.
-/
import Mathlib
import Kargain.Evm.Messages
import Kargain.Evm.BondedChallenge

namespace Kargain.Evm

open Relation

variable {P σ : Type}

/-! ## §1. Units in flight. -/

/-- Units of each asset (`zero` is ether) the running call holds off the books. -/
abbrev Flight := Address → ℕ

def Flight.add (x : Flight) (asset : Address) (n : ℕ) : Flight :=
  Function.update x asset (x asset + n)

def Flight.sub (x : Flight) (asset : Address) (n : ℕ) : Flight :=
  Function.update x asset (x asset - n)

@[simp] theorem Flight.add_self (x : Flight) (a : Address) (n : ℕ) : x.add a n a = x a + n := by
  simp [Flight.add]

@[simp] theorem Flight.sub_self (x : Flight) (a : Address) (n : ℕ) : x.sub a n a = x a - n := by
  simp [Flight.sub]

theorem Flight.add_of_ne (x : Flight) {a b : Address} (n : ℕ) (h : b ≠ a) :
    x.add a n b = x b := by
  simp [Flight.add, h]

theorem Flight.sub_of_ne (x : Flight) {a b : Address} (n : ℕ) (h : b ≠ a) :
    x.sub a n b = x b := by
  simp [Flight.sub, h]

@[simp] theorem Flight.sub_zero (x : Flight) (a : Address) : x.sub a 0 = x := by
  simp [Flight.sub]

@[simp] theorem Flight.add_sub (x : Flight) (a : Address) (n : ℕ) : (x.add a n).sub a n = x := by
  simp [Flight.add, Flight.sub]

theorem Flight.sub_sub (x : Flight) (a : Address) (m n : ℕ) :
    (x.sub a m).sub a n = x.sub a (m + n) := by
  simp [Flight.sub, Nat.sub_sub]

/-- A world and the units in flight in it. -/
abbrev Cfg (P σ : Type) := World P σ × Flight

/-- The mode's balance of `asset`. -/
def World.funds (w : World P σ) (asset : Address) : ℕ :=
  if asset = .zero then w.acct.balance else w.acct.tokenBalance asset

/-- The same terms, after any number of concessions. -/
structure SameTerms (c c' : Consignment) : Prop where
  seller : c'.seller = c.seller
  agent : c'.agent = c.agent
  asset : c'.asset = c.asset
  form : c'.compensation.form = c.compensation.form
  floor : c'.floor ≤ c.floor

theorem SameTerms.refl (c : Consignment) : SameTerms c c := ⟨rfl, rfl, rfl, rfl, le_rfl⟩

theorem SameTerms.trans {c d e : Consignment} (h : SameTerms c d) (k : SameTerms d e) :
    SameTerms c e :=
  ⟨k.seller.trans h.seller, k.agent.trans h.agent, k.asset.trans h.asset, k.form.trans h.form,
    le_trans k.floor h.floor⟩

/-- The events that say nothing about mandates, lots or custody. -/
def Event.plain : Event → Bool
  | .transfer .. | .mandateGranted .. | .mandateRevoked .. | .consignmentFloorLowered ..
  | .consignmentOpened .. | .consignmentClosed .. | .consignmentSplitPaid .. | .settled .. => false
  | _ => true

/-! ## §2. The effects. -/

/-- Changes the surroundings and the unguarded entry points can make; `ExtSame` says which
    parts of the mode's own storage an administrator leaves alone. -/
inductive FreeEffect [Erc721 P] (H : Hooks P σ) (ExtSame : σ → σ → Prop) :
    World P σ → World P σ → Prop where
  | outside {w w' : World P σ} (o : Outside) (h : execOutside H w o = .ok w') :
      FreeEffect H ExtSame w w'
  | emitted {w : World P σ} (s : Address) (e : Event) (h : e.plain = true) :
      FreeEffect H ExtSame w (w.emit s e)
  | granted {w : World P σ} {s agent asset : Address} {t : TokenId} {expiry floor : ℕ}
      {denomination : Denomination} {comp : Compensation} (howner : w.ownerOf t = some s)
      (hself : s ≠ .self) (hagent : agent ≠ .zero) :
      FreeEffect H ExtSame w
        ((w.setMandate t ⟨agent, expiry, asset, denomination, floor, comp, true⟩).emit s
          (.mandateGranted t s agent expiry asset denomination floor comp))
  | revoked {w : World P σ} {s : Address} {t : TokenId} (howner : w.ownerOf t = some s) :
      FreeEffect H ExtSame w
        ((w.setMandate t .empty).emit s (.mandateRevoked t s (w.com.mandates t).agent))
  | floorLowered {w : World P σ} {s : Address} {t : TokenId} {newFloor : ℕ}
      (howner : w.ownerOf t = some s) (hself : s ≠ .self) (hlive : isLiveConsignment w t = true)
      (hlower : newFloor < (w.com.consignments t).floor) :
      FreeEffect H ExtSame w
        ((w.setConsignment t { w.com.consignments t with floor := newFloor }).emit s
          (.consignmentFloorLowered t newFloor))
  | commissionLowered {w : World P σ} {t : TokenId} {newBps : ℕ} :
      FreeEffect H ExtSame w (w.setConsignment t { w.com.consignments t with
        compensation := { (w.com.consignments t).compensation with commissionBps := newBps } })
  | recallSet {w : World P σ} (t : TokenId) (n : ℕ) :
      FreeEffect H ExtSame w (w.setRecallRequest t n)
  | administered {w : World P σ} (paused : Bool) (guardian owner : Address) :
      FreeEffect H ExtSame w { w with com := { w.com with
        paused := paused, guardian := guardian, owner := owner } }
  | configured {w : World P σ} {ext : σ} (h : ExtSame w.ext ext) :
      FreeEffect H ExtSame w { w with ext := ext }
  | probed {w : World P σ} {token : Address} {b : ℕ} (paid : Bool)
      (h : w.env.tokenKind token = .exact → b = w.acct.tokenBalance token) :
      FreeEffect H ExtSame w (w.setAcct ((w.acct.setToken token b).record
        ⟨token, .self, 0, w.acct.tokenBalance token, paid⟩))
  | recalled {w : World P σ} {t : TokenId} (h : isOfferedActionable w t = true) :
      FreeEffect H ExtSame w (clearConsignment w t .returned)
  | released {w : World P σ} {dst : Address} {t : TokenId} {p : P}
      (hphase : w.com.phase t ≠ .offered ∨ H.safeDelivery = true)
      (h : Erc721.transferFrom w.env.karPassport.erc721 .self .self dst t = some p) :
      FreeEffect H ExtSame w (w.moved .self .self dst t p)
  | closed {w : World P σ} {t : TokenId} (s : Address) (reason : CloseReason)
      (hphase : w.com.phase t ≠ .offered ∨ H.safeDelivery = true) :
      FreeEffect H ExtSame w (w.emit s (.consignmentClosed t reason))

/-- The terms of an opening come from the standing mandate, and its agent is calling. -/
structure Mandated (w : World P σ) (s : Address) (t : TokenId) (agent asset : Address)
    (denomination : Denomination) (floor : ℕ) (comp : Compensation) : Prop where
  active : (w.com.mandates t).active = true
  caller : (w.com.mandates t).agent = s
  agent : (w.com.mandates t).agent = agent
  asset : (w.com.mandates t).asset = asset
  denomination : (w.com.mandates t).denomination = denomination
  floor : (w.com.mandates t).floor = floor
  compensation : (w.com.mandates t).compensation = comp
  expiry : (w.com.mandates t).expiry = 0 ∨ w.env.now < (w.com.mandates t).expiry

/-- Changes of the guarded entry points that both modes share; `Clear` says when a mode
    clears a consignment. -/
inductive BaseEffect [Erc721 P] (H : Hooks P σ) (ExtSame : σ → σ → Prop)
    (Clear : World P σ → TokenId → Prop) : Cfg P σ → Cfg P σ → Prop where
  | free {w w' : World P σ} {x : Flight} (h : FreeEffect H ExtSame w w') :
      BaseEffect H ExtSame Clear (w, x) (w', x)
  | lockSet {w : World P σ} {x : Flight} (b : Bool) :
      BaseEffect H ExtSame Clear (w, x) ({ w with locked := b }, x)
  | received {w : World P σ} {x : Flight} (v : ℕ) :
      BaseEffect H ExtSame Clear (w, x) (w.receiveValue v, x.add .zero v)
  | pulled {w : World P σ} {x : Flight} {token : Address} {b amount : ℕ} (hz : token ≠ .zero)
      (h : w.env.tokenKind token = .exact → b = w.acct.tokenBalance token + amount) :
      BaseEffect H ExtSame Clear (w, x)
        (w.setAcct (w.acct.setToken token b), x.add token amount)
  | paidNative {w : World P σ} {x : Flight} {dst : Address} {amount : ℕ}
      (hx : amount ≤ x .zero) (hb : amount ≤ w.acct.balance) :
      BaseEffect H ExtSame Clear (w, x)
        (w.setAcct ({ w.acct with balance := w.acct.balance - amount }.record
          ⟨.zero, dst, amount, w.acct.balance, true⟩), x.sub .zero amount)
  | paidToken {w : World P σ} {x : Flight} {token dst : Address} {amount b : ℕ} {paid : Bool}
      (hz : token ≠ .zero) (hx : amount ≤ x token)
      (h : w.env.tokenKind token = .exact → amount ≤ w.acct.tokenBalance token ∧
        b = exactAfter (w.acct.tokenBalance token) amount dst ∧ paid = true) :
      BaseEffect H ExtSame Clear (w, x)
        (w.setAcct ((w.acct.setToken token b).record
          ⟨token, dst, amount, w.acct.tokenBalance token, paid⟩),
          if paid then x.sub token amount else x)
  | refused {w : World P σ} {x : Flight} {asset dst : Address} {amount : ℕ}
      (hx : amount ≤ x asset) :
      BaseEffect H ExtSame Clear (w, x)
        (w.setAcct (w.acct.record ⟨asset, dst, amount, w.funds asset, false⟩), x)
  | credited {w : World P σ} {x : Flight} {account asset : Address} {amount native : ℕ}
      {erc20 : Address → ℕ} (s : Address) (hx : amount ≤ x asset) :
      BaseEffect H ExtSame Clear (w, x)
        ((w.setAcct { w.acct.setClaim account asset (w.acct.pendingClaims account asset + amount)
          with totalPendingNative := native, totalPendingErc20 := erc20 }).emit s
          (.claimRecorded account asset amount), x.sub asset amount)
  | claimTaken {w : World P σ} {x : Flight} {account asset : Address} {native : ℕ}
      {erc20 : Address → ℕ} :
      BaseEffect H ExtSame Clear (w, x)
        (w.setAcct { w.acct.setClaim account asset 0
          with totalPendingNative := native, totalPendingErc20 := erc20 },
          x.add asset (w.acct.pendingClaims account asset))
  | opened {w : World P σ} {x : Flight} {s owner agent asset : Address} {t : TokenId}
      {denomination : Denomination} {floor price : ℕ} {comp : Compensation} {p : P}
      (howner : w.ownerOf t = some owner) (hlive : isLiveConsignment w t = false)
      (hs : s ≠ .self ∧ s ≠ .zero)
      (hcustody : Erc721.transferFrom w.env.karPassport.erc721 .self owner .self t = some p)
      (hwho : (agent = .zero ∧ owner = s) ∨
        Mandated w s t agent asset denomination floor comp) :
      BaseEffect H ExtSame Clear (w, x)
        (writeOpen (w.moved .self owner .self t p) s t owner agent asset denomination floor comp
          price, x)
  | cleared {w : World P σ} {x : Flight} {t : TokenId} (ph : Phase) (hph : ph ≠ .offered)
      (h : Clear w t) : BaseEffect H ExtSame Clear (w, x) (clearConsignment w t ph, x)
  | splitPaid {w : World P σ} {x : Flight} {s : Address} {t : TokenId} {c : Consignment}
      {gross : ℕ} {split : SplitResult} (hlive : isLiveConsignment w t = true)
      (hsame : SameTerms c (w.com.consignments t)) (hsplit : computeSplit c gross = .ok split) :
      BaseEffect H ExtSame Clear (w, x)
        (w.emit s (.consignmentSplitPaid t c.asset c.seller split.ownerAmount c.agent
          split.agentAmount w.com.platformRecipient split.platform), x)
  | challengeOpened {w : World P σ} {x : Flight} {s : Address} {t : TokenId} {value : ℕ}
      (hinactive : isChallengeActive w t = false) (hx : value ≤ x .zero) :
      BaseEffect H ExtSame Clear (w, x)
        (w.setChallenge t ⟨w.env.now, w.bonds.windowDuration, s, value⟩
          (w.bonds.totalLockedBonds + value), x.sub .zero value)
  | challengeCleared {w : World P σ} {x : Flight} {t : TokenId}
      (hactive : isChallengeActive w t = true)
      (hle : (w.bonds.challenges t).bondAmount ≤ w.bonds.totalLockedBonds) :
      BaseEffect H ExtSame Clear (w, x)
        (w.setChallenge t .empty (w.bonds.totalLockedBonds - (w.bonds.challenges t).bondAmount),
          x.add .zero (w.bonds.challenges t).bondAmount)

/-! ## §3. Chains. -/

/-- A relation on configurations that has the free effects, with a property of worlds it
    preserves. -/
structure HasFree [Erc721 P] (H : Hooks P σ) (ExtSame : σ → σ → Prop)
    (E : Cfg P σ → Cfg P σ → Prop) (Good : World P σ → Prop) : Prop where
  free : ∀ {w w' : World P σ} (x : Flight), FreeEffect H ExtSame w w' → E (w, x) (w', x)
  good : ∀ {c c' : Cfg P σ}, E c c' → Good c.1 → Good c'.1

/-- What a callee sends in is a chain of `E`, whatever is in flight. -/
def Obeys (E : Cfg P σ → Cfg P σ → Prop) (Good : World P σ → Prop) (r : Reply P σ) : Prop :=
  ∀ (w : World P σ) (x : Flight), Good w → ReflTransGen E (w, x) (r.reenter w, x)

theorem chain_good {E : Cfg P σ → Cfg P σ → Prop} {Good : World P σ → Prop}
    (hgood : ∀ {c c' : Cfg P σ}, E c c' → Good c.1 → Good c'.1) {c c' : Cfg P σ}
    (h : ReflTransGen E c c') (hc : Good c.1) : Good c'.1 := by
  induction h with
  | refl => exact hc
  | tail _ he ih => exact hgood he ih

section Free

variable [Erc721 P] {H : Hooks P σ} {ExtSame : σ → σ → Prop} {E : Cfg P σ → Cfg P σ → Prop}
  {Good : World P σ → Prop} {w w' : World P σ} {x : Flight} {t : TokenId}
  {sender dst : Address}

theorem passportOwner_ok {o : Address} : passportOwner w t = .ok o ↔ w.ownerOf t = some o :=
  orRevert_ok

theorem releaseCustody_chain {r : Reply P σ} (hE : HasFree H ExtSame E Good)
    (hr : Obeys E Good r) (hg : Good w)
    (hphase : w.com.phase t ≠ .offered ∨ H.safeDelivery = true)
    (h : releaseCustody H w t dst r = .ok w') : ReflTransGen E (w, x) (w', x) := by
  simp only [releaseCustody, bind_ok, orRevert_ok] at h
  obtain ⟨p, hp, h⟩ := h
  have hmove : E (w, x) (w.moved .self .self dst t p, x) := hE.free x (.released hphase hp)
  by_cases hs : H.safeDelivery = true
  · rw [if_pos hs] at h
    simp only [bind_ok, require_ok, pure_ok, exists_const] at h
    obtain ⟨-, rfl⟩ := h
    exact (ReflTransGen.single hmove).trans (hr _ x (hE.good hmove hg))
  · rw [if_neg hs] at h
    obtain rfl := pure_ok.mp h
    exact .single hmove

/-- A delivery that does not call the receiver leaves the consignments alone. -/
theorem releaseCustody_com {r : Reply P σ} (hs : H.safeDelivery ≠ true)
    (h : releaseCustody H w t dst r = .ok w') : w'.com = w.com := by
  simp only [releaseCustody, bind_ok, orRevert_ok, if_neg hs, pure_ok] at h
  obtain ⟨p, -, rfl⟩ := h
  rfl

/-- `_terminateToOwner` on an offered lot: clear, deliver, announce. -/
theorem terminateToOwner_chain {reason : CloseReason} {r : Reply P σ}
    (hE : HasFree H ExtSame E Good) (hr : Obeys E Good r) (hg : Good w)
    (hclear : E (w, x) (clearConsignment w t .returned, x))
    (h : terminateToOwner H w sender t reason r = .ok w') : ReflTransGen E (w, x) (w', x) := by
  simp only [terminateToOwner, bind_ok, pure_ok] at h
  obtain ⟨u, hu, rfl⟩ := h
  have hphase : (clearConsignment w t .returned).com.phase t ≠ .offered := by
    simp [clearConsignment, World.setPhase]
  have hrel := releaseCustody_chain (x := x) hE hr (hE.good hclear hg) (.inl hphase) hu
  have hclosed : u.com.phase t ≠ .offered ∨ H.safeDelivery = true := by
    by_cases hs : H.safeDelivery = true
    · exact .inr hs
    · rw [releaseCustody_com hs hu]
      exact .inl hphase
  exact ((ReflTransGen.single hclear).trans hrel).tail (hE.free x (.closed sender reason hclosed))

/-! ## §4. The unguarded entry points. -/

theorem grant_effect {agent asset : Address} {expiry floor : ℕ} {denomination : Denomination}
    {comp : Compensation} (hself : sender ≠ .self)
    (h : grant w sender t agent expiry asset denomination floor comp = .ok w') :
    FreeEffect H ExtSame w w' := by
  simp only [grant, bind_ok, passportOwner_ok, revertIf_ok, pure_ok, exists_const] at h
  obtain ⟨owner, howner, hs, -, -, hagent, rfl⟩ := h
  obtain rfl : owner = sender := not_not.mp hs
  exact .granted howner hself hagent

theorem revoke_effect (h : revoke w sender t = .ok w') : FreeEffect H ExtSame w w' := by
  simp only [revoke, requireActiveMandate, bind_ok, passportOwner_ok, revertIf_ok, pure_ok,
    exists_const] at h
  obtain ⟨owner, howner, hs, -, m, ⟨-, rfl⟩, rfl⟩ := h
  obtain rfl : owner = sender := not_not.mp hs
  exact .revoked howner

theorem lowerFloor_effect {newFloor : ℕ} (hself : sender ≠ .self)
    (h : lowerFloor w sender t newFloor = .ok w') : FreeEffect H ExtSame w w' := by
  simp only [lowerFloor, bind_ok, passportOwner_ok, revertIf_ok, pure_ok, exists_const] at h
  obtain ⟨owner, howner, hs, hlive, hlow, rfl⟩ := h
  obtain rfl : owner = sender := not_not.mp hs
  exact .floorLowered howner hself (by simpa using hlive) (not_le.mp hlow)

theorem lowerCommission_chain {newBps : ℕ} (hE : HasFree H ExtSame E Good)
    (h : lowerCommission w sender t newBps = .ok w') : ReflTransGen E (w, x) (w', x) := by
  simp only [lowerCommission, bind_ok, revertIf_ok, pure_ok, exists_const] at h
  obtain ⟨-, -, -, -, rfl⟩ := h
  exact (ReflTransGen.single (hE.free x .commissionLowered)).tail
    (hE.free x (.emitted sender _ rfl))

theorem requestRecall_chain (hE : HasFree H ExtSame E Good)
    (h : requestRecall w sender t = .ok w') : ReflTransGen E (w, x) (w', x) := by
  simp only [requestRecall, bind_ok, revertIf_ok, pure_ok, exists_const] at h
  obtain ⟨-, -, -, rfl⟩ := h
  exact (ReflTransGen.single (hE.free x (.recallSet t _))).tail
    (hE.free x (.emitted sender _ rfl))

theorem forceRecall_chain {r : Reply P σ} (hE : HasFree H ExtSame E Good)
    (hr : Obeys E Good r) (hg : Good w) (h : forceRecall H w sender t r = .ok w') :
    ReflTransGen E (w, x) (w', x) := by
  simp only [forceRecall, bind_ok, revertIf_ok, exists_const, Bool.not_eq_false] at h
  obtain ⟨hoff, -, -, -, h⟩ := h
  have hset : E (w, x) (w.setRecallRequest t 0, x) := hE.free x (.recallSet t 0)
  have hact : isOfferedActionable (w.setRecallRequest t 0) t = true :=
    isOfferedAgented_offered hoff
  exact (ReflTransGen.single hset).trans
    (terminateToOwner_chain hE hr (hE.good hset hg) (hE.free x (.recalled hact)) h)

theorem pause_chain (hE : HasFree H ExtSame E Good) (h : pause w sender = .ok w') :
    ReflTransGen E (w, x) (w', x) := by
  simp only [pause, bind_ok, revertIf_ok, pure_ok, exists_const] at h
  obtain ⟨-, rfl⟩ := h
  exact (ReflTransGen.single (hE.free x (.administered true _ _))).tail
    (hE.free x (.emitted sender _ rfl))

theorem unpause_chain (hE : HasFree H ExtSame E Good) (h : unpause w sender = .ok w') :
    ReflTransGen E (w, x) (w', x) := by
  simp only [unpause, onlyOwner, bind_ok, require_ok, pure_ok, exists_const] at h
  obtain ⟨-, rfl⟩ := h
  exact (ReflTransGen.single (hE.free x (.administered false _ _))).tail
    (hE.free x (.emitted sender _ rfl))

theorem setGuardian_chain {g : Address} (hE : HasFree H ExtSame E Good)
    (h : setGuardian w sender g = .ok w') : ReflTransGen E (w, x) (w', x) := by
  simp only [setGuardian, onlyOwner, bind_ok, require_ok, revertIf_ok, pure_ok,
    exists_const] at h
  obtain ⟨-, -, rfl⟩ := h
  exact (ReflTransGen.single (hE.free x (.administered _ g _))).tail
    (hE.free x (.emitted sender _ rfl))

theorem transferOwnership_chain {o : Address} (hE : HasFree H ExtSame E Good)
    (h : transferOwnership w sender o = .ok w') : ReflTransGen E (w, x) (w', x) := by
  simp only [transferOwnership, onlyOwner, bind_ok, require_ok, pure_ok, exists_const] at h
  obtain ⟨-, rfl⟩ := h
  exact .single (hE.free x (.administered _ _ o))

/-- The admission probe of a token moves nothing. -/
theorem requireConforming_chain {token : Address} {r : Reply P σ}
    (hE : HasFree H ExtSame E Good) (hr : Obeys E Good r) (hg : Good w)
    (h : requireConforming w token r = .ok w') : ReflTransGen E (w, x) (w', x) := by
  simp only [requireConforming, bind_ok, revertIf_ok, require_ok, pure_ok, exists_const] at h
  obtain ⟨-, -, ⟨ok, v⟩, hcall, hok, rfl⟩ := h
  obtain rfl : ok = true := hok
  simp only [tryErc20Transfer] at hcall
  have hprobe : ∀ {b : ℕ} {p : Bool},
      (w.env.tokenKind token = .exact → b = w.acct.tokenBalance token) →
      E (w, x) (w.setAcct ((w.acct.setToken token b).record
        ⟨token, .self, 0, w.acct.tokenBalance token, p⟩), x) :=
    fun hb => hE.free x (.probed _ hb)
  cases hk : w.env.tokenKind token with
  | exact =>
    simp only [hk] at hcall
    split at hcall
    · cases hcall
      have he := hprobe (b := exactAfter (w.acct.tokenBalance token) 0 .self) (p := true)
        (fun _ => by simp [exactAfter])
      exact (ReflTransGen.single he).trans (hr _ x (hE.good he hg))
    · cases hcall
  | other =>
    simp only [hk] at hcall
    split at hcall
    · simp only [bind_ok, pure_ok, Prod.mk.injEq] at hcall
      obtain ⟨ok, -, rfl, rfl⟩ := hcall
      have he := hprobe (b := r.balanceAfter) (p := true) (fun e => by rw [hk] at e; cases e)
      exact (ReflTransGen.single he).trans (hr _ x (hE.good he hg))
    · cases hcall

theorem execBase_free_chain {rs : ℕ → Reply P σ} {c : BaseCall} (hE : HasFree H ExtSame E Good)
    (hr : ∀ i, Obeys E Good (rs i)) (hg : Good w) (hself : sender ≠ .self)
    (hc : c.guarded = false) (h : execBase H sender rs w c = .ok w') :
    ReflTransGen E (w, x) (w', x) := by
  cases c with
  | grant => exact .single (hE.free x (grant_effect hself h))
  | revoke => exact .single (hE.free x (revoke_effect h))
  | lowerFloor => exact .single (hE.free x (lowerFloor_effect hself h))
  | lowerCommission => exact lowerCommission_chain hE h
  | requestRecall => exact requestRecall_chain hE h
  | forceRecall => exact forceRecall_chain hE (hr 0) hg h
  | pause => exact pause_chain hE h
  | unpause => exact unpause_chain hE h
  | setGuardian => exact setGuardian_chain hE h
  | transferOwnership => exact transferOwnership_chain hE h
  | ownerWithdraw => cases hc
  | agentWithdraw => cases hc
  | withdrawClaim => cases hc

end Free

/-! ## §5. Payments. -/

/-- A relation on configurations that has the effects of the base. -/
structure HasBase [Erc721 P] (H : Hooks P σ) (ExtSame : σ → σ → Prop)
    (Clear : World P σ → TokenId → Prop) (E : Cfg P σ → Cfg P σ → Prop)
    (Good : World P σ → Prop) : Prop where
  base : ∀ {c c' : Cfg P σ}, BaseEffect H ExtSame Clear c c' → E c c'
  good : ∀ {c c' : Cfg P σ}, E c c' → Good c.1 → Good c'.1

section Base

variable [Erc721 P] {H : Hooks P σ} {ExtSame : σ → σ → Prop} {Clear : World P σ → TokenId → Prop}
  {E : Cfg P σ → Cfg P σ → Prop} {Good : World P σ → Prop} {w w' : World P σ} {x : Flight}
  {t : TokenId} {sender dst asset : Address} {amount : ℕ} {r : Reply P σ}

theorem HasBase.hasFree (hE : HasBase H ExtSame Clear E Good) : HasFree H ExtSame E Good :=
  ⟨fun _ h => hE.base (.free h), hE.good⟩

theorem creditClaim_effect {account : Address} (hE : HasBase H ExtSame Clear E Good)
    (hx : amount ≤ x asset) (h : creditClaim w sender account asset amount = .ok w') :
    E (w, x) (w', x.sub asset amount) := by
  simp only [creditClaim, bind_ok, checkedAdd_ok] at h
  obtain ⟨claim, ⟨-, rfl⟩, h⟩ := h
  split at h
  · simp only [bind_ok, checkedAdd_ok, pure_ok] at h
    obtain ⟨total, -, rfl⟩ := h
    exact hE.base (.credited sender hx)
  · simp only [bind_ok, checkedAdd_ok, pure_ok] at h
    obtain ⟨total, -, rfl⟩ := h
    exact hE.base (.credited sender hx)

/-- An accepted value call pays in-flight ether out, then the callee runs. -/
theorem callValue_chain {v : World P σ} {ok : Bool} (hE : HasBase H ExtSame Clear E Good)
    (hr : Obeys E Good r) (hg : Good w) (hx : amount ≤ x .zero)
    (h : callValue w dst amount r = (ok, v)) :
    ReflTransGen E (w, x) (v, if ok then x.sub .zero amount else x) := by
  unfold callValue at h
  split at h
  · rename_i hc
    cases h
    have he : E (w, x) (w.setAcct ({ w.acct with balance := w.acct.balance - amount }.record
        ⟨.zero, dst, amount, w.acct.balance, true⟩), x.sub .zero amount) :=
      hE.base (.paidNative hx hc.1)
    exact (ReflTransGen.single he).trans (hr _ _ (hE.good he hg))
  · cases h
    have he : E (w, x)
        (w.setAcct (w.acct.record ⟨.zero, dst, amount, w.funds .zero, false⟩), x) :=
      hE.base (.refused hx)
    simpa [World.funds] using ReflTransGen.single he

/-- An ERC-20 transfer that reports success pays in-flight units out. -/
theorem tryErc20Transfer_chain {token : Address} {v : World P σ} {ok : Bool}
    (hE : HasBase H ExtSame Clear E Good) (hr : Obeys E Good r) (hg : Good w)
    (hz : token ≠ .zero) (hx : amount ≤ x token)
    (h : tryErc20Transfer w token dst amount r = .ok (ok, v)) :
    ReflTransGen E (w, x) (v, if ok then x.sub token amount else x) := by
  have hrefused : E (w, x)
      (w.setAcct (w.acct.record ⟨token, dst, amount, w.acct.tokenBalance token, false⟩), x) := by
    simpa [World.funds, hz] using hE.base (.refused hx)
  have hpaid : ∀ {b : ℕ} {p : Bool}, (w.env.tokenKind token = .exact →
      amount ≤ w.acct.tokenBalance token ∧
        b = exactAfter (w.acct.tokenBalance token) amount dst ∧ p = true) →
      E (w, x) (w.setAcct ((w.acct.setToken token b).record
        ⟨token, dst, amount, w.acct.tokenBalance token, p⟩),
          if p then x.sub token amount else x) :=
    fun hb => hE.base (.paidToken hz hx hb)
  simp only [tryErc20Transfer] at h
  cases hk : w.env.tokenKind token with
  | exact =>
    simp only [hk] at h
    split at h
    · rename_i hc
      cases h
      have he := hpaid (b := exactAfter (w.acct.tokenBalance token) amount dst) (p := true)
        (fun _ => ⟨hc.1, rfl, rfl⟩)
      exact (ReflTransGen.single he).trans (hr _ _ (hE.good he hg))
    · cases h
      exact .single hrefused
  | other =>
    simp only [hk] at h
    split at h
    · simp only [bind_ok, pure_ok, Prod.mk.injEq] at h
      obtain ⟨ok', -, rfl, rfl⟩ := h
      have he := hpaid (b := r.balanceAfter) (p := ok') (fun e => by rw [hk] at e; cases e)
      exact (ReflTransGen.single he).trans (hr _ _ (hE.good he hg))
    · cases h
      exact .single hrefused

/-- **The payout primitive**: in-flight units are paid or booked as a claim. -/
theorem payOut_chain (hE : HasBase H ExtSame Clear E Good) (hr : Obeys E Good r) (hg : Good w)
    (hx : amount ≤ x asset) (h : payOut w sender asset dst amount r = .ok w') :
    ReflTransGen E (w, x) (w', x.sub asset amount) := by
  unfold payOut at h
  split at h
  · rename_i hz
    subst hz
    unfold payNative at h
    split at h
    · rename_i h0
      subst h0
      cases h
      rw [Flight.sub_zero]
    · rcases hc : callValue w dst amount r with ⟨ok, v⟩
      rw [hc] at h
      have hcall := callValue_chain hE hr hg hx hc
      cases ok with
      | true =>
        obtain rfl : v = w' := Except.ok.inj h
        exact hcall
      | false => exact hcall.tail (creditClaim_effect hE hx h)
  · rename_i hz
    unfold payErc20 at h
    split at h
    · rename_i h0
      subst h0
      cases h
      rw [Flight.sub_zero]
    · simp only [bind_ok] at h
      obtain ⟨⟨ok, v⟩, hc, h⟩ := h
      have hcall := tryErc20Transfer_chain hE hr hg hz hx hc
      cases ok with
      | true =>
        obtain rfl : v = w' := Except.ok.inj h
        exact hcall
      | false => exact hcall.tail (creditClaim_effect hE hx h)

theorem pullErc20_chain {token : Address} (hE : HasBase H ExtSame Clear E Good)
    (hr : Obeys E Good r) (hg : Good w) (hz : token ≠ .zero)
    (h : pullErc20 w token amount r = .ok w') :
    ReflTransGen E (w, x) (w', x.add token amount) := by
  simp only [pullErc20, bind_ok, require_ok, exists_const, checkedSub_ok, revertIf_ok,
    pure_ok] at h
  obtain ⟨-, b, hb, -, -, -, rfl⟩ := h
  have hexact : w.env.tokenKind token = .exact → b = w.acct.tokenBalance token + amount := by
    intro hk
    rw [hk] at hb
    exact (pure_ok.mp hb).symm
  have he := hE.base (.pulled (x := x) hz hexact)
  exact (ReflTransGen.single he).trans (hr _ _ (hE.good he hg))

theorem withdrawClaimBody_chain (hE : HasBase H ExtSame Clear E Good) (hr : Obeys E Good r)
    (hg : Good w) (h : withdrawClaimBody w sender asset r = .ok w') :
    ReflTransGen E (w, x) (w', x) := by
  simp only [withdrawClaimBody, bind_ok, revertIf_ok, require_ok, pure_ok, exists_const] at h
  obtain ⟨-, acct, hacct, ⟨ok, v⟩, hcall, hok, rfl⟩ := h
  obtain rfl : ok = true := hok
  have htaken : E (w, x) (w.setAcct acct, x.add asset (w.acct.pendingClaims sender asset)) := by
    split at hacct
    · simp only [bind_ok, checkedSub_ok, pure_ok] at hacct
      obtain ⟨total, -, rfl⟩ := hacct
      exact hE.base .claimTaken
    · simp only [bind_ok, checkedSub_ok, pure_ok] at hacct
      obtain ⟨total, -, rfl⟩ := hacct
      exact hE.base .claimTaken
  have hpaid : ReflTransGen E (w.setAcct acct, x.add asset (w.acct.pendingClaims sender asset))
      (v, x) := by
    have hle : w.acct.pendingClaims sender asset ≤
        x.add asset (w.acct.pendingClaims sender asset) asset := by simp
    by_cases hz : asset = .zero
    · subst hz
      rw [if_pos rfl] at hcall
      simpa using callValue_chain hE hr (hE.good htaken hg) hle (pure_ok.mp hcall)
    · rw [if_neg hz] at hcall
      simpa using tryErc20Transfer_chain hE hr (hE.good htaken hg) hz hle hcall
  exact ((ReflTransGen.single htaken).trans hpaid).tail
    (hE.base (.free (.emitted sender _ rfl)))

theorem ownerWithdrawBody_chain (hE : HasBase H ExtSame Clear E Good) (hr : Obeys E Good r)
    (hg : Good w) (h : ownerWithdrawBody H w sender t r = .ok w') :
    ReflTransGen E (w, x) (w', x) := by
  simp only [ownerWithdrawBody, bind_ok, revertIf_ok, exists_const, Bool.not_eq_false] at h
  obtain ⟨ho, -, -, h⟩ := h
  exact terminateToOwner_chain hE.hasFree hr hg (hE.base (.free (.recalled ho))) h

theorem agentWithdrawBody_chain (hE : HasBase H ExtSame Clear E Good) (hr : Obeys E Good r)
    (hg : Good w) (h : agentWithdrawBody H w sender t r = .ok w') :
    ReflTransGen E (w, x) (w', x) := by
  simp only [agentWithdrawBody, bind_ok, revertIf_ok, exists_const, Bool.not_eq_false] at h
  obtain ⟨ho, -, h⟩ := h
  exact terminateToOwner_chain hE.hasFree hr hg (hE.base (.free (.recalled ho))) h

end Base

end Kargain.Evm
