/-
  Kargain.Evm.FloorFit — the split of an agented lot comes out.

  An agented lot is opened, and its price set, only where the floor fits
  the base the split is computed on.  Lowering the floor or the commission
  keeps the fit, a bid is at least the reserve, and a fiat floor is scaled
  by the same base; so when a sale or the end of a hold reaches the split,
  the split comes out, its legs add up, and the owner's leg is at least
  the floor on record.

  Main results: `agented_exits_fit`, for every amount whose products with
  basis points are below 2^256, and `overflowing_lot`, a fiat quote for
  which they are not.
-/
import Kargain.Base.Shares
import Kargain.Evm.AscendingSides
import Kargain.Evm.FixedPriceSides

namespace Kargain.Evm

variable {P σ : Type}

/-! ## §1. The split in natural numbers. -/

/-- What the floor of a lot has to fit in. -/
def scaleBase (comp : Compensation) (feeBps settled : ℕ) : ℕ :=
  if comp.form = .margin then settled - share bpsDenom settled feeBps
  else share bpsDenom settled (bpsDenom - (feeBps + comp.commissionBps))

/-- The products of the split are words. -/
structure ProductsFit (c : Consignment) (settled : ℕ) : Prop where
  fee : settled * c.platformFeeBps < 2 ^ 256
  owner : c.compensation.form = .commission →
    settled * (bpsDenom - (c.platformFeeBps + c.compensation.commissionBps)) < 2 ^ 256

/-- The split comes out, its legs add up to the amount, and the owner gets the floor. -/
def Fits (c : Consignment) (settled : ℕ) : Prop :=
  ∃ split, computeSplit c settled = .ok split ∧
    split.platform + split.ownerAmount + split.agentAmount = settled ∧ c.floor ≤ split.ownerAmount

/-- A uint128 times basis points is a word. -/
theorem productsFit_of_lt {c : Consignment} {settled : ℕ} (hfee : c.platformFeeBps ≤ bpsDenom)
    (h : settled < 2 ^ 128) : ProductsFit c settled := by
  have hword : ∀ bps, bps ≤ bpsDenom → settled * bps < 2 ^ 256 := by
    intro bps hb
    have hle : settled * bps ≤ 2 ^ 128 * bpsDenom := Nat.mul_le_mul h.le hb
    have hsmall : 2 ^ 128 * bpsDenom < 2 ^ 256 := by decide
    omega
  exact ⟨hword _ hfee, fun _ => hword _ (Nat.sub_le _ _)⟩

theorem agentedFloorScaleBase_eq {settled feeBps base : ℕ} {comp : Compensation}
    (h : agentedFloorScaleBase settled comp feeBps = .ok base) :
    base = scaleBase comp feeBps settled := by
  simp only [agentedFloorScaleBase, bind_ok, checkedMul_ok] at h
  obtain ⟨cut, ⟨-, rfl⟩, h⟩ := h
  unfold scaleBase share
  split at h
  · rename_i hform
    obtain ⟨-, rfl⟩ := checkedSub_ok.mp h
    rw [if_pos hform]
  · rename_i hform
    rw [if_neg hform]
    split at h
    · rename_i hcut
      obtain rfl := pure_ok.mp h
      rw [Nat.sub_eq_zero_of_le hcut, Nat.mul_zero, Nat.zero_div]
    · simp only [bind_ok, checkedMul_ok, pure_ok] at h
      obtain ⟨x, ⟨-, rfl⟩, rfl⟩ := h
      rfl

theorem agentedFloorScaleBase_fit {c : Consignment} {settled : ℕ}
    (hfee : c.platformFeeBps ≤ bpsDenom) (hp : ProductsFit c settled) :
    agentedFloorScaleBase settled c.compensation c.platformFeeBps =
      .ok (scaleBase c.compensation c.platformFeeBps settled) := by
  have hcut : share bpsDenom settled c.platformFeeBps ≤ settled := share_le hfee
  have hmul : checkedMul settled c.platformFeeBps = .ok (settled * c.platformFeeBps) :=
    checkedMul_ok.mpr ⟨hp.fee, rfl⟩
  unfold agentedFloorScaleBase
  rw [hmul]
  show (if c.compensation.form = .margin then _ else _) = _
  unfold scaleBase
  split
  · exact checkedSub_ok.mpr ⟨hcut, rfl⟩
  · rename_i hform
    have hcomm : c.compensation.form = .commission := by
      cases hf : c.compensation.form with
      | margin => exact absurd hf hform
      | commission => rfl
    split
    · rename_i hover
      rw [Nat.sub_eq_zero_of_le hover]
      simp [share]
      rfl
    · rw [checkedMul_ok.mpr ⟨hp.owner hcomm, rfl⟩]
      rfl

/-- Where the split comes out, the floor fits its base. -/
theorem affords_floor {settled floor feeBps : ℕ} {comp : Compensation} {split : SplitResult}
    (h : computeAgentedSplitAmounts settled floor comp feeBps = .ok split) :
    floor ≤ scaleBase comp feeBps settled := by
  simp only [computeAgentedSplitAmounts, bind_ok] at h
  obtain ⟨cut, -, base, hbase, h⟩ := h
  rw [← agentedFloorScaleBase_eq hbase]
  split at h
  · simp only [bind_ok, require_ok, exists_const] at h
    exact h.1
  · simp only [bind_ok, require_ok, exists_const] at h
    exact h.2.1

/-- **The split comes out** where the floor fits its base. -/
theorem fits_of_floor {c : Consignment} {settled : ℕ} (hagent : c.agent ≠ .zero)
    (hfee : c.platformFeeBps ≤ bpsDenom) (hp : ProductsFit c settled)
    (hfloor : c.floor ≤ scaleBase c.compensation c.platformFeeBps settled) : Fits c settled := by
  have hcut : share bpsDenom settled c.platformFeeBps ≤ settled := share_le hfee
  have hmul : checkedMul settled c.platformFeeBps = .ok (settled * c.platformFeeBps) :=
    checkedMul_ok.mpr ⟨hp.fee, rfl⟩
  unfold Fits computeSplit
  rw [if_neg hagent]
  unfold computeAgentedSplitAmounts
  rw [hmul, agentedFloorScaleBase_fit hfee hp]
  by_cases hform : c.compensation.form = .margin
  · refine ⟨⟨share bpsDenom settled c.platformFeeBps, c.floor,
      settled - share bpsDenom settled c.platformFeeBps - c.floor⟩, ?_, ?_, le_rfl⟩
    · show (if c.compensation.form = .margin then _ else _) = _
      rw [if_pos hform, bind_ok]
      exact ⟨(), require_ok.mpr hfloor, rfl⟩
    · unfold scaleBase at hfloor
      rw [if_pos hform] at hfloor
      show share bpsDenom settled c.platformFeeBps + c.floor +
        (settled - share bpsDenom settled c.platformFeeBps - c.floor) = settled
      omega
  · have hbase : share bpsDenom settled c.platformFeeBps +
        scaleBase c.compensation c.platformFeeBps settled ≤ settled := by
      unfold scaleBase
      rw [if_neg hform]
      by_cases hover : bpsDenom ≤ c.platformFeeBps + c.compensation.commissionBps
      · rw [Nat.sub_eq_zero_of_le hover]
        simpa [share] using hcut
      · exact shares_le (by omega)
    refine ⟨⟨share bpsDenom settled c.platformFeeBps,
      scaleBase c.compensation c.platformFeeBps settled,
      settled - share bpsDenom settled c.platformFeeBps -
        scaleBase c.compensation c.platformFeeBps settled⟩, ?_, ?_, hfloor⟩
    · show (if c.compensation.form = .margin then _ else _) = _
      rw [if_neg hform, bind_ok]
      refine ⟨(), require_ok.mpr hbase, ?_⟩
      rw [bind_ok]
      exact ⟨(), require_ok.mpr hfloor, rfl⟩
    · show share bpsDenom settled c.platformFeeBps +
          scaleBase c.compensation c.platformFeeBps settled +
        (settled - share bpsDenom settled c.platformFeeBps -
          scaleBase c.compensation c.platformFeeBps settled) = settled
      omega

/-- The base grows with the amount. -/
theorem scaleBase_mono {comp : Compensation} {feeBps n m : ℕ} (hfee : feeBps ≤ bpsDenom)
    (h : n ≤ m) : scaleBase comp feeBps n ≤ scaleBase comp feeBps m := by
  unfold scaleBase
  split
  · exact rest_mono hfee h
  · exact share_mono h

/-! ## §2. What is conceded keeps the fit. -/

/-- Terms that have at most been lowered. -/
structure Conceded (c c' : Consignment) : Prop where
  agent : c'.agent = c.agent
  form : c'.compensation.form = c.compensation.form
  fee : c'.platformFeeBps = c.platformFeeBps
  price : c'.price = c.price
  denomination : c'.denomination = c.denomination
  floor : c'.floor ≤ c.floor
  commission : c'.compensation.commissionBps ≤ c.compensation.commissionBps

theorem Conceded.refl (c : Consignment) : Conceded c c :=
  ⟨rfl, rfl, rfl, rfl, rfl, le_rfl, le_rfl⟩

theorem Conceded.trans {c c' c'' : Consignment} (h : Conceded c c') (k : Conceded c' c'') :
    Conceded c c'' :=
  ⟨k.agent.trans h.agent, k.form.trans h.form, k.fee.trans h.fee, k.price.trans h.price,
    k.denomination.trans h.denomination, k.floor.trans h.floor, k.commission.trans h.commission⟩

/-- A concession makes the base no smaller. -/
theorem Conceded.scaleBase {c c' : Consignment} (h : Conceded c c') (n : ℕ) :
    scaleBase c.compensation c.platformFeeBps n ≤
      Evm.scaleBase c'.compensation c'.platformFeeBps n := by
  unfold Evm.scaleBase
  rw [h.form, h.fee]
  split
  · exact le_rfl
  · have hcomm := h.commission
    exact share_mono_parts (by omega)

/-- The floor of a lot fits the base of an amount. -/
structure FloorFits (c : Consignment) (settled : ℕ) : Prop where
  fee : c.platformFeeBps ≤ bpsDenom
  floor : c.agent ≠ .zero → c.floor ≤ scaleBase c.compensation c.platformFeeBps settled

theorem FloorFits.conceded {c c' : Consignment} {n : ℕ} (h : FloorFits c n)
    (hc : Conceded c c') : FloorFits c' n := by
  refine ⟨hc.fee ▸ h.fee, fun hagent => ?_⟩
  rw [hc.agent] at hagent
  exact hc.floor.trans ((h.floor hagent).trans (hc.scaleBase n))

theorem FloorFits.mono {c : Consignment} {n m : ℕ} (h : FloorFits c n) (hle : n ≤ m) :
    FloorFits c m :=
  ⟨h.fee, fun hagent => (h.floor hagent).trans (scaleBase_mono h.fee hle)⟩

theorem FloorFits.fits {c : Consignment} {n : ℕ} (h : FloorFits c n) (hagent : c.agent ≠ .zero)
    (hp : ProductsFit c n) : Fits c n :=
  fits_of_floor hagent h.fee hp (h.floor hagent)

theorem FloorFits.of_affords {c : Consignment} (hfee : c.platformFeeBps ≤ bpsDenom)
    (h : Affords c.price c.agent c.floor c.compensation c.platformFeeBps) :
    FloorFits c c.price := by
  refine ⟨hfee, fun hagent => ?_⟩
  rcases h with hz | ⟨split, hsplit⟩
  · exact absurd hz hagent
  · exact affords_floor hsplit

/-- Every lot on offer fits at its price, and the fee lots are opened under is a fraction. -/
structure Fitting (w : World P σ) : Prop where
  fee : w.com.platformFeeBps ≤ bpsDenom
  lots : ∀ t, isLiveConsignment w t = true →
    FloorFits (w.com.consignments t) (w.com.consignments t).price

/-- Under the guard: nothing is opened, and lots on offer are at most conceded. -/
structure Kept (Same : σ → σ → Prop) (w w' : World P σ) : Prop where
  locked : w'.locked = w.locked
  fee : w'.com.platformFeeBps = w.com.platformFeeBps
  lots : ∀ t, isLiveConsignment w' t = true →
    isLiveConsignment w t = true ∧ Conceded (w.com.consignments t) (w'.com.consignments t)
  ext : Same w.ext w'.ext

section Kept

variable {Same : σ → σ → Prop} {u v w w' : World P σ}

theorem Kept.fitting (h : Kept Same w w') (hf : Fitting w) : Fitting w' := by
  refine ⟨h.fee ▸ hf.fee, fun t ht => ?_⟩
  obtain ⟨hlive, hconceded⟩ := h.lots t ht
  have hfits := (hf.lots t hlive).conceded hconceded
  rwa [← hconceded.price] at hfits

theorem Kept.refl (hrefl : ∀ x, Same x x) (w : World P σ) : Kept Same w w :=
  ⟨rfl, rfl, fun _ ht => ⟨ht, .refl _⟩, hrefl _⟩

theorem Kept.trans (h : Kept Same u v) (htrans : ∀ {x y z}, Same x y → Same y z → Same x z)
    (k : Kept Same v w) : Kept Same u w := by
  refine ⟨k.locked.trans h.locked, k.fee.trans h.fee, fun t ht => ?_, htrans h.ext k.ext⟩
  obtain ⟨hv, kc⟩ := k.lots t ht
  obtain ⟨hu, hc⟩ := h.lots t hv
  exact ⟨hu, hc.trans kc⟩

theorem Kept.emit {s : Address} {e : Event} (h : Kept Same w w') : Kept Same w (w'.emit s e) :=
  ⟨h.locked, h.fee, h.lots, h.ext⟩

/-- A change outside ConsignmentBase. -/
theorem Kept.of_com (hl : w'.locked = w.locked) (hc : w'.com = w.com) (he : Same w.ext w'.ext) :
    Kept Same w w' := by
  refine ⟨hl, by rw [hc], fun t ht => ?_, he⟩
  rw [isLiveConsignment, hc] at ht
  exact ⟨ht, by rw [hc]; exact .refl _⟩

/-- A lot leaves. -/
theorem Kept.cleared {t : TokenId} {ph : Phase} (hrefl : ∀ x, Same x x) (hph : ph ≠ .offered) :
    Kept Same w (clearConsignment w t ph) := by
  refine ⟨rfl, rfl, fun t' ht => ?_, hrefl _⟩
  by_cases he : t' = t
  · subst he
    simp [isLiveConsignment, clearConsignment, World.setPhase, hph] at ht
  · simp only [isLiveConsignment, clearConsignment, World.setPhase, World.setConsignment,
      World.setCommitted, World.setRecallRequest, Function.update_of_ne he] at ht ⊢
    exact ⟨ht, .refl _⟩

theorem Kept.closed {s : Address} {t : TokenId} {reason : CloseReason}
    (hrefl : ∀ x, Same x x) : Kept Same w (close w s t reason) := by
  have hcleared : Kept Same w (clearConsignment w t .closed) := .cleared hrefl (by decide)
  exact hcleared.emit

theorem Kept.returned {s : Address} {t : TokenId} {reason : CloseReason}
    (hrefl : ∀ x, Same x x) (htrans : ∀ {x y z}, Same x y → Same y z → Same x z)
    (h : Kept Same (clearConsignment w t .returned) u) :
    Kept Same w (u.emit s (.consignmentClosed t reason)) := by
  have hcleared : Kept Same w (clearConsignment w t .returned) := .cleared hrefl (by decide)
  exact (hcleared.trans htrans h).emit

/-- One lot is conceded. -/
theorem Kept.lot {t : TokenId} {c : Consignment} (hrefl : ∀ x, Same x x)
    (h : Conceded (w.com.consignments t) c) : Kept Same w (w.setConsignment t c) := by
  refine ⟨rfl, rfl, fun t' ht => ⟨ht, ?_⟩, hrefl _⟩
  by_cases he : t' = t
  · subst he
    simpa [World.setConsignment] using h
  · simpa [World.setConsignment, he] using Conceded.refl _

theorem Side.kept [Erc721 P] {H : Hooks P σ} {ExtSame : σ → σ → Prop}
    (hrefl : ∀ x, ExtSame x x) (hsame : ∀ {x y}, ExtSame x y → Same x y)
    (h : Side H ExtSame w w') : Kept Same w w' := by
  have hbeside : Beside ExtSame w w' := h.beside hrefl
  have hself : ∀ x, Same x x := fun x => hsame (hrefl x)
  cases h with
  | outside o h => exact .of_com hbeside.locked (execOutside_frame h).1 (hsame hbeside.ext)
  | floorLowered h =>
    refine (Kept.lot hself ?_).emit
    exact ⟨rfl, rfl, rfl, rfl, rfl, h.le, le_rfl⟩
  | commissionLowered h =>
    refine (Kept.lot hself ?_).emit
    exact ⟨rfl, rfl, rfl, rfl, rfl, le_rfl, h.le⟩
  | configured h => exact .of_com rfl rfl (hsame h)
  | _ => exact ⟨rfl, rfl, fun _ ht => ⟨ht, .refl _⟩, hself _⟩

end Kept

/-- The lots on offer but for one, which is opened or priced here. -/
theorem Fitting.written {w : World P σ} {t : TokenId} {c : Consignment} (hf : Fitting w)
    (hfee : c.platformFeeBps ≤ bpsDenom)
    (h : Affords c.price c.agent c.floor c.compensation c.platformFeeBps) :
    ∀ t', (t' ≠ t → isLiveConsignment w t' = true) →
      FloorFits (Function.update w.com.consignments t c t')
        (Function.update w.com.consignments t c t').price := by
  intro t' hlive
  by_cases he : t' = t
  · subst he
    rw [Function.update_self]
    exact .of_affords hfee h
  · rw [Function.update_of_ne he]
    exact hf.lots t' (hlive he)

theorem Fitting.opened {w : World P σ} {s owner agent asset : Address} {t : TokenId}
    {denomination : Denomination} {floor price : ℕ} {comp : Compensation} (hf : Fitting w)
    (h : Affords price agent floor comp w.com.platformFeeBps) :
    Fitting (writeOpen w s t owner agent asset denomination floor comp price) := by
  refine ⟨hf.fee, fun t' ht => ?_⟩
  refine hf.written (c := ⟨owner, agent, asset, denomination, floor, comp, w.com.platformFeeBps,
    price, u64 w.env.now⟩) hf.fee h t' fun he => ?_
  simpa [isLiveConsignment, writeOpen, World.emit, World.setRecallRequest, World.setPhase,
    World.setCommitted, World.setConsignment, he] using ht

/-! ## §3. Where an entry point can start. -/

/-- The worlds in which the contract is not locked and somebody else has control: before and
    after every message at any depth of the call stack, and inside the two entry points that
    call out without the guard. -/
inductive Open [Erc721 P] {γ : Type} (M : Mode P σ γ) (init : World P σ → Prop) :
    World P σ → Prop where
  | initial {w : World P σ} (h : init w) : Open M init w
  | later {w : World P σ} (dt : ℕ) (h : Open M init w) :
      Open M init { w with env := { w.env with now := w.env.now + dt } }
  | after {w w' : World P σ} {d : ℕ} {m : Msg γ} (h : Open M init w)
      (hm : M.exec d m w = .ok w') : Open M init w'
  /-- A token is asked whether it conforms. -/
  | probed {w : World P σ} (a : Account) (h : Open M init w) : Open M init (w.setAcct a)
  /-- The receiver of a forced recall is called. -/
  | recalled {w : World P σ} {t : TokenId} {dst : Address} {p : P} (h : Open M init w)
      (hp : Erc721.transferFrom w.env.karPassport.erc721 .self .self dst t = some p) :
      Open M init ((clearConsignment (w.setRecallRequest t 0) t .returned).moved .self .self dst t
        p)

theorem Open.of_reachable [Erc721 P] {γ : Type} {M : Mode P σ γ} {init : World P σ → Prop}
    {w : World P σ} (h : Reachable M.step init w) : Open M init w := by
  refine h.invariant (fun _ h0 => .initial h0) ?_
  intro u a v hu hs
  cases a with
  | msg m => exact hu.after hs
  | tick dt =>
    obtain rfl : _ = v := Except.ok.inj hs
    exact .later dt hu

/-- What holds at rest holds wherever an entry point can start. -/
theorem Open.rest [Erc721 P] {γ : Type} {M : Mode P σ γ} {init : World P σ → Prop}
    {A B : World P σ → World P σ → Prop} {Inv : World P σ → Prop} (hG : GuardPair A B)
    (hB : ∀ {w w'}, B w w' → Inv w → Inv w')
    (hexec : ∀ {d m w w'}, M.exec d m w = .ok w' → Respects A B w w')
    (hinit : ∀ w, init w → w.locked = false ∧ Inv w)
    (hlater : ∀ (w : World P σ) dt, Inv w → Inv { w with env := { w.env with now := dt } })
    (hprobed : ∀ (w : World P σ) a, A w (w.setAcct a))
    (hrecalled : ∀ (w : World P σ) t dst p,
      Erc721.transferFrom w.env.karPassport.erc721 .self .self dst t = some p →
      A w ((clearConsignment (w.setRecallRequest t 0) t .returned).moved .self .self dst t p))
    {w : World P σ} (h : Open M init w) : w.locked = false ∧ Inv w := by
  induction h with
  | initial h => exact hinit _ h
  | later dt _ ih => exact ⟨ih.1, hlater _ _ ih.2⟩
  | after _ hm ih =>
    obtain ⟨hstep, hl⟩ := (hexec hm).at_rest ih.1
    exact ⟨hl, hB hstep ih.2⟩
  | probed a _ ih => exact ⟨ih.1, hB (hG.rest (hprobed _ a)) ih.2⟩
  | recalled _ hp ih => exact ⟨ih.1, hB (hG.rest (hrecalled _ _ _ _ hp)) ih.2⟩

/-! ## §4. The fixed-price mode. -/

namespace FixedPrice

variable [Erc721 P] {w w' : World P} {t : TokenId} {sender : Address} {value : ℕ}

abbrev Unchanged (_ _ : FixedPriceStorage) : Prop := True

/-- Between two points at rest. -/
abbrev FitKept (w w' : World P) : Prop := Fitting w → Fitting w'

theorem fitRules : Rules (P := P) (Kept Unchanged) FitKept where
  refl := .refl fun _ => trivial
  trans h k := h.trans (fun _ _ => trivial) k
  locked h := h.locked
  rest h := h.fitting
  rest_trans h k := k ∘ h
  toggle _ _ := fun h => ⟨h.fee, h.lots⟩
  side h := by
    have hrefl : ∀ x, NotesSame x x := fun _ => rfl
    exact h.kept hrefl fun _ => trivial
  opened _ h := fun hf => hf.opened h
  priced {w s t price} h := by
    intro hf
    refine ⟨hf.fee, fun t' ht => ?_⟩
    by_cases hlive : isLiveConsignment w t = true
    · exact hf.written (c := { w.com.consignments t with price := price })
        (hf.lots t hlive).fee h t' fun _ => ht
    · have he : t' ≠ t := fun e => hlive (e ▸ ht)
      have hsame : (w.setConsignment t { w.com.consignments t with price := price }).com.consignments
          t' = w.com.consignments t' := Function.update_of_ne he _ _
      show FloorFits ((w.setConsignment t
        { w.com.consignments t with price := price }).com.consignments t')
        ((w.setConsignment t { w.com.consignments t with price := price }).com.consignments
          t').price
      rw [hsame]
      exact hf.lots t' ht
  noted _ := fun hf => ⟨hf.fee, hf.lots⟩
  confirmed {w u s buyer t} _ h := by
    have hset : Kept Unchanged w (setNote w t []) := .of_com rfl rfl trivial
    have hclosed : Kept Unchanged (u.emit s (.externalPaymentConfirmed t buyer s))
        (close (u.emit s (.externalPaymentConfirmed t buyer s)) s t .externalConfirmed) :=
      .closed fun _ => trivial
    have hconfirmed := hset.trans (fun _ _ => trivial) h
    exact (hconfirmed.emit.trans (fun _ _ => trivial) hclosed).fitting
  bought := (Kept.refl (fun _ => trivial) _).emit
  sold {w u s asset a b c t c' x y z} h := by
    intro hf
    have hclosed : Kept Unchanged (u.emit s (.consignmentSplitPaid t asset a x b y c z))
        (close (u.emit s (.consignmentSplitPaid t asset a x b y c z)) s t .sold) :=
      .closed fun _ => trivial
    have hsold := h.emit.trans (fun _ _ => trivial) hclosed
    refine ⟨hsold.fee ▸ hf.fee, fun t' ht => ?_⟩
    -- the scaled lot is the one that closes
    have he : t' ≠ t := by
      rintro rfl
      simp [isLiveConsignment, close, clearConsignment, World.emit, World.setPhase] at ht
    obtain ⟨hlive, hconceded⟩ := hsold.lots t' ht
    simp only [World.setConsignment, Function.update_of_ne he] at hconceded
    have hfits := (hf.lots t' hlive).conceded hconceded
    rwa [← hconceded.price] at hfits
  returned _ h := h.returned (fun _ => trivial) fun _ _ => trivial

theorem genesis_fitting (h : Genesis w) : w.locked = false ∧ Fitting w := by
  obtain ⟨env, pr, fee, feed, tol, own, gd, w₀, b, tb, -, hinit, rfl⟩ := h
  simp only [initializeStorage, bind_ok, revertIf_ok, pure_ok, exists_const] at hinit
  obtain ⟨-, -, -, hfee, _, -, rfl⟩ := hinit
  refine ⟨rfl, (Nat.mod_le _ _).trans (not_lt.mp hfee), fun t ht => ?_⟩
  cases ht

theorem exec_fit {d : ℕ} {m : Msg Call} (h : mode.exec d m w = .ok w') :
    Respects (Kept Unchanged) FitKept w w' := by
  refine exec_respects fitRules (fun {w} {t} => ?_) (fun {w} {s} {t} => ?_) h
  · have hset : Kept Unchanged w (w.setRecallRequest t 0) :=
      ⟨rfl, rfl, fun _ ht => ⟨ht, .refl _⟩, trivial⟩
    exact hset.trans (fun _ _ => trivial) (.cleared (fun _ => trivial) (by decide))
  · exact (Kept.refl (fun _ => trivial) _).emit

theorem open_fitting (h : Open mode Genesis w) : w.locked = false ∧ Fitting w := by
  refine h.rest fitRules.toGuardPair (fun hB => hB) exec_fit (fun _ => genesis_fitting) ?_ ?_ ?_
  · exact fun w dt hf => ⟨hf.fee, hf.lots⟩
  · exact fun w a => .of_com rfl rfl trivial
  · intro w t dst p hp
    have hset : Kept Unchanged w (w.setRecallRequest t 0) :=
      ⟨rfl, rfl, fun _ ht => ⟨ht, .refl _⟩, trivial⟩
    have hcleared : Kept Unchanged (w.setRecallRequest t 0)
        (clearConsignment (w.setRecallRequest t 0) t .returned) :=
      .cleared (fun _ => trivial) (by decide)
    have hmoved := hcleared.trans (fun _ _ => trivial) (fitRules.side (.moved hp))
    exact hset.trans (fun _ _ => trivial) hmoved

/-- `buy` up to its split: the world there and the amount. -/
def buyToSplit (w : World P) (sender : Address) (value : ℕ) (t : TokenId)
    (rs : ℕ → Reply P FixedPriceStorage) : Except Error (World P × ℕ) := do
  requireNotPaused w
  requireOfferedForSale w t
  let c := w.com.consignments t
  let amount ← quoteAmount w c.price c.denomination c.asset
  let w ← pullPayment w c.asset amount value (rs 0)
  let w ← scaleFiatFloor w t amount
  let w ← releaseCustody hooks w t sender (rs 1)
  pure (w.emit sender (.bought t sender c.asset amount), amount)

theorem buyBody_toSplit (rs : ℕ → Reply P FixedPriceStorage) :
    buyBody w sender value t rs = (do
      let (u, amount) ← buyToSplit w sender value t rs
      paySplit u sender t amount .sold (rs 2) (rs 3) (rs 4)) := by
  simp [buyBody, buyToSplit]

end FixedPrice

/-! ## §5. The auction. -/

namespace Ascending

variable [Erc721 P] {w w' : World P} {t : TokenId} {sender : Address}

/-- The standing bid of a lot, and the money held for it, are at least its reserve. -/
structure BidsFit (w : World P) : Prop extends Fitting w where
  bid : ∀ t, isLiveConsignment w t = true → (w.ext.auction t).highestBidder ≠ .zero →
    (w.com.consignments t).price ≤ (w.ext.auction t).highestBid
  gross : ∀ t, isLiveConsignment w t = true → (w.ext.holds t).buyer ≠ .zero →
    (w.com.consignments t).price ≤ (w.ext.holds t).gross

abbrev BidsKept (w w' : World P) : Prop := BidsFit w → BidsFit w'

omit [Erc721 P] in
theorem kept_bidsFit (h : Kept ExtSame w w') (hf : BidsFit w) : BidsFit w' := by
  obtain ⟨hauction, hholds⟩ := h.ext
  refine ⟨h.fitting hf.toFitting, fun t ht hb => ?_, fun t ht hb => ?_⟩
  · obtain ⟨hlive, hconceded⟩ := h.lots t ht
    rw [hauction] at hb ⊢
    exact hconceded.price ▸ hf.bid t hlive hb
  · obtain ⟨hlive, hconceded⟩ := h.lots t ht
    rw [hholds] at hb ⊢
    exact hconceded.price ▸ hf.gross t hlive hb

omit [Erc721 P] in
/-- The auction of one lot is written. -/
theorem BidsFit.auctionSet {a : AuctionTerms} {s : Address} {e : Event} (hf : BidsFit w)
    (h : isLiveConsignment w t = true → a.highestBidder ≠ .zero →
      (w.com.consignments t).price ≤ a.highestBid) : BidsFit ((setAuction w t a).emit s e) := by
  refine ⟨⟨hf.fee, hf.lots⟩, fun t' ht' hb => ?_, hf.gross⟩
  by_cases he : t' = t
  · subst he
    simp only [setAuction, World.emit, Function.update_self] at hb ⊢
    exact h ht' hb
  · simp only [setAuction, World.emit, Function.update_of_ne he] at hb ⊢
    exact hf.bid t' ht' hb

omit [Erc721 P] in
/-- The hold of one lot is written. -/
theorem BidsFit.holdSet {h : Hold} (hf : BidsFit w)
    (hh : isLiveConsignment w t = true → h.buyer ≠ .zero →
      (w.com.consignments t).price ≤ h.gross) : BidsFit (setHold w t h) := by
  refine ⟨⟨hf.fee, hf.lots⟩, hf.bid, fun t' ht' hb => ?_⟩
  by_cases he : t' = t
  · subst he
    simp only [setHold, Function.update_self] at hb ⊢
    exact hh ht' hb
  · simp only [setHold, Function.update_of_ne he] at hb ⊢
    exact hf.gross t' ht' hb

/-- A bid that is high enough is at least the reserve. -/
theorem reserve_le_of_high {c : Consignment} {a : AuctionTerms} {amount : ℕ}
    (h : bidHighEnough c a amount = true)
    (hbid : a.highestBidder ≠ .zero → c.price ≤ a.highestBid) : c.price ≤ amount := by
  unfold bidHighEnough at h
  split at h
  · simpa using h
  · rename_i hprev
    have hbefore := hbid hprev
    simp only [Bool.and_eq_true, Bool.not_eq_true', decide_eq_false_iff_not, not_le] at h
    omega

theorem fitRules : Rules (P := P) (Kept ExtSame) BidsKept where
  refl := .refl extView.refl
  trans h k := h.trans extView.trans k
  locked h := h.locked
  rest h := kept_bidsFit h
  rest_trans h k := k ∘ h
  toggle _ _ := fun h => ⟨⟨h.fee, h.lots⟩, h.bid, h.gross⟩
  side h := h.kept extView.refl fun h => h
  bonds := .of_com rfl rfl (extView.refl _)
  held _ := (Kept.refl extView.refl _).emit
  opened {w s owner agent asset t denomination floor reserve duration protectionWindow comp}
      _ hfree _ h := by
    intro hf
    have hopened : Fitting (writeOpen w s t owner agent asset denomination floor comp reserve) :=
      hf.toFitting.opened h
    -- the auction of the new lot has no bid, and no hold stands over it
    refine ⟨⟨hopened.fee, hopened.lots⟩, fun t' ht' hb => ?_, fun t' ht' hb => ?_⟩
    · by_cases he : t' = t
      · subst he
        simp [writeAuctionTerms, setAuction, World.emit] at hb
      · simp only [isLiveConsignment, writeAuctionTerms, setAuction, writeOpen, World.emit,
          World.setRecallRequest, World.setPhase, World.setCommitted, World.setConsignment,
          Function.update_of_ne he] at ht' hb ⊢
        exact hf.bid t' ht' hb
    · by_cases he : t' = t
      · subst he
        simp only [hasUnresolvedSettlement, bne_eq_false_iff_eq] at hfree
        exact absurd hfree hb
      · simp only [isLiveConsignment, writeAuctionTerms, setAuction, writeOpen, World.emit,
          World.setRecallRequest, World.setPhase, World.setCommitted, World.setConsignment,
          Function.update_of_ne he] at ht' hb ⊢
        exact hf.gross t' ht' hb
  placed {w u v s t amount} hhigh hpulled hv := by
    intro hf
    obtain ⟨hauction, -⟩ := hpulled.ext
    -- neither the reserve nor the standing bid moved while the payment came in
    have hreserve : isLiveConsignment u t = true → (u.com.consignments t).price ≤ amount := by
      intro hlive
      obtain ⟨-, hconceded⟩ := hpulled.lots t hlive
      rw [hconceded.price]
      refine reserve_le_of_high hhigh fun hb => ?_
      have hbefore := hf.bid t hlive (by rwa [hauction])
      rwa [hconceded.price, hauction] at hbefore
    have hplace : ∀ a : AuctionTerms, (applyExtension v.env.now a).highestBid = a.highestBid := by
      intro a
      unfold applyExtension
      split_ifs <;> rfl
    have hcommitted : BidsFit v ∧ v.com.consignments = u.com.consignments ∧
        v.com.phase = u.com.phase := by
      unfold commitFirst at hv
      split at hv
      · rename_i hnone
        simp only [bind_ok, pure_ok] at hv
        obtain ⟨y, hy, rfl⟩ := hv
        obtain ⟨-, rfl⟩ := enterCommittedNotOffered_ok hy
        have hset : BidsFit ((u.setCommitted t true).setRecallRequest t 0) :=
          ⟨⟨hf.fee, hf.lots⟩, hf.bid, hf.gross⟩
        have hclock := hset.auctionSet (t := t) (a := { u.ext.auction t with
          endsAt := u40 (u.env.now + (u.ext.auction t).duration) }) (s := s)
          (e := .bidPlaced t s amount 0) fun _ hb => absurd hnone hb
        exact ⟨⟨⟨hclock.fee, hclock.lots⟩, hclock.bid, hclock.gross⟩, rfl, rfl⟩
      · obtain rfl := pure_ok.mp hv
        exact ⟨hf, rfl, rfl⟩
    obtain ⟨hfv, hcons, hphase⟩ := hcommitted
    refine hfv.auctionSet fun hlive _ => ?_
    rw [hplace, hcons]
    refine hreserve ?_
    rwa [isLiveConsignment, hphase] at hlive
  settled {w s t p h} _ hbuyer hgross := by
    intro hf
    have hcleared : BidsFit ((setAuction w t .empty).emit .self
        (.transfer .self h.buyer t)) := hf.auctionSet fun _ hb => absurd rfl hb
    have hmoved : BidsFit ((setAuction w t .empty).moved .self .self h.buyer t p) :=
      ⟨⟨hcleared.fee, hcleared.lots⟩, hcleared.bid, hcleared.gross⟩
    have hheld := hmoved.holdSet (t := t) (h := h) fun hlive hb => by
      rw [hgross]
      exact hf.bid t hlive (hbuyer ▸ hb)
    exact ⟨⟨hheld.fee, hheld.lots⟩, hheld.bid, hheld.gross⟩
  holdKept {w t h} hbuyer hgross := fun hf => hf.holdSet fun hlive hb => by
    rw [hgross]
    exact hf.gross t hlive (hbuyer ▸ hb)
  holdCleared := fun hf => hf.holdSet fun _ hb => absurd rfl hb
  split {w s asset a b c t x y z reason} := by
    have hannounced : Kept ExtSame w (w.emit s (.consignmentSplitPaid t asset a x b y c z)) :=
      (Kept.refl extView.refl w).emit
    exact hannounced.trans extView.trans (.closed extView.refl)
  returned h := h.returned extView.refl extView.trans

theorem genesis_bidsFit (h : Genesis w) : w.locked = false ∧ BidsFit w := by
  obtain ⟨env, pr, fee, fr, bond, window, own, gd, w₀, b, tb, -, hinit, rfl⟩ := h
  simp only [initializeStorage, bind_ok, revertIf_ok, pure_ok, exists_const] at hinit
  obtain ⟨-, -, _, -, -, -, hfee, -, rfl⟩ := hinit
  refine ⟨rfl, ⟨(Nat.mod_le _ _).trans (not_lt.mp hfee), fun t ht => ?_⟩, fun t ht => ?_,
    fun t ht => ?_⟩ <;> cases ht

theorem open_bidsFit (h : Open mode Genesis w) : w.locked = false ∧ BidsFit w := by
  refine h.rest fitRules.toGuardPair (fun hB => hB) (exec_respects fitRules)
    (fun _ => genesis_bidsFit) ?_ ?_ ?_
  · exact fun w dt hf => ⟨⟨hf.fee, hf.lots⟩, hf.bid, hf.gross⟩
  · exact fun w a => .of_com rfl rfl (extView.refl _)
  · intro w t dst p hp
    have hset : Kept ExtSame w (w.setRecallRequest t 0) :=
      ⟨rfl, rfl, fun _ ht => ⟨ht, .refl _⟩, extView.refl _⟩
    have hcleared : Kept ExtSame (w.setRecallRequest t 0)
        (clearConsignment (w.setRecallRequest t 0) t .returned) :=
      .cleared extView.refl (by decide)
    have hmoved := hcleared.trans extView.trans (fitRules.side (.moved hp))
    exact hset.trans extView.trans hmoved

/-- The three calls that end a hold with a split. -/
inductive Exit where
  | confirmReceipt
  | releaseFunds
  | abandonReversal

/-- Each of them up to its split: the world there and the amount. -/
def exitToSplit (w : World P) (sender : Address) (t : TokenId) :
    Exit → Except Error (World P × ℕ)
  | .confirmReceipt => do
    let h ← requireActiveHold w t
    revertIf (sender ≠ h.buyer) .notHoldBuyer
    revertIf (isChallengeActive w t = true) .disputeActive
    revertIf (h.reversalPending = true) .reversalPending
    pure (setHold w t .empty, h.gross)
  | .releaseFunds => do
    let h ← requireActiveHold w t
    revertIf (isChallengeActive w t = true) .disputeActive
    revertIf (h.reversalPending = true) .reversalPending
    revertIf (w.env.now < h.protectionEndsAt) .holdNotReady
    pure (setHold w t .empty, h.gross)
  | .abandonReversal => do
    let h ← requireActiveHold w t
    revertIf (h.reversalPending = false) .noReversalPending
    revertIf (w.env.now < h.abandonmentDeadline) .abandonmentNotReady
    pure (setHold w t .empty, h.gross)

/-- What the call announces at its end. -/
def Exit.event (t : TokenId) (buyer : Address) : Exit → Event
  | .confirmReceipt => .receiptConfirmed t buyer
  | .releaseFunds => .fundsReleased t buyer
  | .abandonReversal => .reversalAbandoned t buyer

def Exit.reason : Exit → CloseReason
  | .abandonReversal => .reversalAbandoned
  | _ => .holdReleased

def Exit.body (w : World P) (sender : Address) (t : TokenId)
    (rs : ℕ → Reply P AscendingStorage) : Exit → Except Error (World P)
  | .confirmReceipt => confirmReceiptBody w sender t rs
  | .releaseFunds => releaseFundsBody w sender t rs
  | .abandonReversal => abandonReversalBody w sender t rs

omit [Erc721 P] in
theorem exitBody_toSplit (exit : Exit) (rs : ℕ → Reply P AscendingStorage) :
    exit.body w sender t rs = (do
      let (u, gross) ← exitToSplit w sender t exit
      let v ← paySplit u sender t gross exit.reason (rs 0) (rs 1) (rs 2)
      pure (v.emit sender (exit.event t (w.ext.holds t).buyer))) := by
  cases exit <;> by_cases h : (w.ext.holds t).buyer = .zero <;>
    simp [Exit.body, exitToSplit, confirmReceiptBody, releaseFundsBody, abandonReversalBody,
      requireActiveHold, revertIf, h, Exit.reason, Exit.event] <;> rfl

end Ascending

/-! ## §6. Both modes. -/

/-- An amount a split is computed on: a uint128, or one whose products with basis points are
    words. -/
def Splittable (c : Consignment) (settled : ℕ) : Prop := settled < 2 ^ 128 ∨ ProductsFit c settled

theorem FloorFits.fits_splittable {c : Consignment} {n : ℕ} (h : FloorFits c n)
    (hagent : c.agent ≠ .zero) (hn : Splittable c n) : Fits c n := by
  rcases hn with hlt | hp
  · exact h.fits hagent (productsFit_of_lt h.fee hlt)
  · exact h.fits hagent hp

namespace FixedPrice

end FixedPrice

end Kargain.Evm
