/-
  Kargain.Pricing.AgentedSplit — one split on two machines.

  `compute_agented_split` works in 64 bits with 128-bit products and
  says whether the floor is met; `_computeAgentedSplitAmounts` works in
  256 bits and reverts where it is not.  Both are `SplitTerms.legs`: the
  floored first cut of the platform, the owner's leg, and the rest.

  Main result: `split_parity`, for all amounts of 64 bits and all terms
  the callers admit.
-/
import Kargain.Evm.FloorFit
import Kargain.Svm.Consignment

namespace Kargain.Pricing

open Kargain.Evm (bpsDenom scaleBase scaleBase_mono)

/-! ## §1. The split. -/

/-- What a lot is split by: a compensation of 16-bit basis points, the fee of a config or of an
    initializer, which is at most the whole, and a floor of 64 bits. -/
structure SplitTerms where
  form : Evm.CompensationForm
  commissionBps : ℕ
  feeBps : ℕ
  floor : ℕ
  commission_lt : commissionBps < 2 ^ 16
  fee_le : feeBps ≤ bpsDenom
  floor_lt : floor < 2 ^ 64

namespace SplitTerms

variable (x : SplitTerms)

def comp : Evm.Compensation := ⟨x.form, x.commissionBps⟩

def svmForm : Svm.SplitForm :=
  match x.form with
  | .margin => .margin
  | .commission => .commission

/-- `compute_agented_split` of the crate, under these terms. -/
def rust (settled : ℕ) : Except Svm.Error Svm.AgentedSplit :=
  Svm.computeAgentedSplit settled x.floor x.svmForm x.commissionBps x.feeBps

/-- `_computeAgentedSplitAmounts` under these terms. -/
def solidity (settled : ℕ) : Except Evm.Error Evm.SplitResult :=
  Evm.computeAgentedSplitAmounts settled x.floor x.comp x.feeBps

/-- What the floor has to fit in. -/
def base (settled : ℕ) : ℕ := scaleBase x.comp x.feeBps settled

def platformLeg (settled : ℕ) : ℕ := share bpsDenom settled x.feeBps

/-- The owner's leg: the floor under Margin, its fraction under Commission. -/
def ownerLeg (settled : ℕ) : ℕ := if x.form = .margin then x.floor else x.base settled

def legs (settled : ℕ) : Evm.SplitResult :=
  ⟨x.platformLeg settled, x.ownerLeg settled, settled - x.platformLeg settled - x.ownerLeg settled⟩

/-- The same terms at a lower commission. -/
def lowered {c : ℕ} (h : c ≤ x.commissionBps) : SplitTerms :=
  { x with commissionBps := c, commission_lt := Nat.lt_of_le_of_lt h x.commission_lt }

theorem platformLeg_le (settled : ℕ) : x.platformLeg settled ≤ settled := share_le x.fee_le

/-- The first cut and the base leave each other room. -/
theorem platform_base_le (settled : ℕ) : x.platformLeg settled + x.base settled ≤ settled := by
  have hcut := x.platformLeg_le settled
  unfold base scaleBase platformLeg at *
  split
  · omega
  · by_cases hover : bpsDenom ≤ x.feeBps + x.comp.commissionBps
    · rw [Nat.sub_eq_zero_of_le hover]
      simpa [share] using hcut
    · exact shares_le (by omega)

theorem ownerLeg_le {settled : ℕ} (h : x.floor ≤ x.base settled) :
    x.ownerLeg settled ≤ x.base settled := by
  unfold ownerLeg
  split
  · exact h
  · exact Nat.le_refl _

/-- **The legs sum to what is split.** -/
theorem legs_sum {settled : ℕ} (h : x.floor ≤ x.base settled) :
    (x.legs settled).platform + (x.legs settled).ownerAmount + (x.legs settled).agentAmount =
      settled := by
  have howner := x.ownerLeg_le h
  have hroom := x.platform_base_le settled
  show x.platformLeg settled + x.ownerLeg settled +
    (settled - x.platformLeg settled - x.ownerLeg settled) = settled
  omega

/-! ## §2. Both compute it. -/

theorem product_lt {n bps : ℕ} (hn : n < 2 ^ 64) (hb : bps ≤ bpsDenom) : n * bps < 2 ^ 256 := by
  have hle : n * bps ≤ 2 ^ 64 * bpsDenom := Nat.mul_le_mul hn.le hb
  have hsmall : 2 ^ 64 * bpsDenom < 2 ^ 256 := by decide
  omega

theorem solidity_base {settled : ℕ} (hs : settled < 2 ^ 64) :
    Evm.agentedFloorScaleBase settled x.comp x.feeBps = .ok (x.base settled) := by
  let c : Evm.Consignment :=
    { Evm.Consignment.empty with compensation := x.comp, platformFeeBps := x.feeBps }
  have hfit : Evm.ProductsFit c settled :=
    ⟨product_lt hs x.fee_le, fun _ => product_lt hs (Nat.sub_le _ _)⟩
  exact Evm.agentedFloorScaleBase_fit (c := c) x.fee_le hfit

/-- **Solidity.** -/
theorem solidity_eq {settled : ℕ} (hs : settled < 2 ^ 64) : x.solidity settled =
    if x.floor ≤ x.base settled then .ok (x.legs settled) else .error .belowFloor := by
  have hmul : Evm.checkedMul settled x.feeBps = .ok (settled * x.feeBps) :=
    Evm.checkedMul_ok.mpr ⟨product_lt hs x.fee_le, rfl⟩
  have hroom := x.platform_base_le settled
  unfold solidity Evm.computeAgentedSplitAmounts
  rw [hmul, x.solidity_base hs]
  show (if x.form = .margin then _ else _) = _
  by_cases hform : x.form = .margin
  · rw [if_pos hform]
    unfold legs ownerLeg
    rw [if_pos hform]
    by_cases hfloor : x.floor ≤ x.base settled
    · rw [if_pos hfloor, require, if_pos hfloor]
      rfl
    · rw [if_neg hfloor, require, if_neg hfloor]
      rfl
  · rw [if_neg hform]
    unfold legs ownerLeg
    rw [if_neg hform]
    have hcover : require (settled ≥ settled * x.feeBps / bpsDenom + x.base settled) Evm.Error.belowFloor =
        .ok () := if_pos hroom
    by_cases hfloor : x.floor ≤ x.base settled
    · rw [if_pos hfloor, hcover]
      show (require (x.base settled ≥ x.floor) _ >>= _) = _
      rw [require, if_pos hfloor]
      rfl
    · rw [if_neg hfloor, hcover]
      show (require (x.base settled ≥ x.floor) _ >>= _) = _
      rw [require, if_neg hfloor]
      rfl

/-- What is computed wide fits 64 bits when narrowed. -/
theorem narrowed {n bps : ℕ} (hn : n < 2 ^ 64) (hb : bps ≤ bpsDenom) :
    n * bps / Svm.bpsDenom % 2 ^ 64 = share bpsDenom n bps :=
  Nat.mod_eq_of_lt (Nat.lt_of_le_of_lt (share_le hb) hn)

theorem rust_base {settled : ℕ} (hs : settled < 2 ^ 64) :
    Svm.agentedFloorScaleBase settled x.svmForm x.commissionBps x.feeBps = .ok (x.base settled) := by
  have hcut := x.platformLeg_le settled
  have hplatform : Svm.platformShare settled x.feeBps = x.platformLeg settled :=
    narrowed hs x.fee_le
  unfold Svm.agentedFloorScaleBase svmForm base scaleBase comp
  cases x.form with
  | margin =>
    show Svm.checkedSub settled (Svm.platformShare settled x.feeBps) = .ok _
    rw [hplatform, Svm.checkedSub, if_pos hcut]
    rfl
  | commission =>
    have hkept : settled * (Svm.bpsDenom - (x.feeBps + x.commissionBps)) / Svm.bpsDenom % 2 ^ 64 =
        share bpsDenom settled (bpsDenom - (x.feeBps + x.commissionBps)) :=
      narrowed hs (Nat.sub_le _ _)
    show (if x.feeBps + x.commissionBps ≥ Svm.bpsDenom then _ else _) =
      Except.ok (share bpsDenom settled (bpsDenom - (x.feeBps + x.commissionBps)))
    by_cases hover : x.feeBps + x.commissionBps ≥ Svm.bpsDenom
    · have hover' : bpsDenom ≤ x.feeBps + x.commissionBps := hover
      rw [if_pos hover, Nat.sub_eq_zero_of_le hover']
      simp [share]
    · rw [if_neg hover, hkept]

/-- **The crate.**  It says whether the floor is met; the legs it names then are the same. -/
theorem rust_eq {settled : ℕ} (hs : settled < 2 ^ 64) : ∃ a, x.rust settled = .ok a ∧
    a.platform = x.platformLeg settled ∧ (a.ok = true ↔ x.floor ≤ x.base settled) ∧
    (a.ok = true → a.ownerAmount = x.ownerLeg settled ∧
      a.agentAmount = settled - x.platformLeg settled - x.ownerLeg settled) := by
  have hplatform : Svm.platformShare settled x.feeBps = x.platformLeg settled :=
    narrowed hs x.fee_le
  have hcut := x.platformLeg_le settled
  have hroom := x.platform_base_le settled
  have hbase := x.rust_base hs
  have hsub : Svm.checkedSub settled (x.platformLeg settled) = .ok (settled - x.platformLeg settled) :=
    if_pos hcut
  unfold rust Svm.computeAgentedSplit ownerLeg
  unfold svmForm at hbase ⊢
  cases hf : x.form with
  | margin =>
    rw [hf] at hbase
    dsimp only at hbase ⊢
    rw [hplatform, hbase]
    by_cases hfloor : x.floor ≤ x.base settled
    · have hrest : Svm.checkedSub (settled - x.platformLeg settled) x.floor =
          .ok (settled - x.platformLeg settled - x.floor) := if_pos (by omega)
      refine ⟨⟨_, x.floor, _, true⟩, ?_, rfl, iff_of_true rfl hfloor, fun _ => ⟨rfl, rfl⟩⟩
      show (if x.floor ≤ x.base settled then _ else _) = _
      rw [if_pos hfloor, hsub]
      show (Svm.checkedSub (settled - x.platformLeg settled) x.floor >>= _) = _
      rw [hrest]
      rfl
    · refine ⟨⟨_, 0, 0, false⟩, ?_, rfl, iff_of_false Bool.false_ne_true hfloor, nofun⟩
      show (if x.floor ≤ x.base settled then _ else _) = _
      rw [if_neg hfloor]
      rfl
  | commission =>
    rw [hf] at hbase
    dsimp only at hbase ⊢
    rw [hplatform, hbase]
    have hrest : Svm.checkedSub (settled - x.platformLeg settled) (x.base settled) =
        .ok (settled - x.platformLeg settled - x.base settled) := if_pos (by omega)
    have hsat : ¬ settled < Svm.saturatingAdd (x.platformLeg settled) (x.base settled) := by
      unfold Svm.saturatingAdd
      omega
    refine ⟨⟨_, x.base settled, _, _⟩, ?_, rfl, decide_eq_true_iff, fun _ => ⟨rfl, rfl⟩⟩
    show (if settled < Svm.saturatingAdd (x.platformLeg settled) (x.base settled) then _ else _) = _
    rw [if_neg hsat, hsub]
    show (Svm.checkedSub (settled - x.platformLeg settled) (x.base settled) >>= _) = _
    rw [hrest]
    rfl

/-! ## §3. How the owner's leg moves. -/

theorem base_mono {n m : ℕ} (h : n ≤ m) : x.base n ≤ x.base m := scaleBase_mono x.fee_le h

theorem ownerLeg_mono {n m : ℕ} (h : n ≤ m) : x.ownerLeg n ≤ x.ownerLeg m := by
  unfold ownerLeg
  split
  · exact Nat.le_refl _
  · exact x.base_mono h

theorem base_lowered {c settled : ℕ} (h : c ≤ x.commissionBps) :
    x.base settled ≤ (x.lowered h).base settled := by
  unfold base scaleBase comp lowered
  dsimp only
  split
  · exact Nat.le_refl _
  · exact share_mono_parts (by omega)

theorem ownerLeg_lowered {c settled : ℕ} (h : c ≤ x.commissionBps) :
    x.ownerLeg settled ≤ (x.lowered h).ownerLeg settled := by
  have hbase : x.base settled ≤ (x.lowered h).base settled := x.base_lowered h
  unfold ownerLeg
  show (if x.form = .margin then _ else _) ≤ if x.form = .margin then _ else _
  split
  · exact Nat.le_refl _
  · exact hbase

end SplitTerms

open SplitTerms

/-- **Split parity.**  The crate and the contract scale by the same base, take the same amounts,
    and name the same legs, which sum to the amount; and where one amount is taken, so is a larger
    one, and the same at a lower commission, with an owner's leg that is no smaller. -/
theorem split_parity (x : SplitTerms) (settled : ℕ) (hs : settled < 2 ^ 64) :
    (∃ base, Svm.agentedFloorScaleBase settled x.svmForm x.commissionBps x.feeBps = .ok base ∧
      Evm.agentedFloorScaleBase settled x.comp x.feeBps = .ok base) ∧
    (∃ a, x.rust settled = .ok a ∧ x.solidity settled =
      if a.ok = true then .ok ⟨a.platform, a.ownerAmount, a.agentAmount⟩ else .error .belowFloor) ∧
    ∀ s, x.solidity settled = .ok s →
      s.platform + s.ownerAmount + s.agentAmount = settled ∧
      (∀ more, settled ≤ more → more < 2 ^ 64 →
        ∃ s', x.solidity more = .ok s' ∧ s.ownerAmount ≤ s'.ownerAmount) ∧
      ∀ c (h : c ≤ x.commissionBps),
        ∃ s', (x.lowered h).solidity settled = .ok s' ∧ s.ownerAmount ≤ s'.ownerAmount := by
  refine ⟨⟨_, x.rust_base hs, x.solidity_base hs⟩, ?_, ?_⟩
  · obtain ⟨a, ha, hplatform, hok, hlegs⟩ := x.rust_eq hs
    refine ⟨a, ha, ?_⟩
    rw [x.solidity_eq hs]
    by_cases hfloor : x.floor ≤ x.base settled
    · obtain ⟨howner, hagent⟩ := hlegs (hok.mpr hfloor)
      rw [if_pos hfloor, if_pos (hok.mpr hfloor), hplatform, howner, hagent]
      rfl
    · rw [if_neg hfloor, if_neg fun h => hfloor (hok.mp h)]
  · intro s h
    rw [x.solidity_eq hs] at h
    split at h
    · rename_i hfloor
      obtain rfl := Except.ok.inj h
      refine ⟨x.legs_sum hfloor, ?_, ?_⟩
      · intro more hle hmore
        refine ⟨_, (x.solidity_eq hmore).trans (if_pos ?_), x.ownerLeg_mono hle⟩
        exact Nat.le_trans hfloor (x.base_mono hle)
      · intro c hc
        refine ⟨_, ((x.lowered hc).solidity_eq hs).trans (if_pos ?_), x.ownerLeg_lowered hc⟩
        exact Nat.le_trans hfloor (x.base_lowered hc)
    · cases h

/-- 1000 at a floor of 900 with 250 basis points of fee and 500 of commission. -/
theorem split_parity_commission :
    (∃ s, SplitTerms.solidity ⟨.commission, 500, 250, 900, by decide, by decide, by decide⟩ 1000 = .ok s ∧
      s.platform + s.ownerAmount + s.agentAmount = 1000) := by
  have h := (split_parity ⟨.commission, 500, 250, 900, by decide, by decide, by decide⟩ 1000
    (by decide)).2.2 ⟨25, 925, 50⟩ (by decide)
  exact ⟨_, by decide, h.1⟩

end Kargain.Pricing
