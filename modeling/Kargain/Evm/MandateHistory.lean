/-
  Kargain.Evm.MandateHistory — whose mandate an agent opens under.

  A mandate is kept per token and survives every change of ownership,
  while the seller of a lot is whoever owns the passport when it is
  opened.  Both modes inherit that.

  Main results: `mandate_rule_iff`, an agent's lot is opened under terms
  its seller granted exactly when the passport is, at the opening, with
  the account it was with when the standing mandate was granted, and
  `former_owner_terms`, a run in which it is not.
-/
import Kargain.Evm.AscendingEffects
import Kargain.Evm.FixedPriceEffects

namespace Kargain.Evm

open Relation

/-! ## §1. The rule. -/

/-- `caller` opens under the terms of `m`, before they expire. -/
def TermsApply (m : MandateRecord) (caller agent asset : Address) (denomination : Denomination)
    (floor : ℕ) (compensation : Compensation) (openedAt : ℕ) : Prop :=
  m.agent = caller ∧ m.agent = agent ∧ m.asset = asset ∧ m.denomination = denomination ∧
    m.floor = floor ∧ m.compensation = compensation ∧ (m.expiry = 0 ∨ openedAt < m.expiry)

instance (m : MandateRecord) (caller agent asset : Address) (d : Denomination) (floor : ℕ)
    (comp : Compensation) (n : ℕ) :
    Decidable (TermsApply m caller agent asset d floor comp n) :=
  inferInstanceAs (Decidable (_ ∧ _ ∧ _ ∧ _ ∧ _ ∧ _ ∧ _))

/-- An agent's opening applies the standing grant; the seller is the account behind the
    passport, and it is he who granted the terms. -/
def MandateRule (genesis : TokenId → Option Address) (older : Log) : Address × Event → Prop
  | (s, .consignmentOpened t seller agent asset denomination floor compensation _ _ openedAt) =>
    agent ≠ .zero → principalAfter genesis t older = some seller ∧
      ∃ gr ∈ grantAfter genesis t older,
        TermsApply gr.terms s agent asset denomination floor compensation openedAt ∧
          gr.granter = seller
  | _ => True

/-- An agent opens only while the passport is with the account it was with when the
    standing mandate was granted. -/
def SameHands (genesis : TokenId → Option Address) (older : Log) : Address × Event → Prop
  | (_, .consignmentOpened t _ agent _ _ _ _ _ _ _) =>
    agent ≠ .zero →
      (grantAfter genesis t older).bind Grant.principal = principalAfter genesis t older
  | _ => True

instance (genesis : TokenId → Option Address) (older : Log) :
    DecidablePred (MandateRule genesis older) := fun (s, e) => by
  cases e with
  | consignmentOpened t seller agent asset denomination floor compensation _ _ openedAt =>
    exact inferInstanceAs (Decidable (agent ≠ .zero → principalAfter genesis t older = some seller ∧
      ∃ gr ∈ grantAfter genesis t older,
        TermsApply gr.terms s agent asset denomination floor compensation openedAt ∧
          gr.granter = seller))
  | _ => exact inferInstanceAs (Decidable True)

instance (genesis : TokenId → Option Address) (older : Log) :
    DecidablePred (SameHands genesis older) := fun (_, e) => by
  cases e with
  | consignmentOpened t _ agent _ _ _ _ _ _ _ =>
    exact inferInstanceAs (Decidable (agent ≠ .zero →
      (grantAfter genesis t older).bind Grant.principal = principalAfter genesis t older))
  | _ => exact inferInstanceAs (Decidable True)

/-- What holds of every opening: the terms are those of the standing grant, the grant was
    made by the account then behind the passport, and the seller is the one now behind it. -/
def MandateFact (genesis : TokenId → Option Address) (older : Log) : Address × Event → Prop
  | (s, .consignmentOpened t seller agent asset denomination floor compensation _ _ openedAt) =>
    agent ≠ .zero → principalAfter genesis t older = some seller ∧
      ∃ gr, grantAfter genesis t older = some gr ∧
        TermsApply gr.terms s agent asset denomination floor compensation openedAt ∧
          gr.principal = some gr.granter
  | _ => True

theorem mandateRule_iff {genesis : TokenId → Option Address} {l : Log}
    (h : Throughout (MandateFact genesis) l) :
    Throughout (MandateRule genesis) l ↔ Throughout (SameHands genesis) l := by
  constructor
  · intro hr
    refine (h.and hr).imp fun older a _ ⟨hf, ha⟩ => ?_
    obtain ⟨s, e⟩ := a
    cases e
    case consignmentOpened =>
      intro hagent
      obtain ⟨hp, gr, hgr, -, hby⟩ := hf hagent
      obtain ⟨-, gr', hgr', -, hseller⟩ := ha hagent
      obtain rfl : gr = gr' := Option.some.inj (hgr.symm.trans hgr')
      rw [hgr, hp, ← hseller]
      exact hby
    all_goals trivial
  · intro hr
    refine (h.and hr).imp fun older a _ ⟨hf, ha⟩ => ?_
    obtain ⟨s, e⟩ := a
    cases e
    case consignmentOpened =>
      intro hagent
      obtain ⟨hp, gr, hgr, hterms, hby⟩ := hf hagent
      have hsame := ha hagent
      rw [hgr, hp] at hsame
      refine ⟨hp, gr, hgr, hterms, ?_⟩
      exact Option.some.inj (hby.symm.trans hsame)
    all_goals trivial

/-! ## §2. The invariant. -/

/-- The log tells who is behind every passport and what its mandate is. -/
structure MandateSound {P σ : Type} [Erc721 P] (genesis : TokenId → Option Address)
    (w : World P σ) : Prop where
  clean : RegistryClean w.env.karPassport.erc721
  owner : ∀ t o, w.ownerOf t = some o → o ≠ .self → principalAfter genesis t w.log = some o
  grant : ∀ t, (w.com.mandates t).active = true → ∃ gr, grantAfter genesis t w.log = some gr ∧
    gr.terms = w.com.mandates t ∧ gr.principal = some gr.granter
  facts : Throughout (MandateFact genesis) w.log

section Effects

variable {P σ : Type} [Erc721 P] {genesis : TokenId → Option Address} {w w' : World P σ}
  {H : Hooks P σ} {ExtSame : σ → σ → Prop} {Clear : World P σ → TokenId → Prop}

/-- A change that moves no passport and leaves the mandates alone. -/
theorem MandateSound.keep (h : MandateSound genesis w)
    (hr : w'.env.karPassport.erc721 = w.env.karPassport.erc721)
    (hm : w'.com.mandates = w.com.mandates)
    (hlog : w'.log = w.log ∨ ∃ s e, e.leavesMandates = true ∧ w'.log = (s, e) :: w.log) :
    MandateSound genesis w' := by
  have hprin : ∀ t, principalAfter genesis t w'.log = principalAfter genesis t w.log := by
    intro t
    rcases hlog with hl | ⟨s, e, he, hl⟩
    · rw [hl]
    · rw [hl, principalAfter_leaves he]
  have hgrant : ∀ t, grantAfter genesis t w'.log = grantAfter genesis t w.log := by
    intro t
    rcases hlog with hl | ⟨s, e, he, hl⟩
    · rw [hl]
    · rw [hl, grantAfter_leaves he]
  refine ⟨hr ▸ h.clean, fun t o ho hne => ?_, fun t ha => ?_, ?_⟩
  · rw [World.ownerOf, hr] at ho
    rw [hprin]
    exact h.owner t o ho hne
  · rw [hm] at ha ⊢
    rw [hgrant]
    exact h.grant t ha
  · rcases hlog with hl | ⟨s, e, he, hl⟩
    · rw [hl]
      exact h.facts
    · rw [hl]
      refine ⟨?_, h.facts⟩
      cases e <;> trivial

/-- A passport moves, and the move is logged. -/
theorem MandateSound.transferred {s src dst : Address} {t : TokenId}
    (h : MandateSound genesis w) (hclean : RegistryClean w'.env.karPassport.erc721)
    (hhere : ∀ o, w'.ownerOf t = some o → o = dst)
    (helse : ∀ t', t' ≠ t → w'.ownerOf t' = w.ownerOf t')
    (hm : w'.com.mandates = w.com.mandates)
    (hlog : w'.log = (s, .transfer src dst t) :: w.log) : MandateSound genesis w' := by
  refine ⟨hclean, fun t' o ho hne => ?_, fun t' ha => ?_, ?_⟩
  · rw [hlog]
    by_cases ht : t = t'
    · subst ht
      obtain rfl := hhere o ho
      simp [principalAfter, hne]
    · rw [helse t' (fun e => ht e.symm)] at ho
      simpa [principalAfter, ht] using h.owner t' o ho hne
  · rw [hm] at ha ⊢
    rw [hlog]
    exact h.grant t' ha
  · rw [hlog]
    exact ⟨trivial, h.facts⟩

theorem MandateSound.moved {caller src dst : Address} {t : TokenId} {p : P}
    (h : MandateSound genesis w)
    (hp : Erc721.transferFrom w.env.karPassport.erc721 caller src dst t = some p) :
    MandateSound genesis (w.moved caller src dst t p) := by
  refine h.transferred (h.clean.transferFrom hp) (fun o ho => ?_) (fun t' ht => ?_) rfl rfl
  · have hown := (Erc721.ownerOf_transferFrom hp t).trans (if_pos rfl)
    exact (Option.some.inj (hown.symm.trans ho)).symm
  · exact (Erc721.ownerOf_transferFrom hp t').trans (if_neg ht)

theorem outside_mandateSound {o : Outside} (h : MandateSound genesis w)
    (ho : execOutside H w o = .ok w') : MandateSound genesis w' := by
  obtain ⟨hcom, -⟩ := execOutside_frame ho
  obtain ⟨hclean, ⟨hown, hl⟩ | ⟨src, dst, t, hm⟩⟩ := execOutside_registry h.clean ho
  · refine ⟨hclean, fun t o ho => ?_, fun t => ?_, hl ▸ h.facts⟩
    · rw [hown] at ho
      rw [hl]
      exact h.owner t o ho
    · rw [hcom, hl]
      exact h.grant t
  · obtain ⟨s, hl⟩ := hm.log
    refine h.transferred hclean (fun o ho => ?_) hm.elsewhere (by rw [hcom]) hl
    rw [hm.here] at ho
    split at ho
    · cases ho
    · exact (Option.some.inj ho).symm

theorem free_mandateSound (h : FreeEffect H ExtSame w w') (hs : MandateSound genesis w) :
    MandateSound genesis w' := by
  cases h with
  | outside o h => exact outside_mandateSound hs h
  | emitted s e he =>
    refine hs.keep rfl rfl (.inr ⟨s, e, ?_, rfl⟩)
    cases e <;> first | rfl | cases he
  | @granted s agent asset t expiry floor denomination comp howner hself hagent =>
    refine ⟨hs.clean, hs.owner, fun t' ha => ?_, trivial, hs.facts⟩
    by_cases ht : t = t'
    · subst ht
      -- the granter owns the passport, and he is not the mode
      refine ⟨⟨s, principalAfter genesis t w.log,
        ⟨agent, expiry, asset, denomination, floor, comp, true⟩⟩, ?_, ?_,
        hs.owner t s howner hself⟩
      · simp [grantAfter, World.emit, World.setMandate]
      · simp [World.emit, World.setMandate]
    · have hne : t' ≠ t := fun e => ht e.symm
      simp only [World.emit, World.setMandate, Function.update_of_ne hne] at ha ⊢
      simpa [grantAfter, ht] using hs.grant t' ha
  | @revoked s t howner =>
    refine ⟨hs.clean, hs.owner, fun t' ha => ?_, trivial, hs.facts⟩
    by_cases ht : t = t'
    · subst ht
      simp [World.emit, World.setMandate, MandateRecord.empty] at ha
    · have hne : t' ≠ t := fun e => ht e.symm
      simp only [World.emit, World.setMandate, Function.update_of_ne hne] at ha ⊢
      simpa [grantAfter, ht] using hs.grant t' ha
  | floorLowered => exact hs.keep rfl rfl (.inr ⟨_, _, rfl, rfl⟩)
  | released _ h => exact hs.moved h
  | closed => exact hs.keep rfl rfl (.inr ⟨_, _, rfl, rfl⟩)
  | _ => exact hs.keep rfl rfl (.inl rfl)

theorem base_mandateSound {c c' : Cfg P σ} (h : BaseEffect H ExtSame Clear c c')
    (hs : MandateSound genesis c.1) : MandateSound genesis c'.1 := by
  cases h with
  | free h => exact free_mandateSound h hs
  | credited => exact hs.keep rfl rfl (.inr ⟨_, _, rfl, rfl⟩)
  | splitPaid => exact hs.keep rfl rfl (.inr ⟨_, _, rfl, rfl⟩)
  | @opened w x s owner agent asset t denomination floor price comp p howner hlive hs' hp hwho =>
    have hmoved := hs.moved hp
    refine ⟨hmoved.clean, hmoved.owner, hmoved.grant, fun hagent => ?_, hmoved.facts⟩
    -- custody was taken from the owner, so he is the account behind the passport
    refine ⟨by simp [principalAfter, World.moved, World.emit, World.setErc721,
      World.setConsignment, World.setCommitted, World.setPhase, World.setRecallRequest], ?_⟩
    have hm := hwho.resolve_left fun h0 => hagent h0.1
    obtain ⟨gr, hgr, hterms, hby⟩ := hs.grant t hm.active
    refine ⟨gr, hgr, ?_, hby⟩
    rw [hterms]
    refine ⟨hm.caller, hm.agent, hm.asset, hm.denomination, hm.floor, hm.compensation, ?_⟩
    exact hm.expiry.imp_right fun hlt => lt_of_le_of_lt (Nat.mod_le _ _) hlt
  | _ => exact hs.keep rfl rfl (.inl rfl)

theorem chain_mandateSound {E : Cfg P σ → Cfg P σ → Prop}
    (hE : ∀ {c c' : Cfg P σ}, E c c' → MandateSound genesis c.1 → MandateSound genesis c'.1)
    {c c' : Cfg P σ} (h : ReflTransGen E c c') (hs : MandateSound genesis c.1) :
    MandateSound genesis c'.1 := by
  induction h with
  | refl => exact hs
  | tail _ he ih => exact hE he ih

/-- At the start the log is empty, no mandate stands, and passports are where they are. -/
theorem mandateSound_start (hc : RegistryClean w.env.karPassport.erc721)
    (hm : w.com.mandates = fun _ => .empty) (hl : w.log = []) : MandateSound w.ownerOf w := by
  refine ⟨hc, fun t o ho _ => ?_, fun t ha => ?_, ?_⟩
  · rw [hl]
    exact ho
  · rw [hm] at ha
    cases ha
  · rw [hl]
    trivial

end Effects

/-! ## §3. The two modes. -/

namespace Ascending

variable {P : Type} [Erc721 P] {genesis : TokenId → Option Address} {w w' : World P}

theorem effect_mandateSound {c c' : Cfg P AscendingStorage} (h : Effect c c')
    (hs : MandateSound genesis c.1) : MandateSound genesis c'.1 := by
  cases h with
  | base h => exact base_mandateSound h hs
  | settled _ hp => exact (hs.moved hp).keep rfl rfl (.inr ⟨_, _, rfl, rfl⟩)
  | reclaimed hp => exact hs.moved hp
  | _ => exact hs.keep rfl rfl (.inl rfl)

theorem step_mandateSound {a : Action Call} (hi : LotsSound w ∧ MandateSound genesis w)
    (h : mode.step w a = .ok w') : LotsSound w' ∧ MandateSound genesis w' := by
  cases a with
  | msg m =>
    have hc := (exec_chain h).chain hi.1 (fun _ => 0)
    exact ⟨chain_good effect_lotsSound hc hi.1, chain_mandateSound effect_mandateSound hc hi.2⟩
  | tick dt =>
    obtain rfl : _ = w' := Except.ok.inj h
    exact ⟨hi.1.congr rfl rfl rfl rfl, hi.2.keep rfl rfl (.inl rfl)⟩

theorem genesis_mandateSound (h : Genesis w) : MandateSound w.ownerOf w := by
  obtain ⟨env, pr, fee, fr, bond, window, own, gd, w₀, b, tb, hclean, hinit, rfl⟩ := h
  simp only [initializeStorage, bind_ok, revertIf_ok, pure_ok, exists_const] at hinit
  obtain ⟨-, -, _, -, -, -, -, -, rfl⟩ := hinit
  exact mandateSound_start hclean rfl rfl

theorem run_mandateSound {as : List (Action Call)} (h0 : Genesis w)
    (h : run mode.step w as = .ok w') : MandateSound w.ownerOf w' :=
  (run_invariant (I := fun u => LotsSound u ∧ MandateSound w.ownerOf u)
    (fun _ _ _ hi hs => step_mandateSound hi hs)
    ⟨genesis_lotsSound h0, genesis_mandateSound h0⟩ h).2

end Ascending

namespace FixedPrice

variable {P : Type} [Erc721 P] {genesis : TokenId → Option Address} {w w' : World P}

theorem effect_mandateSound {c c' : Cfg P FixedPriceStorage} (h : Effect c c')
    (hs : MandateSound genesis c.1) : MandateSound genesis c'.1 := by
  cases h with
  | base h => exact base_mandateSound h hs
  | priceSet => exact hs.keep rfl rfl (.inl rfl)
  | floorScaled => exact hs.keep rfl rfl (.inl rfl)
  | sold => exact hs.keep rfl rfl (.inr ⟨_, _, rfl, rfl⟩)

theorem step_mandateSound {a : Action Call} (hi : MandateSound genesis w)
    (h : mode.step w a = .ok w') : MandateSound genesis w' := by
  cases a with
  | msg m =>
    exact chain_mandateSound effect_mandateSound ((exec_chain h).chain trivial (fun _ => 0)) hi
  | tick dt =>
    obtain rfl : _ = w' := Except.ok.inj h
    exact hi.keep rfl rfl (.inl rfl)

theorem genesis_mandateSound (h : Genesis w) : MandateSound w.ownerOf w := by
  obtain ⟨env, pr, fee, feed, tol, own, gd, w₀, b, tb, hclean, hinit, rfl⟩ := h
  simp only [initializeStorage, bind_ok, revertIf_ok, pure_ok, exists_const] at hinit
  obtain ⟨-, -, -, -, -, -, rfl⟩ := hinit
  exact mandateSound_start hclean rfl rfl

theorem run_mandateSound {as : List (Action Call)} (h0 : Genesis w)
    (h : run mode.step w as = .ok w') : MandateSound w.ownerOf w' :=
  run_invariant (fun _ _ _ hi hs => step_mandateSound hi hs) (genesis_mandateSound h0) h

end FixedPrice

/-- **Whose terms an agent opens under.**  In every run of either mode, agents open under
    terms granted by the seller, who is the account behind the passport, exactly when at
    each such opening the passport is with the account it was with at the grant. -/
theorem mandate_rule_iff {P : Type} [Erc721 P] :
    (∀ (w w' : Ascending.World P) (as : List (Action Ascending.Call)), Ascending.Genesis w →
      run Ascending.mode.step w as = .ok w' →
      (Throughout (MandateRule w.ownerOf) w'.log ↔ Throughout (SameHands w.ownerOf) w'.log)) ∧
    ∀ (w w' : FixedPrice.World P) (as : List (Action FixedPrice.Call)), FixedPrice.Genesis w →
      run FixedPrice.mode.step w as = .ok w' →
      (Throughout (MandateRule w.ownerOf) w'.log ↔ Throughout (SameHands w.ownerOf) w'.log) :=
  ⟨fun _ _ _ h0 h => mandateRule_iff (Ascending.run_mandateSound h0 h).facts,
    fun _ _ _ h0 h => mandateRule_iff (FixedPrice.run_mandateSound h0 h).facts⟩

/-- Where the granter keeps the passport until it is opened, his own terms apply. -/
theorem mandate_rule_small :
    Throughout (MandateRule Ascending.smallGenesis.ownerOf)
        (finalState Ascending.mode.step Ascending.smallGenesis Ascending.settledLot).log ∧
      Throughout (MandateRule FixedPrice.smallGenesis.ownerOf)
        (finalState FixedPrice.mode.step FixedPrice.smallGenesis FixedPrice.soldLot).log :=
  ⟨(mandate_rule_iff.1 _ _ _ Ascending.smallGenesis_genesis
      (run_finalState (by decide +kernel))).mpr (by decide +kernel),
    (mandate_rule_iff.2 _ _ _ FixedPrice.smallGenesis_genesis
      (run_finalState (by decide +kernel))).mpr (by decide +kernel)⟩

/-- Account 1 grants, then gives the passport to account 3, who makes the auction his
    operator; the agent opens. -/
def soldUnderMandate : List (Action Ascending.Call) :=
  [.call 1 0 (.base (.grant 7 (.account 2) 0 .zero Ascending.assetDenomination 1000 ⟨.margin, 0⟩)),
    .msg (.outside (.passport (Caller.account 1) (.transferFrom (.account 1) (.account 3) 7))),
    .msg (.outside (.passport (Caller.account 3) (.setApprovalForAll .self true))),
    .call 2 0 (.openAscendingFromMandate 7 2000 Ascending.minDuration
      Ascending.minProtectionWindow)]

/-- **A former owner's terms.**  The buyer of a passport is opened under the mandate its
    former owner granted. -/
theorem former_owner_terms :
    ¬ ∀ (w w' : Ascending.World Registry) (as : List (Action Ascending.Call)),
      Ascending.Genesis w → run Ascending.mode.step w as = .ok w' →
      Throughout (MandateRule w.ownerOf) w'.log := by
  intro h
  have hrule := h _ _ soldUnderMandate Ascending.smallGenesis_genesis
    (run_finalState (by decide +kernel))
  revert hrule
  decide +kernel

end Kargain.Evm
