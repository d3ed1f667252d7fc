/-
  Kargain.Evm.AscendingFloor — who lowers the floor of an auction lot.

  `lowerFloor` asks the passport registry who owns the passport.  While a
  lot is offered or under bids the auction itself does, so nobody can
  lower its floor; from settlement to the end of the hold the buyer does,
  and the snapshot is still live.

  Main results: `floor_law_iff`, the seller's floor is safe in a run
  exactly when nobody but the seller lowers it in the held phase, and
  `buyer_lowers_floor`, a run in which the buyer does.
-/
import Kargain.Evm.AscendingEffects

namespace Kargain.Evm.Ascending

open Relation

variable {P : Type}

/-! ## §1. The law of the floor. -/

/-- What an entry of the log must satisfy: only the seller lowers the floor of an agented
    lot, and a Margin split pays him the floor fixed at open unless he has lowered it. -/
def FloorRule (older : Log) : Address × Event → Prop
  | (s, .consignmentFloorLowered t _) =>
    (lotAfter t older).agent ≠ .zero → s = (lotAfter t older).seller
  | (_, .consignmentSplitPaid t _ _ ownerAmount _ _ _ _) =>
    (lotAfter t older).agent ≠ .zero → (lotAfter t older).form = .margin →
      (lotAfter t older).ownFloorCut = false → (lotAfter t older).floorAtOpen ≤ ownerAmount
  | _ => True

/-- The seller, and nobody else, calls `lowerFloor` on a settled lot. -/
def HeldFloorRule (older : Log) : Address × Event → Prop
  | (s, .consignmentFloorLowered t _) =>
    (lotAfter t older).agent ≠ .zero → (lotAfter t older).settled = true →
      s = (lotAfter t older).seller
  | _ => True

instance (older : Log) : DecidablePred (FloorRule older) := fun a => by
  unfold FloorRule
  split <;> infer_instance

instance (older : Log) : DecidablePred (HeldFloorRule older) := fun a => by
  unfold HeldFloorRule
  split <;> infer_instance

/-- The snapshot of a consignment is what the log says of the lot. -/
structure Matches (l : Lot) (c : Consignment) : Prop where
  seller : l.seller = c.seller
  agent : l.agent = c.agent
  form : l.form = c.compensation.form
  floor : l.floor = c.floor

/-- The seller's floor is safe in the run that led to `w`. -/
def FloorLaw (w : World P) : Prop :=
  (∀ t, isLiveConsignment w t = true → Matches (lotAfter t w.log) (w.com.consignments t)) ∧
    Throughout FloorRule w.log

/-! ## §2. What holds of every entry. -/

/-- A floor is lowered in the held phase only, and a Margin split pays at least the floor as
    it stands. -/
def FloorFact (older : Log) : Address × Event → Prop
  | (_, .consignmentFloorLowered t _) => (lotAfter t older).settled = true
  | (_, .consignmentSplitPaid t _ _ ownerAmount _ _ _ _) =>
    (lotAfter t older).agent ≠ .zero → (lotAfter t older).form = .margin →
      (lotAfter t older).floor ≤ ownerAmount
  | _ => True

/-- Where only the seller lowers floors, a floor he has not lowered is the one at open. -/
theorem floor_eq_floorAtOpen {t : TokenId} {l : Log}
    (h : Throughout (fun older a => FloorFact older a ∧ HeldFloorRule older a) l)
    (ha : (lotAfter t l).agent ≠ .zero) (hcut : (lotAfter t l).ownFloorCut = false) :
    (lotAfter t l).floor = (lotAfter t l).floorAtOpen := by
  induction l with
  | nil => rfl
  | cons a older ih =>
    obtain ⟨s, e⟩ := a
    by_cases he : e.leavesLots = true
    · rw [lotAfter_leaves he] at ha hcut ⊢
      exact ih h.2 ha hcut
    · cases e <;> simp only [Event.leavesLots, not_true_eq_false] at he
      case consignmentFloorLowered t' n =>
        by_cases ht : t' = t
        · subst ht
          have hs := h.1.2
          simp only [lotAfter, if_pos] at ha hcut
          rw [hs ha h.1.1] at hcut
          simp at hcut
        · simp only [lotAfter, if_neg ht] at ha hcut ⊢
          exact ih h.2 ha hcut
      case consignmentOpened t' _ _ _ _ _ _ _ _ _ =>
        by_cases ht : t' = t
        · simp [lotAfter, ht]
        · simp only [lotAfter, if_neg ht] at ha hcut ⊢
          exact ih h.2 ha hcut
      case consignmentSplitPaid => exact ih h.2 ha hcut
      case settled t' _ _ _ =>
        by_cases ht : t' = t
        · simp only [lotAfter, if_pos ht] at ha hcut ⊢
          exact ih h.2 ha hcut
        · simp only [lotAfter, if_neg ht] at ha hcut ⊢
          exact ih h.2 ha hcut

/-- On a log of such facts the law and its condition in the held phase are the same. -/
theorem floorRule_iff {l : Log} (h : Throughout FloorFact l) :
    Throughout FloorRule l ↔ Throughout HeldFloorRule l := by
  constructor
  · intro hr
    refine hr.imp fun older a _ ha => ?_
    obtain ⟨s, e⟩ := a
    cases e <;> first | trivial | exact fun hagent _ => ha hagent
  · intro hr
    refine (h.and hr).imp fun older a hold ha => ?_
    obtain ⟨s, e⟩ := a
    cases e
    case consignmentFloorLowered t n => exact fun hagent => ha.2 hagent ha.1
    case consignmentSplitPaid =>
      intro hagent hform hcut
      rw [← floor_eq_floorAtOpen hold hagent hcut]
      exact ha.1 hagent hform
    all_goals trivial

/-! ## §3. The invariant. -/

/-- The log tells the snapshot of every live lot; the passport of a lot that has not been
    settled is with the auction, which nobody can make move it; and the facts hold. -/
structure FloorSound [Erc721 P] (w : World P) : Prop where
  clean : RegistryClean w.env.karPassport.erc721
  lot : ∀ t, w.com.phase t = .offered → Matches (lotAfter t w.log) (w.com.consignments t)
  custody : ∀ t, w.com.phase t = .offered → (lotAfter t w.log).settled = false →
    w.ownerOf t = some .self
  facts : Throughout FloorFact w.log

/-- Two snapshots that agree in what the law is about. -/
structure SameSnapshot (c c' : Consignment) : Prop where
  seller : c'.seller = c.seller
  agent : c'.agent = c.agent
  form : c'.compensation.form = c.compensation.form
  floor : c'.floor = c.floor

theorem SameSnapshot.refl (c : Consignment) : SameSnapshot c c := ⟨rfl, rfl, rfl, rfl⟩

theorem Matches.congr {l : Lot} {c c' : Consignment} (h : Matches l c)
    (hs : SameSnapshot c c') : Matches l c' :=
  ⟨h.seller.trans hs.seller.symm, h.agent.trans hs.agent.symm, h.form.trans hs.form.symm,
    h.floor.trans hs.floor.symm⟩

section Effects

variable [Erc721 P] {w w' : World P}

/-- A change that opens and settles nothing, leaves live snapshots alone and takes no
    passport of a live lot from the auction. -/
theorem FloorSound.keep (h : FloorSound w)
    (hclean : RegistryClean w'.env.karPassport.erc721)
    (hown : ∀ t, w.com.phase t = .offered → w.ownerOf t = some .self →
      w'.ownerOf t = some .self)
    (hlot : ∀ t, w'.com.phase t = .offered → w.com.phase t = .offered ∧
      SameSnapshot (w.com.consignments t) (w'.com.consignments t))
    (hlog : w'.log = w.log ∨ ∃ s e, e.leavesLots = true ∧ w'.log = (s, e) :: w.log) :
    FloorSound w' := by
  have hafter : ∀ t, lotAfter t w'.log = lotAfter t w.log := by
    intro t
    rcases hlog with hl | ⟨s, e, he, hl⟩
    · rw [hl]
    · rw [hl, lotAfter_leaves he]
  refine ⟨hclean, fun t hp => ?_, fun t hp hs => ?_, ?_⟩
  · obtain ⟨hp', hsame⟩ := hlot t hp
    rw [hafter t]
    exact (h.lot t hp').congr hsame
  · obtain ⟨hp', -⟩ := hlot t hp
    rw [hafter t] at hs
    exact hown t hp' (h.custody t hp' hs)
  · rcases hlog with hl | ⟨s, e, he, hl⟩
    · rw [hl]
      exact h.facts
    · rw [hl]
      refine ⟨?_, h.facts⟩
      cases e <;> trivial

/-- As `keep`, where neither the registry nor ConsignmentBase changes. -/
theorem FloorSound.congr (h : FloorSound w) (hr : w'.env.karPassport.erc721 =
    w.env.karPassport.erc721) (hc : w'.com.phase = w.com.phase)
    (hk : w'.com.consignments = w.com.consignments)
    (hlog : w'.log = w.log ∨ ∃ s e, e.leavesLots = true ∧ w'.log = (s, e) :: w.log) :
    FloorSound w' := by
  refine h.keep (hr ▸ h.clean) (fun t _ ho => ?_) (fun t hp => ?_) hlog
  · rwa [World.ownerOf, hr]
  · rw [hc] at hp
    exact ⟨hp, by rw [hk]; exact .refl _⟩

/-- The registry moves a passport that is not the auction's, or of a lot that is not live,
    or to the auction. -/
theorem FloorSound.moved {caller src dst : Address} {t : TokenId} {p : P} (h : FloorSound w)
    (hp : Erc721.transferFrom w.env.karPassport.erc721 caller src dst t = some p)
    (hmove : src ≠ .self ∨ dst = .self ∨ w.com.phase t ≠ .offered) :
    FloorSound (w.moved caller src dst t p) := by
  refine h.keep (h.clean.transferFrom hp) (fun t' hph ho => ?_)
    (fun t' hph => ⟨hph, .refl _⟩) (.inr ⟨caller, _, rfl, rfl⟩)
  show Erc721.ownerOf p t' = some .self
  rw [Erc721.ownerOf_transferFrom hp]
  by_cases ht : t' = t
  · subst ht
    obtain ⟨hsrc, -⟩ := Erc721.transferFrom_some hp
    rw [if_pos rfl]
    rcases hmove with hs | rfl | hn
    · exact absurd (Option.some.inj (hsrc.symm.trans ho)) hs
    · rfl
    · exact absurd hph hn
  · rw [if_neg ht]
    exact ho

theorem FloorSound.cleared {t : TokenId} {ph : Phase} (h : FloorSound w) (hph : ph ≠ .offered) :
    FloorSound (clearConsignment w t ph) := by
  refine h.keep h.clean (fun _ _ ho => ho) (fun t' hp => ?_) (.inl rfl)
  by_cases ht : t' = t
  · subst ht
    simp [clearConsignment, World.setPhase] at hp
    exact absurd hp hph
  · simp only [clearConsignment, World.setPhase, World.setConsignment, World.setCommitted,
      World.setRecallRequest, Function.update_of_ne ht] at hp ⊢
    exact ⟨hp, .refl _⟩

theorem outside_floorSound {o : Outside} (h : FloorSound w)
    (ho : execOutside hooks w o = .ok w') : FloorSound w' := by
  obtain ⟨hcom, -⟩ := execOutside_frame ho
  obtain ⟨hclean, hreg⟩ := execOutside_registry h.clean ho
  have hlot : ∀ t, w'.com.phase t = .offered → w.com.phase t = .offered ∧
      SameSnapshot (w.com.consignments t) (w'.com.consignments t) := by
    intro t hp
    rw [hcom] at hp ⊢
    exact ⟨hp, .refl _⟩
  rcases hreg with ⟨hown, hl⟩ | ⟨src, dst, t, hm⟩
  · exact h.keep hclean (fun t _ ho => (hown t).trans ho) hlot (.inl hl)
  · obtain ⟨s, hl⟩ := hm.log
    refine h.keep hclean (fun t' _ ho => ?_) hlot (.inr ⟨s, _, rfl, hl⟩)
    have ht : t' ≠ t := fun e => hm.foreign (e ▸ ho)
    exact (hm.elsewhere t' ht).trans ho

theorem free_floorSound (h : FreeEffect hooks ExtSame w w') (hs : FloorSound w) :
    FloorSound w' := by
  cases h with
  | outside o h => exact outside_floorSound hs h
  | emitted s e he =>
    refine hs.congr rfl rfl rfl (.inr ⟨s, e, ?_, rfl⟩)
    cases e <;> first | rfl | cases he
  | granted => exact hs.congr rfl rfl rfl (.inr ⟨_, _, rfl, rfl⟩)
  | revoked => exact hs.congr rfl rfl rfl (.inr ⟨_, _, rfl, rfl⟩)
  | @floorLowered s t newFloor howner hself hlive hlower =>
    have hp : w.com.phase t = .offered := by simpa [isLiveConsignment] using hlive
    -- an unsettled lot is in custody, and the auction calls nothing of its own
    have hsettled : (lotAfter t w.log).settled = true := by
      by_contra hn
      have ho := hs.custody t hp (by simpa using hn)
      exact hself (Option.some.inj (howner.symm.trans ho))
    refine ⟨hs.clean, fun t' hp' => ?_, fun t' hp' hn => ?_, hsettled, hs.facts⟩
    · by_cases ht : t = t'
      · subst ht
        have hm := hs.lot t hp
        constructor <;>
          simp [lotAfter, World.emit, World.setConsignment, hm.seller, hm.agent, hm.form]
      · have hne : t' ≠ t := fun e => ht e.symm
        simpa [lotAfter, World.emit, World.setConsignment, ht, hne] using hs.lot t' hp'
    · by_cases ht : t = t'
      · subst ht
        simp [lotAfter, World.emit, World.setConsignment, hsettled] at hn
      · simp only [lotAfter, World.emit, World.setConsignment, if_neg ht] at hn
        exact hs.custody t' hp' hn
  | @commissionLowered t newBps =>
    refine hs.keep hs.clean (fun _ _ ho => ho) (fun t' hp => ⟨hp, ?_⟩) (.inl rfl)
    by_cases ht : t' = t
    · subst ht
      constructor <;> simp [World.setConsignment]
    · simpa [World.setConsignment, ht] using SameSnapshot.refl _
  | recallSet => exact hs.congr rfl rfl rfl (.inl rfl)
  | administered => exact hs.congr rfl rfl rfl (.inl rfl)
  | configured => exact hs.congr rfl rfl rfl (.inl rfl)
  | probed => exact hs.congr rfl rfl rfl (.inl rfl)
  | recalled => exact hs.cleared (by simp)
  | @released dst t p hphase h =>
    exact hs.moved h (.inr (.inr (hphase.resolve_right (by simp [hooks]))))
  | closed => exact hs.congr rfl rfl rfl (.inr ⟨_, _, rfl, rfl⟩)

theorem base_floorSound {c c' : Cfg P AscendingStorage}
    (h : BaseEffect hooks ExtSame Clear c c') (hs : FloorSound c.1) : FloorSound c'.1 := by
  cases h with
  | free h => exact free_floorSound h hs
  | credited s hx => exact hs.congr rfl rfl rfl (.inr ⟨s, _, rfl, rfl⟩)
  | @opened w x s owner agent asset t denomination floor price comp p howner hlive hwho hp =>
    -- the passport comes into custody and the log begins a new lot
    refine ⟨hs.clean.transferFrom hp, fun t' hph => ?_, fun t' hph hn => ?_, trivial,
      trivial, hs.facts⟩
    · by_cases ht : t = t'
      · subst ht
        constructor <;> simp [lotAfter, writeOpen, World.emit, World.moved, World.setErc721,
          World.setConsignment, World.setCommitted, World.setPhase, World.setRecallRequest]
      · have hne : t' ≠ t := fun e => ht e.symm
        simp only [writeOpen, World.emit, World.moved, World.setErc721, World.setConsignment,
          World.setCommitted, World.setPhase, World.setRecallRequest,
          Function.update_of_ne hne] at hph ⊢
        simpa [lotAfter, ht] using hs.lot t' hph
    · show Erc721.ownerOf p t' = some .self
      rw [Erc721.ownerOf_transferFrom hp]
      by_cases ht : t = t'
      · rw [if_pos ht.symm]
      · have hne : t' ≠ t := fun e => ht e.symm
        rw [if_neg hne]
        simp only [writeOpen, World.emit, World.moved, World.setErc721, World.setConsignment,
          World.setCommitted, World.setPhase, World.setRecallRequest,
          Function.update_of_ne hne] at hph hn
        exact hs.custody t' hph (by simpa [lotAfter, ht] using hn)
  | cleared ph hph => exact hs.cleared hph
  | @splitPaid w x s t c gross split hlive hsame hsplit =>
    have hp : w.com.phase t = .offered := by simpa [isLiveConsignment] using hlive
    have hm := hs.lot t hp
    refine ⟨hs.clean, hs.lot, hs.custody, fun hagent hform => ?_, hs.facts⟩
    -- the split was computed on terms that have at most been conceded since
    have hagent' : c.agent ≠ .zero := by
      rwa [← hsame.agent, ← hm.agent]
    have hform' : c.compensation.form = .margin := by
      rwa [← hsame.form, ← hm.form]
    have hfloor := computeAgentedSplitAmounts_margin hform'
      (show computeAgentedSplitAmounts gross c.floor c.compensation c.platformFeeBps = .ok split
        by simpa [computeSplit, hagent'] using hsplit)
    rw [hm.floor, hfloor]
    exact hsame.floor
  | _ => exact hs.congr rfl rfl rfl (.inl rfl)

theorem effect_floorSound {c c' : Cfg P AscendingStorage} (h : Effect c c')
    (hs : FloorSound c.1) : FloorSound c'.1 := by
  cases h with
  | base h => exact base_floorSound h hs
  | @settled w x s t p h hbinding hp hbuyer hgross =>
    simp only [isBinding, Bool.and_eq_true, beq_iff_eq] at hbinding
    refine ⟨hs.clean.transferFrom hp, fun t' hph => ?_, fun t' hph hn => ?_, trivial, trivial,
      hs.facts⟩
    · have hm := hs.lot t' hph
      by_cases ht : t = t'
      · subst ht
        constructor <;> simp [lotAfter, setHold, setAuction, World.emit, World.moved,
          World.setErc721, hm.seller, hm.agent, hm.form, hm.floor]
      · simpa [lotAfter, setHold, setAuction, World.emit, World.moved, World.setErc721, ht] using hm
    · by_cases ht : t = t'
      · simp [lotAfter, setHold, setAuction, World.emit, World.moved, World.setErc721, ht] at hn
      · show Erc721.ownerOf p t' = some .self
        rw [Erc721.ownerOf_transferFrom hp, if_neg (fun e => ht e.symm)]
        exact hs.custody t' hph (by simpa [lotAfter, setHold, setAuction, World.emit,
          World.moved, World.setErc721, ht] using hn)
  | reclaimed hp => exact hs.moved hp (.inr (.inl rfl))
  | _ => exact hs.congr rfl rfl rfl (.inl rfl)

/-! ## §4. Runs. -/

theorem genesis_floorSound (h : Genesis w) : FloorSound w := by
  obtain ⟨env, pr, fee, fr, bond, window, own, gd, w₀, b, tb, hclean, hinit, rfl⟩ := h
  simp only [initializeStorage, bind_ok, revertIf_ok, pure_ok, exists_const] at hinit
  obtain ⟨-, -, _, -, -, -, -, -, rfl⟩ := hinit
  refine ⟨hclean, fun t hp => ?_, fun t hp => ?_, trivial⟩ <;> cases hp

theorem chain_floorSound {c c' : Cfg P AscendingStorage} (h : ReflTransGen Effect c c')
    (hs : FloorSound c.1) : FloorSound c'.1 := by
  induction h with
  | refl => exact hs
  | tail _ he ih => exact effect_floorSound he ih

theorem step_sound {a : Action Call} (hi : LotsSound w ∧ FloorSound w)
    (h : mode.step w a = .ok w') : LotsSound w' ∧ FloorSound w' := by
  cases a with
  | msg m =>
    have hc := (exec_chain h).chain hi.1 (fun _ => 0)
    exact ⟨chain_good effect_lotsSound hc hi.1, chain_floorSound hc hi.2⟩
  | tick dt =>
    obtain rfl : _ = w' := Except.ok.inj h
    exact ⟨hi.1.congr rfl rfl rfl rfl, hi.2.congr rfl rfl rfl (.inl rfl)⟩

/-- **The floor law.**  In every run the seller's floor is safe exactly when, while a
    settled lot waits for the end of its hold, nobody but its seller calls `lowerFloor`. -/
theorem floor_law_iff (h : Reachable mode.step Genesis w) :
    FloorLaw w ↔ Throughout HeldFloorRule w.log := by
  have hi : LotsSound w ∧ FloorSound w :=
    h.invariant (fun _ h0 => ⟨genesis_lotsSound h0, genesis_floorSound h0⟩)
      fun _ _ _ hi hs => step_sound hi hs
  constructor
  · rintro ⟨-, hr⟩
    exact (floorRule_iff hi.2.facts).mp hr
  · intro hr
    refine ⟨fun t hl => hi.2.lot t (by simpa [isLiveConsignment] using hl), ?_⟩
    exact (floorRule_iff hi.2.facts).mpr hr

end Effects

/-- Where nobody lowers the floor the law holds. -/
theorem floor_law_settledLot :
    FloorLaw (finalState mode.step smallGenesis (settledLot ++ [.call 3 0 (.confirmReceipt 7)])) :=
  (floor_law_iff ⟨smallGenesis, _, smallGenesis_genesis, run_finalState (by decide +kernel)⟩).mpr
    (by decide +kernel)

/-- **The buyer lowers the floor.**  After settlement the buyer, who now owns the passport,
    sets the floor of the seller's lot to zero and confirms: the seller is paid nothing. -/
theorem buyer_lowers_floor :
    ¬ ∀ w : World Registry, Reachable mode.step Genesis w → FloorLaw w := by
  intro h
  have hlaw := h (finalState mode.step smallGenesis (settledLot ++
      [.call 3 0 (.base (.lowerFloor 7 0)), .call 3 0 (.confirmReceipt 7)]))
    ⟨smallGenesis, _, smallGenesis_genesis, run_finalState (by decide +kernel)⟩
  have hbad : ¬ Throughout FloorRule (finalState mode.step smallGenesis (settledLot ++
      [.call 3 0 (.base (.lowerFloor 7 0)), .call 3 0 (.confirmReceipt 7)])).log := by
    decide +kernel
  exact hbad hlaw.2


end Kargain.Evm.Ascending
