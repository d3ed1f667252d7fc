/-
  Kargain.Evm.SettlementNotes — is the note of an external payment fresh?

  A settlement note is recorded for a passport on offer and read when its
  external payment is confirmed.  The confirmation clears it; no other
  end of a consignment does.

  Main result: `confirmed_fresh`, in every run in which no passport is
  offered while an earlier note of it stands, every confirmation follows
  a note recorded since the passport was last offered.
-/
import Kargain.Evm.FixedPriceSides

namespace Kargain.Evm.FixedPrice

/-! ## §1. Notes in the log. -/

/-- Is there a note for `t` that no confirmation has used up? -/
def noteStanding (t : TokenId) : Log → Bool
  | [] => false
  | (_, e) :: older =>
    match e with
    | .settlementNoteSet t' _ => if t' = t then true else noteStanding t older
    | .externalPaymentConfirmed t' _ _ => if t' = t then false else noteStanding t older
    | _ => noteStanding t older

/-- Is there a note for `t` recorded since `t` was last offered? -/
def notedSince (t : TokenId) : Log → Bool
  | [] => false
  | (_, e) :: older =>
    match e with
    | .settlementNoteSet t' _ => if t' = t then true else notedSince t older
    | .consignmentOpened t' _ _ _ _ _ _ _ _ _ => if t' = t then false else notedSince t older
    | _ => notedSince t older

/-- The events that record a note or use it. -/
def ofNotes : Event → Bool
  | .settlementNoteSet .. | .externalPaymentConfirmed .. => true
  | _ => false

theorem noteStanding_skip {t : TokenId} {s : Address} {e : Event} {older : Log}
    (h : ofNotes e = false) : noteStanding t ((s, e) :: older) = noteStanding t older := by
  cases e <;> first | rfl | cases h

/-- The passport whose offer an event announces. -/
def offeredBy : Event → Option TokenId
  | .consignmentOpened t _ _ _ _ _ _ _ _ _ => some t
  | _ => none

/-- The passport whose external payment an event announces. -/
def confirmedBy : Event → Option TokenId
  | .externalPaymentConfirmed t _ _ => some t
  | _ => none

/-- A confirmation uses a note of the consignment it ends. -/
def FreshRule (older : Log) (a : Address × Event) : Prop :=
  ∀ t ∈ confirmedBy a.2, notedSince t older = true

/-- No passport is offered over a note. -/
def CleanRule (older : Log) (a : Address × Event) : Prop :=
  ∀ t ∈ offeredBy a.2, noteStanding t older = false

/-- A confirmation uses a note. -/
def UsedRule (older : Log) (a : Address × Event) : Prop :=
  ∀ t ∈ confirmedBy a.2, noteStanding t older = true

instance (older : Log) (a : Address × Event) : Decidable (FreshRule older a) :=
  inferInstanceAs (Decidable (∀ t ∈ confirmedBy a.2, _))

instance (older : Log) (a : Address × Event) : Decidable (CleanRule older a) :=
  inferInstanceAs (Decidable (∀ t ∈ offeredBy a.2, _))

theorem confirmedBy_of_not_notes {e : Event} (h : ofNotes e = false) : confirmedBy e = none := by
  cases e <;> first | rfl | cases h

/-- Where no passport is offered over a note, a standing note is fresh. -/
theorem fresh_of_standing {t : TokenId} {l : Log} (h : Throughout CleanRule l)
    (hs : noteStanding t l = true) : notedSince t l = true := by
  induction l with
  | nil => cases hs
  | cons a older ih =>
    obtain ⟨hclean, hrest⟩ := h
    obtain ⟨s, e⟩ := a
    cases e
    case settlementNoteSet t' _ =>
      by_cases ht : t' = t
      · simp [notedSince, ht]
      · simp only [noteStanding, notedSince, if_neg ht] at hs ⊢
        exact ih hrest hs
    case externalPaymentConfirmed t' _ _ =>
      by_cases ht : t' = t
      · simp [noteStanding, ht] at hs
      · simp only [noteStanding, if_neg ht] at hs
        exact ih hrest hs
    case consignmentOpened t' _ _ _ _ _ _ _ _ _ =>
      by_cases ht : t' = t
      · subst ht
        have hnone : noteStanding t' older = false := hclean t' rfl
        exact absurd hs (by simp [noteStanding, hnone])
      · simp only [notedSince, if_neg ht]
        exact ih hrest hs
    all_goals exact ih hrest hs

theorem freshRule_of_used {l : Log} (hu : Throughout UsedRule l) (hc : Throughout CleanRule l) :
    Throughout FreshRule l := by
  induction l with
  | nil => trivial
  | cons a older ih =>
    exact ⟨fun t ht => fresh_of_standing hc.2 (hu.1 t ht), ih hu.2 hc.2⟩

/-! ## §2. Notes in storage. -/

section Notes

variable {P : Type} {u v w w' : World P} {t : TokenId} {s : Address} {e : Event}

/-- The log tells which notes stand, and every confirmation used one. -/
structure NotesTold (w : World P) : Prop where
  standing : ∀ t, noteStanding t w.log = decide ((w.ext.settlementNotes t).length ≠ 0)
  used : Throughout UsedRule w.log

/-- A change that neither records nor uses a note. -/
structure Unnoted (w w' : World P) : Prop where
  locked : w'.locked = w.locked
  notes : w'.ext.settlementNotes = w.ext.settlementNotes
  standing : ∀ t, noteStanding t w'.log = noteStanding t w.log
  used : Throughout UsedRule w.log → Throughout UsedRule w'.log

abbrev NotesKept (w w' : World P) : Prop := NotesTold w → NotesTold w'

theorem Unnoted.told (h : Unnoted w w') (ht : NotesTold w) : NotesTold w' := by
  refine ⟨fun t => ?_, h.used ht.used⟩
  rw [h.standing, h.notes]
  exact ht.standing t

theorem Unnoted.refl (w : World P) : Unnoted w w := ⟨rfl, rfl, fun _ => rfl, fun h => h⟩

theorem Unnoted.trans (h : Unnoted u v) (k : Unnoted v w) : Unnoted u w :=
  ⟨k.locked.trans h.locked, k.notes.trans h.notes, fun t => (k.standing t).trans (h.standing t),
    k.used ∘ h.used⟩

theorem Unnoted.of_log (hl : w'.locked = w.locked)
    (hn : w'.ext.settlementNotes = w.ext.settlementNotes) (h : w'.log = w.log) : Unnoted w w' :=
  ⟨hl, hn, fun _ => by rw [h], fun hu => by rwa [h]⟩

theorem Unnoted.emit (h : Unnoted w w') (he : ofNotes e = false) : Unnoted w (w'.emit s e) := by
  refine ⟨h.locked, h.notes, fun t => (noteStanding_skip he).trans (h.standing t), fun hu => ?_⟩
  refine ⟨fun t ht => ?_, h.used hu⟩
  rw [show confirmedBy e = none from confirmedBy_of_not_notes he] at ht
  cases ht

theorem Unnoted.cleared {ph : Phase} : Unnoted w (clearConsignment w t ph) :=
  .of_log rfl rfl rfl

theorem Unnoted.closed {reason : CloseReason} : Unnoted w (close w s t reason) :=
  Unnoted.emit .cleared rfl

theorem side_unnoted [Erc721 P] (h : Side hooks NotesSame w w') : Unnoted w w' := by
  have hrefl : ∀ x, NotesSame x x := fun _ => rfl
  have hbeside : Beside NotesSame w w' := h.beside hrefl
  have hquiet : ∀ e : Event, e.beside = true → ofNotes e = false := by
    intro e he
    cases e <;> first | rfl | cases he
  refine ⟨hbeside.locked, hbeside.ext, fun t => ?_, fun hu => ?_⟩
  · exact hbeside.reading fun _ e _ he => noteStanding_skip (hquiet e he)
  · have hsame : Throughout UsedRule w'.log = Throughout UsedRule w.log := by
      refine hbeside.reading fun s e older he => propext ⟨fun h => h.2, fun h => ⟨fun t ht => ?_, h⟩⟩
      rw [show confirmedBy e = none from confirmedBy_of_not_notes (hquiet e he)] at ht
      cases ht
    rwa [hsame]

theorem noteRules [Erc721 P] : Rules (P := P) Unnoted NotesKept where
  refl := .refl
  trans h k := h.trans k
  locked h := h.locked
  rest h := h.told
  rest_trans h k := k ∘ h
  toggle _ _ := fun h => ⟨h.standing, h.used⟩
  side h := side_unnoted h
  opened {w s owner agent asset t denomination floor price comp} _ _ := by
    have hwritten : Unnoted w (writeOpen w s t owner agent asset denomination floor comp price) :=
      .emit (.of_log rfl rfl rfl) rfl
    exact hwritten.told
  priced {w s t price} _ := by
    have hset : Unnoted w (w.setConsignment t { w.com.consignments t with price := price }) :=
      .of_log rfl rfl rfl
    exact (hset.emit (s := s) (e := .consignmentPriceSet t s price) rfl).told
  noted {w s t note} hnote := by
    intro ht
    have hrule : UsedRule w.log (s, .settlementNoteSet t s) := fun _ h => by cases h
    refine ⟨fun t' => ?_, hrule, ht.used⟩
    by_cases he : t = t'
    · subst he
      simp [noteStanding, World.emit, setNote, hnote]
    · have hother := ht.standing t'
      simpa [noteStanding, World.emit, setNote, he, Ne.symm he] using hother
  confirmed {w u s buyer t} hnote h := by
    intro ht
    have hused : noteStanding t u.log = true := by
      rw [h.standing]
      show noteStanding t w.log = true
      rw [ht.standing]
      exact decide_eq_true hnote
    have hconfirmed : NotesTold (u.emit s (.externalPaymentConfirmed t buyer s)) := by
      have hrule : UsedRule u.log (s, .externalPaymentConfirmed t buyer s) := by
        intro t' ht'
        obtain rfl := Option.some.inj ht'
        exact hused
      refine ⟨fun t' => ?_, hrule, h.used ht.used⟩
      have hnotes : u.ext.settlementNotes = Function.update w.ext.settlementNotes t [] := h.notes
      show noteStanding t' ((s, .externalPaymentConfirmed t buyer s) :: u.log) =
        decide ((u.ext.settlementNotes t').length ≠ 0)
      rw [hnotes]
      by_cases he : t = t'
      · subst he
        simp [noteStanding]
      · have hbefore : noteStanding t' u.log = noteStanding t' w.log := h.standing t'
        rw [Function.update_of_ne (Ne.symm he), ← ht.standing t', ← hbefore]
        simp [noteStanding, he]
    exact Unnoted.closed.told hconfirmed
  bought := .emit (.refl _) rfl
  sold {w u s asset a b c t c' x y z} h := by
    have hset : Unnoted w (w.setConsignment t c') := .of_log rfl rfl rfl
    have hpaid := (hset.trans h).emit (s := s)
      (e := .consignmentSplitPaid t asset a x b y c z) rfl
    exact (hpaid.trans .closed).told
  returned {w u s t reason} _ h := by
    have hcleared : Unnoted w (clearConsignment w t .returned) := .cleared
    exact (hcleared.trans h).emit rfl

/-! ## §3. Runs. -/

theorem exec_noted [Erc721 P] {d : ℕ} {m : Msg Call} (h : mode.exec d m w = .ok w') :
    Respects Unnoted NotesKept w w' := by
  refine exec_respects noteRules (fun {w} {t} => ?_) (fun {w} {s} {t} => ?_) h
  · exact Unnoted.trans (v := w.setRecallRequest t 0) (.of_log rfl rfl rfl) .cleared
  · exact .emit (.refl _) rfl

theorem step_noted [Erc721 P] {a : Action Call} (hl : w.locked = false) (ht : NotesTold w)
    (h : mode.step w a = .ok w') : w'.locked = false ∧ NotesTold w' := by
  cases a with
  | msg m =>
    obtain ⟨hkept, hl'⟩ := (exec_noted h).at_rest hl
    exact ⟨hl', hkept ht⟩
  | tick dt =>
    obtain rfl : _ = w' := Except.ok.inj h
    exact ⟨hl, ht.standing, ht.used⟩

theorem genesis_noted [Erc721 P] (h : Genesis w) : w.locked = false ∧ NotesTold w := by
  obtain ⟨env, pr, fee, feed, tol, own, gd, w₀, b, tb, -, hinit, rfl⟩ := h
  simp only [initializeStorage, bind_ok, revertIf_ok, pure_ok, exists_const] at hinit
  obtain ⟨-, -, -, -, _, -, rfl⟩ := hinit
  exact ⟨rfl, fun t => rfl, trivial⟩

/-- **Confirmed payments are fresh**: where no passport is offered over a note, a confirmation
    uses a note of the consignment it ends. -/
theorem confirmed_fresh [Erc721 P] (h : Reachable mode.step Genesis w)
    (hclean : Throughout CleanRule w.log) : Throughout FreshRule w.log := by
  have hinv : w.locked = false ∧ NotesTold w := by
    refine h.invariant (fun g hg => genesis_noted hg) ?_
    rintro u a v ⟨hl, ht⟩ hs
    exact step_noted hl ht hs
  exact freshRule_of_used hinv.2.used hclean

end Notes

/-- Account 2 offers passport 7 for account 1, records a note and withdraws; the passport is
    offered again and confirmed at once. -/
def staleNote : List (Action Call) :=
  [.call 1 0 (.base (.grant 7 (.account 2) 0 .zero ⟨.asset, 0⟩ 1000 ⟨.margin, 0⟩)),
    .call 2 0 (.openFromMandate 7 ⟨.asset, 0⟩ 2000), .call 2 0 (.setSettlementNote 7 [1]),
    .call 2 0 (.base (.agentWithdraw 7)), .call 2 0 (.openFromMandate 7 ⟨.asset, 0⟩ 2000),
    .call 2 0 (.confirmExternalPayment 7 (.account 3))]

/-- Account 2 offers passport 7, records a note and confirms. -/
def freshNote : List (Action Call) :=
  [.call 1 0 (.base (.grant 7 (.account 2) 0 .zero ⟨.asset, 0⟩ 1000 ⟨.margin, 0⟩)),
    .call 2 0 (.openFromMandate 7 ⟨.asset, 0⟩ 2000), .call 2 0 (.setSettlementNote 7 [1]),
    .call 2 0 (.confirmExternalPayment 7 (.account 3))]

end Kargain.Evm.FixedPrice
