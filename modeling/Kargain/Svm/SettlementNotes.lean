/-
  Kargain.Svm.SettlementNotes — is the note of an external payment fresh?

  kar-fixed-price keeps a settlement note in an account of the token.  An
  external payment is confirmed on the note in the account handed in, and
  only the confirmation clears it; neither that account nor the lot is
  tied to the token.

  Main result: `confirmed_fresh`, in every run in which no lot is opened
  over a note, and every confirmation is handed the lot and the note of
  its token, a confirmation follows a note recorded since its lot was
  opened.
-/
import Kargain.Svm.FixedPriceLots
import Kargain.Svm.FixedPriceSystem
import Kargain.Svm.Kinds
import Kargain.Svm.RecallCooldown

namespace Kargain.Svm.FixedPrice

open Kargain.Accounts

/-! ## §1. What an instruction does to notes. -/

/-- The note recorded in the account of `t`. -/
def noteAt (L : Ledger) (t : TokenId) : Option SettlementNoteRecord :=
  Record.ofData (L (notePda t)).data

def IsNote (d : Data) : Prop := ∃ n : SettlementNoteRecord, d = .settlementNote n

/-- An operation keeps the notes, but for those in the accounts `off`. -/
abbrev KeepsNotes (off : Pubkey → Prop) (L L' : Ledger) : Prop := KeepsKind programId IsNote off L L'

section Handlers

variable {P : Platform} {W : AmountOffset} {x : Call} {now : ℕ} {w w' : Exec} {L L' : Ledger}
  {t : TokenId} {off : Pubkey → Prop} {ix : Instruction}

theorem KeepsKind.note (h : KeepsNotes off L L') (hoff : ¬ off (notePda t)) :
    noteAt L' t = noteAt L t :=
  h.reads (fun n => ⟨n, rfl⟩) rfl hoff

theorem noteAt_store {n : SettlementNoteRecord}
    (h : w.store (notePda t) n = (.ok w' : Except Error Exec)) : noteAt w'.ledger t = some n := by
  obtain ⟨-, rfl⟩ := store_ok h
  simp [noteAt, Exec.setData, Exec.set, Record.ofData, Record.toData]

/-- Records that are no notes. -/
theorem not_note {R : Type} [Record Data R] (h : ∀ (r : R) n, Record.toData r ≠ .settlementNote n) :
    ∀ r : R, ¬ IsNote (Record.toData r) := fun r ⟨n, hn⟩ => h r n hn

theorem clearRecall_notes {k : Pubkey} : KeepsNotes off w.ledger (clearRecall w k).ledger := by
  refine .setData ?_
  cases hd : (w.ledger k).data <;> simp [unrequested, IsNote]

theorem initConfig_notes {feeBps : ℕ} (h : initConfig P x w feeBps = .ok w') :
    KeepsNotes nowhere w.ledger w'.ledger := by
  simp only [initConfig, bind_ok, require_ok, exists_const] at h
  obtain ⟨_, -, config, -, _, -, _, -, _, -, _, -, -, rfl, -, w₁, h₁, cfg, -, h₂⟩ := h
  have hc : KeepsNotes nowhere w.ledger w₁.ledger := .createPda (.inr (by simp [IsNote])) h₁
  exact hc.trans (.store (.inr (not_note (by simp [Record.toData]))) h₂)

theorem bindPassportProgram_notes (h : bindPassportProgram P x w = .ok w') :
    KeepsNotes nowhere w.ledger w'.ledger := by
  simp only [bindPassportProgram, Svm.bindPassportProgram, bind_ok, require_ok, exists_const] at h
  obtain ⟨_, -, _, -, binding, -, q, -, _, -, -, _, -, _, -, -, rfl, _, -, w₁, h₁, h₂⟩ := h
  have hc : KeepsNotes nowhere w.ledger w₁.ledger := .createPda (.inr (by simp [IsNote])) h₁
  exact hc.trans (.store (.inr (not_note (by simp [Record.toData]))) h₂)

theorem storeConfig_notes {config : Pubkey} {cfg : CommerceConfig}
    (h : w.store config cfg = (.ok w' : Except Error Exec)) :
    KeepsNotes nowhere w.ledger w'.ledger :=
  .store (.inr (not_note (by simp [Record.toData]))) h

theorem approvePaymentToken_notes {program : Pubkey} {feed staleness confidence : ℕ}
    (h : approvePaymentToken P x w program feed staleness confidence = .ok w') :
    KeepsNotes nowhere w.ledger w'.ledger := by
  simp only [approvePaymentToken, bind_ok] at h
  obtain ⟨_, -, _, -, _, -, token, -, _, -, _, -, _, -, _, -, _, -, _, -, _, -, _, -, _, -, w₁, h₁,
    h₂⟩ := h
  have he : KeepsNotes nowhere w.ledger w₁.ledger := .ensurePda (.inr (by simp [IsNote])) h₁
  exact he.trans (.store (.inr (not_note (by simp [Record.toData]))) h₂)

theorem grant_notes {agent asset : Pubkey} {expiry kind code floor form bps : ℕ}
    (h : grant P x w t agent expiry asset kind code floor form bps = .ok w') :
    KeepsNotes nowhere w.ledger w'.ledger := by
  simp only [grant, Svm.grant, bind_ok] at h
  obtain ⟨_, -, _, -, _, -, _, -, _, -, _, -, _, -, _, -, _, -, _, -, _, -, _, -, _, -, _, -, _, -,
    _, -, _, -, _, -, w₁, h₁, h₂⟩ := h
  have he : KeepsNotes nowhere w.ledger w₁.ledger := .ensurePda (.inr (by simp [IsNote])) h₁
  exact he.trans (.store (.inr (not_note (by simp [Record.toData]))) h₂)

/-- The end of both openings. -/
theorem openLot_notes {payer consignment leave openAnswer : Pubkey} {seedPrefix : List ℕ}
    {c : ConsignmentRecord} {w₁ w₂ w₃ : Exec}
    (h₁ : ensureConsignmentAccount P programId x w payer consignment t = .ok w₁)
    (h₂ : SameBooks programId w₁.ledger w₂.ledger)
    (h₃ : w₂.store consignment c = (.ok w₃ : Except Error Exec))
    (h₄ : openObligation P programId x w₃ payer leave openAnswer seedPrefix t = .ok w') :
    KeepsNotes nowhere w.ledger w'.ledger := by
  obtain ⟨-, he⟩ := ensureConsignmentAccount_ok h₁
  have hensured : KeepsNotes nowhere w.ledger w₁.ledger :=
    .ensurePda (.inr (by simp [IsNote])) he
  have hmoved := hensured.trans (.of_books h₂)
  have hwritten := hmoved.trans (.store (.inr (not_note (by simp [Record.toData]))) h₃)
  exact hwritten.trans (.of_books (sameBooks_openObligation h₄))

theorem openDirect_notes {mint : Pubkey} {kind code price : ℕ}
    (h : openDirect P x now w t mint kind code price = .ok w') :
    KeepsNotes nowhere w.ledger w'.ledger := by
  simp only [openDirect, bind_ok, Prod.exists] at h
  obtain ⟨seller, -, config, -, _, -, cfg, -, _, -, denomination, -, paymentTok, i, -, _, -, o, -,
    owner, -, _, -, w₁, h₁, w₂, h₂, w₃, h₃, h₄⟩ := h
  exact openLot_notes h₁ (sameBooks_transferOwnerToCustody h₂) h₃ h₄

theorem openFromMandate_notes {kind code price : ℕ}
    (h : openFromMandate P x now w t kind code price = .ok w') :
    KeepsNotes nowhere w.ledger w'.ledger := by
  simp only [openFromMandate, bind_ok, Prod.exists] at h
  obtain ⟨agent, -, config, -, mandate, -, _, -, cfg, -, _, -, m, -, denomination, -, _, -, _, -,
    paymentTok, i, -, _, -, o, -, _, -, seller, -, w₁, h₁, w₂, h₂, w₃, h₃, h₄⟩ := h
  exact openLot_notes h₁ (sameBooks_transferDelegateToCustody h₂) h₃ h₄

theorem amendLot_notes {i : ℕ} {amend : Pubkey → ConsignmentRecord → Except Error ConsignmentRecord}
    (h : amendLot x w i t amend = .ok w') : KeepsNotes nowhere w.ledger w'.ledger := by
  simp only [amendLot, bind_ok] at h
  obtain ⟨_, -, _, -, _, -, _, -, c, -, c', -, hs⟩ := h
  exact .store (.inr (not_note (by simp [Record.toData]))) hs

theorem requestRecall_notes (h : requestRecall P x now w t = .ok w') :
    KeepsNotes nowhere w.ledger w'.ledger := by
  simp only [requestRecall, bind_ok] at h
  obtain ⟨_, -, _, -, _, -, _, -, _, -, _, -, _, -, _, -, _, -, w₁, h₁, h₂⟩ := h
  have he : KeepsNotes nowhere w.ledger w₁.ledger := .ensurePda (.inr (by simp [IsNote])) h₁
  exact he.trans (.store (.inr (not_note (by simp [Record.toData]))) h₂)

theorem returnLot_notes {check : ConsignmentRecord → Pubkey → Pubkey → Except Error Unit}
    {settled : ConsignmentRecord → ConsignmentRecord}
    (h : returnLot P x w t check settled = .ok w') : KeepsNotes nowhere w.ledger w'.ledger := by
  simp only [returnLot, bind_ok, account_ok, require_ok, load_ok, exists_const, Prod.exists] at h
  obtain ⟨caller, -, consignment, -, recallInfo, -, _, -, _, -, asset, -, _, -, recipient, -, _, -,
    _, -, _, -, _, -, _, -, -, c, -, _, -, -, q, -, seedPrefix, _, -, w₁, h₁, w₂, h₂, h₃⟩ := h
  have hcleared : KeepsNotes nowhere w.ledger (clearRecall w recallInfo).ledger := clearRecall_notes
  have hmoved := hcleared.trans (.of_books ((sameBooks_transferCustodyToRecipient h₁).trans
    (sameBooks_closeObligation h₂)))
  exact hmoved.trans (.store (.inr (not_note (by simp [Record.toData]))) h₃)

theorem buy_notes (h : buy P W x now w t = .ok w') : KeepsNotes nowhere w.ledger w'.ledger := by
  simp only [buy, bind_ok, require_ok, load_ok, exists_const, Prod.exists] at h
  obtain ⟨a, -, -, q, -, seedPrefix, _, -, cfg, -, _, -, -, c, -, -, amount, -, w₁, c₁, h₁,
    hesc, w₂, h₂, w₃, src, h₃, split, -, _, -, w₄, h₄, w₅, h₅, w₆, h₆, h₇⟩ := h
  rw [hesc] at h₂
  have hscaled : KeepsNotes nowhere w.ledger w₁.ledger := by
    rcases snapshotFloor_ok h₁ with ⟨rfl, -⟩ | ⟨-, hs⟩
    · exact .refl _
    · exact .store (.inr (not_note (by simp [Record.toData]))) hs
  have htail : SameBooks programId w₁.ledger w₆.ledger :=
    ((((sameBooks_ensurePda escrow_not_book h₂).trans (sameBooks_pullPayment h₃)).trans
      (sameBooks_transferCustodyToRecipient h₄)).trans (sameBooks_closeObligation h₅)).trans
      (sameBooks_payLegs h₆)
  have hpaid := (hscaled.trans (.of_books htail)).trans (clearRecall_notes (k := a.recallInfo))
  exact hpaid.trans (.store (.inr (not_note (by simp [Record.toData]))) h₇)

/-- A note is recorded in the account of its token. -/
theorem setSettlementNote_notes {note : List ℕ} {len : ℕ}
    (h : setSettlementNote P x w t note len = .ok w') :
    KeepsNotes (· = notePda t) w.ledger w'.ledger := by
  simp only [setSettlementNote, bind_ok, require_ok, revertIf_ok, load_ok, exists_const] at h
  obtain ⟨_, -, _, -, account, -, payer, -, -, -, c, -, -, -, -, rfl, w₁, h₁, h₂⟩ := h
  have he : KeepsNotes (· = notePda t) w.ledger w₁.ledger := .ensurePda (.inl rfl) h₁
  exact he.trans (.store (.inl rfl) h₂)

/-- A confirmation reads the note handed in, and clears it. -/
theorem confirmExternalPayment_notes {buyer : Pubkey}
    (h : confirmExternalPayment P x w t buyer = .ok w') :
    ∃ consignment account c n, x.keys[1]? = some consignment ∧ x.keys[2]? = some account ∧
      (w.ledger consignment).data = .consignment c ∧ c.isLive = true ∧
      (w.ledger account).data = .settlementNote n ∧ n.noteLen ≠ 0 ∧
      KeepsNotes (· = account) w.ledger w'.ledger ∧
      ∀ u, notePda u = account → ∃ n', noteAt w'.ledger u = some n' ∧ n'.noteLen = 0 := by
  simp only [confirmExternalPayment, bind_ok, account_ok, require_ok, revertIf_ok, load_ok,
    exists_const, Prod.exists] at h
  obtain ⟨caller, -, consignment, h1, note, h2, recallInfo, -, _, -, _, -, asset, -, _, -, _, -, _, -,
    _, -, _, -, _, -, _, -, -, -, -, c, hd, hoff, -, n, hn, hlen, w₁, h₁, q, -, seedPrefix, _, -,
    w₂, h₂, w₃, h₃, h₄⟩ := h
  have htail : KeepsNotes nowhere w₁.ledger w'.ledger :=
    (KeepsKind.of_books ((sameBooks_transferCustodyToRecipient h₂).trans
      (sameBooks_closeObligation h₃))).trans (clearRecall_notes.trans
        (.store (.inr (not_note (by simp [Record.toData]))) h₄))
  have hstored : KeepsNotes (· = note) w.ledger w₁.ledger := .store (.inl rfl) h₁
  refine ⟨consignment, note, c, n, h1, h2, hd, ConsignmentRecord.isLive_of_actionable _ hoff, hn,
    hlen, hstored.trans htail.but, ?_⟩
  rintro u rfl
  exact ⟨_, (KeepsKind.note htail (fun hk => hk)).trans (noteAt_store h₁), rfl⟩

/-- Every other instruction leaves the notes alone. -/
theorem processInstruction_notes (hset : ∀ t note len, ix ≠ .setSettlementNote t note len)
    (hconfirm : ∀ t buyer, ix ≠ .confirmExternalPayment t buyer)
    (h : processInstruction P W now x w ix = .ok w') : KeepsNotes nowhere w.ledger w'.ledger := by
  cases ix with
  | initConfig => exact initConfig_notes h
  | retired => cases h
  | grant => exact grant_notes h
  | revoke =>
    simp only [processInstruction, revoke, Svm.revoke, bind_ok] at h
    obtain ⟨_, -, _, -, _, -, _, -, _, -, _, -, _, -, _, -, _, -, _, -, _, -, _, -, h⟩ := h
    exact .store (.inr (not_note (by simp [Record.toData]))) h
  | openDirect => exact openDirect_notes h
  | openFromMandate => exact openFromMandate_notes h
  | setPrice => exact amendLot_notes h
  | lowerFloor => exact amendLot_notes h
  | lowerCommission => exact amendLot_notes h
  | requestRecall => exact requestRecall_notes h
  | forceRecall =>
    simp only [processInstruction, forceRecall] at h
    exact returnLot_notes h
  | ownerWithdraw =>
    simp only [processInstruction, ownerWithdraw] at h
    exact returnLot_notes h
  | agentWithdraw =>
    simp only [processInstruction, agentWithdraw] at h
    exact returnLot_notes h
  | enterCommitted =>
    simp only [processInstruction, enterCommitted, bind_ok] at h
    obtain ⟨_, -, _, -, _, -, c, -, c', -, hs⟩ := h
    exact clearRecall_notes.trans (.store (.inr (not_note (by simp [Record.toData]))) hs)
  | pause =>
    simp only [processInstruction, pause, bind_ok] at h
    obtain ⟨_, -, _, -, _, -, _, -, _, -, _, -, h⟩ := h
    exact storeConfig_notes h
  | unpause =>
    simp only [processInstruction, unpause, bind_ok] at h
    obtain ⟨_, -, _, -, _, -, _, -, h⟩ := h
    exact storeConfig_notes h
  | approvePaymentToken => exact approvePaymentToken_notes h
  | revokePaymentToken =>
    simp only [processInstruction, revokePaymentToken, bind_ok] at h
    obtain ⟨_, -, _, -, _, -, _, -, _, -, _, -, _, -, _, -, h⟩ := h
    exact .store (.inr (not_note (by simp [Record.toData]))) h
  | buy => exact buy_notes h
  | setSettlementNote t note len => exact absurd rfl (hset t note len)
  | confirmExternalPayment t buyer => exact absurd rfl (hconfirm t buyer)
  | withdrawClaim => exact .of_books (sameBooks_withdrawSplClaim h)
  | forceRecallRequestedAt =>
    simp only [processInstruction, forceRecallRequestedAt, bind_ok] at h
    obtain ⟨_, -, _, -, _, -, _, -, _, -, _, -, _, -, hs⟩ := h
    exact .store (.inr (not_note (by simp [Record.toData]))) hs
  | bindPassportProgram => exact bindPassportProgram_notes h
  | setGuardian =>
    simp only [processInstruction, setGuardian, bind_ok] at h
    obtain ⟨_, -, _, -, _, -, _, -, _, -, _, -, h⟩ := h
    exact storeConfig_notes h

end Handlers

/-! ## §2. Notes and the past. -/

/-- A note for `t` was recorded, and `t` was not opened since. -/
def NotedSince (t : TokenId) : List Entry → Prop
  | [] => False
  | e :: older => e.ix.opens ≠ some t ∧
    ((∃ note len, e.ix = .setSettlementNote t note len) ∨ NotedSince t older)

/-- The lot of `t` is live, and a note was recorded for it. -/
def Fresh (s : System) (t : TokenId) : Prop :=
  (∃ c, lotAt s.ledger t = some c ∧ c.isLive = true) ∧ NotedSince t s.past

/-- A note stands for `t`. -/
def NoteStands (L : Ledger) (t : TokenId) : Prop := ∃ n ∈ noteAt L t, n.noteLen ≠ 0

/-- The token an instruction confirms the external payment of. -/
def Instruction.confirms : Instruction → Option TokenId
  | .confirmExternalPayment t _ => some t
  | _ => none

/-- No lot is opened over a note, and confirmations name the lot and the note of their
    token. -/
def Clean (s : System) : Action → Prop
  | .instruction x ix => (∀ t ∈ ix.opens, ¬ NoteStands s.ledger t) ∧
    ∀ t ∈ ix.confirms, x.keys[1]? = some (consignmentPda programId t) ∧
      x.keys[2]? = some (notePda t)
  | .outside _ _ => True
  | .tick _ => True

instance (L : Ledger) (t : TokenId) : Decidable (NoteStands L t) :=
  inferInstanceAs (Decidable (∃ n ∈ noteAt L t, n.noteLen ≠ 0))

instance Clean.decidable (s : System) : (a : Action) → Decidable (Clean s a)
  | .instruction _ _ => inferInstanceAs (Decidable (_ ∧ _))
  | .outside _ _ => isTrue trivial
  | .tick _ => isTrue trivial

section Step

variable {P : Platform} {W : AmountOffset} {x : Call} {ix : Instruction} {s s' : System}
  {L L' : Ledger} {past : List Entry} {e : Entry} {t : TokenId}

/-- Every standing note was recorded since its token was opened. -/
def NotesTold (L : Ledger) (past : List Entry) : Prop :=
  ∀ t, NoteStands L t → NotedSince t past

/-- What is kept along a run. -/
structure NotesInv (s : System) : Prop where
  seated : Seated programId s.ledger
  told : NotesTold s.ledger s.past

theorem NotesTold.later (h : NotesTold L past)
    (hkeep : ∀ t, NoteStands L' t → NoteStands L t ∧ e.ix.opens ≠ some t) :
    NotesTold L' (e :: past) := by
  intro t ht
  obtain ⟨hbefore, hne⟩ := hkeep t ht
  exact ⟨hne, .inr (h t hbefore)⟩

theorem KeepsKind.stands {off : Pubkey → Prop} (h : KeepsNotes off L L') (hoff : ¬ off (notePda t)) :
    NoteStands L' t ↔ NoteStands L t := by
  unfold NoteStands
  rw [KeepsKind.note h hoff]

theorem notePda_inj {u : TokenId} : notePda t = notePda u ↔ t = u := by
  simp [notePda]

/-- Every instruction leaves only notes that are fresh. -/
theorem processInstruction_told {w' : Exec} (hi : NotesInv s) (hc : Clean s (.instruction x ix))
    (h : processInstruction P W s.now x (Exec.start s.ledger) ix = .ok w') :
    NotesInv ⟨w'.ledger, s.now, ⟨s.now, x, ix⟩ :: s.past⟩ := by
  by_cases hset : ∃ t note len, ix = .setSettlementNote t note len
  · -- the note just recorded is the newest entry
    obtain ⟨t, note, len, rfl⟩ := hset
    have hk := setSettlementNote_notes h
    refine ⟨hk.seated hi.seated, fun u hu => ⟨by simp [Instruction.opens], ?_⟩⟩
    by_cases hut : u = t
    · exact .inl ⟨note, len, by rw [hut]⟩
    · exact .inr (hi.told u ((KeepsKind.stands hk (mt notePda_inj.mp hut)).mp hu))
  by_cases hconfirm : ∃ t buyer, ix = .confirmExternalPayment t buyer
  · -- a note that stands after the confirmation is another's
    obtain ⟨t, buyer, rfl⟩ := hconfirm
    obtain ⟨_, account, _, _, -, -, -, -, -, -, hk, hcleared⟩ := confirmExternalPayment_notes h
    refine ⟨hk.seated hi.seated, hi.told.later fun u hu => ⟨?_, by simp [Instruction.opens]⟩⟩
    refine (KeepsKind.stands hk ?_).mp hu
    intro hua
    obtain ⟨n, hn, hlen⟩ := hu
    obtain ⟨n', hn', hzero⟩ := hcleared u hua
    obtain rfl := Option.some.inj (hn.symm.trans hn')
    exact hlen hzero
  have hk := processInstruction_notes (fun t note len he => hset ⟨t, note, len, he⟩)
    (fun t buyer he => hconfirm ⟨t, buyer, he⟩) h
  refine ⟨hk.seated hi.seated, hi.told.later fun u hu => ?_⟩
  have hbefore : NoteStands s.ledger u := (KeepsKind.stands hk fun hn => hn).mp hu
  exact ⟨hbefore, fun ho => hc.1 u ho hbefore⟩

theorem step_notesInv {a : Action} (hi : NotesInv s) (hc : Clean s a) (h : step P W s a = .ok s') :
    NotesInv s' := by
  cases a with
  | instruction x ix =>
    obtain ⟨-, w', hw, rfl⟩ := step_instruction_ok h
    exact processInstruction_told hi hc hw
  | outside k a =>
    simp only [step, bind_ok, require_ok, pure_ok, exists_const] at h
    obtain ⟨hmay, rfl⟩ := h
    have hb := outside_sameBooks hi.seated hmay
    have hk : KeepsNotes nowhere s.ledger (Function.update s.ledger k a) := .of_books hb
    refine ⟨hk.seated hi.seated, fun t ht => ?_⟩
    exact hi.told t ((KeepsKind.stands hk fun hn => hn).mp ht)
  | tick n =>
    simp only [step, bind_ok, require_ok, pure_ok, exists_const] at h
    obtain ⟨-, rfl⟩ := h
    exact ⟨hi.seated, hi.told⟩

theorem Genesis.notesInv (h : Genesis s) : NotesInv s where
  seated := h.inv.seated
  told t := by
    rintro ⟨n, hn, -⟩
    have hempty : (s.ledger (notePda t)).data = .empty := (h.free (.settlementNote t)).2.1
    rw [noteAt, hempty] at hn
    cases hn

/-- A confirmation on the token's own accounts, in a state the invariant holds of. -/
theorem NotesInv.fresh {buyer : Pubkey} (hi : NotesInv s)
    (hc : Clean s (.instruction x (.confirmExternalPayment t buyer)))
    (h : step P W s (.instruction x (.confirmExternalPayment t buyer)) = .ok s') : Fresh s t := by
  obtain ⟨-, w', hw, -⟩ := step_instruction_ok h
  obtain ⟨consignment, account, c, n, h1, h2, hd, hlive, hn, hlen, -, -⟩ :=
    confirmExternalPayment_notes hw
  obtain rfl : consignment = consignmentPda programId t := Option.some.inj (h1.symm.trans (hc.2 t rfl).1)
  obtain rfl : account = notePda t := Option.some.inj (h2.symm.trans (hc.2 t rfl).2)
  exact ⟨⟨c, Record.ofData_eq.mpr hd, hlive⟩, hi.told t ⟨n, Record.ofData_eq.mpr hn, hlen⟩⟩

end Step

/-! ## §3. Over runs. -/

/-- **Confirmed payments are fresh**: where no lot is opened over a note, a confirmation on the
    accounts of its token uses a note of the consignment it ends. -/
theorem confirmed_fresh (P : Platform) (W : AmountOffset) {s₀ s s' : System} {as : List Action}
    {x : Call} {t : TokenId} {buyer : Pubkey} (h0 : Genesis s₀)
    (hok : Along (step P W) Clean s₀ (as ++ [.instruction x (.confirmExternalPayment t buyer)]))
    (hr : run (step P W) s₀ as = .ok s)
    (h : step P W s (.instruction x (.confirmExternalPayment t buyer)) = .ok s') : Fresh s t := by
  have hi : NotesInv s := run_invariant_along (fun _ _ _ hi ht hs => step_notesInv hi ht hs)
    h0.notesInv hok.of_append hr
  exact hi.fresh (hok.last hr) h

/-- Wallet 2 records a note for passport 1. -/
def notes : Action :=
  ask [.key 2, consignmentPda programId 1, notePda 1, .system, .key 2] [.key 2]
    (.setSettlementNote 1 [1] 1)

/-- Wallet 2 confirms that wallet 3 paid for passport 1. -/
def confirmCall : Call :=
  let keys := [.key 2, consignmentPda programId 1, notePda 1, recallPda programId 1,
    passportBindingPda programId, configPda standPassports, assetPda standPassports 1,
    .custody programId, .key 3, .key 2, .mplCore, .system, standAnswer 1 0, standAnswer 1 1, .key 2]
  ⟨keys, [.key 2], keys⟩

/-- A lot is opened and a note recorded. -/
def freshNote : List Action := configured ++ [grants 1, opens 1, notes]

/-- A lot is opened, a note recorded and the lot returned; then it is opened again. -/
def staleNote : List Action :=
  configured ++ [grants 1, opens 1, notes,
    ask (exitAccounts 2 1 1 (consignmentPda programId 1) (recallPda programId 1)) [.key 2]
      (.agentWithdraw 1),
    .outside (assetPda standPassports 1) ⟨10 ^ 7, .mplCore, .coreAsset (standAsset 1), false⟩,
    opens 1]

/-- A note of an earlier consignment counts: the lot just opened is confirmed at once. -/
theorem stale_note : Genesis stand ∧ ∃ s s',
    run (step .reference .reference) stand staleNote = .ok s ∧
    step .reference .reference s (.instruction confirmCall (.confirmExternalPayment 1 (.key 3))) =
      .ok s' ∧ ¬ Fresh s 1 := by
  have hrun : run (step .reference .reference) stand staleNote = .ok _ :=
    run_finalState (by decide +kernel)
  obtain ⟨s', hs⟩ := exists_of_isOk (r := step .reference .reference
    (finalState (step .reference .reference) stand staleNote)
    (.instruction confirmCall (.confirmExternalPayment 1 (.key 3)))) (by decide +kernel)
  refine ⟨stand_genesis, _, s', hrun, hs, ?_⟩
  -- the entry that opened the lot stands before every note
  have hopened : ((finalState (step .reference .reference) stand staleNote).past.head?.bind
      fun e => e.ix.opens) = some 1 := by
    decide +kernel
  rintro ⟨-, hn⟩
  cases hpast : (finalState (step .reference .reference) stand staleNote).past with
  | nil =>
    rw [hpast] at hn
    exact hn
  | cons e older =>
    rw [hpast] at hn hopened
    exact hn.1 hopened

end Kargain.Svm.FixedPrice
