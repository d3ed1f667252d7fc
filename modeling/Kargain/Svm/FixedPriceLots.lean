/-
  Kargain.Svm.FixedPriceLots — what an instruction of kar-fixed-price does to lots and recalls.

  `Lots v r L`: in `L` the consignment accounts hold the records `v`, the
  recall accounts the records `r`.  Writing any other record changes
  neither, whatever account it is written to, since a record is written
  over data of its own layout only.  There is one lemma for each handler
  that touches lots or recalls; the rest are `SameLots`.
-/
import Kargain.Svm.FixedPrice

namespace Kargain.Svm.FixedPrice

open Kargain.Accounts

/-! ## §1. Lots and recalls. -/

/-- The lot recorded in the consignment account of `t`. -/
def lotAt (L : Ledger) (t : TokenId) : Option ConsignmentRecord :=
  Record.ofData (L (consignmentPda programId t)).data

def recallAt (L : Ledger) (t : TokenId) : Option RecallRecord :=
  Record.ofData (L (recallPda programId t)).data

abbrev LotMap := TokenId → Option ConsignmentRecord

abbrev RecallMap := TokenId → Option RecallRecord

/-- Write a lot into the consignment account `k`. -/
def LotMap.put (v : LotMap) (k : Pubkey) (c : ConsignmentRecord) : LotMap :=
  fun t => if consignmentPda programId t = k then some c else v t

def RecallMap.put (r : RecallMap) (k : Pubkey) (e : RecallRecord) : RecallMap :=
  fun t => if recallPda programId t = k then some e else r t

/-- Clear the recall account `k`. -/
def RecallMap.clear (r : RecallMap) (k : Pubkey) : RecallMap :=
  fun t => if recallPda programId t = k then (r t).map fun e => { e with requestedAt := 0 } else r t

structure Lots (v : LotMap) (r : RecallMap) (L : Ledger) : Prop where
  seated : Seated programId L
  lot : ∀ t, lotAt L t = v t
  recalls : ∀ t, recallAt L t = r t

theorem Lots.of_seated {L : Ledger} (h : Seated programId L) : Lots (lotAt L) (recallAt L) L :=
  ⟨h, fun _ => rfl, fun _ => rfl⟩

/-- An operation leaves lots and recalls as they are. -/
def SameLots (L L' : Ledger) : Prop := ∀ v r, Lots v r L → Lots v r L'

section SameLots

variable {P : Platform} {W : AmountOffset} {x : Call} {w w' : Exec} {L L' L'' : Ledger}
  {v : LotMap} {r : RecallMap} {k : Pubkey}

theorem SameLots.refl : SameLots L L := fun _ _ h => h

theorem SameLots.trans (h : SameLots L L') (h' : SameLots L' L'') : SameLots L L'' :=
  fun v r hl => h' v r (h v r hl)

theorem SameLots.of_books (h : SameBooks programId L L') : SameLots L L' := by
  intro v r hl
  refine ⟨(hl.seated.same h).seated, fun t => ?_, fun t => ?_⟩
  · rw [← hl.lot t, lotAt, lotAt, (h (.consignment t) rfl).2]
  · rw [← hl.recalls t, recallAt, recallAt, (h (.recall t) rfl).2]

/-- Data that is neither a lot nor a recall. -/
def Neither (d : Data) : Prop :=
  (∀ c : ConsignmentRecord, d ≠ .consignment c) ∧ ∀ e : RecallRecord, d ≠ .recall e

theorem Neither.lot {d : Data} (h : Neither d) : (Record.ofData d : Option ConsignmentRecord) = none :=
  Option.eq_none_iff_forall_ne_some.mpr fun c hc => h.1 c (Record.ofData_eq.mp hc)

theorem Neither.recall {d : Data} (h : Neither d) : (Record.ofData d : Option RecallRecord) = none :=
  Option.eq_none_iff_forall_ne_some.mpr fun e he => h.2 e (Record.ofData_eq.mp he)

theorem neither_empty : Neither .empty := ⟨fun _ h => (by cases h), fun _ h => (by cases h)⟩

/-- Other data replaces other data. -/
theorem SameLots.of_neither {d : Data} (hb : Seated programId w.ledger → Seated programId w'.ledger)
    (hw : ∀ k', (w'.ledger k').data = if k' = k then d else (w.ledger k').data)
    (h : Neither (w.ledger k).data) (hd : Neither d) : SameLots w.ledger w'.ledger := by
  intro v r hl
  refine ⟨hb hl.seated, fun t => ?_, fun t => ?_⟩
  · rw [← hl.lot t, lotAt, lotAt, hw]
    split
    · rename_i hk
      rw [hk, hd.lot, h.lot]
    · rfl
  · rw [← hl.recalls t, recallAt, recallAt, hw]
    split
    · rename_i hk
      rw [hk, hd.recall, h.recall]
    · rfl

theorem setData_data {d : Data} (k' : Pubkey) :
    ((w.setData k d).ledger k').data = if k' = k then d else (w.ledger k').data := by
  by_cases hk : k' = k
  · subst hk
    simp [Exec.setData, Exec.set]
  · simp [Exec.setData, Exec.set, hk]

theorem SameLots.store {R : Type} [Record Data R] {a : R} (hR : ∀ a : R, Neither (Record.toData a))
    (h : w.store k a = (.ok w' : Except Error Exec)) : SameLots w.ledger w'.ledger := by
  have hb : Seated programId w.ledger → Seated programId w'.ledger := fun hs =>
    (Books.store hs h).seated
  obtain ⟨⟨a₀, h₀⟩, rfl⟩ := store_ok h
  exact .of_neither hb setData_data (h₀ ▸ hR a₀) (hR a)

theorem SameLots.createPda {payer : Pubkey} {space : ℕ} {d : Data} (hd : Neither d)
    (h : createPda P programId x w payer k programId space d = .ok w') :
    SameLots w.ledger w'.ledger := by
  obtain ⟨-, -, hempty, -, -, -, hl, -⟩ := createPda_ok h
  refine .of_neither (k := k) (fun hs => (Books.createPda hs h).seated) (fun k' => ?_)
    (by rw [hempty]; exact neither_empty) hd
  split
  · rename_i hk
    rw [hl, hk, Function.update_self]
  · rename_i hk
    exact (createPda_frame h hk).2.1

theorem SameLots.ensurePda {payer : Pubkey} {space : ℕ} {d : Data} (hd : Neither d)
    (h : ensurePda P programId x w payer k programId space d = .ok w') :
    SameLots w.ledger w'.ledger := by
  unfold Svm.ensurePda at h
  split at h
  · exact .createPda hd h
  · obtain rfl : w = w' := Except.ok.inj h
    exact .refl

/-! ## §2. Writing a lot or a recall. -/

theorem Lots.same (hl : Lots v r L) (h : SameLots L L') : Lots v r L' := h v r hl

theorem Lots.books (hl : Lots v r L) (h : SameBooks programId L L') : Lots v r L' :=
  hl.same (.of_books h)

theorem Lots.storeLot {c : ConsignmentRecord} (hl : Lots v r w.ledger)
    (h : w.store k c = (.ok w' : Except Error Exec)) : Lots (v.put k c) r w'.ledger := by
  have hs : Seated programId w'.ledger := (Books.store hl.seated h).seated
  obtain ⟨⟨c₀, h₀⟩, rfl⟩ := store_ok h
  refine ⟨hs, fun t => ?_, fun t => ?_⟩
  · rw [lotAt, setData_data, LotMap.put]
    split
    · exact Record.ofData_eq.mpr rfl
    · exact hl.lot t
  · rw [← hl.recalls t, recallAt, recallAt, setData_data]
    split
    · rename_i hk
      rw [hk, h₀]
      rfl
    · rfl

theorem Lots.storeRecall {e : RecallRecord} (hl : Lots v r w.ledger)
    (h : w.store k e = (.ok w' : Except Error Exec)) : Lots v (r.put k e) w'.ledger := by
  have hs : Seated programId w'.ledger := (Books.store hl.seated h).seated
  obtain ⟨⟨e₀, h₀⟩, rfl⟩ := store_ok h
  refine ⟨hs, fun t => ?_, fun t => ?_⟩
  · rw [← hl.lot t, lotAt, lotAt, setData_data]
    split
    · rename_i hk
      rw [hk, h₀]
      rfl
    · rfl
  · rw [recallAt, setData_data, RecallMap.put]
    split
    · exact Record.ofData_eq.mpr rfl
    · exact hl.recalls t

theorem ofData_unrequested (d : Data) : (Record.ofData (unrequested d) : Option RecallRecord) =
    (Record.ofData d : Option RecallRecord).map fun e => { e with requestedAt := 0 } := by
  cases d <;> rfl

theorem Lots.clearRecall (hl : Lots v r w.ledger) :
    Lots v (r.clear k) (clearRecall w k).ledger := by
  refine ⟨(Books.setData hl.seated).seated, fun t => ?_, fun t => ?_⟩
  · rw [← hl.lot t, lotAt, lotAt, FixedPrice.clearRecall, setData_data]
    split
    · rename_i hk
      rw [hk]
      cases (w.ledger k).data <;> rfl
    · rfl
  · rw [recallAt, FixedPrice.clearRecall, setData_data, RecallMap.clear, ← hl.recalls t, recallAt]
    split
    · rename_i hk
      rw [hk, ofData_unrequested]
    · rfl

/-- Making an account ready and writing the lot into it. -/
theorem Lots.ensureLot {payer : Pubkey} {space : ℕ} {c₀ : ConsignmentRecord}
    (hl : Lots v r w.ledger)
    (h : ensurePda P programId x w payer k programId space (.consignment c₀) = .ok w') :
    Lots v r w'.ledger ∨ Lots (v.put k c₀) r w'.ledger := by
  unfold Svm.ensurePda at h
  split at h
  · rename_i hempty
    refine .inr ⟨(Books.createPda hl.seated h).seated, fun t => ?_, fun t => ?_⟩
    all_goals obtain ⟨-, -, -, -, -, -, hled, -⟩ := createPda_ok h
    · rw [lotAt, LotMap.put]
      split
      · rename_i hk
        rw [hk, hled, Function.update_self]
        rfl
      · rename_i hk
        rw [(createPda_frame h hk).2.1]
        exact hl.lot t
    · rw [← hl.recalls t, recallAt, recallAt]
      by_cases hk : recallPda programId t = k
      · rw [hk, hled, Function.update_self, hempty]
        rfl
      · rw [(createPda_frame h hk).2.1]
  · obtain rfl : w = w' := Except.ok.inj h
    exact .inl hl

theorem Lots.ensureRecall {payer : Pubkey} {space : ℕ} {e₀ : RecallRecord}
    (hl : Lots v r w.ledger)
    (h : ensurePda P programId x w payer k programId space (.recall e₀) = .ok w') :
    Lots v r w'.ledger ∨ Lots v (r.put k e₀) w'.ledger := by
  unfold Svm.ensurePda at h
  split at h
  · rename_i hempty
    refine .inr ⟨(Books.createPda hl.seated h).seated, fun t => ?_, fun t => ?_⟩
    all_goals obtain ⟨-, -, -, -, -, -, hled, -⟩ := createPda_ok h
    · rw [← hl.lot t, lotAt, lotAt]
      by_cases hk : consignmentPda programId t = k
      · rw [hk, hled, Function.update_self, hempty]
        rfl
      · rw [(createPda_frame h hk).2.1]
    · rw [recallAt, RecallMap.put]
      split
      · rename_i hk
        rw [hk, hled, Function.update_self]
        rfl
      · rename_i hk
        rw [(createPda_frame h hk).2.1]
        exact hl.recalls t
  · obtain rfl : w = w' := Except.ok.inj h
    exact .inl hl

theorem RecallMap.put_put {e e' : RecallRecord} : (r.put k e).put k e' = r.put k e' := by
  funext t
  unfold RecallMap.put
  split <;> rfl

theorem LotMap.put_put {c c' : ConsignmentRecord} : (v.put k c).put k c' = v.put k c' := by
  funext t
  unfold LotMap.put
  split <;> rfl

/-! ## §3. Handlers that write neither. -/

theorem initConfig_lots {feeBps : ℕ} (h : initConfig P x w feeBps = .ok w') :
    SameLots w.ledger w'.ledger := by
  simp only [initConfig, bind_ok, require_ok, exists_const] at h
  obtain ⟨_, -, config, -, _, -, _, -, _, -, _, -, -, rfl, -, w₁, h₁, cfg, -, h₂⟩ := h
  have hc : SameLots w.ledger w₁.ledger := .createPda (by constructor <;> simp) h₁
  exact hc.trans (.store (fun _ => by constructor <;> simp [Record.toData]) h₂)

theorem bindPassportProgram_lots (h : bindPassportProgram P x w = .ok w') :
    SameLots w.ledger w'.ledger := by
  simp only [bindPassportProgram, Svm.bindPassportProgram, bind_ok, require_ok, exists_const] at h
  obtain ⟨_, -, _, -, binding, -, q, -, _, -, -, _, -, _, -, -, rfl, _, -, w₁, h₁, h₂⟩ := h
  have hc : SameLots w.ledger w₁.ledger := .createPda (by constructor <;> simp) h₁
  exact hc.trans (.store (fun _ => by constructor <;> simp [Record.toData]) h₂)

theorem storeConfig_lots {config : Pubkey} {cfg : CommerceConfig}
    (h : w.store config cfg = (.ok w' : Except Error Exec)) : SameLots w.ledger w'.ledger :=
  .store (fun _ => by constructor <;> simp [Record.toData]) h

theorem pause_lots (h : pause x w = .ok w') : SameLots w.ledger w'.ledger := by
  simp only [pause, bind_ok] at h
  obtain ⟨_, -, _, -, _, -, _, -, _, -, _, -, h⟩ := h
  exact storeConfig_lots h

theorem unpause_lots (h : unpause x w = .ok w') : SameLots w.ledger w'.ledger := by
  simp only [unpause, bind_ok] at h
  obtain ⟨_, -, _, -, _, -, _, -, h⟩ := h
  exact storeConfig_lots h

theorem setGuardian_lots {guardian : Pubkey} (h : setGuardian x w guardian = .ok w') :
    SameLots w.ledger w'.ledger := by
  simp only [setGuardian, bind_ok] at h
  obtain ⟨_, -, _, -, _, -, _, -, _, -, _, -, h⟩ := h
  exact storeConfig_lots h

theorem approvePaymentToken_lots {program : Pubkey} {feed staleness confidence : ℕ}
    (h : approvePaymentToken P x w program feed staleness confidence = .ok w') :
    SameLots w.ledger w'.ledger := by
  simp only [approvePaymentToken, bind_ok] at h
  obtain ⟨_, -, _, -, _, -, token, -, _, -, _, -, _, -, _, -, _, -, _, -, _, -, _, -, _, -, w₁, h₁,
    h₂⟩ := h
  have he : SameLots w.ledger w₁.ledger := .ensurePda (by constructor <;> simp) h₁
  exact he.trans (.store (fun _ => by constructor <;> simp [Record.toData]) h₂)

theorem revokePaymentToken_lots {mint : Pubkey} (h : revokePaymentToken x w mint = .ok w') :
    SameLots w.ledger w'.ledger := by
  simp only [revokePaymentToken, bind_ok] at h
  obtain ⟨_, -, _, -, _, -, _, -, _, -, _, -, _, -, _, -, h⟩ := h
  exact .store (fun _ => by constructor <;> simp [Record.toData]) h

theorem grant_lots {t : TokenId} {agent asset : Pubkey} {expiry kind code floor form bps : ℕ}
    (h : grant P x w t agent expiry asset kind code floor form bps = .ok w') :
    SameLots w.ledger w'.ledger := by
  simp only [grant, Svm.grant, bind_ok] at h
  obtain ⟨_, -, _, -, _, -, _, -, _, -, _, -, _, -, _, -, _, -, _, -, _, -, _, -, _, -, _, -, _, -,
    _, -, _, -, _, -, w₁, h₁, h₂⟩ := h
  have he : SameLots w.ledger w₁.ledger := .ensurePda (by constructor <;> simp) h₁
  exact he.trans (.store (fun _ => by constructor <;> simp [Record.toData]) h₂)

theorem revoke_lots {t : TokenId} (h : revoke x w t = .ok w') : SameLots w.ledger w'.ledger := by
  simp only [revoke, Svm.revoke, bind_ok] at h
  obtain ⟨_, -, _, -, _, -, _, -, _, -, _, -, _, -, _, -, _, -, _, -, _, -, _, -, h⟩ := h
  exact .store (fun _ => by constructor <;> simp [Record.toData]) h

theorem setSettlementNote_lots {t : TokenId} {note : List ℕ} {len : ℕ}
    (h : setSettlementNote P x w t note len = .ok w') : SameLots w.ledger w'.ledger := by
  simp only [setSettlementNote, bind_ok] at h
  obtain ⟨_, -, _, -, _, -, _, -, _, -, _, -, _, -, _, -, _, -, _, -, _, -, w₁, h₁, h₂⟩ := h
  have he : SameLots w.ledger w₁.ledger := .ensurePda (by constructor <;> simp) h₁
  exact he.trans (.store (fun _ => by constructor <;> simp [Record.toData]) h₂)

/-! ## §4. Handlers that write a lot. -/

/-- An opening finds no live lot of the token, and leaves one just offered. -/
structure Opens (v : LotMap) (t : TokenId) (c : ConsignmentRecord) : Prop where
  tokenId : c.tokenId = t
  offered : c.isOfferedActionable = true
  before : ∀ c₀, v t = some c₀ → c₀.isLive = false

theorem admitOpening_ok {i : ℕ} {t : TokenId} {o : Opening} (h : admitOpening x w i t = .ok o) :
    mayOpen programId x w i t = .ok o.toAdmitted ∧
      requireNoLiveLot w.ledger o.consignment = .ok () := by
  simp only [admitOpening, bind_ok, pure_ok] at h
  obtain ⟨m, hm, _, -, _, -, _, -, _, -, _, -, _, -, _, -, _, hlive, rfl⟩ := h
  exact ⟨hm, hlive⟩

theorem not_live {t : TokenId} (hl : Lots v r w.ledger)
    (h : requireNoLiveLot w.ledger (consignmentPda programId t) = .ok ()) :
    ∀ c₀, v t = some c₀ → c₀.isLive = false := by
  intro c₀ hc
  have hd : (w.ledger (consignmentPda programId t)).data = .consignment c₀ :=
    Record.ofData_eq.mp ((hl.lot t).trans hc)
  rcases requireNoLiveLot_ok h with he | ⟨c, hc', hlive⟩
  · rw [hd] at he
    cases he
  · obtain rfl : c₀ = c := by simpa using hd.symm.trans hc'
    exact hlive

/-- The end of both openings. -/
theorem openLot_lots {t : TokenId} {payer consignment leave openAnswer : Pubkey}
    {seedPrefix : List ℕ} {c : ConsignmentRecord} {w₁ w₂ w₃ : Exec} (hl : Lots v r w.ledger)
    (h₁ : ensureConsignmentAccount P programId x w payer consignment t = .ok w₁)
    (h₂ : SameBooks programId w₁.ledger w₂.ledger)
    (h₃ : w₂.store consignment c = (.ok w₃ : Except Error Exec))
    (h₄ : openObligation P programId x w₃ payer leave openAnswer seedPrefix t = .ok w') :
    Lots (v.put (consignmentPda programId t) c) r w'.ledger := by
  obtain ⟨rfl, he⟩ := ensureConsignmentAccount_ok h₁
  refine Lots.books ?_ (sameBooks_openObligation h₄)
  rcases hl.ensureLot he with h | h
  · exact (h.books h₂).storeLot h₃
  · rw [← LotMap.put_put (c := default)]
    exact (h.books h₂).storeLot h₃

variable {now : ℕ} {t : TokenId}

theorem openDirect_lots {mint : Pubkey} {kind code price : ℕ} (hl : Lots v r w.ledger)
    (h : openDirect P x now w t mint kind code price = .ok w') :
    ∃ c, Opens v t c ∧ Lots (v.put (consignmentPda programId t) c) r w'.ledger := by
  simp only [openDirect, bind_ok, Prod.exists] at h
  obtain ⟨seller, -, config, -, _, -, cfg, -, _, -, denomination, -, paymentTok, i, -, _, -, o, ho,
    owner, -, _, -, w₁, h₁, w₂, h₂, w₃, h₃, h₄⟩ := h
  obtain ⟨-, hlive⟩ := admitOpening_ok ho
  have hkey := (ensureConsignmentAccount_ok h₁).1
  refine ⟨_, ⟨rfl, by simp [ConsignmentRecord.isOfferedActionable, writeOpen], ?_⟩,
    openLot_lots hl h₁ (sameBooks_transferOwnerToCustody h₂) h₃ h₄⟩
  exact not_live hl (hkey ▸ hlive)

theorem openFromMandate_lots {kind code price : ℕ} (hl : Lots v r w.ledger)
    (h : openFromMandate P x now w t kind code price = .ok w') :
    ∃ c, Opens v t c ∧ Lots (v.put (consignmentPda programId t) c) r w'.ledger := by
  simp only [openFromMandate, bind_ok, Prod.exists] at h
  obtain ⟨agent, -, config, -, mandate, -, _, -, cfg, -, _, -, m, -, denomination, -, _, -, _, -,
    paymentTok, i, -, _, -, o, ho, _, -, seller, -, w₁, h₁, w₂, h₂, w₃, h₃, h₄⟩ := h
  obtain ⟨-, hlive⟩ := admitOpening_ok ho
  have hkey := (ensureConsignmentAccount_ok h₁).1
  refine ⟨_, ⟨rfl, by simp [ConsignmentRecord.isOfferedActionable, writeOpen], ?_⟩,
    openLot_lots hl h₁ (sameBooks_transferDelegateToCustody h₂) h₃ h₄⟩
  exact not_live hl (hkey ▸ hlive)

/-- A rewrite of the terms of a lot keeps its seller and its phase. -/
def KeepsTerms (c c' : ConsignmentRecord) : Prop := c'.seller = c.seller ∧ c'.phase = c.phase

theorem amendLot_lots {i : ℕ} {amend : Pubkey → ConsignmentRecord → Except Error ConsignmentRecord}
    (hl : Lots v r w.ledger)
    (ha : ∀ caller c c', amend caller c = .ok c' → KeepsTerms c c')
    (h : amendLot x w i t amend = .ok w') :
    ∃ c c', v t = some c ∧ KeepsTerms c c' ∧ Lots (v.put (consignmentPda programId t) c') r w'.ledger := by
  simp only [amendLot, bind_ok, require_ok, load_ok, exists_const] at h
  obtain ⟨caller, -, consignment, -, -, rfl, c, hc, c', hc', hs⟩ := h
  exact ⟨c, c', (hl.lot t).symm.trans (Record.ofData_eq.mpr hc), ha _ _ _ hc', hl.storeLot hs⟩

theorem setPrice_lots {price : ℕ} (hl : Lots v r w.ledger) (h : setPrice x w t price = .ok w') :
    ∃ c c', v t = some c ∧ KeepsTerms c c' ∧ Lots (v.put (consignmentPda programId t) c') r w'.ledger := by
  refine amendLot_lots hl (fun caller c c' ha => ?_) h
  simp only [Svm.setPrice, bind_ok] at ha
  obtain ⟨_, -, ha⟩ := ha
  split at ha <;> simp only [bind_ok, pure_ok] at ha
  · obtain ⟨_, -, rfl⟩ := ha
    exact ⟨rfl, rfl⟩
  · obtain ⟨_, -, _, -, rfl⟩ := ha
    exact ⟨rfl, rfl⟩

theorem lowerFloor_lots {floor : ℕ} (hl : Lots v r w.ledger) (h : lowerFloor x w t floor = .ok w') :
    ∃ c c', v t = some c ∧ KeepsTerms c c' ∧ Lots (v.put (consignmentPda programId t) c') r w'.ledger := by
  refine amendLot_lots hl (fun caller c c' ha => ?_) h
  simp only [Svm.lowerFloor, bind_ok, pure_ok] at ha
  obtain ⟨_, -, _, -, _, -, rfl⟩ := ha
  exact ⟨rfl, rfl⟩

theorem lowerCommission_lots {bps : ℕ} (hl : Lots v r w.ledger)
    (h : lowerCommission x w t bps = .ok w') :
    ∃ c c', v t = some c ∧ KeepsTerms c c' ∧ Lots (v.put (consignmentPda programId t) c') r w'.ledger := by
  refine amendLot_lots hl (fun caller c c' ha => ?_) h
  simp only [Svm.lowerCommission, bind_ok, pure_ok] at ha
  obtain ⟨_, -, _, -, _, -, _, -, rfl⟩ := ha
  exact ⟨rfl, rfl⟩

theorem enterCommitted_lots (hl : Lots v r w.ledger) (h : enterCommitted x w t = .ok w') :
    ∃ c c' recallInfo, v t = some c ∧ KeepsTerms c c' ∧
      Lots (v.put (consignmentPda programId t) c') (r.clear recallInfo) w'.ledger := by
  simp only [enterCommitted, bind_ok, require_ok, load_ok, exists_const] at h
  obtain ⟨consignment, -, recallInfo, -, rfl, c, hc, c', hc', hs⟩ := h
  simp only [enterCommittedNotOffered, bind_ok, pure_ok] at hc'
  obtain ⟨_, -, rfl⟩ := hc'
  exact ⟨c, { c with committedNotOffered := true }, recallInfo,
    (hl.lot t).symm.trans (Record.ofData_eq.mpr hc), ⟨rfl, rfl⟩, hl.clearRecall.storeLot hs⟩

/-! ## §5. Recalls. -/

/-- A request is written for the token named; the lot it is made on is the account handed in. -/
theorem requestRecall_lots (hl : Lots v r w.ledger) (h : requestRecall P x now w t = .ok w') :
    ∃ seller consignment c, x.keys[0]? = some seller ∧ x.keys[1]? = some consignment ∧
      (w.ledger consignment).data = .consignment c ∧ c.isOfferedAgented = true ∧
      c.seller = seller ∧ Lots v (r.put (recallPda programId t) ⟨t, now⟩) w'.ledger := by
  simp only [requestRecall, Svm.requestRecall, bind_ok, account_ok, require_ok, revertIf_ok,
    load_ok, pure_ok, exists_const, Bool.not_eq_false, ne_eq, not_not] at h
  obtain ⟨seller, h0, consignment, h1, recallInfo, -, payer, -, -, c, hc, _, -, at', ⟨hoff, hsel, -, rfl⟩,
    rfl, w₁, h₁, h₂⟩ := h
  refine ⟨seller, consignment, c, h0, h1, hc, hoff, hsel, ?_⟩
  rcases hl.ensureRecall h₁ with h | h
  · exact h.storeRecall h₂
  · rw [← RecallMap.put_put (e := default)]
    exact h.storeRecall h₂

theorem forceRecallRequestedAt_lots {requestedAt : ℕ} (hl : Lots v r w.ledger)
    (h : forceRecallRequestedAt x w t requestedAt = .ok w') :
    ∃ e, r t = some e ∧
      Lots v (r.put (recallPda programId t) { e with requestedAt := requestedAt }) w'.ledger := by
  simp only [forceRecallRequestedAt, bind_ok, require_ok, load_ok, exists_const] at h
  obtain ⟨_, -, _, -, recallInfo, -, _, -, _, -, rfl, e, he, hs⟩ := h
  exact ⟨e, (hl.recalls t).symm.trans (Record.ofData_eq.mpr he), hl.storeRecall hs⟩

/-! ## §6. Exits. -/

/-- What an exit does to the books: the lot in the account handed in ends, and the recall
    account handed in is cleared. -/
structure Ends (L : Ledger) (v : LotMap) (r : RecallMap) (consignment recallInfo : Pubkey)
    (c : ConsignmentRecord) (L' : Ledger) : Prop where
  lot : (L consignment).data = .consignment c
  offered : c.isOfferedActionable = true
  after : ∃ c', c'.isLive = false ∧ Lots (v.put consignment c') (r.clear recallInfo) L'

theorem returnLot_lots {check : ConsignmentRecord → Pubkey → Pubkey → Except Error Unit}
    {settled : ConsignmentRecord → ConsignmentRecord} (hl : Lots v r w.ledger)
    (h : returnLot P x w t check settled = .ok w')
    (hc : ∀ c caller recallInfo, check c caller recallInfo = .ok () → c.isOfferedActionable = true)
    (hs : ∀ c, (settled c).phase = c.phase) :
    ∃ caller consignment recallInfo c, x.keys[0]? = some caller ∧ x.keys[1]? = some consignment ∧
      x.keys[2]? = some recallInfo ∧ check c caller recallInfo = .ok () ∧
      Ends w.ledger v r consignment recallInfo c w'.ledger := by
  simp only [returnLot, bind_ok, account_ok, require_ok, load_ok, exists_const, Prod.exists] at h
  obtain ⟨caller, h0, consignment, h1, recallInfo, h2, _, -, _, -, asset, -, _, -, recipient, -, _, -,
    _, -, _, -, _, -, _, -, -, c, hd, _, hcheck, -, q, -, seedPrefix, _, -, w₁, h₁, w₂, h₂, h₃⟩ := h
  refine ⟨caller, consignment, recallInfo, c, h0, h1, h2, hcheck, hd, hc _ _ _ hcheck, _, ?_,
    ((hl.clearRecall.books (sameBooks_transferCustodyToRecipient h₁)).books
      (sameBooks_closeObligation h₂)).storeLot h₃⟩
  simp [ConsignmentRecord.isLive, hs, terminateToOwner, Phase.returned, Phase.offered]

theorem ownerWithdraw_lots (hl : Lots v r w.ledger) (h : ownerWithdraw P x w t = .ok w') :
    ∃ caller consignment recallInfo c, x.keys[0]? = some caller ∧ x.keys[1]? = some consignment ∧
      x.keys[2]? = some recallInfo ∧ ownerWithdrawOk c caller = .ok () ∧
      Ends w.ledger v r consignment recallInfo c w'.ledger := by
  refine returnLot_lots hl h (fun c caller recallInfo hc => ?_) fun _ => rfl
  simp only [ownerWithdrawOk, requireOfferedActionable, bind_ok, require_ok, exists_const] at hc
  exact hc.1

theorem agentWithdraw_lots (hl : Lots v r w.ledger) (h : agentWithdraw P x w t = .ok w') :
    ∃ caller consignment recallInfo c, x.keys[0]? = some caller ∧ x.keys[1]? = some consignment ∧
      x.keys[2]? = some recallInfo ∧ agentWithdrawOk c caller = .ok () ∧
      Ends w.ledger v r consignment recallInfo c w'.ledger := by
  refine returnLot_lots hl h (fun c caller recallInfo hc => ?_) fun _ => rfl
  simp only [agentWithdrawOk, requireOfferedActionable, bind_ok, require_ok, exists_const] at hc
  exact hc.1

theorem actionable_of_agented {c : ConsignmentRecord} (h : c.isOfferedAgented = true) :
    c.isOfferedActionable = true := by
  simp only [ConsignmentRecord.isOfferedAgented, Bool.and_eq_true] at h
  exact h.1

/-- An accepted recall reads its request from the account handed in. -/
theorem recallReady_ok {L : Ledger} {c : ConsignmentRecord} {seller recallInfo : Pubkey} {u : Unit}
    (h : recallReady now L c seller recallInfo = .ok u) :
    c.isOfferedAgented = true ∧ c.seller = seller ∧ ∃ e : RecallRecord,
      (L recallInfo).data = .recall e ∧ e.requestedAt ≠ 0 ∧
      saturatingAdd e.requestedAt recallCooldownSecs ≤ now := by
  simp only [recallReady, recallAccountRequestedAt, forceRecallReady, bind_ok, revertIf_ok,
    exists_const, Bool.not_eq_false, ne_eq, not_not, Nat.not_lt] at h
  obtain ⟨at', hat, hoff, hsel, hne, hle⟩ := h
  refine ⟨hoff, hsel, ?_⟩
  split at hat
  · exact absurd (Except.ok.inj hat).symm hne
  · simp only [bind_ok, load_ok, pure_ok] at hat
    obtain ⟨e, he, rfl⟩ := hat
    exact ⟨e, he, hne, hle⟩

theorem forceRecall_lots (hl : Lots v r w.ledger) (h : forceRecall P x now w t = .ok w') :
    ∃ caller consignment recallInfo c, x.keys[0]? = some caller ∧ x.keys[1]? = some consignment ∧
      x.keys[2]? = some recallInfo ∧ recallReady now w.ledger c caller recallInfo = .ok () ∧
      Ends w.ledger v r consignment recallInfo c w'.ledger := by
  refine returnLot_lots hl h (fun c caller recallInfo hc => ?_) fun _ => rfl
  exact actionable_of_agented (recallReady_ok hc).1

theorem confirmExternalPayment_lots {buyer : Pubkey} (hl : Lots v r w.ledger)
    (h : confirmExternalPayment P x w t buyer = .ok w') :
    ∃ caller consignment recallInfo c, x.keys[0]? = some caller ∧ x.keys[1]? = some consignment ∧
      x.keys[3]? = some recallInfo ∧ (caller = c.seller ∨ caller = c.agent) ∧
      Ends w.ledger v r consignment recallInfo c w'.ledger := by
  simp only [confirmExternalPayment, bind_ok, account_ok, require_ok, revertIf_ok, load_ok,
    exists_const, Prod.exists] at h
  obtain ⟨caller, h0, consignment, h1, note, -, recallInfo, h3, _, -, _, -, asset, -, _, -, _, -, _, -,
    _, -, _, -, _, -, _, -, -, -, -, c, hd, hoff, hauth, n, -, -, w₁, h₁, q, -, seedPrefix, _, -,
    w₂, h₂, w₃, h₃, h₄⟩ := h
  have hn : SameLots w.ledger w₁.ledger :=
    .store (fun _ => by constructor <;> simp [Record.toData]) h₁
  refine ⟨caller, consignment, recallInfo, c, h0, h1, h3, hauth, hd, hoff, _, ?_,
    (((hl.same hn).books (sameBooks_transferCustodyToRecipient h₂)).books
      (sameBooks_closeObligation h₃)).clearRecall.storeLot h₄⟩
  simp [ConsignmentRecord.isLive, closeLot, Phase.closed, Phase.offered]

/-! ## §7. Sales. -/

theorem escrow_not_book : ∀ s : Seed, s.isBook = true → Pubkey.pda programId s ≠ escrowPda t := by
  intro s _ h
  cases h

/-- What the charge is split by: the lot, but for its floor. -/
theorem snapshotFloor_ok {consignment : Pubkey} {c c' : ConsignmentRecord} {amount : ℕ}
    (h : snapshotFloor w consignment c amount = .ok (w', c')) :
    w' = w ∧ c' = c ∨
      (∃ floor, c' = { c with floor }) ∧ w.store consignment c' = (.ok w' : Except Error Exec) := by
  unfold snapshotFloor at h
  split at h
  · simp only [floorInAsset, setSnapshotFloor, bind_ok, pure_ok] at h
    obtain ⟨_, ⟨_, -, _, -, _, -, _, -, _, -, rfl⟩, w₁, hs, he⟩ := h
    obtain ⟨rfl, rfl⟩ := Prod.mk.inj he
    exact .inr ⟨⟨_, rfl⟩, hs⟩
  · obtain ⟨rfl, rfl⟩ := Prod.mk.inj (Except.ok.inj h)
    exact .inl ⟨rfl, rfl⟩

theorem sameBooks_pullPayment {i amount : ℕ} {asset buyer escrow : Pubkey} {src : Option SplSource}
    (h : pullPayment P W x w i asset buyer escrow amount = .ok (w', src)) :
    SameBooks programId w.ledger w'.ledger := by
  unfold pullPayment at h
  split at h
  · simp only [bind_ok, pure_ok] at h
    obtain ⟨w₁, h₁, he⟩ := h
    obtain ⟨rfl, -⟩ := Prod.mk.inj he
    exact sameBooks_payNative h₁
  · simp only [bind_ok, pure_ok, Prod.exists] at h
    obtain ⟨w₁, src', h₁, he⟩ := h
    obtain ⟨rfl, -⟩ := Prod.mk.inj he
    exact sameBooks_pullSpl h₁

theorem sameBooks_payLegs {payer escrow : Pubkey} {src : Option SplSource} {i : ℕ}
    {rs : Recipients} {split : SplitResult}
    (h : payLegs P x w payer escrow src i rs split = .ok w') :
    SameBooks programId w.ledger w'.ledger := by
  unfold payLegs at h
  cases src with
  | none => exact sameBooks_payNativeLegs h
  | some src => exact sameBooks_paySplLegs h

theorem saleAccounts_ok {a : SaleAccounts} (h : saleAccounts x = .ok a) :
    x.keys[0]? = some a.buyer ∧ x.keys[1]? = some a.config ∧ x.keys[2]? = some a.consignment ∧
      x.keys[7]? = some a.recipients.platform ∧ x.keys[8]? = some a.recipients.seller ∧
      x.keys[9]? = some a.recipients.agent ∧ x.keys[10]? = some a.recallInfo := by
  simp only [saleAccounts, bind_ok, account_ok, pure_ok] at h
  obtain ⟨_, h0, _, h1, _, h2, _, -, _, -, _, -, _, -, _, h7, _, h8, _, h9, _, h10, _, -, _, -,
    _, -, _, -, _, -, _, -, rfl⟩ := h
  exact ⟨h0, h1, h2, h7, h8, h9, h10⟩

theorem buy_lots (hl : Lots v r w.ledger) (h : buy P W x now w t = .ok w') :
    ∃ recallInfo c, x.keys[2]? = some (consignmentPda programId t) ∧ x.keys[10]? = some recallInfo ∧
      Ends w.ledger v r (consignmentPda programId t) recallInfo c w'.ledger := by
  simp only [buy, bind_ok, require_ok, load_ok, exists_const, Prod.exists] at h
  obtain ⟨a, ha, -, q, -, seedPrefix, _, -, cfg, -, _, -, hk, c, hd, hoff, amount, -, w₁, c₁, h₁,
    hesc, w₂, h₂, w₃, src, h₃, split, -, _, -, w₄, h₄, w₅, h₅, w₆, h₆, h₇⟩ := h
  obtain ⟨-, -, h2, -, -, -, h10⟩ := saleAccounts_ok ha
  rw [hesc] at h₂
  rw [hk] at hd h₁ h₇
  have htail : SameBooks programId w₁.ledger w₆.ledger :=
    ((((sameBooks_ensurePda escrow_not_book h₂).trans (sameBooks_pullPayment h₃)).trans
      (sameBooks_transferCustodyToRecipient h₄)).trans (sameBooks_closeObligation h₅)).trans
      (sameBooks_payLegs h₆)
  refine ⟨a.recallInfo, c, hk ▸ h2, h10, hd, hoff, { closeLot c₁ with price := 0, floor := 0 }, ?_, ?_⟩
  · simp [ConsignmentRecord.isLive, closeLot, Phase.closed, Phase.offered]
  · rcases snapshotFloor_ok h₁ with ⟨rfl, -⟩ | ⟨-, hs⟩
    · exact (hl.books htail).clearRecall.storeLot h₇
    · rw [← LotMap.put_put (c := c₁)]
      exact ((hl.storeLot hs).books htail).clearRecall.storeLot h₇

theorem withdrawClaim_lots (h : withdrawClaim P x w = .ok w') : SameLots w.ledger w'.ledger :=
  .of_books (sameBooks_withdrawSplClaim h)

end SameLots

end Kargain.Svm.FixedPrice
