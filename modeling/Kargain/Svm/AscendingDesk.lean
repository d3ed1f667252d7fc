/-
  Kargain.Svm.AscendingDesk — what kar-ascending keeps on a token, and what may become of it.

  The desk of a token is what its four accounts have on record: the lot,
  the terms of the auction, the hold and the challenge.  `Move` is the
  state machine of one desk; `processInstruction_desk` says that an
  accepted instruction on a token's own accounts makes one move on the
  desk of that token and leaves every other desk as it is.
-/
import Kargain.Svm.AscendingSystem
import Kargain.Svm.Kinds

namespace Kargain.Svm.Ascending

open Kargain.Accounts

/-! ## §1. Desks. -/

structure Desk where
  lot : Option ConsignmentRecord
  auction : Option AuctionTermsRecord
  hold : Option HoldRecord
  challenge : Option ChallengeAccount

def deskAt (L : Ledger) (t : TokenId) : Desk where
  lot := Record.ofData (L (consignmentPda programId t)).data
  auction := Record.ofData (L (auctionPda t)).data
  hold := Record.ofData (L (holdPda t)).data
  challenge := Record.ofData (L (challengePda programId t)).data

namespace Desk

variable (d : Desk)

/-- A payment is held. -/
def Held : Prop := ∃ h ∈ d.hold, h.isActive = true

/-- A challenge stands. -/
def Disputed : Prop := ∃ c ∈ d.challenge, c.isActive = true

instance : Decidable d.Held :=
  inferInstanceAs (Decidable (∃ h ∈ d.hold, h.isActive = true))

instance : Decidable d.Disputed :=
  inferInstanceAs (Decidable (∃ c ∈ d.challenge, c.isActive = true))

/-- The hold `h` is paid out and the lot `c` closed. -/
def paidOut (h : HoldRecord) (c : ConsignmentRecord) : Desk :=
  { d with
    lot := some { closeLot c with price := 0, floor := 0 }
    hold := some h.cleared }

end Desk

/-! ## §2. Moves. -/

/-- What an instruction may make of the desk of the token it names. -/
inductive Move (now : ℕ) (t : TokenId) : Instruction → Desk → Desk → Prop
  | openDirect {d : Desk} {mint : Pubkey} {reserve duration window : ℕ} {c : ConsignmentRecord}
      {a : AuctionTermsRecord} (hfree : ∀ c₀ ∈ d.lot, c₀.isLive = false)
      (ha : a.protectionWindow ≤ maxProtectionWindow) (hlive : c.isLive = true) :
      Move now t (.openAscendingDirect t mint reserve duration window) d
        { d with lot := some c, auction := some a }
  | openFromMandate {d : Desk} {reserve duration window : ℕ} {c : ConsignmentRecord}
      {a : AuctionTermsRecord} (hfree : ∀ c₀ ∈ d.lot, c₀.isLive = false)
      (ha : a.protectionWindow ≤ maxProtectionWindow) (hlive : c.isLive = true) :
      Move now t (.openAscendingFromMandate t reserve duration window) d
        { d with lot := some c, auction := some a }
  | bid {d : Desk} {amount : ℕ} {bidder : Pubkey} {c c' : ConsignmentRecord}
      {a : AuctionTermsRecord} (hfree : ¬ d.Held) (hlot : d.lot = some c)
      (hc : c' = c ∨ c' = { c with committedNotOffered := true }) (ha : d.auction = some a) :
      Move now t (.bid t amount) d
        { d with lot := some c', auction := some (placeBid now a bidder amount) }
  | settle {d : Desk} {c : ConsignmentRecord} {a : AuctionTermsRecord} (hfree : ¬ d.Held)
      (hlot : d.lot = some c) (hbinding : isBinding c false = true) (ha : d.auction = some a) :
      Move now t (.settle t) d { d with auction := some default, hold := some (newHold now t a) }
  | confirm {d : Desk} {h : HoldRecord} {c : ConsignmentRecord} (hhold : d.hold = some h)
      (hactive : h.isActive = true) (hlot : d.lot = some c) (hcalm : ¬ d.Disputed)
      (hkept : h.reversalPending = false) : Move now t (.confirmReceipt t) d (d.paidOut h c)
  | release {d : Desk} {h : HoldRecord} {c : ConsignmentRecord} (hhold : d.hold = some h)
      (hactive : h.isActive = true) (hlot : d.lot = some c) (hcalm : ¬ d.Disputed)
      (hkept : h.reversalPending = false) (hdue : h.protectionEndsAt ≤ now) :
      Move now t (.releaseFunds t) d (d.paidOut h c)
  | complete {d : Desk} {h : HoldRecord} {c : ConsignmentRecord} (hhold : d.hold = some h)
      (hactive : h.isActive = true) (hlot : d.lot = some c) (hreversal : h.reversalPending = true) :
      Move now t (.completeReversal t) d
        { d with lot := some { terminateToOwner c with price := 0, floor := 0 },
                 hold := some h.cleared }
  | abandon {d : Desk} {h : HoldRecord} {c : ConsignmentRecord} (hhold : d.hold = some h)
      (hactive : h.isActive = true) (hlot : d.lot = some c) (hreversal : h.reversalPending = true)
      (hdue : h.abandonmentDeadline ≤ now) : Move now t (.abandonReversal t) d (d.paidOut h c)
  | openChallenge {d : Desk} {h : HoldRecord} {ch : ChallengeAccount} (hhold : d.hold = some h)
      (hactive : h.isActive = true) (hcalm : ¬ d.Disputed) (hkept : h.reversalPending = false)
      (hearly : now < h.protectionEndsAt) (hch : ch.openedAt = now) :
      Move now t (.openChallenge t) d
        { d with hold := some { h with frozenRemaining := h.protectionEndsAt - now },
                 challenge := some ch }
  | withdraw {d : Desk} {h : HoldRecord} {ch : ChallengeAccount} (hhold : d.hold = some h)
      (hch : d.challenge = some ch) (hactive : ch.isActive = true) :
      Move now t (.withdrawChallenge t) d
        { d with hold := some { h with frozenRemaining := 0, protectionEndsAt := saturatingAdd now h.frozenRemaining },
                 challenge := some ch.cleared }
  | uphold {d : Desk} {h : HoldRecord} {ch : ChallengeAccount} (hhold : d.hold = some h)
      (hch : d.challenge = some ch) (hactive : ch.isActive = true) :
      Move now t (.judgeChallenge t 0) d
        { d with hold := some { h with reversalPending := true, frozenRemaining := 0, protectionEndsAt := 0, abandonmentDeadline := saturatingAdd now h.abandonmentWindow },
                 challenge := some ch.cleared }
  | reject {d : Desk} {h : HoldRecord} {c : ConsignmentRecord} {ch : ChallengeAccount}
      (hhold : d.hold = some h) (hlot : d.lot = some c) (hch : d.challenge = some ch)
      (hactive : ch.isActive = true) :
      Move now t (.judgeChallenge t 1) d { d.paidOut h c with challenge := some ch.cleared }
  | conclude {d : Desk} {h : HoldRecord} {c : ConsignmentRecord} {ch : ChallengeAccount}
      (hhold : d.hold = some h) (hlot : d.lot = some c) (hch : d.challenge = some ch)
      (hactive : ch.isActive = true) :
      Move now t (.concludeChallenge t) d { d.paidOut h c with challenge := some ch.cleared }
  | forceEndsAt {d : Desk} {a : AuctionTermsRecord} {endsAt : ℕ} (ha : d.auction = some a) :
      Move now t (.forceAuctionEndsAt t endsAt) d { d with auction := some { a with endsAt } }
  | forceClock {d : Desk} {h : HoldRecord} {protectionEndsAt frozenRemaining abandonmentDeadline : ℕ}
      (hhold : d.hold = some h) :
      Move now t (.forceHoldClock t protectionEndsAt frozenRemaining abandonmentDeadline) d
        { d with hold := some { h with protectionEndsAt, frozenRemaining, abandonmentDeadline } }

/-! ## §3. Reading and writing desks. -/

/-- Data of the layouts a desk reads. -/
def IsDesk (d : Data) : Prop :=
  (∃ r, d = .consignment r) ∨ (∃ r, d = .auction r) ∨ (∃ r, d = .hold r) ∨ ∃ r, d = .challenge r

abbrev DeskMap := TokenId → Desk

structure Desks (v : DeskMap) (L : Ledger) : Prop where
  seated : Seated programId L
  desk : ∀ t, deskAt L t = v t

section Desks

variable {P : Platform} {W : AmountOffset} {x : Call} {w w' : Exec} {L L' L'' : Ledger}
  {v : DeskMap} {t : TokenId} {s : Seed} {now : ℕ} {k payer : Pubkey} {space : ℕ} {c : ConsignmentRecord}
  {a : AuctionTermsRecord} {r : HoldRecord}

theorem Desks.of_seated (h : Seated programId L) : Desks (deskAt L) L := ⟨h, fun _ => rfl⟩

abbrev KeepsDesks (L L' : Ledger) : Prop := KeepsKind programId IsDesk nowhere L L'

theorem KeepsKind.deskAt (h : KeepsDesks L L') (t : TokenId) : deskAt L' t = deskAt L t := by
  unfold Ascending.deskAt
  congr 1
  · exact h.reads (fun r => .inl ⟨r, rfl⟩) rfl (fun hk => hk)
  · exact h.reads (fun r => .inr (.inl ⟨r, rfl⟩)) rfl (fun hk => hk)
  · exact h.reads (fun r => .inr (.inr (.inl ⟨r, rfl⟩))) rfl (fun hk => hk)
  · exact h.reads (fun r => .inr (.inr (.inr ⟨r, rfl⟩))) rfl (fun hk => hk)

theorem Desks.keep (hd : Desks v L) (h : KeepsDesks L L') : Desks v L' :=
  ⟨h.seated hd.seated, fun t => (KeepsKind.deskAt h t).trans (hd.desk t)⟩

theorem Desks.books (hd : Desks v L) (h : SameBooks programId L L') : Desks v L' :=
  hd.keep (.of_books h)

theorem Desks.lot (hd : Desks v L) :
    (v t).lot = some c ↔ (L (consignmentPda programId t)).data = .consignment c := by
  rw [← hd.desk t]
  exact Record.ofData_eq

theorem Desks.auction (hd : Desks v L) :
    (v t).auction = some a ↔ (L (auctionPda t)).data = .auction a := by
  rw [← hd.desk t]
  exact Record.ofData_eq

theorem Desks.hold (hd : Desks v L) :
    (v t).hold = some r ↔ (L (holdPda t)).data = .hold r := by
  rw [← hd.desk t]
  exact Record.ofData_eq

theorem Desks.challenge {c : ChallengeAccount} (hd : Desks v L) :
    (v t).challenge = some c ↔ (L (challengePda programId t)).data = .challenge c := by
  rw [← hd.desk t]
  exact Record.ofData_eq

/-- The desks once `d` stands under the seed `s`. -/
def DeskMap.write (v : DeskMap) (s : Seed) (d : Data) : DeskMap := fun t =>
  { lot := if .consignment t = s then Record.ofData d else (v t).lot
    auction := if .auction t = s then Record.ofData d else (v t).auction
    hold := if .hold t = s then Record.ofData d else (v t).hold
    challenge := if .challenge t = s then Record.ofData d else (v t).challenge }

theorem DeskMap.write_lot {d : Data} : v.write (.consignment t) d =
    Function.update v t { v t with lot := Record.ofData d } := by
  funext u
  by_cases hu : u = t
  · subst hu
    simp [DeskMap.write]
  · simp [DeskMap.write, hu]

theorem DeskMap.write_auction {d : Data} : v.write (.auction t) d =
    Function.update v t { v t with auction := Record.ofData d } := by
  funext u
  by_cases hu : u = t
  · subst hu
    simp [DeskMap.write]
  · simp [DeskMap.write, hu]

theorem DeskMap.write_hold {d : Data} : v.write (.hold t) d =
    Function.update v t { v t with hold := Record.ofData d } := by
  funext u
  by_cases hu : u = t
  · subst hu
    simp [DeskMap.write]
  · simp [DeskMap.write, hu]

theorem DeskMap.write_challenge {d : Data} : v.write (.challenge t) d =
    Function.update v t { v t with challenge := Record.ofData d } := by
  funext u
  by_cases hu : u = t
  · subst hu
    simp [DeskMap.write]
  · simp [DeskMap.write, hu]

@[simp] theorem DeskMap.write_write {d d' : Data} : (v.write s d).write s d' = v.write s d' := by
  funext u
  unfold DeskMap.write
  congr 1 <;> split <;> rfl

/-- Writing under one seed writes the desks. -/
theorem Desks.write {d : Data} (hd : Desks v L) (hs : Seated programId L')
    (h : ∀ s', (L' (.pda programId s')).data =
      if s' = s then d else (L (.pda programId s')).data) : Desks (v.write s d) L' := by
  refine ⟨hs, fun u => ?_⟩
  simp only [DeskMap.write, ← hd.desk u, deskAt, h]
  congr 1 <;> split <;> rfl

theorem Desks.store {R : Type} [Record Data R] {r : R} (hd : Desks v w.ledger)
    (h : w.store (.pda programId s) r = (.ok w' : Except Error Exec)) :
    Desks (v.write s (Record.toData r)) w'.ledger := by
  have hs : Seated programId w'.ledger := (Books.store hd.seated h).seated
  obtain ⟨-, rfl⟩ := store_ok h
  refine hd.write hs fun s' => ?_
  by_cases he : s' = s
  · subst he
    simp [Exec.setData, Exec.set]
  · simp [Exec.setData, Exec.set, he]

/-- An account is made ready: at most new data stands there. -/
theorem Desks.ensure {d : Data} (hd : Desks v w.ledger)
    (h : ensurePda P programId x w payer (.pda programId s) programId space d = .ok w') :
    Desks v w'.ledger ∨ Desks (v.write s d) w'.ledger := by
  unfold Svm.ensurePda at h
  split at h
  · refine .inr (hd.write (Books.createPda hd.seated h).seated fun s' => ?_)
    split
    · rename_i hs
      subst hs
      obtain ⟨-, -, -, -, -, -, hl, -⟩ := createPda_ok h
      rw [hl, Function.update_self]
    · rename_i hs
      have hne : Pubkey.pda programId s' ≠ .pda programId s := by simpa using hs
      exact (createPda_frame h hne).2.1
  · obtain rfl : w = w' := Except.ok.inj h
    exact .inl hd

/-- An account is made ready and written; what is done in between leaves the desks alone. -/
theorem Desks.ensureStore {R : Type} [Record Data R] {r : R} {d : Data} {w₁ w₂ : Exec}
    (hd : Desks v w.ledger)
    (h : ensurePda P programId x w payer (.pda programId s) programId space d = .ok w₁)
    (hb : SameBooks programId w₁.ledger w₂.ledger)
    (hs : w₂.store (.pda programId s) r = (.ok w' : Except Error Exec)) :
    Desks (v.write s (Record.toData r)) w'.ledger := by
  rcases hd.ensure h with h₁ | h₁
  · exact (h₁.books hb).store hs
  · rw [← DeskMap.write_write (d := d)]
    exact (h₁.books hb).store hs

/-- Data of another layout is no desk's. -/
theorem not_isDesk {d : Data} (hlot : Record.ofData d = (none : Option ConsignmentRecord))
    (hauction : Record.ofData d = (none : Option AuctionTermsRecord))
    (hhold : Record.ofData d = (none : Option HoldRecord))
    (hch : Record.ofData d = (none : Option ChallengeAccount)) : ¬ IsDesk d := by
  rintro (⟨r, rfl⟩ | ⟨r, rfl⟩ | ⟨r, rfl⟩ | ⟨r, rfl⟩)
  · cases hlot
  · cases hauction
  · cases hhold
  · cases hch

/-- Writing a record of a layout no desk reads, wherever it is. -/
theorem Desks.storeOther {R : Type} [Record Data R] {r : R} (hd : Desks v w.ledger)
    (hR : ∀ r : R, ¬ IsDesk (Record.toData r))
    (h : w.store k r = (.ok w' : Except Error Exec)) : Desks v w'.ledger :=
  hd.keep (.store (.inr hR) h)

theorem Desks.createOther {d : Data} (hd : Desks v w.ledger) (hR : ¬ IsDesk d)
    (h : createPda P programId x w payer k programId space d = .ok w') : Desks v w'.ledger :=
  hd.keep (.createPda (.inr ⟨not_isDesk rfl rfl rfl rfl, hR⟩) h)

theorem Desks.ensureOther {d : Data} (hd : Desks v w.ledger) (hR : ¬ IsDesk d)
    (h : ensurePda P programId x w payer k programId space d = .ok w') : Desks v w'.ledger :=
  hd.keep (.ensurePda (.inr ⟨not_isDesk rfl rfl rfl rfl, hR⟩) h)

/-- Closing the auction of `t` leaves a zeroed one. -/
theorem Desks.closeAuction {recipient : Pubkey} (hd : Desks v w.ledger)
    (ha : (w.ledger (auctionPda t)).data = .auction a) :
    Desks (v.write (.auction t) (.auction default))
      (closePda w (auctionPda t) recipient).ledger := by
  have hmoved : Desks v (w.move (auctionPda t) recipient (w.ledger (auctionPda t)).lamports).ledger :=
    hd.books sameBooks_move
  have hzero : ((w.move (auctionPda t) recipient
      (w.ledger (auctionPda t)).lamports).ledger (auctionPda t)).data.zeroed = .auction default := by
    rw [move_frame.2.1, ha]
    rfl
  simp only [closePda, hzero]
  refine hmoved.write (fun s hs => ⟨?_, rfl⟩) fun s' => ?_
  · by_cases hst : s = .auction t
    · subst hst
      exact .inr (by simp [Exec.assign, Exec.set])
    · simpa [Exec.assign, Exec.setData, Exec.set, hst] using (hmoved.seated s hs).1
  · by_cases hst : s' = .auction t
    · subst hst
      simp [Exec.assign, Exec.setData, Exec.set]
    · simp [Exec.assign, Exec.setData, Exec.set, hst]

/-! ## §4. Handlers that write no desk. -/

theorem initConfig_desks {feeBps bond window : ℕ} {staking : Pubkey} (hd : Desks v w.ledger)
    (h : initConfig P x w feeBps bond window staking = .ok w') : Desks v w'.ledger := by
  simp only [initConfig, bind_ok, require_ok, exists_const] at h
  obtain ⟨_, -, config, -, _, -, _, -, _, -, _, -, _, -, -, _, -, _, -, _, -, _, -, _, -, rfl, -, w₁, h₁,
    h₂⟩ := h
  have h₁' : Desks v w₁.ledger := hd.createOther (not_isDesk rfl rfl rfl rfl) h₁
  exact h₁'.storeOther (fun _ => not_isDesk rfl rfl rfl rfl) h₂

theorem bindPassportProgram_desks (hd : Desks v w.ledger)
    (h : bindPassportProgram P x w = .ok w') : Desks v w'.ledger := by
  simp only [bindPassportProgram, Svm.bindPassportProgram, bind_ok, require_ok, exists_const] at h
  obtain ⟨_, -, _, -, binding, -, q, -, _, -, -, _, -, _, -, -, rfl, _, -, w₁, h₁, h₂⟩ := h
  have h₁' : Desks v w₁.ledger := hd.createOther (not_isDesk rfl rfl rfl rfl) h₁
  exact h₁'.storeOther (fun _ => not_isDesk rfl rfl rfl rfl) h₂

theorem pause_desks (hd : Desks v w.ledger) (h : pause x w = .ok w') : Desks v w'.ledger := by
  simp only [pause, bind_ok] at h
  obtain ⟨_, -, _, -, _, -, _, -, cfg, -, _, -, h⟩ := h
  exact hd.storeOther (fun _ => not_isDesk rfl rfl rfl rfl) h

theorem amendConfig_desks {amend : AscendingConfig → Except Error AscendingConfig}
    (hd : Desks v w.ledger) (h : amendConfig x w amend = .ok w') : Desks v w'.ledger := by
  simp only [amendConfig, bind_ok] at h
  obtain ⟨_, -, _, -, cfg, -, _, -, cfg', -, h⟩ := h
  exact hd.storeOther (fun _ => not_isDesk rfl rfl rfl rfl) h

theorem approvePaymentToken_desks (hd : Desks v w.ledger)
    (h : approvePaymentToken P x w = .ok w') : Desks v w'.ledger := by
  simp only [approvePaymentToken, bind_ok] at h
  obtain ⟨_, -, _, -, mint, -, token, -, _, -, _, -, _, -, cfg, -, _, -, decimals, -, _, -, w₁, h₁,
    h₂⟩ := h
  have h₁' : Desks v w₁.ledger := hd.ensureOther (not_isDesk rfl rfl rfl rfl) h₁
  exact h₁'.storeOther (fun _ => not_isDesk rfl rfl rfl rfl) h₂

theorem revokePaymentToken_desks {mint : Pubkey} (hd : Desks v w.ledger)
    (h : revokePaymentToken x w mint = .ok w') : Desks v w'.ledger := by
  simp only [revokePaymentToken, bind_ok] at h
  obtain ⟨_, -, _, -, _, -, _, -, cfg, -, _, -, _, -, record, -, h⟩ := h
  exact hd.storeOther (fun _ => not_isDesk rfl rfl rfl rfl) h

theorem grant_desks {agent asset : Pubkey} {expiry kind code floor form bps : ℕ}
    (hd : Desks v w.ledger)
    (h : grant P x w t agent expiry asset kind code floor form bps = .ok w') :
    Desks v w'.ledger := by
  simp only [grant, Svm.grant, bind_ok] at h
  obtain ⟨_, -, _, -, _, -, _, -, _, -, _, -, _, -, _, -, _, -, _, -, _, -, _, -, _, -, _, -, _, -,
    _, -, _, -, _, -, w₁, h₁, h₂⟩ := h
  have h₁' : Desks v w₁.ledger := hd.ensureOther (not_isDesk rfl rfl rfl rfl) h₁
  exact h₁'.storeOther (fun _ => not_isDesk rfl rfl rfl rfl) h₂

theorem revoke_desks (hd : Desks v w.ledger) (h : revoke x w t = .ok w') : Desks v w'.ledger := by
  simp only [revoke, Svm.revoke, bind_ok] at h
  obtain ⟨_, -, _, -, _, -, _, -, _, -, _, -, _, -, _, -, _, -, _, -, _, -, _, -, h⟩ := h
  exact hd.storeOther (fun _ => not_isDesk rfl rfl rfl rfl) h

/-! ## §5. Opening, bids and settlement. -/

theorem admitOpening_ok {i : ℕ} {cfg : AscendingConfig} {runner : Pubkey} {o : Opening}
    (h : admitOpening x w i t cfg runner = .ok o) :
    requireNoLiveLot w.ledger o.consignment = .ok () := by
  simp only [admitOpening, bind_ok, pure_ok] at h
  obtain ⟨m, -, _, -, _, -, _, -, _, -, _, -, _, -, _, -, _, -, _, -, _, -, _, -, _, hlive, rfl⟩ := h
  exact hlive

theorem not_live (hd : Desks v w.ledger)
    (h : requireNoLiveLot w.ledger (consignmentPda programId t) = .ok ()) :
    ∀ c₀ ∈ (v t).lot, c₀.isLive = false := by
  intro c₀ hc
  have hdata := hd.lot.mp hc
  rcases requireNoLiveLot_ok h with he | ⟨c, hc', hlive⟩
  · rw [hdata] at he
    cases he
  · obtain rfl : c₀ = c := by simpa using hdata.symm.trans hc'
    exact hlive

theorem requireAuctionOpenParams_ok {reserve duration window : ℕ} {u : Unit}
    (h : requireAuctionOpenParams reserve duration window = .ok u) :
    window ≤ maxProtectionWindow := by
  simp only [requireAuctionOpenParams, bind_ok, revertIf_ok, exists_const, not_or, Nat.not_lt] at h
  exact h.2.2.2

/-- The end of both openings. -/
theorem openLot_desks {payer consignment auction : Pubkey} {duration window : ℕ}
    {w₁ w₂ w₃ : Exec} (hd : Desks v w.ledger)
    (h₁ : ensureConsignmentAccount P programId x w payer consignment t = .ok w₁)
    (h₂ : SameBooks programId w₁.ledger w₂.ledger)
    (h₃ : w₂.store consignment c = (.ok w₃ : Except Error Exec))
    (h₄ : writeAuctionTerms P x w₃ payer auction t duration window = .ok w') :
    ∃ a, a.protectionWindow = window ∧
      Desks (Function.update v t { v t with lot := some c, auction := some a }) w'.ledger := by
  obtain ⟨rfl, he⟩ := ensureConsignmentAccount_ok h₁
  simp only [writeAuctionTerms, bind_ok, require_ok, exists_const] at h₄
  obtain ⟨rfl, w₄, he', hs⟩ := h₄
  refine ⟨⟨t, duration, 0, extensionWindow, window, abandonmentWindow, minIncrementBps, .zero, 0⟩,
    rfl, ?_⟩
  have h := (hd.ensureStore he h₂ h₃).ensureStore he' .refl hs
  rw [DeskMap.write_lot, DeskMap.write_auction, Function.update_idem, Function.update_self] at h
  exact h

theorem openAscendingDirect_desks {mint : Pubkey} {reserve duration window : ℕ}
    (hd : Desks v w.ledger)
    (h : openAscendingDirect P x now w t mint reserve duration window = .ok w') :
    ∃ d, Move now t (.openAscendingDirect t mint reserve duration window) (v t) d ∧
      Desks (Function.update v t d) w'.ledger := by
  simp only [openAscendingDirect, bind_ok, Prod.exists] at h
  obtain ⟨seller, -, config, -, _, -, cfg, -, _, -, paymentTok, i, -, _, -, o, ho, owner, -, _, -,
    _, -, _, hparams, w₁, h₁, w₂, h₂, w₃, h₃, h₄⟩ := h
  have hlive := admitOpening_ok ho
  have hkey := (ensureConsignmentAccount_ok h₁).1
  obtain ⟨a, ha, hd'⟩ := openLot_desks hd h₁ (sameBooks_transferOwnerToCustody h₂) h₃ h₄
  refine ⟨_, .openDirect (not_live hd (hkey ▸ hlive)) ?_ rfl, hd'⟩
  rw [ha]
  exact requireAuctionOpenParams_ok hparams

theorem openAscendingFromMandate_desks {reserve duration window : ℕ} (hd : Desks v w.ledger)
    (h : openAscendingFromMandate P x now w t reserve duration window = .ok w') :
    ∃ d, Move now t (.openAscendingFromMandate t reserve duration window) (v t) d ∧
      Desks (Function.update v t d) w'.ledger := by
  simp only [openAscendingFromMandate, bind_ok, Prod.exists] at h
  obtain ⟨agent, -, config, -, mandate, -, _, -, cfg, -, _, -, m, -, _, -, _, -, _, -, paymentTok, i,
    -, _, -, o, ho, _, -, _, -, _, -, _, hparams, _, -, seller, -, w₁, h₁, w₂, h₂, w₃, h₃, h₄⟩ := h
  have hlive := admitOpening_ok ho
  have hkey := (ensureConsignmentAccount_ok h₁).1
  obtain ⟨a, ha, hd'⟩ := openLot_desks hd h₁ (sameBooks_transferDelegateToCustody h₂) h₃ h₄
  refine ⟨_, .openFromMandate (not_live hd (hkey ▸ hlive)) ?_ rfl, hd'⟩
  rw [ha]
  exact requireAuctionOpenParams_ok hparams

theorem escrow_not_book : ∀ s : Seed, s.isBook = true → Pubkey.pda programId s ≠ escrowPda t := by
  intro s _ h
  cases h

theorem sameBooks_pullBid {amount : ℕ} {asset bidder escrow : Pubkey} {src : Option SplSource}
    (h : pullBid P W x w asset bidder escrow amount = .ok (w', src)) :
    SameBooks programId w.ledger w'.ledger := by
  unfold pullBid at h
  split at h
  · simp only [bind_ok, pure_ok] at h
    obtain ⟨w₁, h₁, he⟩ := h
    obtain ⟨rfl, -⟩ := Prod.mk.inj he
    exact sameBooks_payNative h₁
  · simp only [bind_ok, pure_ok, Prod.exists] at h
    obtain ⟨w₁, src', h₁, he⟩ := h
    obtain ⟨rfl, -⟩ := Prod.mk.inj he
    exact sameBooks_pullSpl h₁

theorem sameBooks_refundBid {payer escrow prev : Pubkey} {amount : ℕ} {src : Option SplSource}
    (h : refundBid P x w payer escrow prev amount src = .ok w') :
    SameBooks programId w.ledger w'.ledger := by
  unfold refundBid at h
  split at h
  · obtain rfl : w = w' := Except.ok.inj h
    exact .refl
  · cases src with
    | none =>
      simp only [bind_ok] at h
      obtain ⟨_, -, _, -, h⟩ := h
      exact sameBooks_payNativeFromPda h
    | some src =>
      simp only [bind_ok] at h
      obtain ⟨_, -, _, -, h⟩ := h
      exact sameBooks_paySplLegAt h

/-- The hold account of `t` that holds nothing active is the desk's. -/
theorem not_held {active : Bool} (hd : Desks v w.ledger)
    (h : holdIsActive w.ledger (holdPda t) = .ok active) (ha : ¬ active = true) :
    ¬ (v t).Held := by
  rintro ⟨r, hr, hact⟩
  have hdata := hd.hold.mp hr
  unfold holdIsActive at h
  rw [hdata, if_neg (by simp)] at h
  simp only [bind_ok, load_ok, pure_ok, hdata] at h
  obtain ⟨r', hr', rfl⟩ := h
  obtain rfl : r = r' := by simpa [Record.toData] using hr'
  exact ha hact

theorem commitLot_desks {a : AuctionTermsRecord} (hd : Desks v w.ledger)
    (hc : (v t).lot = some c)
    (h : commitLot w (consignmentPda programId t) c a = .ok w') :
    ∃ c', (c' = c ∨ c' = { c with committedNotOffered := true }) ∧
      Desks (Function.update v t { v t with lot := some c' }) w'.ledger := by
  unfold commitLot at h
  split at h
  · simp only [enterCommittedNotOffered, bind_ok, pure_ok] at h
    obtain ⟨_, ⟨_, -, rfl⟩, hs⟩ := h
    refine ⟨_, .inr rfl, ?_⟩
    have h := hd.store hs
    rw [DeskMap.write_lot] at h
    exact h
  · obtain rfl : w = w' := Except.ok.inj h
    refine ⟨c, .inl rfl, ?_⟩
    rw [← hc]
    rwa [Function.update_eq_self]

theorem bid_desks {amount : ℕ} (hd : Desks v w.ledger) (hx : OwnAccounts x (.bid t amount))
    (h : bid P W x now w t amount = .ok w') :
    ∃ d, Move now t (.bid t amount) (v t) d ∧ Desks (Function.update v t d) w'.ledger := by
  have hhold : x.keys[4]? = some (holdPda t) := hx (4, holdPda t) (by simp [Instruction.expects])
  simp only [bid, bind_ok, account_ok, require_ok, revertIf_ok, load_ok, exists_const,
    Prod.exists] at h
  obtain ⟨bidder, -, config, -, consignment, -, auction, -, hold, h4, escrow, -, payer, -, -, cfg, -,
    _, -, active, hactive, hoff, rfl, c, hc, -, -, -, rfl, a, ha, -, _, -, rfl, w₁, h₁, w₂, src, h₂,
    w₃, h₃, w₄, h₄, h₅⟩ := h
  obtain rfl : hold = holdPda t := Option.some.inj (h4.symm.trans hhold)
  have hlot := hd.lot.mpr hc
  have hauction := hd.auction.mpr ha
  have hpulled := (hd.books (sameBooks_ensurePda escrow_not_book h₁)).books (sameBooks_pullBid h₂)
  obtain ⟨c', hc', hcommitted⟩ := commitLot_desks hpulled hlot h₃
  have hplaced := (hcommitted.store h₄).books (sameBooks_refundBid h₅)
  rw [DeskMap.write_auction, Function.update_idem, Function.update_self] at hplaced
  exact ⟨_, .bid (not_held hd hactive hoff) hlot hc' hauction, hplaced⟩

theorem settle_desks (hd : Desks v w.ledger) (h : settle P W x now w t = .ok w') :
    ∃ d, Move now t (.settle t) (v t) d ∧ Desks (Function.update v t d) w'.ledger := by
  simp only [settle, bind_ok, account_ok, require_ok, revertIf_ok, load_ok, pure_ok, exists_const,
    Prod.exists] at h
  obtain ⟨_, -, consignment, -, auction, -, hold, -, binding, -, passportConfig, -, asset, -,
    custody, -, buyer, -, escrow, -, payer, -, coreProgram, -, leave, -, openAnswer, -, -, rfl, c, hc,
    active, hactive, hoff, hbinding, rfl, a, ha, -, -, before, -, -, rfl, w₁, h₁, w₂, h₂, q, -,
    seedPrefix, _, -, w₃, h₃, w₄, h₄, -, _, -, rfl⟩ := h
  have hheld := hd.ensureStore h₁ .refl h₂
  have hmoved := (hheld.books (sameBooks_transferCustodyToRecipient h₃)).books
    (sameBooks_openObligation h₄)
  have ha₄ : (w₄.ledger (auctionPda t)).data = .auction a := by
    apply hmoved.auction.mp
    simpa [DeskMap.write] using hd.auction.mpr ha
  have hclosed : Desks _ (closePda w₄ (auctionPda t) payer).ledger := hmoved.closeAuction ha₄
  rw [DeskMap.write_hold, DeskMap.write_auction, Function.update_idem, Function.update_self] at hclosed
  exact ⟨_, .settle (not_held hd hactive hoff) (hd.lot.mpr hc) hbinding (hd.auction.mpr ha), hclosed⟩

/-! ## §6. The ends of a hold. -/

theorem OwnAccounts.key {ix : Instruction} {i : ℕ} (hx : OwnAccounts x ix)
    (he : (i, k) ∈ ix.expects) {k' : Pubkey} (h : x.keys[i]? = some k') : k' = k :=
  Option.some.inj (h.symm.trans (hx _ he))

theorem sameBooks_closeAnswersFromBinding
    {binding passportConfig funder leave openAnswer : Pubkey}
    (h : closeAnswersFromBinding x w binding passportConfig funder leave openAnswer t = .ok w') :
    SameBooks programId w.ledger w'.ledger := by
  simp only [closeAnswersFromBinding, bind_ok, Prod.exists] at h
  obtain ⟨q, -, seedPrefix, _, -, h⟩ := h
  exact sameBooks_closeObligation h

theorem sameBooks_paySplit {idx : PaySplitIdx} {asset payer escrow : Pubkey} {rs : Recipients}
    {split : SplitResult} (h : paySplit P x w idx asset payer escrow rs split = .ok w') :
    SameBooks programId w.ledger w'.ledger := by
  unfold paySplit at h
  split at h
  · exact sameBooks_payNativeLegs h
  · simp only [paySplSplit, bind_ok] at h
    obtain ⟨_, -, _, -, _, -, h⟩ := h
    exact sameBooks_paySplLegs h

theorem paySplitAndClose_desks {idx : PaySplitIdx} {cfg : AscendingConfig} {gross : ℕ}
    (hd : Desks v w.ledger) (hk : x.keys[idx.consignment]? = some (consignmentPda programId t))
    (h : paySplitAndClose P x w idx cfg t gross = .ok w') :
    ∃ c, (v t).lot = some c ∧ Desks (v.write (.consignment t)
      (.consignment { closeLot c with price := 0, floor := 0 })) w'.ledger := by
  simp only [paySplitAndClose, bind_ok, account_ok, load_ok] at h
  obtain ⟨consignment, hc, escrow, -, _, -, _, -, _, -, _, -, payer, -, c, hdata, split, -, _, -, _, -,
    w₁, h₁, h₂⟩ := h
  obtain rfl : consignment = consignmentPda programId t := Option.some.inj (hc.symm.trans hk)
  exact ⟨c, hd.lot.mpr hdata, (hd.books (sameBooks_paySplit h₁)).store h₂⟩

/-- Letting go of a hold: it is cleared, the answers closed, the payment split, and the lot
    closed. -/
theorem payOut_desks {r : HoldRecord} {binding passportConfig funder leave openAnswer : Pubkey}
    {idx : PaySplitIdx} {cfg : AscendingConfig} {gross : ℕ} {w₁ w₂ : Exec} (hd : Desks v w.ledger)
    (hk : x.keys[idx.consignment]? = some (consignmentPda programId t))
    (h₁ : w.store (holdPda t) r.cleared = (.ok w₁ : Except Error Exec))
    (h₂ : closeAnswersFromBinding x w₁ binding passportConfig funder leave openAnswer t = .ok w₂)
    (h₃ : paySplitAndClose P x w₂ idx cfg t gross = .ok w') :
    ∃ c, (v t).lot = some c ∧ Desks (Function.update v t ((v t).paidOut r c)) w'.ledger := by
  have hcleared := (hd.store h₁).books (sameBooks_closeAnswersFromBinding h₂)
  obtain ⟨c, hc, hclosed⟩ := paySplitAndClose_desks hcleared hk h₃
  rw [DeskMap.write_hold, DeskMap.write_lot, Function.update_idem, Function.update_self] at hclosed
  refine ⟨c, ?_, hclosed⟩
  rw [DeskMap.write_hold, Function.update_self] at hc
  exact hc

/-- The challenge account of `t` that holds nothing active is the desk's. -/
theorem not_disputed {active : Bool} (hd : Desks v w.ledger)
    (h : isChallengeActive w.ledger (challengePda programId t) = .ok active)
    (ha : ¬ active = true) : ¬ (v t).Disputed := by
  rintro ⟨c, hc, hact⟩
  have hdata := hd.challenge.mp hc
  unfold isChallengeActive at h
  rw [hdata, if_neg (by simp)] at h
  simp only [bind_ok, load_ok, pure_ok, hdata] at h
  obtain ⟨c', hc', rfl⟩ := h
  obtain rfl : c = c' := by simpa [Record.toData] using hc'
  exact ha hact

theorem confirmReceipt_desks (hd : Desks v w.ledger) (hx : OwnAccounts x (.confirmReceipt t))
    (h : confirmReceipt P x w t = .ok w') :
    ∃ d, Move now t (.confirmReceipt t) (v t) d ∧ Desks (Function.update v t d) w'.ledger := by
  simp only [confirmReceipt, bind_ok, account_ok, require_ok, revertIf_ok, load_ok, exists_const,
    Bool.not_eq_true] at h
  obtain ⟨buyer, -, config, -, hold, h3, challenge, h4, payer, -, binding, -, passportConfig, -,
    leave, -, openAnswer, -, funder, -, -, cfg, -, r, hr, hactive, -, active, hch, hcalm, hkept, w₁, h₁,
    w₂, h₂, h₃⟩ := h
  obtain rfl := hx.key (k := holdPda t) (by simp [Instruction.expects]) h3
  obtain rfl := hx.key (k := challengePda programId t) (by simp [Instruction.expects]) h4
  have hcon : x.keys[2]? = some (consignmentPda programId t) :=
    hx (2, _) (by simp [Instruction.expects])
  obtain ⟨c, hc, hd'⟩ := payOut_desks hd hcon h₁ h₂ h₃
  exact ⟨_, .confirm (hd.hold.mpr hr) hactive hc (not_disputed hd hch (by simp [hcalm])) hkept, hd'⟩

theorem releaseFunds_desks (hd : Desks v w.ledger) (hx : OwnAccounts x (.releaseFunds t))
    (h : releaseFunds P x now w t = .ok w') :
    ∃ d, Move now t (.releaseFunds t) (v t) d ∧ Desks (Function.update v t d) w'.ledger := by
  simp only [releaseFunds, bind_ok, account_ok, require_ok, revertIf_ok, load_ok, exists_const,
    Bool.not_eq_true, Nat.not_lt] at h
  obtain ⟨_, -, config, -, hold, h3, challenge, h4, payer, -, binding, -, passportConfig, -,
    leave, -, openAnswer, -, funder, -, -, cfg, -, r, hr, hactive, active, hch, hcalm, hkept, hdue, w₁,
    h₁, w₂, h₂, h₃⟩ := h
  obtain rfl := hx.key (k := holdPda t) (by simp [Instruction.expects]) h3
  obtain rfl := hx.key (k := challengePda programId t) (by simp [Instruction.expects]) h4
  have hcon : x.keys[2]? = some (consignmentPda programId t) :=
    hx (2, _) (by simp [Instruction.expects])
  obtain ⟨c, hc, hd'⟩ := payOut_desks hd hcon h₁ h₂ h₃
  exact ⟨_, .release (hd.hold.mpr hr) hactive hc (not_disputed hd hch (by simp [hcalm])) hkept hdue,
    hd'⟩

theorem abandonReversal_desks (hd : Desks v w.ledger) (hx : OwnAccounts x (.abandonReversal t))
    (h : abandonReversal P x now w t = .ok w') :
    ∃ d, Move now t (.abandonReversal t) (v t) d ∧ Desks (Function.update v t d) w'.ledger := by
  simp only [abandonReversal, bind_ok, account_ok, require_ok, revertIf_ok, load_ok, exists_const,
    Nat.not_lt] at h
  obtain ⟨_, -, config, -, hold, h3, payer, -, binding, -, passportConfig, -, leave, -,
    openAnswer, -, funder, -, -, cfg, -, r, hr, hactive, hreversal, hdue, w₁, h₁, w₂, h₂, h₃⟩ := h
  obtain rfl := hx.key (k := holdPda t) (by simp [Instruction.expects]) h3
  have hcon : x.keys[2]? = some (consignmentPda programId t) :=
    hx (2, _) (by simp [Instruction.expects])
  obtain ⟨c, hc, hd'⟩ := payOut_desks hd hcon h₁ h₂ h₃
  exact ⟨_, .abandon (hd.hold.mpr hr) hactive hc hreversal hdue, hd'⟩

theorem sameBooks_repayBuyer {asset payer escrow buyer : Pubkey} {gross : ℕ}
    (h : repayBuyer P x w t asset payer escrow buyer gross = .ok w') :
    SameBooks programId w.ledger w'.ledger := by
  unfold repayBuyer at h
  split at h
  · exact sameBooks_payNativeFromPda h
  · simp only [bind_ok] at h
    obtain ⟨_, -, _, -, _, -, _, -, _, -, _, -, _, -, h⟩ := h
    exact sameBooks_paySplLegSigned h

theorem completeReversal_desks (hd : Desks v w.ledger) (hx : OwnAccounts x (.completeReversal t))
    (h : completeReversal P x w t = .ok w') :
    ∃ d, Move now t (.completeReversal t) (v t) d ∧ Desks (Function.update v t d) w'.ledger := by
  simp only [completeReversal, bind_ok, account_ok, require_ok, load_ok, exists_const,
    Prod.exists] at h
  obtain ⟨buyer, -, config, -, consignment, h2, hold, h3, binding, -, passportConfig, -, asset, -,
    seller, -, escrow, -, _, -, payer, -, coreProgram, -, leave, -, openAnswer, -, funder, -, -, cfg, -,
    r, hr, hactive, hreversal, -, owner, -, -, c, hc, -, w₁, h₁, q, -, seedPrefix, _, -, w₂, h₂, w₃, h₃,
    w₄, h₄, h₅⟩ := h
  obtain rfl := hx.key (k := consignmentPda programId t) (by simp [Instruction.expects]) h2
  obtain rfl := hx.key (k := holdPda t) (by simp [Instruction.expects]) h3
  have hreturned := ((hd.store h₁).books (sameBooks_transferOwnerToRecipient h₂)).books
    (sameBooks_closeObligation h₃)
  have hpaid := (hreturned.store h₄).books (sameBooks_repayBuyer h₅)
  rw [DeskMap.write_hold, DeskMap.write_lot, Function.update_idem, Function.update_self] at hpaid
  exact ⟨_, .complete (hd.hold.mpr hr) hactive (hd.lot.mpr hc) hreversal, hpaid⟩

/-! ## §7. Challenges. -/

theorem freezeForChallenge_ok {r r' : HoldRecord} (h : freezeForChallenge now r = .ok r') :
    r.isActive = true ∧ r.reversalPending = false ∧ r.frozenRemaining = 0 ∧
      now < r.protectionEndsAt ∧ r' = { r with frozenRemaining := r.protectionEndsAt - now } := by
  simp only [freezeForChallenge, bind_ok, require_ok, revertIf_ok, pure_ok, exists_const,
    Bool.not_eq_true, not_not, Nat.not_le] at h
  obtain ⟨hactive, hkept, hthawed, hearly, rfl⟩ := h
  exact ⟨hactive, hkept, hthawed, hearly, rfl⟩

/-- A challenge account is ready when no challenge stands there. -/
theorem readyChallenge_desks {payer : Pubkey} (hd : Desks v w.ledger)
    (h : readyChallenge P x w payer (challengePda programId t) = .ok w') :
    ¬ (v t).Disputed ∧
      (Desks v w'.ledger ∨ Desks (v.write (.challenge t) (.challenge default)) w'.ledger) := by
  unfold readyChallenge at h
  split at h
  · rename_i hempty
    constructor
    · rintro ⟨c, hc, -⟩
      rw [hd.challenge.mp hc] at hempty
      cases hempty
    · have hensured : ensurePda P programId x w payer (challengePda programId t) programId
          challengeSpace (.challenge default) = .ok w' := by
        unfold ensurePda
        rw [if_pos hempty]
        exact h
      exact hd.ensure hensured
  · simp only [bind_ok, load_ok, revertIf_ok, pure_ok, exists_const] at h
    obtain ⟨c, hc, hoff, rfl⟩ := h
    refine ⟨?_, .inl hd⟩
    rintro ⟨c', hc', hact⟩
    obtain rfl : c = c' := by simpa [Record.toData] using hc.symm.trans (hd.challenge.mp hc')
    exact hoff hact

theorem openChallengeIx_desks (hd : Desks v w.ledger) (hx : OwnAccounts x (.openChallenge t))
    (h : openChallengeIx P x now w t = .ok w') :
    ∃ d, Move now t (.openChallenge t) (v t) d ∧ Desks (Function.update v t d) w'.ledger := by
  simp only [openChallengeIx, bind_ok, account_ok, require_ok, load_ok, exists_const] at h
  obtain ⟨challenger, -, config, -, consignment, -, hold, h3, challenge, -, _, -, payer, -, -, cfg, -,
    c, -, r, hr, r', hfreeze, rfl, w₁, h₁, account, hopen, w₂, h₂, w₃, h₃, h₄⟩ := h
  obtain rfl := hx.key (k := holdPda t) (by simp [Instruction.expects]) h3
  obtain ⟨hactive, hkept, -, hearly, rfl⟩ := freezeForChallenge_ok hfreeze
  obtain ⟨hcalm, hready⟩ := readyChallenge_desks hd h₁
  have hstored : Desks (v.write (.challenge t) (.challenge account)) w₃.ledger := by
    rcases hready with hready | hready
    · exact (hready.books (sameBooks_payNative h₂)).store h₃
    · rw [← DeskMap.write_write (d := .challenge default)]
      exact (hready.books (sameBooks_payNative h₂)).store h₃
  have hfrozen := hstored.store h₄
  rw [DeskMap.write_challenge, DeskMap.write_hold, Function.update_idem, Function.update_self] at hfrozen
  have hopened : account.openedAt = now := by rw [(openChallenge_ok hopen).2]
  exact ⟨_, .openChallenge (hd.hold.mpr hr) hactive hcalm hkept hearly hopened, hfrozen⟩

/-- The bond goes out of the challenge account. -/
theorem sameBooks_transferBondLamports {src dst : Pubkey} {amount : ℕ}
    (h : transferBondLamports w src dst amount = .ok w') :
    SameBooks programId w.ledger w'.ledger := by
  obtain ⟨-, -, -, rfl⟩ := transferBondLamports_ok.mp h
  exact sameBooks_move

theorem withdrawChallengeIx_desks (hd : Desks v w.ledger)
    (hx : OwnAccounts x (.withdrawChallenge t)) (h : withdrawChallengeIx x now w = .ok w') :
    ∃ d, Move now t (.withdrawChallenge t) (v t) d ∧ Desks (Function.update v t d) w'.ledger := by
  simp only [withdrawChallengeIx, bind_ok, account_ok, require_ok, load_ok, exists_const,
    Prod.exists] at h
  obtain ⟨challenger, -, config, -, consignment, -, hold, h3, challenge, h4, -, cfg, -, c, -, r, hr,
    account, hch, account', hooks, disposition, hwithdraw, w₁, h₁, w₂, h₂, h₃⟩ := h
  obtain rfl := hx.key (k := holdPda t) (by simp [Instruction.expects]) h3
  obtain rfl := hx.key (k := challengePda programId t) (by simp [Instruction.expects]) h4
  obtain ⟨-, hactive, -, rfl, rfl⟩ := withdrawChallenge_ok hwithdraw
  have hended := ((hd.books (sameBooks_transferBondLamports h₁)).store h₂).store h₃
  rw [DeskMap.write_challenge, DeskMap.write_hold, Function.update_idem, Function.update_self] at hended
  exact ⟨_, .withdraw (hd.hold.mpr hr) (hd.challenge.mpr hch) hactive, hended⟩

/-- After a challenge is decided, with nothing to pay out. -/
theorem settleChallenge_kept {idx : PaySplitIdx} {cfg : AscendingConfig}
    {bondRecipient binding passportConfig funder leave openAnswer : Pubkey}
    {account : ChallengeAccount} {hooks : AscHooks} {disposition : BondDisposition}
    (hd : Desks v w.ledger) (hkept : hooks.pendingSplitGross = none)
    (h : settleChallenge P x w idx cfg t (holdPda t) (challengePda programId t) bondRecipient binding
      passportConfig funder leave openAnswer (account, hooks, disposition) = .ok w') :
    Desks (Function.update v t { v t with hold := some hooks.hold, challenge := some account })
      w'.ledger := by
  simp only [settleChallenge, bind_ok, require_ok, exists_const, hkept, pure_ok] at h
  obtain ⟨-, w₁, h₁, w₂, h₂, w₃, h₃, rfl⟩ := h
  have hended := ((hd.books (sameBooks_transferBondLamports h₁)).store h₂).store h₃
  rw [DeskMap.write_challenge, DeskMap.write_hold, Function.update_idem, Function.update_self] at hended
  exact hended

/-- After a challenge is decided for the seller: the hold is paid out. -/
theorem settleChallenge_paid {idx : PaySplitIdx} {cfg : AscendingConfig} {r : HoldRecord} {gross : ℕ}
    {bondRecipient binding passportConfig funder leave openAnswer : Pubkey}
    {account : ChallengeAccount} {hooks : AscHooks} {disposition : BondDisposition}
    (hd : Desks v w.ledger) (hk : x.keys[idx.consignment]? = some (consignmentPda programId t))
    (hpaid : hooks.pendingSplitGross = some gross) (hr : hooks.hold = r.cleared)
    (h : settleChallenge P x w idx cfg t (holdPda t) (challengePda programId t) bondRecipient binding
      passportConfig funder leave openAnswer (account, hooks, disposition) = .ok w') :
    ∃ c, (v t).lot = some c ∧
      Desks (Function.update v t { (v t).paidOut r c with challenge := some account }) w'.ledger := by
  simp only [settleChallenge, bind_ok, require_ok, exists_const, hpaid, hr] at h
  obtain ⟨-, w₁, h₁, w₂, h₂, w₃, h₃, w₄, h₄, h₅⟩ := h
  have hstored := (hd.books (sameBooks_transferBondLamports h₁)).store h₂
  obtain ⟨c, hc, hended⟩ := payOut_desks hstored hk h₃ h₄ h₅
  rw [DeskMap.write_challenge, Function.update_self] at hc hended
  rw [Function.update_idem] at hended
  exact ⟨c, hc, hended⟩

theorem judgeChallengeIx_desks {outcome : ℕ} (hd : Desks v w.ledger)
    (hx : OwnAccounts x (.judgeChallenge t outcome))
    (h : judgeChallengeIx P x now w t outcome = .ok w') :
    ∃ d, Move now t (.judgeChallenge t outcome) (v t) d ∧
      Desks (Function.update v t d) w'.ledger := by
  simp only [judgeChallengeIx, bind_ok, account_ok, require_ok, load_ok, exists_const] at h
  obtain ⟨judge, -, config, -, consignment, -, hold, h3, challenge, h4, bondRecipient, -, stake, -,
    stakingProgram, -, payer, -, binding, -, passportConfig, -, leave, -, openAnswer, -, funder, -, -,
    result, hresult, cfg, -, -, _, -, c, -, r, hr, account, hch, ⟨account', hooks, disposition⟩, hjudge,
    hsettle⟩ := h
  obtain rfl := hx.key (k := holdPda t) (by simp [Instruction.expects]) h3
  obtain rfl := hx.key (k := challengePda programId t) (by simp [Instruction.expects]) h4
  have hcon : x.keys[2]? = some (consignmentPda programId t) :=
    hx (2, _) (by simp [Instruction.expects])
  obtain ⟨-, hactive, -, -, rfl, rfl⟩ := judgeChallenge_ok hjudge
  rcases outcome with _ | _ | _
  · obtain rfl : JudgeOutcome.upheld = result := Except.ok.inj hresult
    have hended := settleChallenge_kept hd rfl hsettle
    exact ⟨_, .uphold (hd.hold.mpr hr) (hd.challenge.mpr hch) hactive, hended⟩
  · obtain rfl : JudgeOutcome.rejected = result := Except.ok.inj hresult
    obtain ⟨c₀, hc₀, hended⟩ := settleChallenge_paid (r := r) hd hcon rfl rfl hsettle
    exact ⟨_, .reject (hd.hold.mpr hr) hc₀ (hd.challenge.mpr hch) hactive, hended⟩
  · cases hresult

theorem concludeChallengeIx_desks (hd : Desks v w.ledger)
    (hx : OwnAccounts x (.concludeChallenge t)) (h : concludeChallengeIx P x now w t = .ok w') :
    ∃ d, Move now t (.concludeChallenge t) (v t) d ∧ Desks (Function.update v t d) w'.ledger := by
  simp only [concludeChallengeIx, bind_ok, account_ok, require_ok, load_ok, exists_const] at h
  obtain ⟨_, -, config, -, consignment, -, hold, h3, challenge, h4, bondRecipient, -, payer, -,
    binding, -, passportConfig, -, leave, -, openAnswer, -, funder, -, -, cfg, -, c, -, r, hr, account,
    hch, ⟨account', hooks, disposition⟩, hconclude, hsettle⟩ := h
  obtain rfl := hx.key (k := holdPda t) (by simp [Instruction.expects]) h3
  obtain rfl := hx.key (k := challengePda programId t) (by simp [Instruction.expects]) h4
  have hcon : x.keys[2]? = some (consignmentPda programId t) :=
    hx (2, _) (by simp [Instruction.expects])
  obtain ⟨-, hactive, rfl, rfl⟩ := concludeChallenge_ok hconclude
  obtain ⟨c₀, hc₀, hended⟩ := settleChallenge_paid (r := r) hd hcon rfl rfl hsettle
  exact ⟨_, .conclude (hd.hold.mpr hr) hc₀ (hd.challenge.mpr hch) hactive, hended⟩

/-! ## §8. The clock set by the authority. -/

theorem forceAuctionEndsAt_desks {endsAt : ℕ} (hd : Desks v w.ledger)
    (h : forceAuctionEndsAt x w t endsAt = .ok w') :
    ∃ d, Move now t (.forceAuctionEndsAt t endsAt) (v t) d ∧
      Desks (Function.update v t d) w'.ledger := by
  simp only [forceAuctionEndsAt, bind_ok, account_ok, require_ok, load_ok, exists_const] at h
  obtain ⟨_, -, _, -, auction, -, cfg, -, _, -, rfl, a, ha, hs⟩ := h
  have hset := hd.store hs
  rw [DeskMap.write_auction] at hset
  exact ⟨_, .forceEndsAt (hd.auction.mpr ha), hset⟩

theorem forceHoldClock_desks {protectionEndsAt frozenRemaining abandonmentDeadline : ℕ}
    (hd : Desks v w.ledger)
    (h : forceHoldClock x w t protectionEndsAt frozenRemaining abandonmentDeadline = .ok w') :
    ∃ d, Move now t (.forceHoldClock t protectionEndsAt frozenRemaining abandonmentDeadline) (v t) d ∧
      Desks (Function.update v t d) w'.ledger := by
  simp only [forceHoldClock, bind_ok, account_ok, require_ok, load_ok, exists_const] at h
  obtain ⟨_, -, _, -, hold, -, cfg, -, _, -, rfl, r, hr, hs⟩ := h
  have hset := hd.store hs
  rw [DeskMap.write_hold] at hset
  exact ⟨_, .forceClock (hd.hold.mpr hr), hset⟩

/-! ## §9. The program. -/

/-- **One instruction, one move.**  On a token's own accounts an accepted instruction makes a
    move on the desk of the token it names, and leaves every other desk as it is. -/
theorem processInstruction_desk {ix : Instruction} (hd : Desks v w.ledger) (hx : OwnAccounts x ix)
    (h : processInstruction P W now x w ix = .ok w') :
    ∃ v', Desks v' w'.ledger ∧
      ∀ u, ix.desk ≠ some u ∧ v' u = v u ∨ ix.desk = some u ∧ Move now u ix (v u) (v' u) := by
  -- the handlers that write no desk
  have keep : Desks v w'.ledger → ix.desk = none → ∃ v', Desks v' w'.ledger ∧
      ∀ u, ix.desk ≠ some u ∧ v' u = v u ∨ ix.desk = some u ∧ Move now u ix (v u) (v' u) :=
    fun hkept hnone => ⟨v, hkept, fun _ => .inl ⟨by simp [hnone], rfl⟩⟩
  -- the handlers that write the desk of one token
  have move : ∀ t, ix.desk = some t →
      (∃ d, Move now t ix (v t) d ∧ Desks (Function.update v t d) w'.ledger) →
      ∃ v', Desks v' w'.ledger ∧
        ∀ u, ix.desk ≠ some u ∧ v' u = v u ∨ ix.desk = some u ∧ Move now u ix (v u) (v' u) := by
    intro t ht hmove
    obtain ⟨d, hm, hd'⟩ := hmove
    refine ⟨_, hd', fun u => ?_⟩
    by_cases hu : u = t
    · subst hu
      rw [Function.update_self]
      exact .inr ⟨ht, hm⟩
    · refine .inl ⟨?_, Function.update_of_ne hu _ _⟩
      rw [ht]
      intro he
      exact hu (Option.some.inj he).symm
  cases ix with
  | initConfig => exact keep (initConfig_desks hd h) rfl
  | retired => cases h
  | grant => exact keep (grant_desks hd h) rfl
  | revoke => exact keep (revoke_desks hd h) rfl
  | openDirect => cases h
  | openFromMandate => cases h
  | setPrice => cases h
  | openAscendingDirect t => exact move t rfl (openAscendingDirect_desks hd h)
  | openAscendingFromMandate t => exact move t rfl (openAscendingFromMandate_desks hd h)
  | bid t => exact move t rfl (bid_desks hd hx h)
  | settle t => exact move t rfl (settle_desks hd h)
  | confirmReceipt t => exact move t rfl (confirmReceipt_desks hd hx h)
  | releaseFunds t => exact move t rfl (releaseFunds_desks hd hx h)
  | completeReversal t => exact move t rfl (completeReversal_desks hd hx h)
  | abandonReversal t => exact move t rfl (abandonReversal_desks hd hx h)
  | openChallenge t => exact move t rfl (openChallengeIx_desks hd hx h)
  | withdrawChallenge t => exact move t rfl (withdrawChallengeIx_desks hd hx h)
  | judgeChallenge t => exact move t rfl (judgeChallengeIx_desks hd hx h)
  | concludeChallenge t => exact move t rfl (concludeChallengeIx_desks hd hx h)
  | approvePaymentToken => exact keep (approvePaymentToken_desks hd h) rfl
  | revokePaymentToken => exact keep (revokePaymentToken_desks hd h) rfl
  | pause => exact keep (pause_desks hd h) rfl
  | unpause => exact keep (amendConfig_desks hd h) rfl
  | setChallengeBond => exact keep (amendConfig_desks hd h) rfl
  | withdrawClaim => exact keep (hd.books (sameBooks_withdrawSplClaim h)) rfl
  | forceAuctionEndsAt t => exact move t rfl (forceAuctionEndsAt_desks hd h)
  | forceHoldClock t => exact move t rfl (forceHoldClock_desks hd h)
  | bindPassportProgram => exact keep (bindPassportProgram_desks hd h) rfl
  | setGuardian => exact keep (amendConfig_desks hd h) rfl

end Desks

end Kargain.Svm.Ascending
