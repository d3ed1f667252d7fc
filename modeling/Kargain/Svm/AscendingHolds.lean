/-
  Kargain.Svm.AscendingHolds — holds and challenges of kar-ascending, over runs.

  `Settled d` is what is kept of every desk: while a payment is held its
  lot is live and committed, and while a challenge stands a payment is
  held that no reversal is pending on.  The clock of a hold is a
  countdown that a challenge freezes; `unfrozen` counts, in the history,
  the time it has run.
-/
import Kargain.Svm.AscendingDesk
import Kargain.Base.Countdown

namespace Kargain.Svm.Ascending

open Kargain.Accounts

/-! ## §1. What is kept of a desk. -/

structure Settled (d : Desk) : Prop where
  held : d.Held → ∃ c ∈ d.lot, c.isLive = true ∧ c.committedNotOffered = true
  disputed : d.Disputed → ∃ h ∈ d.hold, h.isActive = true ∧ h.reversalPending = false
  window : ∀ a ∈ d.auction, a.protectionWindow ≤ maxProtectionWindow

section Moves

variable {now : ℕ} {t : TokenId} {ix : Instruction} {d d' : Desk} {h : HoldRecord}
  {c : ConsignmentRecord}

theorem Settled.disputed_held (hs : Settled d) (hd : d.Disputed) : d.Held := by
  obtain ⟨h, hh, hactive, -⟩ := hs.disputed hd
  exact ⟨h, hh, hactive⟩

/-- A challenge and a pending reversal exclude each other. -/
theorem Settled.calm_of_reversal (hs : Settled d) (hh : d.hold = some h)
    (hr : h.reversalPending = true) : ¬ d.Disputed := by
  intro hd
  obtain ⟨h', hh', -, hr'⟩ := hs.disputed hd
  obtain rfl : h = h' := Option.some.inj (hh.symm.trans hh')
  rw [hr] at hr'
  cases hr'

theorem not_held_cleared {l : Option ConsignmentRecord} {a : Option AuctionTermsRecord}
    {ch : Option ChallengeAccount} : ¬ (Desk.mk l a (some h.cleared) ch).Held := by
  rintro ⟨h', hh, hactive⟩
  obtain rfl : h.cleared = h' := Option.some.inj hh
  simp at hactive

theorem not_disputed_cleared {l : Option ConsignmentRecord} {a : Option AuctionTermsRecord}
    {r : Option HoldRecord} {ch : ChallengeAccount} :
    ¬ (Desk.mk l a r (some ch.cleared)).Disputed := by
  rintro ⟨ch', hch, hactive⟩
  obtain rfl : ch.cleared = ch' := Option.some.inj hch
  simp at hactive

/-- A desk whose payment is paid out, whatever becomes of the challenge. -/
theorem Settled.ended {l : Option ConsignmentRecord} {ch : Option ChallengeAccount}
    (hs : Settled d) (hcalm : ¬ (Desk.mk l d.auction (some h.cleared) ch).Disputed) :
    Settled (Desk.mk l d.auction (some h.cleared) ch) where
  held hheld := absurd hheld not_held_cleared
  disputed hd := absurd hd hcalm
  window := hs.window

theorem extended_window {a : AuctionTermsRecord} :
    (applyExtension a now).protectionWindow = a.protectionWindow := by
  unfold applyExtension
  split <;> rfl

/-- Neither a bid nor its extension touches the window. -/
theorem placeBid_window {a : AuctionTermsRecord} {bidder : Pubkey} {amount : ℕ} :
    (placeBid now a bidder amount).protectionWindow = a.protectionWindow :=
  extended_window

theorem isBinding_live (h : isBinding c false = true) :
    c.isLive = true ∧ c.committedNotOffered = true := by
  simp only [isBinding, Bool.not_false, Bool.and_true, Bool.and_eq_true] at h
  exact h

/-- **Every move keeps it.** -/
theorem Move.settled (hm : Move now t ix d d') (hs : Settled d) : Settled d' := by
  cases hm with
  | openDirect hfree ha =>
    have hnot : ¬ d.Held := by
      intro hheld
      obtain ⟨c, hc, hlive, -⟩ := hs.held hheld
      rw [hfree c hc] at hlive
      cases hlive
    refine ⟨fun hheld => absurd hheld hnot, hs.disputed, ?_⟩
    intro a' ha'
    obtain rfl := Option.some.inj ha'
    exact ha
  | openFromMandate hfree ha =>
    have hnot : ¬ d.Held := by
      intro hheld
      obtain ⟨c, hc, hlive, -⟩ := hs.held hheld
      rw [hfree c hc] at hlive
      cases hlive
    refine ⟨fun hheld => absurd hheld hnot, hs.disputed, ?_⟩
    intro a' ha'
    obtain rfl := Option.some.inj ha'
    exact ha
  | bid hfree hlot hc ha =>
    refine ⟨fun hheld => absurd hheld hfree, hs.disputed, ?_⟩
    intro a' ha'
    obtain rfl := Option.some.inj ha'
    rw [placeBid_window]
    exact hs.window _ ha
  | @settle _ c a hfree hlot hbinding ha =>
    refine ⟨fun _ => ⟨c, hlot, isBinding_live hbinding⟩, ?_, ?_⟩
    · intro hd
      exact absurd (hs.disputed_held hd) hfree
    · intro a' ha'
      obtain rfl := Option.some.inj ha'
      exact Nat.zero_le _
  | confirm hhold hactive hlot hcalm hkept => exact hs.ended hcalm
  | release hhold hactive hlot hcalm hkept hdue => exact hs.ended hcalm
  | complete hhold hactive hlot hreversal => exact hs.ended (hs.calm_of_reversal hhold hreversal)
  | abandon hhold hactive hlot hreversal hdue =>
    exact hs.ended (hs.calm_of_reversal hhold hreversal)
  | @openChallenge _ h ch hhold hactive hcalm hkept hearly hch =>
    refine ⟨fun _ => hs.held ⟨h, hhold, hactive⟩, ?_, hs.window⟩
    intro _
    exact ⟨_, rfl, hactive, hkept⟩
  | @withdraw _ h ch hhold hch hactive =>
    obtain ⟨h', hh', hactive', -⟩ := hs.disputed ⟨ch, hch, hactive⟩
    refine ⟨fun _ => hs.held ⟨h', hh', hactive'⟩, ?_, hs.window⟩
    intro hd
    exact absurd hd not_disputed_cleared
  | @uphold _ h ch hhold hch hactive =>
    obtain ⟨h', hh', hactive', -⟩ := hs.disputed ⟨ch, hch, hactive⟩
    refine ⟨fun _ => hs.held ⟨h', hh', hactive'⟩, ?_, hs.window⟩
    intro hd
    exact absurd hd not_disputed_cleared
  | reject hhold hlot hch hactive => exact hs.ended not_disputed_cleared
  | conclude hhold hlot hch hactive => exact hs.ended not_disputed_cleared
  | @forceEndsAt _ a _ ha =>
    refine ⟨hs.held, hs.disputed, ?_⟩
    intro a' ha'
    obtain rfl := Option.some.inj ha'
    show a.protectionWindow ≤ maxProtectionWindow
    exact hs.window _ ha
  | @forceClock _ h _ _ _ hhold =>
    refine ⟨?_, ?_, hs.window⟩
    · rintro ⟨h', hh', hactive⟩
      obtain rfl := Option.some.inj hh'
      exact hs.held ⟨h, hhold, hactive⟩
    · intro hd
      obtain ⟨h', hh', hactive, hkept⟩ := hs.disputed hd
      obtain rfl : h = h' := Option.some.inj (hhold.symm.trans hh')
      exact ⟨_, rfl, hactive, hkept⟩

end Moves

/-! ## §2. What a step does to a desk. -/

/-- The desk of `u` after a step: as it was, one move on, or without its closed auction. -/
inductive Turn (s : System) (u : TokenId) : Action → Desk → Prop
  | same {a : Action} (hne : ∀ x ix, a = .instruction x ix → ix.desk ≠ some u) :
      Turn s u a (deskAt s.ledger u)
  | move {x : Call} {ix : Instruction} {d : Desk} (hix : ix.desk = some u)
      (hm : Move s.now u ix (deskAt s.ledger u) d) : Turn s u (.instruction x ix) d
  | forget : Turn s u (.forget u) { deskAt s.ledger u with auction := none }

section Steps

variable {P : Platform} {W : AmountOffset} {s s' : System} {a : Action} {u : TokenId}

/-- **What a step does**, on the accounts of the tokens it names. -/
theorem step_turn (hs : Seated programId s.ledger) (ht : Tied s a) (h : step P W s a = .ok s') :
    Seated programId s'.ledger ∧ ∀ u, Turn s u a (deskAt s'.ledger u) := by
  cases a with
  | instruction x ix =>
    obtain ⟨-, w', hw, rfl⟩ := step_instruction_ok h
    obtain ⟨v', hd, hv⟩ := processInstruction_desk (.of_seated hs) ht hw
    refine ⟨hd.seated, fun u => ?_⟩
    rw [hd.desk u]
    rcases hv u with ⟨hne, hsame⟩ | ⟨hix, hm⟩
    · rw [hsame]
      refine .same fun x' ix' he => ?_
      obtain ⟨-, rfl⟩ := Action.instruction.inj he
      exact hne
    · exact .move hix hm
  | outside k b =>
    simp only [step, bind_ok, require_ok, pure_ok, exists_const] at h
    obtain ⟨hmay, rfl⟩ := h
    have hd := (Desks.of_seated hs).books (outside_sameBooks hs hmay)
    refine ⟨hd.seated, fun u => ?_⟩
    rw [hd.desk u]
    exact .same fun x ix he => by cases he
  | forget t =>
    simp only [step, bind_ok, require_ok, pure_ok, exists_const] at h
    obtain ⟨-, rfl⟩ := h
    have hd : Desks (DeskMap.write (deskAt s.ledger) (.auction t) .empty)
        (Function.update s.ledger (auctionPda t) ⟨0, .system, .empty, false⟩) := by
      refine (Desks.of_seated hs).write (fun d hb => ⟨?_, rfl⟩) fun d => ?_
      · by_cases hdt : d = .auction t
        · subst hdt
          simp
        · simpa [hdt] using (hs d hb).1
      · by_cases hdt : d = .auction t
        · subst hdt
          simp
        · simp [hdt]
    refine ⟨hd.seated, fun u => ?_⟩
    rw [hd.desk u, DeskMap.write_auction]
    by_cases hu : u = t
    · subst hu
      rw [Function.update_self]
      exact .forget
    · rw [Function.update_of_ne hu]
      exact .same fun x ix he => by cases he
  | tick n =>
    simp only [step, bind_ok, require_ok, pure_ok, exists_const] at h
    obtain ⟨-, rfl⟩ := h
    exact ⟨hs, fun u => .same fun x ix he => by cases he⟩

/-- What is kept along a run. -/
structure Inv (s : System) : Prop where
  seated : Seated programId s.ledger
  now_pos : 0 < s.now
  now_lt : s.now < 2 ^ 63
  settled : ∀ u, Settled (deskAt s.ledger u)

theorem deskAt_genesis (h : Genesis s) : deskAt s.ledger u = ⟨none, none, none, none⟩ := by
  have hempty : ∀ d, (s.ledger (.pda programId d)).data = .empty := fun d => (h.free d).2.1
  unfold deskAt
  rw [hempty, hempty, hempty, hempty]
  rfl

theorem Genesis.inv (h : Genesis s) : Inv s where
  seated d _ := ⟨.inr (h.free d).1, rfl⟩
  now_pos := h.now_pos
  now_lt := h.now_lt
  settled u := by
    rw [deskAt_genesis h]
    refine ⟨?_, ?_, ?_⟩
    · rintro ⟨r, hr, -⟩
      cases hr
    · rintro ⟨c, hc, -⟩
      cases hc
    · intro a ha
      cases ha

theorem Turn.settled {d : Desk} (h : Turn s u a d) (hs : Settled (deskAt s.ledger u)) :
    Settled d := by
  cases h with
  | same => exact hs
  | move hix hm => exact hm.settled hs
  | forget => exact ⟨hs.held, hs.disputed, fun a ha => by cases ha⟩

/-- A step goes on with the clock, or leaves it. -/
theorem step_now (hi : Inv s) (h : step P W s a = .ok s') : 0 < s'.now ∧ s'.now < 2 ^ 63 := by
  have hpos := hi.now_pos
  have hlt := hi.now_lt
  cases a <;> simp only [step, bind_ok, require_ok, pure_ok, exists_const] at h
  · obtain ⟨-, L, -, rfl⟩ := h
    exact ⟨hpos, hlt⟩
  · obtain ⟨-, rfl⟩ := h
    exact ⟨hpos, hlt⟩
  · obtain ⟨-, rfl⟩ := h
    exact ⟨hpos, hlt⟩
  · obtain ⟨⟨hle, hlt'⟩, rfl⟩ := h
    exact ⟨Nat.lt_of_lt_of_le hpos hle, hlt'⟩

theorem step_inv (hi : Inv s) (ht : Tied s a) (h : step P W s a = .ok s') : Inv s' := by
  obtain ⟨hseated, hturn⟩ := step_turn hi.seated ht h
  obtain ⟨hpos, hlt⟩ := step_now hi h
  exact ⟨hseated, hpos, hlt, fun u => (hturn u).settled (hi.settled u)⟩

end Steps

end Kargain.Svm.Ascending
