/-
  Kargain.Evm.HoldClock — the protection window of a settled lot.

  Settlement starts a countdown over the lot's protection window.  A
  challenge freezes it, storing what is left; a withdrawn challenge thaws
  it, turning that back into a deadline; an upheld one ends it.  What the
  clock of a lot depends on is its `Facet`, and what a message does to a
  facet is a sequence of `Turn`s.  The time a hold has spent unfrozen is
  kept beside the run.

  Deadlines are stored in 64 bits, so the law is about runs that end
  before the chain's clock leaves them.

  Main result: `hold_clock`.
-/
import Kargain.Base.Countdown
import Kargain.Evm.Sides
import Kargain.Evm.AscendingEffects

namespace Kargain.Evm

/-- The events a lot's clock is read from. -/
def Event.ofClock : Event → Bool
  | .ascendingTermsSnapshotted .. | .settled .. | .fundsReleased .. => true
  | _ => false

/-- The hold with the time that is left stored, the deadline it is given back, and the hold
    with a reversal pending. -/
def Hold.freeze (h : Hold) (now : ℕ) : Hold :=
  { h with frozenRemaining := u64 (h.protectionEndsAt - now) }

def Hold.thaw (h : Hold) (now : ℕ) : Hold :=
  { h with frozenRemaining := 0, protectionEndsAt := u64 (now + h.frozenRemaining) }

def Hold.reverse (h : Hold) (deadline : ℕ) : Hold :=
  { h with
    reversalPending := true, frozenRemaining := 0, protectionEndsAt := 0,
    abandonmentDeadline := deadline }

namespace Ascending

open Relation

/-! ## §1. What the clock of a lot depends on. -/

/-- The protection window of the last auction opened for a passport. -/
def windowAfter (t : TokenId) : Log → ℕ
  | [] => 0
  | (_, e) :: older =>
    match e with
    | .ascendingTermsSnapshotted t' _ _ protectionWindow _ _ _ =>
      if t' = t then protectionWindow else windowAfter t older
    | _ => windowAfter t older

def settlements (t : TokenId) : Log → ℕ
  | [] => 0
  | (_, e) :: older =>
    match e with
    | .settled t' _ _ _ => if t' = t then settlements t older + 1 else settlements t older
    | _ => settlements t older

def releases (t : TokenId) : Log → ℕ
  | [] => 0
  | (_, e) :: older =>
    match e with
    | .fundsReleased t' _ => if t' = t then releases t older + 1 else releases t older
    | _ => releases t older

/-- A lot on offer, or bound by a first bid. -/
inductive Life where
  | absent
  | offered
  | bound
  deriving DecidableEq

structure Facet where
  hold : Hold
  active : Bool
  terms : AuctionTerms
  life : Life
  window : ℕ
  settlements : ℕ
  releases : ℕ

variable {P : Type}

def lifeOf (w : World P) (t : TokenId) : Life :=
  if w.com.phase t = .offered then
    if w.com.committedNotOffered t then .bound else .offered
  else .absent

def facet (w : World P) (t : TokenId) : Facet where
  hold := w.ext.holds t
  active := isChallengeActive w t
  terms := w.ext.auction t
  life := lifeOf w t
  window := windowAfter t w.log
  settlements := settlements t w.log
  releases := releases t w.log

/-- The countdown of a hold: off where there is none or a reversal is pending. -/
def Facet.countdown (f : Facet) : Countdown :=
  if f.hold.buyer = .zero ∨ f.hold.reversalPending = true then .off
  else if f.active then .frozen f.hold.frozenRemaining
  else .running f.hold.protectionEndsAt

/-! ## §2. Turns. -/

/-- What can happen to a facet at `now`. -/
inductive Turn (now : ℕ) (f : Facet) : Facet → Prop where
  | opened {terms : AuctionTerms} {window : ℕ} (hlife : f.life = .absent)
      (hmin : minProtectionWindow ≤ window) (hmax : window ≤ maxProtectionWindow)
      (hterms : terms.protectionWindow = window) (hbidder : terms.highestBidder = .zero) :
      Turn now f { f with terms := terms, life := .offered, window := window }
  | recalled (hlife : f.life = .offered) : Turn now f { f with life := .absent }
  | bid {terms : AuctionTerms} (hlife : f.life = .offered) (hfree : f.hold.buyer = .zero)
      (hterms : terms.protectionWindow = f.terms.protectionWindow)
      (hbidder : terms.highestBidder ≠ .zero) :
      Turn now f { f with terms := terms, life := .bound }
  | outbid {terms : AuctionTerms} (hprev : f.terms.highestBidder ≠ .zero)
      (hterms : terms.protectionWindow = f.terms.protectionWindow)
      (hbidder : terms.highestBidder ≠ .zero) : Turn now f { f with terms := terms }
  | settled {hold : Hold} (hlife : f.life = .bound) (hfree : f.hold.buyer = .zero)
      (hnow : 0 < now) (hbuyer : hold.buyer = f.terms.highestBidder)
      (hends : hold.protectionEndsAt = u64 (now + f.terms.protectionWindow))
      (hfrozen : hold.frozenRemaining = 0) (hpending : hold.reversalPending = false) :
      Turn now f
        { f with hold := hold, terms := .empty, settlements := f.settlements + 1 }
  | frozen (hheld : f.hold.buyer ≠ .zero) (hpending : f.hold.reversalPending = false)
      (hdue : now < f.hold.protectionEndsAt) (hinactive : f.active = false) :
      Turn now f { f with hold := f.hold.freeze now, active := now != 0 }
  | thawed (hactive : f.active = true) :
      Turn now f { f with hold := f.hold.thaw now, active := false }
  | upheld {deadline : ℕ} (hactive : f.active = true) :
      Turn now f { f with hold := f.hold.reverse deadline, active := false }
  | ended {active : Bool} (hheld : f.hold.buyer ≠ .zero)
      (hactive : active = false ∨ active = f.active ∧ f.hold.reversalPending = true) :
      Turn now f { f with hold := .empty, active := active, life := .absent }
  | released (hheld : f.hold.buyer ≠ .zero) (hactive : f.active = false)
      (hpending : f.hold.reversalPending = false) (hdue : f.hold.protectionEndsAt ≤ now) :
      Turn now f { f with hold := .empty, life := .absent, releases := f.releases + 1 }

/-- The law of one lot's clock, after its hold has been unfrozen for `n`. -/
structure ClockLaw (now n : ℕ) (f : Facet) : Prop where
  held : f.hold.buyer ≠ .zero → f.life = .bound ∧ 0 < now
  bidding : f.terms.highestBidder ≠ .zero → f.life = .bound ∧ f.hold.buyer = .zero
  bidder : f.life = .bound → f.hold.buyer = .zero → f.terms.highestBidder ≠ .zero
  terms : f.life ≠ .absent → f.hold.buyer = .zero → f.terms.protectionWindow = f.window
  window : f.life ≠ .absent → minProtectionWindow ≤ f.window ∧ f.window ≤ maxProtectionWindow
  inactive : f.hold.buyer = .zero ∨ f.hold.reversalPending = true → f.active = false
  frozen_iff : f.hold.buyer ≠ .zero → f.hold.reversalPending = false →
    (f.active = true ↔ f.hold.frozenRemaining ≠ 0)
  conserved : f.countdown.Conserved f.window now n

/-- Whether the time that passes counts for the hold. -/
def Facet.unfrozen (f : Facet) : Bool := f.countdown.isRunning

section Law

variable {now n : ℕ} {f f' g : Facet}

theorem u64_of_lt {x : ℕ} (h : x < 2 ^ 64) : u64 x = x := Nat.mod_eq_of_lt h

theorem countdown_off (h : f.hold.buyer = .zero ∨ f.hold.reversalPending = true) :
    f.countdown = .off := if_pos h

theorem countdown_frozen (hheld : f.hold.buyer ≠ .zero)
    (hpending : f.hold.reversalPending = false) (hactive : f.active = true) :
    f.countdown = .frozen f.hold.frozenRemaining := by
  simp [Facet.countdown, hheld, hpending, hactive]

theorem countdown_running (hheld : f.hold.buyer ≠ .zero)
    (hpending : f.hold.reversalPending = false) (hactive : f.active = false) :
    f.countdown = .running f.hold.protectionEndsAt := by
  simp [Facet.countdown, hheld, hpending, hactive]

/-- A lot without a hold: only its terms have a say. -/
theorem ClockLaw.of_free (hfree : f.hold.buyer = .zero) (hactive : f.active = false)
    (hbidding : f.terms.highestBidder ≠ .zero ↔ f.life = .bound)
    (hterms : f.life ≠ .absent → f.terms.protectionWindow = f.window ∧
      minProtectionWindow ≤ f.window ∧ f.window ≤ maxProtectionWindow) : ClockLaw now n f where
  held h := absurd hfree h
  bidding h := ⟨hbidding.mp h, hfree⟩
  bidder h _ := hbidding.mpr h
  terms h _ := (hterms h).1
  window h := (hterms h).2
  inactive _ := hactive
  frozen_iff h := absurd hfree h
  conserved := by
    rw [countdown_off (.inl hfree)]
    trivial

/-- A lot with a hold: its terms are gone. -/
theorem ClockLaw.of_held (hheld : f.hold.buyer ≠ .zero) (hlife : f.life = .bound)
    (hnow : 0 < now) (hterms : f.terms.highestBidder = .zero)
    (hwindow : minProtectionWindow ≤ f.window ∧ f.window ≤ maxProtectionWindow)
    (hpending : f.hold.reversalPending = true → f.active = false)
    (hrunning : f.hold.reversalPending = false → f.active = false →
      f.hold.frozenRemaining = 0 ∧ n + f.hold.protectionEndsAt = now + f.window)
    (hfrozen : f.hold.reversalPending = false → f.active = true →
      0 < f.hold.frozenRemaining ∧ n + f.hold.frozenRemaining = f.window) : ClockLaw now n f where
  held _ := ⟨hlife, hnow⟩
  bidding h := absurd hterms h
  bidder _ h := absurd h hheld
  terms _ h := absurd h hheld
  window _ := hwindow
  inactive h := hpending (h.resolve_left hheld)
  frozen_iff _ hp := by
    cases hact : f.active with
    | true => simpa using (hfrozen hp hact).1.ne'
    | false => simpa using (hrunning hp hact).1
  conserved := by
    cases hp : f.hold.reversalPending with
    | true =>
      rw [countdown_off (.inr hp)]
      trivial
    | false =>
      cases hact : f.active with
      | true =>
        rw [countdown_frozen hheld hp hact]
        exact hfrozen hp hact
      | false =>
        rw [countdown_running hheld hp hact]
        exact (hrunning hp hact).2

theorem ClockLaw.running (hi : ClockLaw now n f) (hheld : f.hold.buyer ≠ .zero)
    (hpending : f.hold.reversalPending = false) (hactive : f.active = false) :
    f.hold.frozenRemaining = 0 ∧ n + f.hold.protectionEndsAt = now + f.window := by
  have hrun := hi.conserved
  rw [countdown_running hheld hpending hactive] at hrun
  have hzero := (hi.frozen_iff hheld hpending).not.mp (by simp [hactive])
  exact ⟨not_not.mp hzero, hrun⟩

/-- Under challenge there is a hold, frozen with time left. -/
theorem ClockLaw.frozen (hi : ClockLaw now n f) (hactive : f.active = true) :
    f.hold.buyer ≠ .zero ∧ f.hold.reversalPending = false ∧ 0 < f.hold.frozenRemaining ∧
      n + f.hold.frozenRemaining = f.window := by
  have hheld : f.hold.buyer ≠ .zero := by
    intro h
    have hoff := hi.inactive (.inl h)
    rw [hactive] at hoff
    cases hoff
  have hpending : f.hold.reversalPending = false := by
    cases hp : f.hold.reversalPending with
    | false => rfl
    | true =>
      have hoff := hi.inactive (.inr hp)
      rw [hactive] at hoff
      cases hoff
  have hfrz := hi.conserved
  rw [countdown_frozen hheld hpending hactive] at hfrz
  exact ⟨hheld, hpending, hfrz⟩

theorem ClockLaw.no_bidder (hi : ClockLaw now n f) (hheld : f.hold.buyer ≠ .zero) :
    f.terms.highestBidder = .zero := by
  by_contra hb
  exact hheld (hi.bidding hb).2

/-- **One turn keeps the law**; the count starts again with a settlement. -/
theorem ClockLaw.turn (hi : ClockLaw now n f) (hclock : now + maxProtectionWindow < 2 ^ 64)
    (h : Turn now f f') :
    ClockLaw now (if f'.settlements = f.settlements then n else 0) f' := by
  have hbidder : f.life ≠ .bound → f.terms.highestBidder = .zero := by
    intro hl
    by_contra hb
    exact hl (hi.bidding hb).1
  have hfree : f.life ≠ .bound → f.hold.buyer = .zero := by
    intro hl
    by_contra hb
    exact hl (hi.held hb).1
  cases h with
  | opened hlife hmin hmax hterms hnone =>
    have hnot : f.life ≠ .bound := by simp [hlife]
    exact .of_free (hfree hnot) (hi.inactive (.inl (hfree hnot))) (by simp [hnone])
      (fun _ => ⟨hterms, hmin, hmax⟩)
  | recalled hlife =>
    have hnot : f.life ≠ .bound := by simp [hlife]
    exact .of_free (hfree hnot) (hi.inactive (.inl (hfree hnot))) (by simp [hbidder hnot])
      (fun h => absurd rfl h)
  | bid hlife hnone hterms hnew =>
    have hlive : f.life ≠ .absent := by simp [hlife]
    exact .of_free hnone (hi.inactive (.inl hnone)) (by simp [hnew])
      (fun _ => ⟨hterms.trans (hi.terms hlive hnone), hi.window hlive⟩)
  | outbid hprev hterms hnew =>
    obtain ⟨hlife, hnone⟩ := hi.bidding hprev
    have hlive : f.life ≠ .absent := by simp [hlife]
    exact .of_free hnone (hi.inactive (.inl hnone)) (by simp [hnew, hlife])
      (fun _ => ⟨hterms.trans (hi.terms hlive hnone), hi.window hlive⟩)
  | @settled hold hlife hnone hnow hbuyer hends hfrozen hpending =>
    have hlive : f.life ≠ .absent := by simp [hlife]
    obtain ⟨hmin, hmax⟩ := hi.window hlive
    have hterms := hi.terms hlive hnone
    have hinactive := hi.inactive (.inl hnone)
    have hheld := hi.bidder hlife hnone
    rw [← hbuyer] at hheld
    rw [hterms, u64_of_lt (by omega)] at hends
    refine .of_held hheld hlife hnow rfl ⟨hmin, hmax⟩ (fun _ => hinactive) (fun _ _ => ?_)
      (fun _ hact => ?_)
    · refine ⟨hfrozen, ?_⟩
      show (if f.settlements + 1 = f.settlements then n else 0) + hold.protectionEndsAt =
        now + f.window
      rw [if_neg (Nat.succ_ne_self _), hends]
      exact Nat.zero_add _
    · rw [hinactive] at hact
      cases hact
  | frozen hheld hpending hdue hactive =>
    obtain ⟨hlife, hnow⟩ := hi.held hheld
    have hwindow := hi.window (by simp [hlife])
    have hon : (now != 0) = true := by simpa using hnow.ne'
    refine .of_held hheld hlife hnow (hi.no_bidder hheld) hwindow
      (fun h => absurd (hpending.symm.trans h) Bool.false_ne_true)
      (fun _ hoff => absurd (hoff.symm.trans hon) Bool.false_ne_true) (fun _ _ => ?_)
    obtain ⟨-, hrun⟩ := hi.running hheld hpending hactive
    have hleft : u64 (f.hold.protectionEndsAt - now) = f.hold.protectionEndsAt - now :=
      u64_of_lt (by omega)
    show 0 < u64 (f.hold.protectionEndsAt - now) ∧
      (if f.settlements = f.settlements then n else 0) + u64 (f.hold.protectionEndsAt - now) =
        f.window
    rw [if_pos rfl, hleft]
    omega
  | thawed hactive =>
    obtain ⟨hheld, hpending, hpos, hleft⟩ := hi.frozen hactive
    obtain ⟨hlife, hnow⟩ := hi.held hheld
    have hwindow := hi.window (by simp [hlife])
    refine .of_held hheld hlife hnow (hi.no_bidder hheld) hwindow (fun _ => rfl)
      (fun _ _ => ⟨rfl, ?_⟩) (fun _ h => absurd h Bool.false_ne_true)
    show (if f.settlements = f.settlements then n else 0) + u64 (now + f.hold.frozenRemaining) =
      now + f.window
    rw [if_pos rfl, u64_of_lt (by omega)]
    omega
  | upheld hactive =>
    obtain ⟨hheld, -, -, -⟩ := hi.frozen hactive
    obtain ⟨hlife, hnow⟩ := hi.held hheld
    exact .of_held hheld hlife hnow (hi.no_bidder hheld) (hi.window (by simp [hlife]))
      (fun _ => rfl) (fun h => absurd h.symm Bool.false_ne_true)
      (fun h => absurd h.symm Bool.false_ne_true)
  | @ended active hheld hactive =>
    have hoff : active = false := by
      rcases hactive with h | ⟨h, hp⟩
      · exact h
      · exact h.trans (hi.inactive (.inr hp))
    exact .of_free rfl hoff (by simp [hi.no_bidder hheld]) (fun h => absurd rfl h)
  | released hheld hactive _ _ =>
    exact .of_free rfl hactive (by simp [hi.no_bidder hheld]) (fun h => absurd rfl h)

/-- Time passes for an unfrozen hold only. -/
theorem ClockLaw.tick (hi : ClockLaw now n f) (dt : ℕ) :
    ClockLaw (now + dt) (if f.unfrozen then n + dt else n) f where
  held h := ⟨(hi.held h).1, Nat.add_pos_left (hi.held h).2 dt⟩
  bidding := hi.bidding
  bidder := hi.bidder
  terms := hi.terms
  window := hi.window
  inactive := hi.inactive
  frozen_iff := hi.frozen_iff
  conserved := hi.conserved.tick dt

/-- What a release needs: a hold that is neither frozen nor in reversal and has been unfrozen
    for the whole window. -/
structure Releasable (n : ℕ) (f : Facet) : Prop where
  held : f.hold.buyer ≠ .zero
  unchallenged : f.active = false
  no_reversal : f.hold.reversalPending = false
  elapsed : f.window ≤ n

/-- Within one message the hold of a lot is the one before it, or settled in it. -/
theorem Turn.same (hi : ClockLaw now n f) (h : Turn now f f') :
    f.settlements ≤ f'.settlements ∧ (f'.settlements = f.settlements →
      f'.hold.buyer ≠ .zero → f.hold.buyer ≠ .zero ∧ f'.window = f.window ∧
        (f'.hold.reversalPending = false → f.hold.reversalPending = false)) := by
  cases h with
  | opened hlife =>
    refine ⟨le_rfl, fun _ hheld => ?_⟩
    have hbound := (hi.held hheld).1
    rw [hlife] at hbound
    cases hbound
  | settled => exact ⟨Nat.le_succ _, fun h => absurd h (Nat.succ_ne_self _)⟩
  | upheld => exact ⟨le_rfl, fun _ hheld => ⟨hheld, rfl, fun h => absurd h.symm Bool.false_ne_true⟩⟩
  | ended => exact ⟨le_rfl, fun _ hheld => absurd rfl hheld⟩
  | released => exact ⟨le_rfl, fun _ hheld => absurd rfl hheld⟩
  | _ => exact ⟨le_rfl, fun _ hheld => ⟨hheld, rfl, id⟩⟩

theorem Turn.releasable (hi : ClockLaw now n f) (h : Turn now f f')
    (hr : f'.releases ≠ f.releases) : Releasable n f := by
  cases h with
  | released hheld hactive hpending hdue =>
    obtain ⟨-, hrun⟩ := hi.running hheld hpending hactive
    exact ⟨hheld, hactive, hpending, by omega⟩
  | _ => exact absurd rfl hr

/-- What a message does to a lot's clock. -/
structure Span (now n : ℕ) (f g : Facet) : Prop where
  settlements : f.settlements ≤ g.settlements
  law : ClockLaw now (if g.settlements = f.settlements then n else 0) g
  same : g.settlements = f.settlements → g.hold.buyer ≠ .zero → f.hold.buyer ≠ .zero ∧
    g.window = f.window ∧ (g.hold.reversalPending = false → f.hold.reversalPending = false)
  releasable : g.releases ≠ f.releases → Releasable n f

/-- What is releasable in the middle of a message was so before it. -/
theorem Span.releasable_back (hi : ClockLaw now n f) (h : Span now n f g)
    (hr : Releasable (if g.settlements = f.settlements then n else 0) g) : Releasable n f := by
  have hwindow := h.law.window (by simp [(h.law.held hr.held).1])
  have helapsed := hr.elapsed
  by_cases hs : g.settlements = f.settlements
  · rw [if_pos hs] at helapsed
    obtain ⟨hheld, hw, hrev⟩ := h.same hs hr.held
    refine ⟨hheld, ?_, hrev hr.no_reversal, by omega⟩
    -- under challenge the window cannot have run
    by_contra hactive
    obtain ⟨-, -, hpos, hleft⟩ := hi.frozen (by simpa using hactive)
    omega
  · rw [if_neg hs] at helapsed
    obtain ⟨hmin, -⟩ := hwindow
    have hpos : 0 < minProtectionWindow := by decide
    omega

theorem Span.turn {g' : Facet} (hi : ClockLaw now n f) (hclock : now + maxProtectionWindow < 2 ^ 64)
    (h : Span now n f g) (ht : Turn now g g') : Span now n f g' := by
  obtain ⟨hle, hsame⟩ := ht.same h.law
  have hle' := h.settlements
  refine ⟨le_trans h.settlements hle, ?_, fun hs hheld => ?_, fun hr => ?_⟩
  · have hlaw := h.law.turn hclock ht
    by_cases hs : g'.settlements = f.settlements
    · have hs₁ : g'.settlements = g.settlements := by omega
      have hs₂ : g.settlements = f.settlements := by omega
      rw [if_pos hs]
      rwa [if_pos hs₁, if_pos hs₂] at hlaw
    · rw [if_neg hs]
      by_cases hs₁ : g'.settlements = g.settlements
      · have hs₂ : g.settlements ≠ f.settlements := by omega
        rwa [if_pos hs₁, if_neg hs₂] at hlaw
      · rwa [if_neg hs₁] at hlaw
  · have hs₁ : g'.settlements = g.settlements := by omega
    have hs₂ : g.settlements = f.settlements := by omega
    obtain ⟨hheld₁, hw₁, hr₁⟩ := hsame hs₁ hheld
    obtain ⟨hheld₂, hw₂, hr₂⟩ := h.same hs₂ hheld₁
    exact ⟨hheld₂, hw₁.trans hw₂, fun h => hr₂ (hr₁ h)⟩
  · by_cases hg : g.releases = f.releases
    · exact h.releasable_back hi (ht.releasable h.law (fun h => hr (h.trans hg)))
    · exact h.releasable hg

/-- **A sequence of turns** within one message. -/
theorem Span.of_turns (hi : ClockLaw now n f) (hclock : now + maxProtectionWindow < 2 ^ 64)
    (h : ReflTransGen (Turn now) f g) : Span now n f g := by
  induction h with
  | refl =>
    refine ⟨le_rfl, ?_, fun _ hheld => ⟨hheld, rfl, id⟩, fun hr => absurd rfl hr⟩
    rw [if_pos rfl]
    exact hi
  | tail _ ht ih => exact ih.turn hi hclock ht

end Law

/-! ## §3. What messages do to facets. -/

/-- The lot may be recalled, nothing else happens to its clock. -/
def Drift (f f' : Facet) : Prop :=
  ∃ life : Life, f' = { f with life := life } ∧
    (life = f.life ∨ f.life = .offered ∧ life = .absent)

theorem Drift.refl (f : Facet) : Drift f f := ⟨f.life, rfl, .inl rfl⟩

theorem Drift.trans {f g h : Facet} (hf : Drift f g) (hg : Drift g h) : Drift f h := by
  obtain ⟨l, rfl, hl⟩ := hf
  obtain ⟨l', rfl, hl'⟩ := hg
  refine ⟨l', rfl, ?_⟩
  rcases hl' with hl' | ⟨ho, ha⟩
  · exact hl' ▸ hl
  · rcases hl with hl | ⟨-, ha'⟩
    · exact .inr ⟨hl.symm.trans ho, ha⟩
    · rw [show l = .offered from ho] at ha'
      cases ha'

theorem Drift.turns {now : ℕ} {f f' : Facet} (h : Drift f f') : ReflTransGen (Turn now) f f' := by
  obtain ⟨l, rfl, rfl | ⟨ho, rfl⟩⟩ := h
  · exact .refl
  · exact .single (.recalled ho)

/-- Under the guard. -/
structure Still (w w' : World P) : Prop where
  now : w'.env.now = w.env.now
  locked : w'.locked = w.locked
  drift : ∀ t, Drift (facet w t) (facet w' t)

/-- At rest. -/
structure Turns (w w' : World P) : Prop where
  now : w'.env.now = w.env.now
  turns : ∀ t, ReflTransGen (Turn w.env.now) (facet w t) (facet w' t)

theorem Still.of_facet {w w' : World P} (hn : w'.env.now = w.env.now)
    (hl : w'.locked = w.locked) (hf : ∀ t, facet w' t = facet w t) : Still w w' :=
  ⟨hn, hl, fun t => by rw [hf t]; exact .refl _⟩

theorem Still.trans {u v w : World P} (h : Still u v) (k : Still v w) : Still u w :=
  ⟨k.now.trans h.now, k.locked.trans h.locked, fun t => (h.drift t).trans (k.drift t)⟩

theorem clockGuard : GuardPair (P := P) Still Turns where
  refl w := .of_facet rfl rfl fun _ => rfl
  trans h k := h.trans k
  locked h := h.locked
  rest h := ⟨h.now, fun t => (h.drift t).turns⟩
  rest_trans h k := ⟨k.now.trans h.now, fun t => (h.turns t).trans (by
    have hk := k.turns t
    rwa [h.now] at hk)⟩
  toggle _ _ := ⟨rfl, fun _ => .refl⟩

/-- One lot turns, the others drift. -/
theorem Turns.one {w w' : World P} (t : TokenId) (hn : w'.env.now = w.env.now)
    (ht : ReflTransGen (Turn w.env.now) (facet w t) (facet w' t))
    (hother : ∀ t', t' ≠ t → Drift (facet w t') (facet w' t')) : Turns w w' := by
  refine ⟨hn, fun t' => ?_⟩
  by_cases h : t' = t
  · subst h
    exact ht
  · exact (hother t' h).turns

theorem facet_emit {w : World P} {s : Address} {e : Event} {t : TokenId}
    (he : e.ofClock = false) : facet (w.emit s e) t = facet w t := by
  cases e <;> first | rfl | cases he

theorem Still.emit {w w' : World P} {s : Address} {e : Event} (h : Still w w')
    (he : e.ofClock = false) : Still w (w'.emit s e) :=
  h.trans (.of_facet rfl rfl fun _ => facet_emit he)

theorem Beside.still {w w' : World P} (h : Beside ExtSame w w') : Still w w' := by
  have hquiet : ∀ e : Event, e.beside = true → e.ofClock = false := by
    intro e he
    cases e <;> first | rfl | cases he
  refine .of_facet h.now h.locked fun t => ?_
  have hw : windowAfter t w'.log = windowAfter t w.log := h.reading fun s e older he => by
    cases e <;> first | rfl | cases he
  have hs : settlements t w'.log = settlements t w.log := h.reading fun s e older he => by
    cases e <;> first | rfl | cases he
  have hr : releases t w'.log = releases t w.log := h.reading fun s e older he => by
    cases e <;> first | rfl | cases he
  simp only [facet, isChallengeActive, lifeOf, hw, hs, hr, h.bonds, h.phase, h.committed, h.ext.1,
    h.ext.2]

section Writes

variable {w : World P} {t t' : TokenId}

@[simp] theorem lifeOf_setHold (h : Hold) : lifeOf (setHold w t h) t' = lifeOf w t' := rfl

@[simp] theorem lifeOf_setAuction (a : AuctionTerms) :
    lifeOf (setAuction w t a) t' = lifeOf w t' := rfl

@[simp] theorem lifeOf_setChallenge (c : Challenge) (total : ℕ) :
    lifeOf (w.setChallenge t c total) t' = lifeOf w t' := rfl

@[simp] theorem facet_setHold_self (h : Hold) :
    facet (setHold w t h) t = { facet w t with hold := h } := by
  simp only [facet, lifeOf_setHold]
  simp [setHold, isChallengeActive]

theorem facet_setHold_of_ne (h : Hold) (ht : t' ≠ t) : facet (setHold w t h) t' = facet w t' := by
  simp only [facet, lifeOf_setHold]
  simp [setHold, isChallengeActive, ht]

@[simp] theorem facet_setAuction_self (a : AuctionTerms) :
    facet (setAuction w t a) t = { facet w t with terms := a } := by
  simp only [facet, lifeOf_setAuction]
  simp [setAuction, isChallengeActive]

theorem facet_setAuction_of_ne (a : AuctionTerms) (ht : t' ≠ t) :
    facet (setAuction w t a) t' = facet w t' := by
  simp only [facet, lifeOf_setAuction]
  simp [setAuction, isChallengeActive, ht]

@[simp] theorem facet_setChallenge_self (c : Challenge) (total : ℕ) :
    facet (w.setChallenge t c total) t = { facet w t with active := c.openedAt != 0 } := by
  simp only [facet, lifeOf_setChallenge]
  simp [World.setChallenge, isChallengeActive]

theorem facet_setChallenge_of_ne (c : Challenge) (total : ℕ) (ht : t' ≠ t) :
    facet (w.setChallenge t c total) t' = facet w t' := by
  simp only [facet, lifeOf_setChallenge]
  simp [World.setChallenge, isChallengeActive, ht]

theorem facet_clear_self {ph : Phase} (hph : ph ≠ .offered) :
    facet (clearConsignment w t ph) t = { facet w t with life := .absent } := by
  simp [facet, clearConsignment, World.setPhase, World.setConsignment, World.setCommitted,
    World.setRecallRequest, isChallengeActive, lifeOf, hph]

theorem facet_clear_of_ne {ph : Phase} (ht : t' ≠ t) :
    facet (clearConsignment w t ph) t' = facet w t' := by
  simp [facet, clearConsignment, World.setPhase, World.setConsignment, World.setCommitted,
    World.setRecallRequest, isChallengeActive, lifeOf, ht]

@[simp] theorem lifeOf_emit (s : Address) (e : Event) : lifeOf (w.emit s e) t' = lifeOf w t' := rfl

theorem facet_released_self {s b : Address} :
    facet (w.emit s (.fundsReleased t b)) t =
      { facet w t with releases := (facet w t).releases + 1 } := by
  simp only [facet, lifeOf_emit]
  simp [World.emit, isChallengeActive, windowAfter, settlements, releases]

theorem facet_released_of_ne {s b : Address} (ht : t' ≠ t) :
    facet (w.emit s (.fundsReleased t b)) t' = facet w t' := by
  simp only [facet, lifeOf_emit]
  simp [World.emit, isChallengeActive, windowAfter, settlements, releases, Ne.symm ht]

/-- A lot that is not committed may be cleared at any time. -/
theorem clear_still {ph : Phase} (hph : ph ≠ .offered) (ho : isOfferedActionable w t = true) :
    Still w (clearConsignment w t ph) := by
  simp only [isOfferedActionable, Bool.and_eq_true, beq_iff_eq, Bool.not_eq_true'] at ho
  refine ⟨rfl, rfl, fun t' => ?_⟩
  by_cases ht : t' = t
  · subst ht
    have hlife : (facet w t').life = .offered := by simp [facet, lifeOf, ho]
    exact ⟨.absent, facet_clear_self hph, .inr ⟨hlife, rfl⟩⟩
  · rw [facet_clear_of_ne ht]
    exact .refl _

end Writes

section Messages

variable [Erc721 P] {w w' : World P} {t : TokenId} {sender : Address}
  {rs : ℕ → Reply P AscendingStorage}

theorem guarded_still : HasSides (P := P) hooks ExtSame (Guarded Still) :=
  ⟨clockGuard.guarded_refl, clockGuard.guarded_trans,
    fun h _ => Beside.still (h.beside extView.refl)⟩

theorem respects_sides : HasSides (P := P) hooks ExtSame (Respects Still Turns) :=
  ⟨clockGuard.respects_refl, clockGuard.respects_trans,
    fun h => clockGuard.of (Beside.still (h.beside extView.refl))⟩

/-- Clear the hold, split, close: the common tail of the exits. -/
theorem payHold_facets {gross : ℕ} {reason : CloseReason} (hl : w.locked = true)
    (hr : ∀ i, Keeps (Guarded Still) (rs i))
    (h : paySplit (setHold w t .empty) sender t gross reason (rs 0) (rs 1) (rs 2) = .ok w') :
    w'.env.now = w.env.now ∧ facet w' t = { facet w t with hold := .empty, life := .absent } ∧
      ∀ t', t' ≠ t → Drift (facet w t') (facet w' t') := by
  obtain ⟨-, split, u, -, hpaid, rfl⟩ := paySplit_keeps guarded_still (hr 0) (hr 1) (hr 2) h
  have hstill : Still (setHold w t .empty) u := hpaid hl
  refine ⟨hstill.now, ?_, fun t' ht => ?_⟩
  · obtain ⟨life, hfacet, -⟩ := hstill.drift t
    unfold close
    rw [facet_emit rfl, facet_clear_self (by decide), facet_emit rfl, hfacet,
      facet_setHold_self]
  · have hdrift := hstill.drift t'
    unfold close
    rw [facet_emit rfl, facet_clear_of_ne ht, facet_emit rfl]
    rwa [facet_setHold_of_ne _ ht] at hdrift

theorem confirmReceiptBody_turns (hl : w.locked = true) (hr : ∀ i, Keeps (Guarded Still) (rs i))
    (h : confirmReceiptBody w sender t rs = .ok w') : Turns w w' := by
  simp only [confirmReceiptBody, bind_ok, revertIf_ok, exists_const, pure_ok] at h
  obtain ⟨hold, hh, -, hactive, -, u, hpay, rfl⟩ := h
  obtain ⟨hheld, rfl⟩ := requireActiveHold_ok hh
  obtain ⟨hn, hself, hother⟩ := payHold_facets hl hr hpay
  have hoff : (facet w t).active = false := Bool.eq_false_of_not_eq_true hactive
  have hended : Turn w.env.now (facet w t) _ := .ended hheld (.inl rfl)
  refine .one t hn ?_ fun t' ht => ?_
  · rw [facet_emit rfl, hself]
    rw [← hoff] at hended
    exact .single hended
  · rw [facet_emit rfl]
    exact hother t' ht

theorem releaseFundsBody_turns (hl : w.locked = true) (hr : ∀ i, Keeps (Guarded Still) (rs i))
    (h : releaseFundsBody w sender t rs = .ok w') : Turns w w' := by
  simp only [releaseFundsBody, bind_ok, revertIf_ok, exists_const, pure_ok] at h
  obtain ⟨hold, hh, hactive, hpending, hdue, u, hpay, rfl⟩ := h
  obtain ⟨hheld, rfl⟩ := requireActiveHold_ok hh
  obtain ⟨hn, hself, hother⟩ := payHold_facets hl hr hpay
  refine .one t hn ?_ fun t' ht => ?_
  · rw [facet_released_self, hself]
    exact .single (.released hheld (Bool.eq_false_of_not_eq_true hactive)
      (Bool.eq_false_of_not_eq_true hpending) (not_lt.mp hdue))
  · rw [facet_released_of_ne ht]
    exact hother t' ht

theorem abandonReversalBody_turns (hl : w.locked = true) (hr : ∀ i, Keeps (Guarded Still) (rs i))
    (h : abandonReversalBody w sender t rs = .ok w') : Turns w w' := by
  simp only [abandonReversalBody, bind_ok, revertIf_ok, exists_const, pure_ok] at h
  obtain ⟨hold, hh, hpending, -, u, hpay, rfl⟩ := h
  obtain ⟨hheld, rfl⟩ := requireActiveHold_ok hh
  obtain ⟨hn, hself, hother⟩ := payHold_facets hl hr hpay
  refine .one t hn ?_ fun t' ht => ?_
  · rw [facet_emit rfl, hself]
    exact .single (.ended hheld (.inr ⟨rfl, Bool.eq_true_of_not_eq_false hpending⟩))
  · rw [facet_emit rfl]
    exact hother t' ht

/-- The passport comes back, the buyer is refunded and the lot ends. -/
theorem completeReversalBody_turns (hl : w.locked = true)
    (hr : ∀ i, Keeps (Guarded Still) (rs i))
    (h : completeReversalBody w sender t rs = .ok w') : Turns w w' := by
  simp only [completeReversalBody, bind_ok, revertIf_ok, exists_const, pure_ok] at h
  obtain ⟨hold, hh, hpending, -, _, -, -, u, hu, v, hv, x, hx, rfl⟩ := h
  obtain ⟨hheld, rfl⟩ := requireActiveHold_ok hh
  obtain ⟨y, hy, rfl⟩ := terminateToOwner_keeps guarded_still (hr 1) hx
  have htaken : Guarded Still (setHold w t .empty) u := takeCustody_keeps guarded_still hu
  have hpaid : Guarded Still u v := payOut_keeps guarded_still (hr 0) hv
  have hto : Still (setHold w t .empty) v := clockGuard.guarded_trans htaken hpaid hl
  have hover : Still (clearConsignment v t .returned) y := hy (hto.locked.trans hl)
  have hnow : y.env.now = w.env.now := hover.now.trans hto.now
  refine .one t hnow ?_ fun t' ht => ?_
  · obtain ⟨life, hf, -⟩ := hto.drift t
    obtain ⟨life', hf', hlife'⟩ := hover.drift t
    have habsent : life' = .absent := by
      rcases hlife' with h | ⟨h, -⟩
      · rw [h, facet_clear_self (by decide)]
      · rw [facet_clear_self (by decide)] at h
        cases h
    rw [facet_emit rfl, facet_emit rfl, hf', habsent, facet_clear_self (by decide), hf,
      facet_setHold_self]
    exact .single (.ended hheld (.inr ⟨rfl, Bool.eq_true_of_not_eq_false hpending⟩))
  · rw [facet_emit rfl, facet_emit rfl]
    have hto' := hto.drift t'
    have hover' := hover.drift t'
    rw [facet_setHold_of_ne _ ht] at hto'
    rw [facet_clear_of_ne ht] at hover'
    exact hto'.trans hover'

omit [Erc721 P] in
/-- Settling: the terms go, the hold starts. -/
theorem settle_facet {s : Address} {p : P} {hold : Hold} {b : Address} {g e : ℕ} :
    facet ((setHold ((setAuction w t .empty).moved .self .self b t p) t hold).emit s
        (.settled t b g e)) t =
      { facet w t with
        hold := hold, terms := .empty, settlements := (facet w t).settlements + 1 } := by
  have hlife : lifeOf ((setHold ((setAuction w t .empty).moved .self .self b t p) t hold).emit s
      (.settled t b g e)) t = lifeOf w t := rfl
  simp only [facet, hlife]
  simp [setHold, setAuction, World.moved, World.setErc721, World.emit, isChallengeActive,
    windowAfter, settlements, releases]

omit [Erc721 P] in
theorem settle_facet_of_ne {s : Address} {p : P} {hold : Hold} {b : Address} {g e : ℕ}
    {t' : TokenId} (ht : t' ≠ t) :
    facet ((setHold ((setAuction w t .empty).moved .self .self b t p) t hold).emit s
      (.settled t b g e)) t' = facet w t' := by
  have hlife : lifeOf ((setHold ((setAuction w t .empty).moved .self .self b t p) t hold).emit s
      (.settled t b g e)) t' = lifeOf w t' := rfl
  simp only [facet, hlife]
  simp [setHold, setAuction, World.moved, World.setErc721, World.emit, isChallengeActive,
    windowAfter, settlements, releases, ht, Ne.symm ht]

theorem settleBody_turns (h : settleBody w sender t = .ok w') : Turns w w' := by
  simp only [settleBody, bind_ok, revertIf_ok, orRevert_ok, exists_const, pure_ok] at h
  obtain ⟨hbinding, hends, hover, hfree, p, -, rfl⟩ := h
  have hbinding : isBinding w t = true := Bool.eq_true_of_not_eq_false hbinding
  simp only [isBinding, Bool.and_eq_true, beq_iff_eq] at hbinding
  have hlife : (facet w t).life = .bound := by simp [facet, lifeOf, hbinding]
  have hnow : 0 < w.env.now := by omega
  refine .one t rfl ?_ fun t' ht => ?_
  · rw [settle_facet]
    exact .single (.settled hlife (not_not.mp hfree) hnow rfl rfl rfl rfl)
  · rw [settle_facet_of_ne ht]
    exact .refl _

/-- The bond of a challenge goes out: the lot is no longer under challenge. -/
theorem routeBond_facets {w₁ w₂ : World P} {c : Challenge} {recipient judgeCaller : Address}
    {r : Reply P AscendingStorage} (hl : w.locked = true) (hr : Keeps (Guarded Still) r)
    (hc : requireActiveChallenge w t = .ok c)
    (hclear : clearChallengeAccounting w t c.bondAmount = .ok w₁)
    (hpay : payBond w₁ sender recipient judgeCaller c.bondAmount r = .ok w₂) :
    (facet w t).active = true ∧ w₂.env.now = w.env.now ∧ w₂.locked = true ∧
      (∃ life, Drift (facet w t) { facet w t with life := life } ∧
        facet w₂ t = { facet w t with active := false, life := life }) ∧
      ∀ t', t' ≠ t → Drift (facet w t') (facet w₂ t') := by
  obtain ⟨hactive, rfl⟩ := requireActiveChallenge_ok hc
  simp only [clearChallengeAccounting, bind_ok, checkedSub_ok, pure_ok] at hclear
  obtain ⟨total, -, rfl⟩ := hclear
  simp only [payBond, bind_ok, revertIf_ok, exists_const] at hpay
  obtain ⟨-, hpay⟩ := hpay
  have hstill : Still (w.setChallenge t .empty total) w₂ := payNative_keeps guarded_still hr hpay hl
  refine ⟨hactive, hstill.now, hstill.locked.trans hl, ?_, fun t' ht => ?_⟩
  · obtain ⟨life, hf, hlife⟩ := hstill.drift t
    rw [facet_setChallenge_self] at hf hlife
    exact ⟨life, ⟨life, rfl, hlife⟩, hf⟩
  · have hdrift := hstill.drift t'
    rwa [facet_setChallenge_of_ne _ _ ht] at hdrift

/-- The hold of a failed challenge is paid out, once its end is announced. -/
theorem challengeTerminal_turns {u : World P} {life : Life} {s : Address} {e : Event}
    (he : e.ofClock = false) (hl : u.locked = true) (hr : ∀ i, Keeps (Guarded Still) (rs i))
    (hn : u.env.now = w.env.now)
    (hself : facet u t = { facet w t with active := false, life := life })
    (hother : ∀ t', t' ≠ t → Drift (facet w t') (facet u t'))
    (h : challengeTerminal (u.emit s e) sender t rs = .ok w') : Turns w w' := by
  simp only [challengeTerminal, bind_ok] at h
  obtain ⟨hold, hh, hpay⟩ := h
  obtain ⟨hheld, rfl⟩ := requireActiveHold_ok hh
  obtain ⟨hn', hself', hother'⟩ := payHold_facets (w := u.emit s e) hl hr hpay
  have hhold : u.ext.holds t = (facet w t).hold := congrArg Facet.hold hself
  have hheld : (u.ext.holds t).buyer ≠ .zero := hheld
  rw [hhold] at hheld
  refine .one t (hn'.trans hn) ?_ fun t' ht => ?_
  · rw [hself', facet_emit he, hself]
    exact .single (.ended hheld (.inl rfl))
  · have hdrift := hother' t' ht
    rw [facet_emit he] at hdrift
    exact (hother t' ht).trans hdrift

theorem withdrawBody_turns (hl : w.locked = true) (hr : ∀ i, Keeps (Guarded Still) (rs i))
    (h : withdrawBody challengeHooks w sender t rs = .ok w') : Turns w w' := by
  simp only [withdrawBody, bind_ok, revertIf_ok, exists_const] at h
  obtain ⟨-, -, c, hc, -, -, -, w₁, hclear, w₂, hpay, h⟩ := h
  obtain ⟨hactive, hn, -, ⟨life, hdrift, hself⟩, hother⟩ :=
    routeBond_facets hl (hr 0) hc hclear hpay
  obtain rfl := Except.ok.inj h
  refine .one t hn ?_ fun t' ht => ?_
  · have hthawed : facet (onWithdrawn (w₂.emit sender (.challengeWithdrawn t c.challenger
        c.bondAmount c.windowDuration c.openedAt)) t) t =
        { facet w₂ t with hold := (facet w₂ t).hold.thaw w₂.env.now } :=
      facet_setHold_self _
    rw [hthawed, hself, hn]
    exact hdrift.turns.tail (.thawed hactive)
  · have hrest : facet (onWithdrawn (w₂.emit sender (.challengeWithdrawn t c.challenger
        c.bondAmount c.windowDuration c.openedAt)) t) t' = facet w₂ t' :=
      facet_setHold_of_ne _ ht
    rw [hrest]
    exact hother t' ht

theorem judgeBody_turns {outcome : JudgeOutcome} (hl : w.locked = true)
    (hr : ∀ i, Keeps (Guarded Still) (rs i))
    (h : judgeBody challengeHooks w sender t outcome rs = .ok w') : Turns w w' := by
  simp only [judgeBody, bind_ok, revertIf_ok, exists_const] at h
  obtain ⟨-, -, c, hc, -, -, -, -, w₁, hclear, w₂, hpay, h⟩ := h
  obtain ⟨hactive, hn, hl₂, ⟨life, hdrift, hself⟩, hother⟩ :=
    routeBond_facets hl (hr 0) hc hclear hpay
  cases outcome with
  | upheld =>
    obtain rfl := Except.ok.inj h
    refine .one t hn ?_ fun t' ht => ?_
    · have hreversed : facet (onUpheld (w₂.emit sender (.challengeJudged t c.challenger sender
          .upheld c.challenger c.bondAmount c.windowDuration c.openedAt)) sender t) t =
          { facet w₂ t with
            hold := (facet w₂ t).hold.reverse
              (u64 (w₂.env.now + (w₂.ext.holds t).abandonmentWindow)) } :=
        facet_setHold_self _
      show ReflTransGen _ _ (facet (onUpheld (w₂.emit sender (.challengeJudged t c.challenger
        sender .upheld c.challenger c.bondAmount c.windowDuration c.openedAt)) sender t) t)
      rw [hreversed, hself]
      exact hdrift.turns.tail (.upheld hactive)
    · have hrest : facet (onUpheld (w₂.emit sender (.challengeJudged t c.challenger sender
          .upheld c.challenger c.bondAmount c.windowDuration c.openedAt)) sender t) t' =
          facet w₂ t' := facet_setHold_of_ne _ ht
      show Drift _ (facet (onUpheld (w₂.emit sender (.challengeJudged t c.challenger
        sender .upheld c.challenger c.bondAmount c.windowDuration c.openedAt)) sender t) t')
      rw [hrest]
      exact hother t' ht
  | rejected =>
    exact challengeTerminal_turns (by rfl) hl₂ (fun i => hr (i + 1)) hn hself hother h

theorem concludeBody_turns (hl : w.locked = true) (hr : ∀ i, Keeps (Guarded Still) (rs i))
    (h : concludeBody challengeHooks w sender t rs = .ok w') : Turns w w' := by
  simp only [concludeBody, bind_ok] at h
  obtain ⟨-, -, c, hc, -, -, w₁, hclear, w₂, hpay, h⟩ := h
  obtain ⟨-, hn, hl₂, ⟨life, -, hself⟩, hother⟩ := routeBond_facets hl (hr 0) hc hclear hpay
  exact challengeTerminal_turns (by rfl) hl₂ (fun i => hr (i + 1)) hn hself hother h

omit [Erc721 P] in
theorem openBody_turns {value : ℕ} (h : openBody w sender value t = .ok w') : Turns w w' := by
  simp only [openBody, freezeForChallenge, openChallenge, bind_ok, revertIf_ok, exists_const,
    checkedAdd_ok, pure_ok] at h
  obtain ⟨u, ⟨hold, hh, hpending, -, hdue, rfl⟩, -, -, -, hinact, -, -, total, -, rfl⟩ := h
  obtain ⟨hheld, rfl⟩ := requireActiveHold_ok hh
  refine .one t rfl ?_ fun t' ht => ?_
  · rw [facet_emit rfl, facet_setChallenge_self, facet_setHold_self]
    exact .single (.frozen hheld (Bool.eq_false_of_not_eq_true hpending) (not_le.mp hdue)
      (Bool.eq_false_of_not_eq_true hinact))
  · rw [facet_emit rfl, facet_setChallenge_of_ne _ _ ht, facet_setHold_of_ne _ ht]
    exact .refl _

omit [Erc721 P] in
theorem applyExtension_window (now : ℕ) (a : AuctionTerms) :
    (applyExtension now a).protectionWindow = a.protectionWindow := by
  unfold applyExtension
  split
  · rfl
  · split <;> rfl

/-- A bid writes the terms and binds the lot. -/
theorem bidBody_turns {value amount : ℕ} (hl : w.locked = true)
    (hr : ∀ i, Keeps (Guarded Still) (rs i)) (hs : sender ≠ .zero)
    (h : bidBody w sender value t amount rs = .ok w') : Turns w w' := by
  simp only [bidBody, bind_ok, revertIf_ok, exists_const] at h
  obtain ⟨-, -, hfree, -, -, -, -, -, u, hu, v, hv, h⟩ := h
  have hpulled : Still w u := by
    unfold pullBid at hu
    split at hu
    · simp only [bind_ok, revertIf_ok, exists_const, pure_ok] at hu
      obtain ⟨-, rfl⟩ := hu
      exact .of_facet rfl rfl fun _ => rfl
    · simp only [bind_ok, revertIf_ok, exists_const] at hu
      exact pullErc20_keeps guarded_still (hr 0) hu.2 hl
  set a := applyExtension v.env.now
    { v.ext.auction t with highestBidder := sender, highestBid := amount } with ha
  have hbidder : a.highestBidder ≠ .zero := by
    rw [ha, (applyExtension_bid _ _).1]
    exact hs
  have hwindow : a.protectionWindow = (v.ext.auction t).protectionWindow := by
    rw [ha, applyExtension_window]
  set x := (setAuction v t a).emit sender (.bidPlaced t sender amount a.endsAt) with hx
  obtain ⟨life, hf, hlife⟩ := hpulled.drift t
  have hfreeu : (facet u t).hold.buyer = .zero := by
    rw [hf]
    exact not_not.mp hfree
  have hplaced : Turns u x ∧ x.locked = true := by
    split at hv
    · simp only [bind_ok, pure_ok] at hv
      obtain ⟨y, hy, rfl⟩ := hv
      obtain ⟨ho, rfl⟩ := enterCommittedNotOffered_ok hy
      simp only [isOfferedActionable, Bool.and_eq_true, beq_iff_eq, Bool.not_eq_true'] at ho
      have hoffered : (facet u t).life = .offered := by simp [facet, lifeOf, ho]
      refine ⟨.one t rfl ?_ fun t' ht => ?_, hpulled.locked.trans hl⟩
      · have hfacet : facet x t = { facet u t with terms := a, life := .bound } := by
          rw [hx, facet_emit rfl]
          simp only [facet, lifeOf_setAuction]
          simp [setAuction, World.setCommitted, World.setRecallRequest, isChallengeActive, lifeOf,
            ho]
        rw [hfacet]
        refine .single (.bid hoffered hfreeu ?_ hbidder)
        rw [hwindow]
        simp [setAuction, World.setCommitted, World.setRecallRequest, facet]
      · have hfacet : facet x t' = facet u t' := by
          rw [hx, facet_emit rfl, facet_setAuction_of_ne _ ht, facet_setAuction_of_ne _ ht]
          simp [facet, World.setCommitted, World.setRecallRequest, isChallengeActive, lifeOf, ht]
        rw [hfacet]
        exact .refl _
    · rename_i hprev
      obtain rfl := pure_ok.mp hv
      refine ⟨.one t rfl ?_ fun t' ht => ?_, hpulled.locked.trans hl⟩
      · rw [hx, facet_emit rfl, facet_setAuction_self]
        exact .single (.outbid hprev hwindow hbidder)
      · rw [hx, facet_emit rfl, facet_setAuction_of_ne _ ht]
        exact .refl _
  have hbid : Turns w x := clockGuard.rest_trans (clockGuard.rest hpulled) hplaced.1
  split at h
  · simp only [bind_ok, pure_ok] at h
    obtain ⟨y, hy, rfl⟩ := h
    have hrefunded : Still x y := payOut_keeps guarded_still (hr 1) hy hplaced.2
    exact clockGuard.rest_trans hbid (clockGuard.rest (hrefunded.emit rfl))
  · obtain rfl := pure_ok.mp h
    exact hbid

/-- An opening, once the passport is in custody. -/
theorem writeOpen_turns {u : World P} {owner agent asset : Address} {denomination : Denomination}
    {floor reserve duration protectionWindow : ℕ} {comp : Compensation}
    (hl : w.locked = true) (hlive : isLiveConsignment w t = false)
    (hbounds : ¬(protectionWindow < minProtectionWindow ∨ protectionWindow > maxProtectionWindow))
    (htaken : takeCustody w t owner = .ok u) :
    Turns w (writeAuctionTerms (writeOpen u sender t owner agent asset denomination floor comp
      reserve) sender t duration protectionWindow reserve) := by
  have hstill : Still w u := takeCustody_keeps guarded_still htaken hl
  obtain ⟨hmin, hmax⟩ := not_or.mp hbounds
  obtain ⟨life, hf, hlife⟩ := hstill.drift t
  have hgone : (facet w t).life = .absent := by
    simp only [isLiveConsignment, beq_eq_false_iff_ne, ne_eq] at hlive
    simp [facet, lifeOf, hlive]
  have habsent : (facet u t).life = .absent := by
    rw [hf]
    rcases hlife with h | ⟨h, -⟩
    · exact h.trans hgone
    · rw [hgone] at h
      cases h
  refine clockGuard.rest_trans (clockGuard.rest hstill) (.one t rfl ?_ fun t' ht => ?_)
  · let terms : AuctionTerms :=
      { duration := duration, endsAt := 0, extensionWindow := extensionWindow,
        protectionWindow := protectionWindow, abandonmentWindow := abandonmentWindow,
        minIncrementBps := minIncrementBps, highestBidder := .zero, highestBid := 0 }
    have hopened : Turn u.env.now (facet u t)
        { facet u t with terms := terms, life := .offered, window := protectionWindow } :=
      .opened habsent (not_lt.mp hmin) (not_lt.mp hmax) rfl rfl
    convert ReflTransGen.single hopened using 1
    simp [facet, writeAuctionTerms, writeOpen, setAuction, World.emit, World.setRecallRequest,
      World.setPhase, World.setCommitted, World.setConsignment, isChallengeActive, lifeOf,
      windowAfter, settlements, releases, terms]
  · have hrest : facet (writeAuctionTerms (writeOpen u sender t owner agent asset denomination
        floor comp reserve) sender t duration protectionWindow reserve) t' = facet u t' := by
      simp [facet, writeAuctionTerms, writeOpen, setAuction, World.emit, World.setRecallRequest,
        World.setPhase, World.setCommitted, World.setConsignment, isChallengeActive, lifeOf,
        windowAfter, settlements, releases, ht, Ne.symm ht]
    rw [hrest]
    exact .refl _

omit [Erc721 P] in
theorem requireAuctionOpenParams_ok {reserve duration protectionWindow : ℕ} {asset : Address}
    {enabled : Bool} {u : Unit}
    (h : requireAuctionOpenParams reserve duration protectionWindow asset enabled = .ok u) :
    ¬(protectionWindow < minProtectionWindow ∨ protectionWindow > maxProtectionWindow) := by
  simp only [requireAuctionOpenParams, bind_ok, revertIf_ok, exists_const] at h
  exact h.2.2.1

theorem openAscendingDirectBody_turns {asset : Address} {reserve duration protectionWindow : ℕ}
    (hl : w.locked = true)
    (h : openAscendingDirectBody w sender t asset reserve duration protectionWindow = .ok w') :
    Turns w w' := by
  simp only [openAscendingDirectBody, bind_ok, passportOwner_ok, revertIf_ok, pure_ok,
    exists_const] at h
  obtain ⟨-, -, owner, -, -, -, -, _, hcan, -, -, _, hparams, u, hu, rfl⟩ := h
  exact writeOpen_turns hl (isLive_of_requireCanOpen hcan) (requireAuctionOpenParams_ok hparams) hu

theorem openAscendingFromMandateBody_turns {reserve duration protectionWindow : ℕ}
    (hl : w.locked = true)
    (h : openAscendingFromMandateBody w sender t reserve duration protectionWindow = .ok w') :
    Turns w w' := by
  simp only [openAscendingFromMandateBody, bind_ok, passportOwner_ok, revertIf_ok, pure_ok,
    exists_const] at h
  obtain ⟨-, -, m, -, -, owner, -, -, -, _, hcan, -, -, _, hparams, -, -, u, hu, rfl⟩ := h
  exact writeOpen_turns hl (isLive_of_requireCanOpen hcan) (requireAuctionOpenParams_ok hparams) hu

omit [Erc721 P] in
/-- A lot returned to its owner drifts. -/
theorem returned_still {u : World P} {reason : CloseReason}
    (ho : isOfferedActionable w t = true) (h : Still (clearConsignment w t .returned) u) :
    Still w (u.emit sender (.consignmentClosed t reason)) :=
  ((clear_still (by decide) ho).trans h).emit rfl

/-- A forced recall hands the passport over without a callback, with the guard or without. -/
theorem forceRecall_turns {r : Reply P AscendingStorage}
    (hr : Keeps (Respects Still Turns) r) (h : forceRecall hooks w sender t r = .ok w') :
    Respects Still Turns w w' := by
  simp only [forceRecall, bind_ok, revertIf_ok, exists_const] at h
  obtain ⟨hoffered, -, -, -, hterm⟩ := h
  obtain ⟨u, hu, rfl⟩ := terminateToOwner_keeps respects_sides hr hterm
  have ho : isOfferedActionable (w.setRecallRequest t 0) t = true := by
    simp only [isOfferedAgented, Bool.and_eq_true, Bool.not_eq_false] at hoffered
    exact hoffered.1
  have hset : Respects Still Turns w (w.setRecallRequest t 0) := respects_sides.side (.recallSet t 0)
  have hcleared : Respects Still Turns (w.setRecallRequest t 0)
      (clearConsignment (w.setRecallRequest t 0) t .returned) :=
    clockGuard.of (clear_still (by decide) ho)
  have hannounced : Respects Still Turns u (u.emit sender (.consignmentClosed t .recalled)) :=
    clockGuard.of ((clockGuard.refl u).emit rfl)
  exact respects_sides.trans (respects_sides.trans hset hcleared)
    (respects_sides.trans hu hannounced)

/-- **Every accepted message turns the facets**, whatever its callees send in. -/
theorem exec_turns {d : ℕ} {m : Msg Call} (h : mode.exec d m w = .ok w') :
    Respects Still Turns w w' := by
  refine Mode.exec_keeps (R := Respects Still Turns) clockGuard.respects_refl
    clockGuard.respects_trans ?_ ?_ d m w w' h
  · intro o u v ho
    exact respects_sides.side (.outside o ho)
  · intro s value c rs u v hrs hd
    have hg : ∀ i, Keeps (Guarded Still) (rs i) := fun i => Respects.guarded (hrs i)
    have hvalue : Respects Still Turns u (u.receiveValue value) :=
      clockGuard.of (.of_facet rfl rfl fun _ => rfl)
    cases c
    case bid t amount =>
      simp only [mode, dispatch] at hd
      exact clockGuard.respects_trans hvalue
        (clockGuard.nonReentrant (fun hu => bidBody_turns rfl hg s.ne_zero hu) hd)
    case «open» t =>
      simp only [mode, dispatch] at hd
      exact clockGuard.respects_trans hvalue
        (clockGuard.nonReentrant (fun hu => openBody_turns hu) hd)
    all_goals
      simp only [mode, dispatch, dispatchPlain, bind_ok] at hd
      obtain ⟨-, -, hd⟩ := hd
    case base c =>
      exact clockGuard.execBase (fun h => Beside.still (h.beside extView.refl))
        (fun ho hu => returned_still ho hu) hrs (fun t _ hrec => forceRecall_turns (hrs 0) hrec) hd
    case setChallengeBond b =>
      simp only [setChallengeBond, bind_ok, pure_ok] at hd
      obtain ⟨-, -, -, -, rfl⟩ := hd
      have hset : Respects Still Turns u { u with ext := { u.ext with challengeBond := b } } :=
        respects_sides.side (.configured ⟨rfl, rfl⟩)
      exact respects_sides.trans hset (respects_sides.side (.notice s.addr _ rfl))
    case approvePaymentToken token =>
      simp only [approvePaymentToken, bind_ok, revertIf_ok, exists_const, pure_ok] at hd
      obtain ⟨-, -, -, x, hx, -, -, rfl⟩ := hd
      have hset : Respects Still Turns x (setPaymentToken x token true) :=
        respects_sides.side (.configured ⟨rfl, rfl⟩)
      have hprobed := requireConforming_keeps respects_sides (hrs 0) hx
      exact respects_sides.trans (respects_sides.trans hprobed hset)
        (respects_sides.side (.notice s.addr _ rfl))
    case revokePaymentToken token =>
      simp only [revokePaymentToken, bind_ok, revertIf_ok, exists_const, pure_ok] at hd
      obtain ⟨-, rfl⟩ := hd
      have hset : Respects Still Turns u (setPaymentToken u token false) :=
        respects_sides.side (.configured ⟨rfl, rfl⟩)
      exact respects_sides.trans hset (respects_sides.side (.notice s.addr _ rfl))
    case openAscendingDirect =>
      exact clockGuard.nonReentrant (fun hu => openAscendingDirectBody_turns rfl hu) hd
    case openAscendingFromMandate =>
      exact clockGuard.nonReentrant (fun hu => openAscendingFromMandateBody_turns rfl hu) hd
    case settle => exact clockGuard.nonReentrant (fun hu => settleBody_turns hu) hd
    case confirmReceipt =>
      exact clockGuard.nonReentrant (fun hu => confirmReceiptBody_turns rfl hg hu) hd
    case releaseFunds =>
      exact clockGuard.nonReentrant (fun hu => releaseFundsBody_turns rfl hg hu) hd
    case completeReversal =>
      exact clockGuard.nonReentrant (fun hu => completeReversalBody_turns rfl hg hu) hd
    case abandonReversal =>
      exact clockGuard.nonReentrant (fun hu => abandonReversalBody_turns rfl hg hu) hd
    case withdraw => exact clockGuard.nonReentrant (fun hu => withdrawBody_turns rfl hg hu) hd
    case judge => exact clockGuard.nonReentrant (fun hu => judgeBody_turns rfl hg hu) hd
    case conclude => exact clockGuard.nonReentrant (fun hu => concludeBody_turns rfl hg hu) hd

end Messages

/-! ## §4. The law over runs. -/

variable [Erc721 P] {w w' : World P} {n : TokenId → ℕ}

/-- How long the hold of each lot has been unfrozen: time that passes counts while it is, and a
    settlement starts the count again. -/
def countAfter (w : World P) (n : TokenId → ℕ) (w' : World P) : Action Call → TokenId → ℕ
  | .tick dt, t => if (facet w t).unfrozen then n t + dt else n t
  | .msg _, t => if settlements t w'.log = settlements t w.log then n t else 0

/-- A step of the mode with the count beside it. -/
def timedStep (s : World P × (TokenId → ℕ)) (a : Action Call) :
    Except Error (World P × (TokenId → ℕ)) := do
  let w ← mode.step s.1 a
  pure (w, countAfter s.1 s.2 w a)

def TimedGenesis (s : World P × (TokenId → ℕ)) : Prop := Genesis s.1 ∧ s.2 = fun _ => 0

/-- The protection time a hold has left: stored while it is frozen, else up to its deadline. -/
def remaining (w : World P) (t : TokenId) : ℤ :=
  if isChallengeActive w t then (w.ext.holds t).frozenRemaining
  else ((w.ext.holds t).protectionEndsAt : ℤ) - w.env.now

/-- The invariant: a contract at rest, every lot under the law of its clock. -/
structure Clocks (s : World P × (TokenId → ℕ)) : Prop where
  locked : s.1.locked = false
  law : s.1.env.now + maxProtectionWindow < 2 ^ 64 →
    ∀ t, ClockLaw s.1.env.now (s.2 t) (facet s.1 t)

theorem Clocks.init {s : World P × (TokenId → ℕ)} (h : TimedGenesis s) : Clocks s := by
  obtain ⟨⟨env, pr, fee, fr, bond, window, own, gd, w₀, b, tb, -, hinit, hw⟩, -⟩ := h
  simp only [initializeStorage, bind_ok, revertIf_ok, pure_ok, exists_const] at hinit
  obtain ⟨-, -, _, -, -, -, -, -, rfl⟩ := hinit
  obtain ⟨w, n⟩ := s
  obtain rfl : w = _ := hw
  exact ⟨rfl, fun _ t => .of_free rfl rfl (by simp [facet, lifeOf, World.setAcct]; decide)
    (fun h => absurd (by rfl) h)⟩

theorem Clocks.step {s s' : World P × (TokenId → ℕ)} {a : Action Call} (hi : Clocks s)
    (h : timedStep s a = .ok s') : Clocks s' := by
  obtain ⟨w, n⟩ := s
  simp only [timedStep, bind_ok, pure_ok] at h
  obtain ⟨w', hs, rfl⟩ := h
  cases a with
  | msg m =>
    obtain ⟨hturns, hl⟩ := (exec_turns hs).at_rest hi.locked
    refine ⟨hl, fun hclock t => ?_⟩
    rw [hturns.now] at hclock ⊢
    exact (Span.of_turns (hi.law hclock t) hclock (hturns.turns t)).law
  | tick dt =>
    obtain rfl : _ = w' := Except.ok.inj hs
    refine ⟨hi.locked, fun hclock t => ?_⟩
    have hearlier : w.env.now + maxProtectionWindow < 2 ^ 64 :=
      lt_of_le_of_lt (by simp) hclock
    exact (hi.law hearlier t).tick dt

/-- **The clock of a hold.**  In every reachable state the time a hold has been unfrozen and
    the protection time it has left make up the lot's protection window, and it is frozen
    exactly while under challenge; the deadline has come exactly when the whole window has
    been spent unfrozen; and a step that releases funds finds the lot held, neither frozen nor
    in reversal, with its window spent. -/
theorem hold_clock (h : Reachable timedStep TimedGenesis (w, n))
    (hclock : w.env.now + maxProtectionWindow < 2 ^ 64) :
    (∀ t, (w.ext.holds t).buyer ≠ .zero → (w.ext.holds t).reversalPending = false →
      (n t : ℤ) + remaining w t = windowAfter t w.log ∧
      (isChallengeActive w t = true ↔ (w.ext.holds t).frozenRemaining ≠ 0) ∧
      (isChallengeActive w t = false →
        ((w.ext.holds t).protectionEndsAt ≤ w.env.now ↔ windowAfter t w.log ≤ n t))) ∧
    ∀ t a w', mode.step w a = .ok w' → releases t w'.log ≠ releases t w.log →
      (w.ext.holds t).buyer ≠ .zero ∧ isChallengeActive w t = false ∧
        (w.ext.holds t).reversalPending = false ∧ windowAfter t w.log ≤ n t := by
  have hi : Clocks (w, n) := h.invariant (fun _ => Clocks.init) fun _ _ _ hi hs => hi.step hs
  refine ⟨fun t hheld hpending => ?_, fun t a w' hs hr => ?_⟩
  · have hlaw := hi.law hclock t
    refine ⟨?_, hlaw.frozen_iff hheld hpending, fun hactive => ?_⟩
    · cases hactive : isChallengeActive w t with
      | true =>
        obtain ⟨-, -, -, hleft⟩ := hlaw.frozen hactive
        rw [remaining, hactive, if_pos rfl]
        have hleft : n t + (w.ext.holds t).frozenRemaining = windowAfter t w.log := hleft
        omega
      | false =>
        obtain ⟨-, hrun⟩ := hlaw.running hheld hpending hactive
        rw [remaining, hactive, if_neg Bool.false_ne_true]
        have hrun : n t + (w.ext.holds t).protectionEndsAt = w.env.now + windowAfter t w.log := hrun
        omega
    · have hdue := hlaw.conserved
      rw [countdown_running hheld hpending hactive] at hdue
      exact hdue.due
  · cases a with
    | msg m =>
      obtain ⟨hturns, -⟩ := (exec_turns hs).at_rest hi.locked
      have hspan := Span.of_turns (hi.law hclock t) hclock (hturns.turns t)
      obtain ⟨hheld, hactive, hpending, helapsed⟩ := hspan.releasable hr
      exact ⟨hheld, hactive, hpending, helapsed⟩
    | tick dt =>
      obtain rfl : _ = w' := Except.ok.inj hs
      exact absurd rfl hr

/-- On the small chain: a settled lot, unfrozen for 1000, under challenge for 500, and unfrozen
    again for 300. -/
def thawedLot : List (Action Call) :=
  settledLot ++ [.tick 1000, .call 3 100 (.open 7), .tick 500, .call 3 0 (.withdraw 7), .tick 300]

theorem hold_clock_thawedLot :
    let s := finalState (timedStep (P := Registry)) (smallGenesis, fun _ => 0) thawedLot
    s.2 7 = 1300 ∧ (s.2 7 : ℤ) + remaining s.1 7 = windowAfter 7 s.1.log ∧
      windowAfter 7 s.1.log = 604800 :=
  have hrun : Reachable (timedStep (P := Registry)) TimedGenesis
      (finalState timedStep (smallGenesis, fun _ => 0) thawedLot) :=
    ⟨(smallGenesis, fun _ => 0), thawedLot, ⟨smallGenesis_genesis, rfl⟩,
      run_finalState (by decide +kernel)⟩
  ⟨by decide +kernel, ((hold_clock hrun (by decide +kernel)).1 7 (by decide +kernel)
    (by decide +kernel)).1, by decide +kernel⟩

end Ascending

end Kargain.Evm
