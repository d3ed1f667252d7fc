/-
  Kargain.Custody.Transit — lib/passport/bridge-transit.ts.

  The client keeps a record of a crossing it sent and reconciles it, poll
  after poll, with the owner it reads on the destination and the custody the
  indexer answers.

  Main result: `transit_run`, over any sequence of polls a record that is kept
  has seen the recipient own the passport exactly when it waits for the
  indexer, and one that is dropped was indexed, outlived its session, or ran
  out of time without the recipient ever being seen.
-/
import Mathlib
import Kargain.Wire.ProtocolAddress
import Kargain.Commons.Reviews

namespace Kargain.Custody.Transit

open Kargain.ProtocolAddress (Text trim)
open Kargain.Commons (toLowerCase)

/-! ## §1. The record. -/

inductive BridgeTransitPhase
  | submitting
  | sourceConfirmed
  | inFlight
  | deliveredOnChain
  | indexerCatchup
  | timedOut
  | complete
deriving DecidableEq

/-- `BridgeDirectionMode`. -/
inductive BridgeDirectionMode
  | move
  | return
deriving DecidableEq

structure BridgeTransitRecord where
  tokenId : Text
  srcChainId : ℕ
  dstChainId : ℕ
  recipient : Text
  guid : Option Text
  sentAt : ℤ
  mode : BridgeDirectionMode
  phase : BridgeTransitPhase
deriving DecidableEq

structure BridgeTransitChainFacts where
  now : ℤ
  dstOwner : Option Text
  ponderCustodyChain : Option ℕ
  deliveryTimeoutMs : Option ℤ
  hardTtlMs : Option ℤ

def bridgeDeliveryTimeoutMs : ℤ := 10 * 60 * 1000

def bridgeTransitHardTtlMs : ℤ := 24 * 60 * 60 * 1000

def normalizeAddress (value : Text) : Text := toLowerCase (trim value)

/-! ## §2. Reconciling. -/

/-- The session is over. -/
def expired (record : BridgeTransitRecord) (facts : BridgeTransitChainFacts) : Bool :=
  facts.now - record.sentAt < 0 ||
    facts.now - record.sentAt > facts.hardTtlMs.getD bridgeTransitHardTtlMs

/-- The recipient owns the passport on the destination. -/
def dstMatch (record : BridgeTransitRecord) (facts : BridgeTransitChainFacts) : Bool :=
  facts.dstOwner.any fun owner => normalizeAddress owner = normalizeAddress record.recipient

def indexed (record : BridgeTransitRecord) (facts : BridgeTransitChainFacts) : Bool :=
  facts.ponderCustodyChain = some record.dstChainId

def overdue (record : BridgeTransitRecord) (facts : BridgeTransitChainFacts) : Bool :=
  facts.now - record.sentAt > facts.deliveryTimeoutMs.getD bridgeDeliveryTimeoutMs

def reconcileBridgeTransit (record : BridgeTransitRecord) (facts : BridgeTransitChainFacts) :
    Option BridgeTransitRecord :=
  if expired record facts then none
  else if record.phase = .complete ∨ record.phase = .timedOut then none
  else if indexed record facts then none
  else if dstMatch record facts then some { record with phase := .indexerCatchup }
  else if overdue record facts ∧ (record.phase = .sourceConfirmed ∨ record.phase = .inFlight ∨
      record.phase = .submitting) then
    some { record with phase := .timedOut }
  else if record.phase = .submitting ∨ record.phase = .sourceConfirmed then
    some { record with phase := .inFlight }
  else if record.phase = .deliveredOnChain then some { record with phase := .indexerCatchup }
  else some record

/-- The polls one after another, until the record is dropped. -/
def polls (record : BridgeTransitRecord) : List BridgeTransitChainFacts →
    Option BridgeTransitRecord
  | [] => some record
  | facts :: rest => (reconcileBridgeTransit record facts).bind fun next => polls next rest

/-! ## §3. One poll. -/

/-- The message is on its way, as far as the record knows. -/
def Underway (phase : BridgeTransitPhase) : Prop :=
  phase = .submitting ∨ phase = .sourceConfirmed ∨ phase = .inFlight

/-- The phase after a poll that keeps the record. -/
inductive Advances (record : BridgeTransitRecord) (facts : BridgeTransitChainFacts) :
    BridgeTransitPhase → Prop
  | arrived (seen : dstMatch record facts = true) : Advances record facts .indexerCatchup
  | late (unseen : dstMatch record facts = false) (spent : overdue record facts = true)
      (way : Underway record.phase) : Advances record facts .timedOut
  | onward (unseen : dstMatch record facts = false) (way : Underway record.phase) :
      Advances record facts .inFlight
  | waits (unseen : dstMatch record facts = false)
      (waiting : record.phase = .deliveredOnChain ∨ record.phase = .indexerCatchup) :
      Advances record facts .indexerCatchup

theorem reconcile_some {record next : BridgeTransitRecord} {facts : BridgeTransitChainFacts}
    (h : reconcileBridgeTransit record facts = some next) :
    expired record facts = false ∧ indexed record facts = false ∧ record.phase ≠ .timedOut ∧
      ∃ phase, next = { record with phase := phase } ∧ Advances record facts phase := by
  unfold reconcileBridgeTransit at h
  split at h
  · cases h
  · next hlive =>
    split at h
    · cases h
    · next hopen =>
      split at h
      · cases h
      · next hbehind =>
        refine ⟨by simpa using hlive, by simpa using hbehind, fun heq => hopen (.inr heq), ?_⟩
        split at h
        · next hseen => exact ⟨_, (Option.some.inj h).symm, .arrived hseen⟩
        · next hnot =>
          have hunseen : dstMatch record facts = false := by simpa using hnot
          split at h
          · next hlate =>
            refine ⟨_, (Option.some.inj h).symm, .late hunseen hlate.1 ?_⟩
            rcases hlate.2 with hp | hp | hp
            · exact .inr (.inl hp)
            · exact .inr (.inr hp)
            · exact .inl hp
          · split at h
            · next hp =>
              refine ⟨_, (Option.some.inj h).symm, .onward hunseen ?_⟩
              rcases hp with hp | hp
              · exact .inl hp
              · exact .inr (.inl hp)
            · next hsent =>
              split at h
              · next hp => exact ⟨_, (Option.some.inj h).symm, .waits hunseen (.inl hp)⟩
              · next hdelivered =>
                -- the record stays as it is: it is in flight or waits for the indexer
                refine ⟨record.phase, (Option.some.inj h).symm, ?_⟩
                cases hp : record.phase with
                | inFlight => exact .onward hunseen (.inr (.inr hp))
                | indexerCatchup => exact .waits hunseen (.inr hp)
                | submitting => exact absurd (.inl hp) hsent
                | sourceConfirmed => exact absurd (.inr hp) hsent
                | deliveredOnChain => exact absurd hp hdelivered
                | timedOut => exact absurd (.inr hp) hopen
                | complete => exact absurd (.inl hp) hopen

theorem reconcile_none {record : BridgeTransitRecord} {facts : BridgeTransitChainFacts}
    (h : reconcileBridgeTransit record facts = none) :
    expired record facts = true ∨ indexed record facts = true ∨ record.phase = .timedOut ∨
      record.phase = .complete := by
  unfold reconcileBridgeTransit at h
  split at h
  · next hexpired => exact .inl hexpired
  · split at h
    · next hclosed =>
      rcases hclosed with hp | hp
      · exact .inr (.inr (.inr hp))
      · exact .inr (.inr (.inl hp))
    · split at h
      · next hindexed => exact .inr (.inl hindexed)
      · repeat' split at h
        all_goals cases h

/-! ## §4. Any number of polls. -/

/-- What became of the record. -/
def Followed (record : BridgeTransitRecord) (fs : List BridgeTransitChainFacts) :
    Option BridgeTransitRecord → Prop
  | some next =>
    next = { record with phase := next.phase } ∧
      (∀ f ∈ fs, expired record f = false ∧ indexed record f = false) ∧
        (next.phase = .indexerCatchup ↔ ∃ f ∈ fs, dstMatch record f = true)
  | none =>
    (∃ f ∈ fs, expired record f = true ∨ indexed record f = true) ∨
      ∃ before f after, fs = before ++ f :: after ∧ after ≠ [] ∧ overdue record f = true ∧
        ∀ g ∈ before ++ [f], dstMatch record g = false

/-- A record that waits for the indexer waits until the session or the indexer ends it. -/
theorem polls_waiting :
    ∀ (fs : List BridgeTransitChainFacts) {record : BridgeTransitRecord},
      record.phase = .indexerCatchup →
        (∀ next, polls record fs = some next → next = record ∧
          ∀ f ∈ fs, expired record f = false ∧ indexed record f = false) ∧
        (polls record fs = none → ∃ f ∈ fs, expired record f = true ∨ indexed record f = true)
  | [], record, _ => by
    refine ⟨fun next h => ⟨(Option.some.inj h).symm, by simp⟩, fun h => by cases h⟩
  | facts :: rest, record, hphase => by
    cases hstep : reconcileBridgeTransit record facts with
    | none =>
      have hpolls : polls record (facts :: rest) = none := by simp [polls, hstep]
      rw [hpolls]
      refine ⟨fun next h => absurd h (by simp), fun _ => ⟨facts, by simp, ?_⟩⟩
      rcases reconcile_none hstep with h | h | h | h
      · exact .inl h
      · exact .inr h
      · rw [hphase] at h
        cases h
      · rw [hphase] at h
        cases h
    | some next =>
      obtain ⟨hlive, hbehind, _, phase, hnext, hadv⟩ := reconcile_some hstep
      have hsame : next = record := by
        cases hadv with
        | arrived => rw [hnext, ← hphase]
        | late _ _ way => rcases way with h | h | h <;> rw [hphase] at h <;> cases h
        | onward _ way => rcases way with h | h | h <;> rw [hphase] at h <;> cases h
        | waits => rw [hnext, ← hphase]
      have hpolls : polls record (facts :: rest) = polls record rest := by
        simp [polls, hstep, hsame]
      rw [hpolls]
      have ih := polls_waiting rest hphase
      refine ⟨fun last h => ⟨(ih.1 last h).1, fun f hf => ?_⟩, fun h => ?_⟩
      · rcases List.mem_cons.mp hf with heq | hmem
        · rw [heq]
          exact ⟨hlive, hbehind⟩
        · exact (ih.1 last h).2 f hmem
      · obtain ⟨f, hf, hend⟩ := ih.2 h
        exact ⟨f, List.mem_cons_of_mem _ hf, hend⟩

/-- **A delivery that was seen is never reported lost.** -/
theorem transit_run :
    ∀ (fs : List BridgeTransitChainFacts) {record : BridgeTransitRecord}, Underway record.phase →
      Followed record fs (polls record fs)
  | [], record, hway => by
    refine ⟨rfl, by simp, ?_⟩
    rcases hway with h | h | h <;> simp [h]
  | facts :: rest, record, hway => by
    cases hstep : reconcileBridgeTransit record facts with
    | none =>
      have hpolls : polls record (facts :: rest) = none := by simp [polls, hstep]
      rw [hpolls]
      refine .inl ⟨facts, by simp, ?_⟩
      rcases reconcile_none hstep with h | h | h | h
      · exact .inl h
      · exact .inr h
      · rcases hway with hp | hp | hp <;> rw [hp] at h <;> cases h
      · rcases hway with hp | hp | hp <;> rw [hp] at h <;> cases h
    | some next =>
      obtain ⟨hlive, hbehind, _, phase, hnext, hadv⟩ := reconcile_some hstep
      have hpolls : polls record (facts :: rest) = polls next rest := by simp [polls, hstep]
      rw [hpolls]
      subst hnext
      cases hadv with
      | arrived seen =>
        have hwait := polls_waiting rest
          (show ({ record with phase := .indexerCatchup } : BridgeTransitRecord).phase = _ from rfl)
        cases hrest : polls { record with phase := .indexerCatchup } rest with
        | none =>
          obtain ⟨f, hf, hend⟩ := hwait.2 hrest
          exact .inl ⟨f, List.mem_cons_of_mem _ hf, hend⟩
        | some last =>
          obtain ⟨heq, hall⟩ := hwait.1 last hrest
          subst heq
          refine ⟨rfl, fun f hf => ?_, fun _ => ⟨facts, by simp, seen⟩, fun _ => rfl⟩
          rcases List.mem_cons.mp hf with heq | hmem
          · rw [heq]
            exact ⟨hlive, hbehind⟩
          · exact hall f hmem
      | late unseen spent way =>
        cases rest with
        | nil =>
          refine ⟨rfl, by simpa using ⟨hlive, hbehind⟩, ?_⟩
          simp [unseen]
        | cons g rest =>
          -- the next poll clears a record that has timed out
          have hcleared : polls { record with phase := .timedOut } (g :: rest) = none := by
            unfold polls
            cases hclear : reconcileBridgeTransit { record with phase := .timedOut } g with
            | none => rfl
            | some last => exact absurd rfl (reconcile_some hclear).2.2.1
          rw [hcleared]
          exact .inr ⟨[], facts, g :: rest, rfl, by simp, spent, by simpa using unseen⟩
      | onward unseen way =>
        have ih := transit_run rest
          (show Underway ({ record with phase := .inFlight } : BridgeTransitRecord).phase from
            .inr (.inr rfl))
        cases hrest : polls { record with phase := .inFlight } rest with
        | none =>
          rw [hrest] at ih
          rcases ih with ⟨f, hf, hend⟩ | ⟨before, f, after, hsplit, hafter, hspent, hnone⟩
          · exact .inl ⟨f, List.mem_cons_of_mem _ hf, hend⟩
          · refine .inr ⟨facts :: before, f, after, by rw [hsplit]; rfl, hafter, hspent, ?_⟩
            intro g hg
            rcases List.mem_cons.mp hg with heq | hmem
            · rw [heq]
              exact unseen
            · exact hnone g hmem
        | some last =>
          rw [hrest] at ih
          obtain ⟨hlast, hall, hseen⟩ := ih
          refine ⟨hlast, fun f hf => ?_, hseen.trans ?_⟩
          · rcases List.mem_cons.mp hf with heq | hmem
            · rw [heq]
              exact ⟨hlive, hbehind⟩
            · exact hall f hmem
          · constructor
            · intro h
              obtain ⟨f, hf, hmatch⟩ := h
              exact ⟨f, List.mem_cons_of_mem _ hf, hmatch⟩
            · intro h
              obtain ⟨f, hf, hmatch⟩ := h
              rcases List.mem_cons.mp hf with heq | hmem
              · rw [heq, unseen] at hmatch
                cases hmatch
              · exact ⟨f, hmem, hmatch⟩
      | waits unseen waiting =>
        rcases hway with h | h | h <;> rcases waiting with h' | h' <;> rw [h] at h' <;> cases h'

/-- Seen on the destination at the second poll, the record waits past the delivery timeout. -/
theorem transit_run_seen :
    let record : BridgeTransitRecord :=
      { tokenId := ['1'], srcChainId := 1, dstChainId := 2, recipient := ['a'], guid := none,
        sentAt := 0, mode := .move, phase := .submitting }
    let poll (now : ℤ) (dstOwner : Option Text) : BridgeTransitChainFacts :=
      { now := now, dstOwner := dstOwner, ponderCustodyChain := some 1, deliveryTimeoutMs := none,
        hardTtlMs := none }
    Followed record [poll 1000 none, poll 2000 (some ['A']), poll 700000 none]
      (polls record [poll 1000 none, poll 2000 (some ['A']), poll 700000 none]) :=
  transit_run _ (.inl rfl)

end Kargain.Custody.Transit
