/-
  Kargain.Evm.SourceProbe — how KarPassport reads the answer of a source.

  `may` calls every registered source under a gas bound and takes apart
  what comes back: a failed call, or data that is not one word, names the
  source; a word is decoded as a boolean by the compiler's own check.
  `Chain.may` of Kargain.Evm.BridgedPassport knows answers only; here the
  bytes are read.

  Main results: `probe_refines`, on readable answers the two agree;
  `fails_closed`, when every refusal is named; and `unnamed_refusal`, a
  word that is no boolean is refused by the decoder, which names nobody.
-/
import Kargain.Base.Abi
import Kargain.Evm.PassportStatus

namespace Kargain.Evm.Bridge

open Kargain.Abi

/-! ## §1. One answer. -/

/-- What a bounded `staticcall` comes back with; a call that reverts, or runs out of gas, was
    no success, and an account without code succeeds with no data. -/
structure Reply where
  success : Bool
  data : List UInt8
  deriving Repr, DecidableEq

/-- What `may` reverts with. -/
inductive Refusal where
  | nonexistentToken (t : TokenId)
  | sourceUnanswerable (source : Address)
  /-- `abi.decode` reverts without data -/
  | undecodable
  deriving Repr, DecidableEq

/-- `abi.decode(data, (bool))` of one word. -/
def decodeBool (data : List UInt8) : Except Refusal Bool :=
  match ofBytes data with
  | 0 => .ok false
  | 1 => .ok true
  | _ => .error .undecodable

/-- The source answered `b`. -/
def Reply.Answers (r : Reply) (b : Bool) : Prop :=
  r.success = true ∧ r.data.length = 32 ∧ ofBytes r.data = b.toNat

/-- One word came back, and it is no boolean. -/
def Reply.Garbled (r : Reply) : Prop :=
  r.success = true ∧ r.data.length = 32 ∧ 1 < ofBytes r.data

instance (r : Reply) (b : Bool) : Decidable (r.Answers b) := inferInstanceAs (Decidable (_ ∧ _))

instance (r : Reply) : Decidable r.Garbled := inferInstanceAs (Decidable (_ ∧ _))

/-- The answer of a reply, where it has one. -/
def Reply.answer (r : Reply) : Option Bool :=
  if r.Answers true then some true else if r.Answers false then some false else none

/-- What `may` makes of one reply of `source`. -/
def readReply (source : Address) (r : Reply) : Except Refusal Bool := do
  revertIf (r.success = false ∨ r.data.length ≠ 32) (.sourceUnanswerable source)
  decodeBool r.data

/-! ## §2. The loop. -/

/-- The loop of `may`: the first refusal ends it. -/
def probe (reply : Address → Reply) : List Address → Except Refusal Bool
  | [] => .ok true
  | source :: rest => do
    let b ← readReply source (reply source)
    if b then probe reply rest else pure false

section Probe

variable {P : Type} [Erc721 P]

/-- KarPassport.sol `may`, on the bytes the sources return. -/
def Chain.mayRaw (c : Chain P) (reply : Address → TokenId → Intent → Reply) (t : TokenId)
    (i : Intent) : Except Refusal Bool := do
  revertIf (c.ownerOf t = none) (.nonexistentToken t)
  if c.isChallengeActive t then pure false
  else probe (fun a => reply a t i) c.encumbranceSources

variable {r : Reply} {source : Address} {reply : Address → Reply} {sources : List Address}

theorem Reply.Answers.unique {b b' : Bool} (h : r.Answers b) (h' : r.Answers b') : b = b' := by
  have hb : b.toNat = b'.toNat := h.2.2.symm.trans h'.2.2
  cases b <;> cases b' <;> first | rfl | cases hb

theorem Reply.Garbled.not_answers {b : Bool} (h : r.Garbled) : ¬ r.Answers b := by
  intro ha
  have hle : b.toNat ≤ 1 := by cases b <;> decide
  have hlt : 1 < b.toNat := ha.2.2 ▸ h.2.2
  omega

theorem Reply.Answers.answer {b : Bool} (h : r.Answers b) : r.answer = some b := by
  unfold Reply.answer
  cases b with
  | true => rw [if_pos h]
  | false => rw [if_neg fun ht => Bool.noConfusion (ht.unique h), if_pos h]

theorem decodeBool_ok {data : List UInt8} {b : Bool} :
    decodeBool data = .ok b ↔ ofBytes data = b.toNat := by
  unfold decodeBool
  split <;> rename_i hw
  · rw [hw]
    cases b <;> simp
  · rw [hw]
    cases b <;> simp
  · cases b <;> simp_all

theorem decodeBool_error {data : List UInt8} {e : Refusal} :
    decodeBool data = .error e ↔ 1 < ofBytes data ∧ e = .undecodable := by
  unfold decodeBool
  split
  · rename_i hw
    simp [hw]
  · rename_i hw
    simp [hw]
  · rename_i hzero hone
    have hlt : 1 < ofBytes data := by
      have h0 : ofBytes data ≠ 0 := hzero
      have h1 : ofBytes data ≠ 1 := hone
      omega
    simp [hlt, eq_comm]

/-- A reply is taken for an answer exactly if it is one. -/
theorem readReply_ok {b : Bool} : readReply source r = .ok b ↔ r.Answers b := by
  simp only [readReply, bind_ok, revertIf_ok, exists_const, decodeBool_ok, not_or, not_not,
    Bool.not_eq_false, Reply.Answers, and_assoc]

/-- What is no answer names the source, but for a word that is no boolean. -/
theorem readReply_error {e : Refusal} : readReply source r = .error e ↔
    (∀ b, ¬ r.Answers b) ∧ (¬ r.Garbled ∧ e = .sourceUnanswerable source ∨
      r.Garbled ∧ e = .undecodable) := by
  by_cases hshape : r.success = false ∨ r.data.length ≠ 32
  · have hread : readReply source r = .error (.sourceUnanswerable source) := by
      simp [readReply, revertIf, hshape, bind, Except.bind]
    have hnone : ∀ b, ¬ r.Answers b := by
      rintro b ⟨hs, hl, -⟩
      simp [hs, hl] at hshape
    have hclear : ¬ r.Garbled := by
      rintro ⟨hs, hl, -⟩
      simp [hs, hl] at hshape
    rw [hread]
    simp [hnone, hclear, eq_comm]
  · have hread : readReply source r = decodeBool r.data := by
      simp [readReply, revertIf, hshape, bind, Except.bind]
    rw [not_or, Bool.not_eq_false, not_not] at hshape
    rw [hread, decodeBool_error]
    constructor
    · rintro ⟨hlt, rfl⟩
      have hgarbled : r.Garbled := ⟨hshape.1, hshape.2, hlt⟩
      exact ⟨fun b => hgarbled.not_answers, .inr ⟨hgarbled, rfl⟩⟩
    · rintro ⟨hnone, ⟨hclear, -⟩ | ⟨hg, rfl⟩⟩
      · -- a word that is neither garbled nor an answer is no word
        have hword : ofBytes r.data ≤ 1 := Nat.not_lt.mp fun hlt => hclear ⟨hshape.1, hshape.2, hlt⟩
        rcases Nat.le_one_iff_eq_zero_or_eq_one.mp hword with h | h
        · exact absurd ⟨hshape.1, hshape.2, h⟩ (hnone false)
        · exact absurd ⟨hshape.1, hshape.2, h⟩ (hnone true)
      · exact ⟨hg.2.2, rfl⟩

/-- The loop ends in permission only after every source gave it. -/
theorem probe_true : probe reply sources = .ok true ↔ ∀ a ∈ sources, (reply a).Answers true := by
  induction sources with
  | nil => simp [probe]
  | cons a rest ih =>
    simp only [probe, bind_ok, readReply_ok, List.forall_mem_cons, ← ih]
    constructor
    · rintro ⟨b, ha, h⟩
      cases b with
      | true => exact ⟨ha, h⟩
      | false => cases h
    · rintro ⟨ha, h⟩
      exact ⟨true, ha, h⟩

/-- The loop as the sources are asked: so far everybody permits, and `a` is asked next. -/
def Asked (reply : Address → Reply) (sources : List Address) (a : Address) : Prop :=
  ∃ before after, sources = before ++ a :: after ∧ ∀ b ∈ before, (reply b).Answers true

theorem asked_cons {a b : Address} : Asked reply (a :: sources) b ↔
    b = a ∨ (reply a).Answers true ∧ Asked reply sources b := by
  constructor
  · rintro ⟨before, after, he, hb⟩
    cases before with
    | nil => exact .inl (List.cons.inj he).1.symm
    | cons d before =>
      rw [List.cons_append] at he
      obtain ⟨rfl, hrest⟩ := List.cons.inj he
      rw [List.forall_mem_cons] at hb
      exact .inr ⟨hb.1, before, after, hrest, hb.2⟩
  · rintro (rfl | ⟨ha, before, after, rfl, hb⟩)
    · exact ⟨[], sources, rfl, by simp⟩
    · exact ⟨a :: before, after, rfl, List.forall_mem_cons.mpr ⟨ha, hb⟩⟩

theorem Asked.mem {a : Address} (h : Asked reply sources a) : a ∈ sources := by
  obtain ⟨before, after, rfl, -⟩ := h
  simp

/-- The loop stops at the first source that does not permit, with what its reply reads as. -/
theorem probe_stops {o : Except Refusal Bool} (ho : o ≠ .ok true) : probe reply sources = o ↔
    ∃ a, Asked reply sources a ∧ readReply a (reply a) = o := by
  induction sources with
  | nil =>
    constructor
    · intro h
      exact absurd h.symm ho
    · rintro ⟨a, ha, -⟩
      cases ha.mem
  | cons a rest ih =>
    by_cases ha : (reply a).Answers true
    · have hread : readReply a (reply a) = .ok true := readReply_ok.mpr ha
      have hstep : probe reply (a :: rest) = probe reply rest := by
        simp [probe, hread, bind, Except.bind]
      rw [hstep, ih]
      constructor
      · rintro ⟨b, hb, hr⟩
        exact ⟨b, asked_cons.mpr (.inr ⟨ha, hb⟩), hr⟩
      · rintro ⟨b, hb, hr⟩
        rcases asked_cons.mp hb with rfl | ⟨-, hb⟩
        · exact absurd (hr.symm.trans hread) ho
        · exact ⟨b, hb, hr⟩
    · have hstep : probe reply (a :: rest) = readReply a (reply a) := by
        cases hr : readReply a (reply a) with
        | error e => simp [probe, hr, bind, Except.bind]
        | ok b =>
          cases b with
          | true => exact absurd (readReply_ok.mp hr) ha
          | false => simp [probe, hr, bind, Except.bind, pure, Except.pure]
      rw [hstep]
      constructor
      · intro h
        exact ⟨a, asked_cons.mpr (.inl rfl), h⟩
      · rintro ⟨b, hb, hr⟩
        rcases asked_cons.mp hb with rfl | ⟨hpermits, -⟩
        · exact hr
        · exact absurd hpermits ha

/-- **On readable answers the raw loop is the loop over answers**, but for the names. -/
theorem probe_refines (hread : ∀ a ∈ sources, ¬ (reply a).Garbled) {b : Bool} :
    probe reply sources = .ok b ↔ KarPassport.sourcesMay (fun a => (reply a).answer) sources = .ok b := by
  induction sources with
  | nil => simp [probe, KarPassport.sourcesMay]
  | cons a rest ih =>
    have hrest := ih fun d hd => hread d (List.mem_cons_of_mem _ hd)
    by_cases ht : (reply a).Answers true
    · simp [probe, KarPassport.sourcesMay, readReply_ok.mpr ht, ht.answer, hrest, bind, Except.bind]
    · by_cases hf : (reply a).Answers false
      · simp [probe, KarPassport.sourcesMay, readReply_ok.mpr hf, hf.answer, bind, Except.bind,
          pure, Except.pure]
      · have hnone : (reply a).answer = none := by simp [Reply.answer, ht, hf]
        have herr : readReply a (reply a) = .error (.sourceUnanswerable a) := by
          refine readReply_error.mpr ⟨fun b => ?_, .inl ⟨hread a (List.mem_cons_self ..), rfl⟩⟩
          cases b <;> assumption
        simp [probe, KarPassport.sourcesMay, herr, hnone, bind, Except.bind]

/-! ## §3. The query. -/

/-- How a query may end: in what the sources answered, all of them where it permits; or in the
    name of a source that did not answer. -/
def FailsClosed (c : Chain P) (reply : Address → TokenId → Intent → Reply) (t : TokenId)
    (i : Intent) : Prop :=
  match c.mayRaw reply t i with
  | .ok true => c.isChallengeActive t = false ∧ ∀ a ∈ c.encumbranceSources, (reply a t i).Answers true
  | .ok false => c.isChallengeActive t = true ∨ ∃ a ∈ c.encumbranceSources, (reply a t i).Answers false
  | .error (.sourceUnanswerable a) => a ∈ c.encumbranceSources ∧ ∀ b, ¬ (reply a t i).Answers b
  | .error (.nonexistentToken t') => t' = t ∧ c.ownerOf t = none
  | .error .undecodable => False

/-- A source is asked: the passport exists and is not under challenge, and every source before
    permits. -/
def IsAsked (c : Chain P) (reply : Address → TokenId → Intent → Reply) (t : TokenId) (i : Intent)
    (a : Address) : Prop :=
  c.ownerOf t ≠ none ∧ c.isChallengeActive t = false ∧
    Asked (fun a => reply a t i) c.encumbranceSources a

/-- **The query fails closed** exactly where no source that is asked returns a word that is no
    boolean. -/
theorem fails_closed (c : Chain P) (reply : Address → TokenId → Intent → Reply) (t : TokenId)
    (i : Intent) : FailsClosed c reply t i ↔ ∀ a, IsAsked c reply t i a → ¬ (reply a t i).Garbled := by
  unfold FailsClosed IsAsked
  by_cases hex : c.ownerOf t = none
  · have hraw : c.mayRaw reply t i = .error (.nonexistentToken t) := by
      simp [Chain.mayRaw, revertIf, hex, bind, Except.bind]
    simp [hraw, hex]
  cases hch : c.isChallengeActive t with
  | true =>
    have hraw : c.mayRaw reply t i = .ok false := by
      simp [Chain.mayRaw, revertIf, hex, hch, bind, Except.bind, pure, Except.pure]
    simp [hraw]
  | false =>
    have hraw : c.mayRaw reply t i = probe (fun a => reply a t i) c.encumbranceSources := by
      simp [Chain.mayRaw, revertIf, hex, hch, bind, Except.bind]
    rw [hraw]
    cases ho : probe (fun a => reply a t i) c.encumbranceSources with
    | ok b =>
      cases b with
      | true =>
        have hall := probe_true.mp ho
        simp only [true_and]
        refine iff_of_true hall fun a ha hg => hg.not_answers (hall a ha.2.mem)
      | false =>
        obtain ⟨a, ha, hr⟩ := (probe_stops (by simp)).mp ho
        have hans := readReply_ok.mp hr
        refine iff_of_true (.inr ⟨a, ha.mem, hans⟩) fun b hb hg => ?_
        -- a garbled reply ends the loop in its own way
        have hlast := (probe_stops (by simp)).mpr ⟨b, hb.2.2, readReply_error.mpr
          ⟨fun _ => hg.not_answers, .inr ⟨hg, rfl⟩⟩⟩
        rw [ho] at hlast
        cases hlast
    | error e =>
      obtain ⟨a, ha, hr⟩ := (probe_stops (by simp)).mp ho
      obtain ⟨hnone, ⟨hclear, rfl⟩ | ⟨hg, rfl⟩⟩ := readReply_error.mp hr
      · refine iff_of_true ⟨ha.mem, hnone⟩ fun b hb hg => ?_
        have hlast := (probe_stops (by simp)).mpr ⟨b, hb.2.2, readReply_error.mpr
          ⟨fun _ => hg.not_answers, .inr ⟨hg, rfl⟩⟩⟩
        rw [ho] at hlast
        cases hlast
      · exact iff_of_false id fun h => h a ⟨hex, rfl, ha⟩ hg

end Probe

/-- Passport 1 of chain 1 exists, and account 5 is its only source. -/
def probedChain : Chain Registry :=
  { finalState step smallChain verifiedRun with encumbranceSources := [.account 5] }

/-- **A refusal without a name**: a source returns the word 2. -/
theorem unnamed_refusal :
    ¬ FailsClosed probedChain (fun _ _ _ => ⟨true, word 2⟩) (2 ^ 128) .leaveChain := by
  have hraw : probedChain.mayRaw (fun _ _ _ => ⟨true, word 2⟩) (2 ^ 128) .leaveChain =
      .error .undecodable := by
    decide +kernel
  unfold FailsClosed
  rw [hraw]
  exact fun h => h

end Kargain.Evm.Bridge
