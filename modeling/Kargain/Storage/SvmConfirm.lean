/-
  Kargain.Storage.SvmConfirm — lib/web3/svm-tx-confirm.ts on a growing chain.

  `confirmSubmission` polls a node: the block height first, then the
  status of the signature.  The node answers from the chain it has
  confirmed, which only grows, and from a cache of the most recent slots.
  A submission lands only at or below its last valid block height, so a
  height beyond it and no status would say that it never will.

  Main result: `verdict_final_iff`, when a verdict is final: unless the
  node has forgotten a submission that landed.
-/
import Mathlib

namespace Kargain.Storage.SvmConfirm

/-! ## §1. The port. -/

/-- `confirmationStatus` of a row. -/
inductive ConfirmationStatus
  | processed
  | confirmed
  | finalized
deriving DecidableEq

/-- `SvmConfirmCommitment | SvmFundingConfirmCommitment`. -/
inductive SuccessCommitment
  | confirmed
  | finalized
deriving DecidableEq

structure SvmWriteSubmission where
  signature : String
  lastValidBlockHeight : ℕ
deriving DecidableEq

/-- A call to the node that throws: `isSolanaRpcUnreachableError`, or anything else. -/
inductive Thrown
  | unreachable
  | error (message : String)
deriving DecidableEq

variable {E A : Type}

structure StatusRow (E : Type) where
  confirmationStatus : Option ConfirmationStatus
  err : Option E
  slot : Option ℕ

/-- `landed_with_error` carries what `attributed` makes of the logs and the error: the failing
    program and the landed instruction error. -/
inductive SvmConfirmOutcome (E A : Type)
  | landedOk (signature : String) (slot : ℕ)
  | landedWithError (signature : String) (slot : ℕ) (error : E) (attribution : A)
  | expired (signature : String) (lastValidBlockHeight observedBlockHeight : ℕ)
  | statusUnknown (signature : String)

def isSuccessStatus (status : Option ConfirmationStatus) (success : SuccessCommitment) : Bool :=
  match success with
  | .finalized => status = some .finalized
  | .confirmed => status = some .confirmed ∨ status = some .finalized

/-- What the calls of one poll answer, in the order they are made. -/
structure Reads (E : Type) where
  blockHeight : Except Thrown ℕ
  signatureStatuses : Except Thrown (List (Option (StatusRow E)))
  transactionLogMessages : Except Thrown (Option (List String))

section Port

variable (attributed : Option (List String) → E → A) (success : SuccessCommitment)
  (submission : SvmWriteSubmission)

/-- The body of the `try`: `none` where the source waits and goes on. -/
def poll (r : Reads E) : Except Thrown (Option (SvmConfirmOutcome E A)) := do
  let height ← r.blockHeight
  let statuses ← r.signatureStatuses
  let row := statuses.head?.join
  let status := row.bind (·.confirmationStatus)
  if isSuccessStatus status success then
    match row.bind (·.slot) with
    | none => pure none
    | some slot =>
      match row.bind (·.err) with
      | some err => do
        let logs ← r.transactionLogMessages
        pure (some (.landedWithError submission.signature slot err (attributed logs err)))
      | none => pure (some (.landedOk submission.signature slot))
  else if status.isSome then pure none
  else if submission.lastValidBlockHeight < height then
    pure (some (.expired submission.signature submission.lastValidBlockHeight height))
  else pure none

/-- `confirmSubmission`, over the polls started before the deadline. -/
def confirmSubmission : List (Reads E) → Except String (SvmConfirmOutcome E A)
  | [] => .ok (.statusUnknown submission.signature)
  | r :: rest =>
    match poll attributed success submission r with
    | .error .unreachable => .ok (.statusUnknown submission.signature)
    | .error (.error message) => .error message
    | .ok (some outcome) => .ok outcome
    | .ok none => confirmSubmission rest

/-- **Where the loop ends**: the polls before went on, and this one gave the outcome. -/
theorem confirmSubmission_ok {polls : List (Reads E)} {outcome : SvmConfirmOutcome E A}
    (h : confirmSubmission attributed success submission polls = .ok outcome)
    (hknown : outcome ≠ .statusUnknown submission.signature) :
    ∃ before r after, polls = before ++ r :: after ∧
      (∀ q ∈ before, poll attributed success submission q = .ok none) ∧
      poll attributed success submission r = .ok (some outcome) := by
  induction polls with
  | nil =>
    injection h with heq
    exact absurd heq.symm hknown
  | cons r rest ih =>
    rw [confirmSubmission] at h
    split at h
    · injection h with heq
      exact absurd heq.symm hknown
    · cases h
    · rename_i o hpoll
      injection h with heq
      subst heq
      exact ⟨[], r, rest, rfl, by simp, hpoll⟩
    · rename_i hpoll
      obtain ⟨before, r', after, hsplit, hwaits, hlast⟩ := ih h
      refine ⟨r :: before, r', after, by rw [hsplit]; rfl, ?_, hlast⟩
      intro q hq
      rcases List.mem_cons.mp hq with rfl | hq
      · exact hpoll
      · exact hwaits q hq

/-- A poll reached that gives an outcome gives the outcome of the call. -/
theorem confirmSubmission_reached {before after : List (Reads E)} {r : Reads E}
    {outcome : SvmConfirmOutcome E A}
    (hwaits : ∀ q ∈ before, poll attributed success submission q = .ok none)
    (hlast : poll attributed success submission r = .ok (some outcome)) :
    confirmSubmission attributed success submission (before ++ r :: after) = .ok outcome := by
  induction before with
  | nil =>
    rw [List.nil_append, confirmSubmission, hlast]
  | cons q before ih =>
    rw [List.cons_append, confirmSubmission, hwaits q (by simp)]
    exact ih (fun p hp => hwaits p (by simp [hp]))

end Port

/-! ## §2. The chain a node has seen. -/

/-- A block: its slot, and the result of each transaction in it. -/
structure Block (E : Type) where
  slot : ℕ
  transactions : List (String × Option E)

def Block.result (b : Block E) (signature : String) : Option (Option E) :=
  b.transactions.lookup signature

/-- The node: the blocks it has confirmed, in order of height, how many of them are final, the
    newest slot it has seen, and blocks it has only processed. -/
structure Node (E : Type) where
  confirmed : List (Block E)
  finalized : ℕ
  slot : ℕ
  processed : List (Block E)
  started : confirmed ≠ []

/-- `getBlockHeight` at `confirmed`: the height of the last block. -/
def Node.height (n : Node E) : ℕ := n.confirmed.length - 1

def Node.Landed (n : Node E) (signature : String) : Prop :=
  ∃ b ∈ n.confirmed, (b.result signature).isSome

/-- The block and its place in the chain have this slot and result, at the commitment asked. -/
def Node.LandedAt (n : Node E) (success : SuccessCommitment) (signature : String) (slot : ℕ)
    (err : Option E) : Prop :=
  ∃ i b, n.confirmed[i]? = some b ∧ b.slot = slot ∧ b.result signature = some err ∧
    (success = .finalized → i < n.finalized)

/-- What the chain looks like later. -/
structure Node.Grows (n n' : Node E) : Prop where
  confirmed : n.confirmed <+: n'.confirmed
  finalized : n.finalized ≤ n'.finalized
  slot : n.slot ≤ n'.slot

theorem Node.Grows.refl (n : Node E) : n.Grows n := ⟨List.prefix_rfl, Nat.le_refl _, Nat.le_refl _⟩

theorem Node.Grows.trans {n₁ n₂ n₃ : Node E} (h : n₁.Grows n₂) (h' : n₂.Grows n₃) : n₁.Grows n₃ :=
  ⟨h.confirmed.trans h'.confirmed, h.finalized.trans h'.finalized, h.slot.trans h'.slot⟩

theorem Node.Grows.landed {n n' : Node E} (h : n.Grows n') {signature : String}
    (hl : n.Landed signature) : n'.Landed signature := by
  obtain ⟨b, hb, hr⟩ := hl
  exact ⟨b, h.confirmed.subset hb, hr⟩

/-! ## §3. The statuses a node knows. -/

/-- `getSignatureStatuses` without `searchTransactionHistory`: among the blocks of the last
    `window` slots, then among those only processed. -/
def Node.status (n : Node E) (window : ℕ) (signature : String) : Option (StatusRow E) :=
  match n.confirmed.zipIdx.find?
      (fun p => n.slot < p.1.slot + window ∧ (p.1.result signature).isSome) with
  | some (b, i) =>
    some ⟨some (if i < n.finalized then .finalized else .confirmed), (b.result signature).join,
      some b.slot⟩
  | none =>
    (n.processed.find? (fun b => (b.result signature).isSome)).map
      fun b => ⟨some .processed, (b.result signature).join, some b.slot⟩

/-- The submission is in a confirmed block, and the node has no status of it. -/
def Node.Forgotten (n : Node E) (window : ℕ) (signature : String) : Prop :=
  n.Landed signature ∧ n.status window signature = none

theorem Node.status_confirmed {n : Node E} {window : ℕ} {signature : String} {row : StatusRow E}
    {success : SuccessCommitment} (h : n.status window signature = some row)
    (hs : isSuccessStatus row.confirmationStatus success = true) :
    ∃ slot, row.slot = some slot ∧ n.LandedAt success signature slot row.err := by
  unfold Node.status at h
  split at h
  · rename_i b i hfind
    injection h with hrow
    subst hrow
    have hmem := List.mem_of_find?_eq_some hfind
    have hprop := List.find?_some hfind
    simp only [decide_eq_true_eq] at hprop
    obtain ⟨-, hsome⟩ := hprop
    have hat : n.confirmed[i]? = some b := List.mem_zipIdx_iff_getElem?.mp hmem
    obtain ⟨err, herr⟩ := Option.isSome_iff_exists.mp hsome
    refine ⟨b.slot, rfl, i, b, hat, rfl, ?_, ?_⟩
    · show b.result signature = some (b.result signature).join
      rw [herr]
      rfl
    · intro hfin
      subst hfin
      by_contra hnot
      simp [isSuccessStatus, hnot] at hs
  · rw [Option.map_eq_some_iff] at h
    obtain ⟨b, -, hrow⟩ := h
    subst hrow
    cases success <;> simp [isSuccessStatus] at hs

theorem Node.status_some {n : Node E} {window : ℕ} {signature : String} {row : StatusRow E}
    (h : n.status window signature = some row) : row.confirmationStatus.isSome := by
  unfold Node.status at h
  split at h
  · injection h with hrow
    subst hrow
    rfl
  · rw [Option.map_eq_some_iff] at h
    obtain ⟨b, -, hrow⟩ := h
    subst hrow
    rfl

/-! ## §4. Histories. -/

/-- One node over time. -/
structure History (E : Type) where
  node : ℕ → Node E
  grows : ∀ t, (node t).Grows (node (t + 1))

theorem History.grows_le (h : History E) {t t' : ℕ} (hle : t ≤ t') :
    (h.node t).Grows (h.node t') := by
  induction hle with
  | refl => exact Node.Grows.refl _
  | step _ ih => exact ih.trans (h.grows _)

/-- The submission lands only in a block at or below its last valid block height. -/
def History.InLifetime (h : History E) (s : SvmWriteSubmission) : Prop :=
  ∀ (t i : ℕ) (b : Block E), (h.node t).confirmed[i]? = some b →
    (b.result s.signature).isSome → i ≤ s.lastValidBlockHeight

/-- One poll: the moments at which the height and the status are read, the status not before the
    height, and the calls that fail. -/
structure Poll where
  heightAt : ℕ
  statusAt : ℕ
  order : heightAt ≤ statusAt
  heightFails : Option Thrown
  statusFails : Option Thrown
  logs : Except Thrown (Option (List String))

def orThrown {α : Type} (fails : Option Thrown) (a : α) : Except Thrown α :=
  match fails with
  | some e => .error e
  | none => .ok a

def Poll.reads (h : History E) (window : ℕ) (signature : String) (p : Poll) : Reads E where
  blockHeight := orThrown p.heightFails (h.node p.heightAt).height
  signatureStatuses :=
    orThrown p.statusFails [(h.node p.statusAt).status window signature]
  transactionLogMessages := p.logs

/-- What a verdict says of the submission is so, and stays so. -/
def Final (h : History E) (success : SuccessCommitment) (s : SvmWriteSubmission) :
    Except String (SvmConfirmOutcome E A) → Prop
  | .ok (.expired _ _ _) => ∀ t, ¬ (h.node t).Landed s.signature
  | .ok (.landedOk _ slot) => ∃ t, (h.node t).LandedAt success s.signature slot none
  | .ok (.landedWithError _ slot err _) =>
    ∃ t, (h.node t).LandedAt success s.signature slot (some err)
  | .ok (.statusUnknown _) => True
  | .error _ => True

/-- A submission that ever lands has landed by the time a height past its lifetime is read. -/
theorem landed_of_past {h : History E} {s : SvmWriteSubmission} (hlife : h.InLifetime s) {t t' : ℕ}
    (hpast : s.lastValidBlockHeight < (h.node t).height) (hl : (h.node t').Landed s.signature) :
    (h.node t).Landed s.signature := by
  obtain ⟨b, hb, hr⟩ := hl
  obtain ⟨i, hi⟩ := List.mem_iff_getElem?.mp hb
  have hle : i ≤ s.lastValidBlockHeight := hlife t' i b hi hr
  have hlt : i < (h.node t).confirmed.length := by
    unfold Node.height at hpast
    omega
  rcases Nat.le_total t t' with htt | htt
  · -- the block was there already: later chains only append
    obtain ⟨more, hmore⟩ := (h.grows_le htt).confirmed
    rw [← hmore, List.getElem?_append_left hlt] at hi
    exact ⟨b, List.mem_of_getElem? hi, hr⟩
  · exact (h.grows_le htt).landed ⟨b, hb, hr⟩

/-! ## §5. Polls of a history. -/

section Verdict

variable (attributed : Option (List String) → E → A) (success : SuccessCommitment)
  (s : SvmWriteSubmission) (h : History E) (window : ℕ)

/-- The status the node gives at a poll is of the commitment asked. -/
def Poll.Sees (p : Poll) : Prop :=
  ∃ row, (h.node p.statusAt).status window s.signature = some row ∧
    isSuccessStatus row.confirmationStatus success = true

def Poll.Past (p : Poll) : Prop := s.lastValidBlockHeight < (h.node p.heightAt).height

/-- Both reads come through, the status is not the one asked, and there is one or the lifetime is
    not over: the source waits. -/
structure Poll.Waits (p : Poll) : Prop where
  height : p.heightFails = none
  status : p.statusFails = none
  unseen : ¬ p.Sees success s h window
  going : (h.node p.statusAt).status window s.signature ≠ none ∨ ¬ p.Past s h

/-- The reads come through after the lifetime, and the node has forgotten that the submission
    landed. -/
structure Poll.Misled (p : Poll) : Prop where
  height : p.heightFails = none
  status : p.statusFails = none
  past : p.Past s h
  forgotten : (h.node p.statusAt).Forgotten window s.signature

/-- **What one poll gives**, by the status the node has. -/
theorem poll_reads (p : Poll) (hh : p.heightFails = none) (hs : p.statusFails = none) :
    poll attributed success s (p.reads h window s.signature) =
      match (h.node p.statusAt).status window s.signature with
      | none =>
        if s.lastValidBlockHeight < (h.node p.heightAt).height then
          .ok (some (.expired s.signature s.lastValidBlockHeight (h.node p.heightAt).height))
        else .ok none
      | some row =>
        if isSuccessStatus row.confirmationStatus success then
          match row.slot, row.err with
          | none, _ => .ok none
          | some slot, none => .ok (some (.landedOk s.signature slot))
          | some slot, some err =>
            p.logs.map (fun logs =>
              some (.landedWithError s.signature slot err (attributed logs err)))
        else .ok none := by
  have hheight : (p.reads h window s.signature).blockHeight = .ok (h.node p.heightAt).height := by
    simp [Poll.reads, orThrown, hh]
  have hstatus : (p.reads h window s.signature).signatureStatuses =
      .ok [(h.node p.statusAt).status window s.signature] := by
    simp [Poll.reads, orThrown, hs]
  have hlogs : (p.reads h window s.signature).transactionLogMessages = p.logs := rfl
  unfold poll
  rw [hheight, hstatus, hlogs]
  cases hrow : (h.node p.statusAt).status window s.signature with
  | none => cases success <;> rfl
  | some row =>
    have hsome : row.confirmationStatus.isSome := Node.status_some hrow
    show (if isSuccessStatus row.confirmationStatus success = true then _ else _) = _
    by_cases hsuccess : isSuccessStatus row.confirmationStatus success = true
    · rw [if_pos hsuccess]
      simp only [hsuccess, if_true]
      cases row with
      | mk status err slot =>
        cases slot with
        | none => rfl
        | some slot =>
          cases err with
          | none => rfl
          | some err =>
            cases p.logs with
            | error e => rfl
            | ok logs => rfl
    · rw [if_neg hsuccess]
      simp only [hsuccess]
      rw [List.head?_cons, Option.join_some, Option.bind_some, if_pos hsome]
      rfl

theorem poll_fails_height {p : Poll} {e : Thrown} (hh : p.heightFails = some e) :
    poll attributed success s (p.reads h window s.signature) = .error e := by
  have hheight : (p.reads h window s.signature).blockHeight = .error e := by
    simp [Poll.reads, orThrown, hh]
  unfold poll
  rw [hheight]
  rfl

theorem poll_fails_status {p : Poll} {e : Thrown} (hh : p.heightFails = none)
    (hs : p.statusFails = some e) :
    poll attributed success s (p.reads h window s.signature) = .error e := by
  have hheight : (p.reads h window s.signature).blockHeight = .ok (h.node p.heightAt).height := by
    simp [Poll.reads, orThrown, hh]
  have hstatus : (p.reads h window s.signature).signatureStatuses = .error e := by
    simp [Poll.reads, orThrown, hs]
  unfold poll
  rw [hheight, hstatus]
  rfl

/-- A poll that gives anything has read both. -/
theorem reads_of_ok {p : Poll} {o : Option (SvmConfirmOutcome E A)}
    (hok : poll attributed success s (p.reads h window s.signature) = .ok o) :
    p.heightFails = none ∧ p.statusFails = none := by
  cases hh : p.heightFails with
  | some e =>
    rw [poll_fails_height attributed success s h window hh] at hok
    cases hok
  | none =>
    cases hs : p.statusFails with
    | some e =>
      rw [poll_fails_status attributed success s h window hh hs] at hok
      cases hok
    | none => exact ⟨rfl, rfl⟩

/-- **When a poll waits.** -/
theorem poll_waits_iff (p : Poll) :
    poll attributed success s (p.reads h window s.signature) = .ok none ↔
      p.Waits success s h window := by
  constructor
  · intro hok
    obtain ⟨hh, hs⟩ := reads_of_ok attributed success s h window hok
    rw [poll_reads attributed success s h window p hh hs] at hok
    cases hrow : (h.node p.statusAt).status window s.signature with
    | none =>
      rw [hrow] at hok
      refine ⟨hh, hs, ?_, Or.inr ?_⟩
      · rintro ⟨row, hsome, -⟩
        rw [hrow] at hsome
        cases hsome
      · intro hpast
        have hpast : s.lastValidBlockHeight < (h.node p.heightAt).height := hpast
        simp only [if_pos hpast] at hok
        cases hok
    | some row =>
      rw [hrow] at hok
      refine ⟨hh, hs, ?_, Or.inl (by rw [hrow]; simp)⟩
      rintro ⟨row', hsome, hsuccess⟩
      rw [hrow] at hsome
      injection hsome with heq
      subst heq
      obtain ⟨slot, hslot, -⟩ := Node.status_confirmed hrow hsuccess
      cases row with
      | mk status err slot' =>
        have hslot : slot' = some slot := hslot
        subst hslot
        simp only [if_pos hsuccess] at hok
        cases err with
        | none => cases hok
        | some err =>
          cases hl : p.logs with
          | error e =>
            rw [hl] at hok
            cases hok
          | ok logs =>
            rw [hl] at hok
            cases hok
  · rintro ⟨hh, hs, hunseen, hgoing⟩
    rw [poll_reads attributed success s h window p hh hs]
    cases hrow : (h.node p.statusAt).status window s.signature with
    | none =>
      have hnot : ¬ s.lastValidBlockHeight < (h.node p.heightAt).height := by
        rcases hgoing with hne | hnot
        · exact absurd hrow hne
        · exact hnot
      exact if_neg hnot
    | some row =>
      have hfail : ¬ isSuccessStatus row.confirmationStatus success = true := by
        intro hsuccess
        exact hunseen ⟨row, hrow, hsuccess⟩
      exact if_neg hfail

/-- **A verdict of one poll** is final, or the node has forgotten. -/
theorem poll_final (hlife : h.InLifetime s) {p : Poll} {o : SvmConfirmOutcome E A}
    (hok : poll attributed success s (p.reads h window s.signature) = .ok (some o)) :
    Final h success s (.ok o) ∨ p.Misled s h window := by
  obtain ⟨hh, hs⟩ := reads_of_ok attributed success s h window hok
  rw [poll_reads attributed success s h window p hh hs] at hok
  cases hrow : (h.node p.statusAt).status window s.signature with
  | none =>
    rw [hrow] at hok
    by_cases hpast : s.lastValidBlockHeight < (h.node p.heightAt).height
    · simp only [if_pos hpast] at hok
      injection hok with ho
      injection ho with ho
      subst ho
      by_cases hl : ∃ t, (h.node t).Landed s.signature
      · obtain ⟨t, hl⟩ := hl
        have hthen := landed_of_past hlife hpast hl
        exact Or.inr ⟨hh, hs, hpast, (h.grows_le p.order).landed hthen, hrow⟩
      · exact Or.inl fun t ht => hl ⟨t, ht⟩
    · simp only [if_neg hpast] at hok
      cases hok
  | some row =>
    rw [hrow] at hok
    by_cases hsuccess : isSuccessStatus row.confirmationStatus success = true
    · obtain ⟨slot, hslot, hat⟩ := Node.status_confirmed hrow hsuccess
      cases row with
      | mk status err slot' =>
        have hslot : slot' = some slot := hslot
        subst hslot
        simp only [if_pos hsuccess] at hok
        cases err with
        | none =>
          injection hok with ho
          injection ho with ho
          subst ho
          exact Or.inl ⟨p.statusAt, hat⟩
        | some err =>
          cases hl : p.logs with
          | error e =>
            rw [hl] at hok
            cases hok
          | ok logs =>
            rw [hl] at hok
            injection hok with ho
            injection ho with ho
            subst ho
            exact Or.inl ⟨p.statusAt, hat⟩
    · simp only [if_neg hsuccess] at hok
      cases hok

/-- **When a verdict is final**, for every history of the node, every submission and every list of
    polls, started whenever: unless a poll that is reached finds the lifetime over and the node has
    forgotten that the submission landed. -/
theorem verdict_final_iff (hlife : h.InLifetime s) (polls : List Poll) :
    Final h success s
        (confirmSubmission attributed success s
          (polls.map (Poll.reads h window s.signature))) ↔
      ¬ ∃ before p after, polls = before ++ p :: after ∧
        (∀ q ∈ before, q.Waits success s h window) ∧ p.Misled s h window := by
  constructor
  · rintro hfinal ⟨before, p, after, rfl, hwaits, hmisled⟩
    have hlast : poll attributed success s (p.reads h window s.signature) =
        .ok (some (.expired s.signature s.lastValidBlockHeight (h.node p.heightAt).height)) := by
      rw [poll_reads attributed success s h window p hmisled.height hmisled.status,
        hmisled.forgotten.2]
      exact if_pos hmisled.past
    have hbefore : ∀ r ∈ before.map (Poll.reads h window s.signature),
        poll attributed success s r = .ok none := by
      intro r hr
      obtain ⟨q, hq, rfl⟩ := List.mem_map.mp hr
      exact (poll_waits_iff attributed success s h window q).mpr (hwaits q hq)
    rw [List.map_append, List.map_cons,
      confirmSubmission_reached attributed success s hbefore hlast] at hfinal
    exact hfinal _ hmisled.forgotten.1
  · intro hnever
    cases hout : confirmSubmission attributed success s
        (polls.map (Poll.reads h window s.signature)) with
    | error m => trivial
    | ok o =>
      by_cases hknown : o = .statusUnknown s.signature
      · rw [hknown]
        trivial
      · obtain ⟨before, r, after, hsplit, hwaits, hlast⟩ :=
          confirmSubmission_ok attributed success s hout hknown
        obtain ⟨before', rest, rfl, hb, hrest⟩ := List.map_eq_append_iff.mp hsplit
        obtain ⟨p, after', rfl, rfl, hafter⟩ := List.map_eq_cons_iff.mp hrest
        rcases poll_final attributed success s h window hlife hlast with hfinal | hmisled
        · exact hfinal
        · refine absurd ⟨before', p, after', rfl, ?_, hmisled⟩ hnever
          intro q hq
          refine (poll_waits_iff attributed success s h window q).mp (hwaits _ ?_)
          rw [← hb]
          exact List.mem_map_of_mem hq

end Verdict

/-! ## §6. A transaction the node has forgotten. -/

/-- The transfer is in the second block; a thousand slots later the node still answers, from the
    last 300. -/
def agedNode : Node String where
  confirmed := [⟨0, []⟩, ⟨1, [("5sig", none)]⟩, ⟨1000, []⟩]
  finalized := 3
  slot := 1000
  processed := []
  started := by simp

def agedHistory : History String := ⟨fun _ => agedNode, fun _ => Node.Grows.refl _⟩

def resumedPoll : Poll := ⟨0, 0, Nat.le_refl 0, none, none, .ok none⟩

theorem agedHistory_inLifetime : agedHistory.InLifetime ⟨"5sig", 1⟩ := by
  intro t i b hi hr
  match i with
  | 0 => exact Nat.zero_le 1
  | 1 => exact Nat.le_refl 1
  | 2 =>
    have hb : b = ⟨1000, []⟩ := (Option.some.inj hi).symm
    subst hb
    cases hr
  | _ + 3 => cases hi

/-- A record confirmed again in a later session: `expired`, of a transfer that landed. -/
theorem forgotten_expired :
    confirmSubmission (fun _ e => e) .finalized ⟨"5sig", 1⟩
        ([resumedPoll].map (Poll.reads agedHistory 300 "5sig")) =
      .ok (.expired "5sig" 1 2) ∧
    agedNode.LandedAt .finalized "5sig" 1 none :=
  ⟨rfl, 1, ⟨1, [("5sig", none)]⟩, rfl, rfl, rfl, fun _ => by decide⟩

/-- A node that keeps more slots tells. -/
theorem verdict_final_iff_remembered :
    Final agedHistory .finalized ⟨"5sig", 1⟩
        (confirmSubmission (fun _ e => e) .finalized ⟨"5sig", 1⟩
          ([resumedPoll].map (Poll.reads agedHistory 2000 "5sig"))) := by
  refine (verdict_final_iff (fun _ e => e) .finalized ⟨"5sig", 1⟩ agedHistory 2000
    agedHistory_inLifetime [resumedPoll]).mpr ?_
  rintro ⟨before, p, after, hsplit, -, hmisled⟩
  have hp : p = resumedPoll := by
    have hmem : p ∈ [resumedPoll] := by rw [hsplit]; simp
    exact List.mem_singleton.mp hmem
  rw [hp] at hmisled
  cases hmisled.forgotten.2

end Kargain.Storage.SvmConfirm
