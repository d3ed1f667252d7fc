/-
  Kargain.UriFlag — whether an update of a URI ended a verification.

  Both indexers keep a history of the URIs of a passport, with a flag for
  the updates that reset its verification.  The events of an update do not
  say so: the reset is an event of its own.  The EVM indexer takes an
  update for one that reset if the row says the last reset was in the same
  second; the projection of the Solana events has a constant.

  Main results: `flagged_update` and `projected_update`, what the flag is;
  `uri_flag`, when it is right.
-/
import Mathlib
import Kargain.Evm.BridgedEffects
import Kargain.Svm.PassportEffects
import Kargain.Ingest.Projection

namespace Kargain.UriFlag

open Kargain.Evm (Address TokenId Status)
open Kargain.Evm.Bridge (Event Uri Chain)

/-! ## §1. Calls and their events. -/

/-- The events of an update or a reset. -/
def ofUri : Event → Bool
  | .passportURIUpdated .. | .verificationReset .. => true
  | _ => false

/-- A call to KarPassport, by what it logs; `status` is the passport's before the call. -/
inductive Call
  | setPassportURI (t : TokenId) (status : Status) (newURI : Uri) (author : Address)
  | bridgeResetOnUnlock (t : TokenId) (status : Status) (adopted : Option Uri) (author : Address)
  | other (e : Event) (he : ofUri e = false)

namespace Call

/-- What the call logs, oldest first. -/
def events : Call → List Event
  | .setPassportURI t status newURI author =>
    (if status = .verified then [.verificationReset t author] else []) ++
      [.passportURIUpdated t newURI author]
  | .bridgeResetOnUnlock t status adopted author =>
    (if status = .verified then [.verificationReset t author] else []) ++
      ((adopted.map (.passportURIUpdated t · author)).toList ++ [.custodyLockSet t false])
  | .other e _ => [e]

/-- The passport whose URI the call updates, with the new URI and its author. -/
def update : Call → Option (TokenId × Uri × Address)
  | .setPassportURI t _ newURI author => some (t, newURI, author)
  | .bridgeResetOnUnlock t _ adopted author => adopted.map (t, ·, author)
  | .other .. => none

/-- The passport whose verification the call ends. -/
def ended : Call → Option TokenId
  | .setPassportURI t status _ _ | .bridgeResetOnUnlock t status _ _ =>
    if status = .verified then some t else none
  | .other .. => none

end Call

section Contract

variable {P : Type} [Evm.Erc721 P] {c c' : Chain P} {s : Address} {t : TokenId} {uri : Uri}

open Kargain.Evm Kargain.Evm.Bridge

/-- What an edit logs, and that it ends the verification there was. -/
theorem setPassportURI_log (h : setPassportURI c s t uri = .ok c') :
    c'.log = (Call.events (.setPassportURI t (c.passportStatus t) uri s)).reverse ++ c.log ∧
      (c.passportStatus t = .verified → c'.passportStatus t = .unverified) := by
  simp only [setPassportURI, Chain.requireExists, Chain.requireNotBridgedAway, setTokenURIChecked,
    bind_ok, revertIf_ok, require_ok, pure_ok, exists_const] at h
  obtain ⟨c₁, h₁, -, -, -, -, -, -, c₂, ⟨-, rfl⟩, rfl⟩ := h
  obtain ⟨-, rfl⟩ := enter_ok h₁
  by_cases hv : c.passportStatus t = .verified
  · simp [Call.events, hv, leave, Chain.emit, Chain.setTrust]
  · simp [Call.events, hv, leave, Chain.emit]

theorem bridgeResetOnUnlock_log (h : bridgeResetOnUnlock c s t uri = .ok c') :
    c'.log = (Call.events (.bridgeResetOnUnlock t (c.passportStatus t)
        (if uri ≠ [] ∧ uri ≠ c.tokenURI t then some uri else none) c.bridgeGateway)).reverse ++
          c.log ∧
      c'.passportStatus t = .unverified := by
  refine ⟨?_, ?_⟩
  · simp only [bridgeResetOnUnlock, onlyGateway, Chain.requireExists, bind_ok, require_ok,
      revertIf_ok, pure_ok, exists_const] at h
    obtain ⟨-, -, -, c₁, h₁, rfl⟩ := h
    by_cases hv : c.passportStatus t = .verified
    · rw [if_pos hv] at h₁
      split at h₁
      · rename_i ha
        simp only [setTokenURIChecked, bind_ok, revertIf_ok, pure_ok, exists_const] at h₁
        obtain ⟨_, ⟨-, rfl⟩, rfl⟩ := h₁
        have ha : uri ≠ [] ∧ uri ≠ c.tokenURI t := ha
        simp [Call.events, hv, ha, Chain.emit, Chain.setLock, Chain.setTrust]
      · rename_i ha
        obtain rfl := pure_ok.mp h₁
        have ha : ¬ (uri ≠ [] ∧ uri ≠ c.tokenURI t) := ha
        simp [Call.events, hv, if_neg ha, Chain.emit, Chain.setLock, Chain.setTrust]
    · rw [if_neg hv] at h₁
      split at h₁
      · rename_i ha
        simp only [setTokenURIChecked, bind_ok, revertIf_ok, pure_ok, exists_const] at h₁
        obtain ⟨_, ⟨-, rfl⟩, rfl⟩ := h₁
        have ha : uri ≠ [] ∧ uri ≠ c.tokenURI t := ha
        simp [Call.events, hv, ha, Chain.emit, Chain.setLock, Chain.setTrust]
      · rename_i ha
        obtain rfl := pure_ok.mp h₁
        have ha : ¬ (uri ≠ [] ∧ uri ≠ c.tokenURI t) := ha
        simp [Call.events, hv, if_neg ha, Chain.emit, Chain.setLock, Chain.setTrust]
  · have hself := (bridgeResetOnUnlock_ok h).2.2.2.2.self
    exact congrArg View.status hself

end Contract

/-! ## §2. The EVM indexer. -/

/-- The columns of `passport` that the history is made of. -/
structure PassportRow where
  tokenUri : Uri
  lastVerificationResetAt : ℕ

/-- A row of `passportUriHistory`; its id is the transaction and the index of the log. -/
structure UriHistoryRow where
  id : ℕ × ℕ
  tokenId : TokenId
  chainId : ℕ
  previousUri : Uri
  newUri : Uri
  author : Address
  verificationReset : Bool
  timestamp : ℕ

/-- A log with its chain, its block's timestamp, its transaction and its index there. -/
structure Log where
  chainId : ℕ
  timestamp : ℕ
  hash : ℕ
  logIndex : ℕ
  event : Event

structure Indexed where
  passport : TokenId → Option PassportRow
  history : List UriHistoryRow

def Indexed.empty : Indexed := ⟨fun _ => none, []⟩

def Indexed.set (s : Indexed) (t : TokenId) (row : PassportRow) : Indexed :=
  { s with passport := Function.update s.passport t (some row) }

/-- `appendUriHistory`. -/
def Indexed.appendUriHistory (s : Indexed) (row : UriHistoryRow) : Indexed :=
  { s with history := s.history ++ [row] }

/-- The handlers; `none` is one that throws: an insert of a row that is there, an update of one
    that is not. -/
def handle (s : Indexed) (x : Log) : Option Indexed :=
  match x.event with
  | .passportMinted dst t uri =>
    if (s.passport t).isSome then none
    else some ((s.set t ⟨uri, 0⟩).appendUriHistory
      ⟨(x.hash, x.logIndex), t, x.chainId, [], uri, dst, false, x.timestamp⟩)
  | .passportBridgeMinted dst t uri =>
    let existing := s.passport t
    let row := match existing with
      | some row => { row with tokenUri := uri }
      | none => ⟨uri, 0⟩
    some ((s.set t row).appendUriHistory
      ⟨(x.hash, x.logIndex), t, x.chainId, (existing.map (·.tokenUri)).getD [], uri, dst, false,
        x.timestamp⟩)
  | .verificationReset t _ =>
    (s.passport t).map fun row => s.set t { row with lastVerificationResetAt := x.timestamp }
  | .passportURIUpdated t newURI author =>
    (s.passport t).map fun row =>
      (s.set t { row with tokenUri := newURI }).appendUriHistory
        ⟨(x.hash, x.logIndex), t, x.chainId, row.tokenUri, newURI, author,
          row.lastVerificationResetAt = x.timestamp, x.timestamp⟩
  | .passportVerified t _ | .passportDisputed t _ | .challengeOpened t _ | .challengeJudged t _ _
  | .challengeConcluded t | .challengeWithdrawn t _ =>
    if (s.passport t).isSome then some s else none
  | _ => some s

/-- A call where and when it was made. -/
structure Placed where
  chainId : ℕ
  timestamp : ℕ
  hash : ℕ
  logIndex : ℕ
  call : Call

/-- Its logs. -/
def Placed.logs (x : Placed) : List Log :=
  x.call.events.zipIdx.map fun (e, i) => ⟨x.chainId, x.timestamp, x.hash, x.logIndex + i, e⟩

/-- The indexer, over the calls in the order their logs come in. -/
def index (calls : List Placed) : Option Indexed :=
  (calls.flatMap Placed.logs).foldlM handle .empty

/-- When the verification of `t` was last ended. -/
def lastEnded (t : TokenId) (calls : List Placed) : Option ℕ :=
  calls.foldl (fun last x => if x.call.ended = some t then some x.timestamp else last) none

/-! ## §3. What the handlers know. -/

/-- When the verification of `t` was last reset in the logs. -/
def lastReset (t : TokenId) (logs : List Log) : Option ℕ :=
  logs.foldl (fun last x =>
    match x.event with
    | .verificationReset t' _ => if t' = t then some x.timestamp else last
    | _ => last) none

theorem lastReset_append (t : TokenId) (logs : List Log) (x : Log) :
    lastReset t (logs ++ [x]) =
      match x.event with
      | .verificationReset t' _ => if t' = t then some x.timestamp else lastReset t logs
      | _ => lastReset t logs := by
  simp [lastReset]

/-- The rows know the last reset; a passport without a row had none. -/
structure Knows (logs : List Log) (s : Indexed) : Prop where
  row : ∀ t row, s.passport t = some row → row.lastVerificationResetAt = (lastReset t logs).getD 0
  absent : ∀ t, s.passport t = none → lastReset t logs = none

section Handlers

variable {logs : List Log} {s s' : Indexed} {x : Log} {t : TokenId}

theorem Knows.set (h : Knows logs s) (hn : ∀ t', lastReset t' (logs ++ [x]) = lastReset t' logs)
    (row : PassportRow) (hrow : row.lastVerificationResetAt = (lastReset t logs).getD 0) (rows : List UriHistoryRow) :
    Knows (logs ++ [x]) { s.set t row with history := rows } where
  row t' row' hrow' := by
    rw [hn]
    by_cases ht : t' = t
    · subst ht
      simp only [Indexed.set, Function.update_self, Option.some.injEq] at hrow'
      subst hrow'
      exact hrow
    · simp only [Indexed.set, Function.update_of_ne ht] at hrow'
      exact h.row t' row' hrow'
  absent t' hnone := by
    rw [hn]
    by_cases ht : t' = t
    · subst ht
      simp [Indexed.set] at hnone
    · simp only [Indexed.set, Function.update_of_ne ht] at hnone
      exact h.absent t' hnone

theorem Knows.same (h : Knows logs s) (hn : ∀ t', lastReset t' (logs ++ [x]) = lastReset t' logs) :
    Knows (logs ++ [x]) s where
  row t' row' hrow' := by
    rw [hn]
    exact h.row t' row' hrow'
  absent t' hnone := by
    rw [hn]
    exact h.absent t' hnone

/-- **One log**: what the rows know stays true. -/
theorem handle_knows (hk : Knows logs s) (h : handle s x = some s') : Knows (logs ++ [x]) s' := by
  obtain ⟨chainId, timestamp, hash, logIndex, e⟩ := x
  cases e with
  | verificationReset t author =>
    simp only [handle, Option.map_eq_some_iff] at h
    obtain ⟨row, hrow, rfl⟩ := h
    constructor
    · intro t' row' hrow'
      rw [lastReset_append]
      by_cases ht : t = t'
      · subst ht
        simp only [Indexed.set, Function.update_self, Option.some.injEq] at hrow'
        subst hrow'
        simp
      · simp only [Indexed.set, Function.update_of_ne (Ne.symm ht)] at hrow'
        simpa [ht] using hk.row t' row' hrow'
    · intro t' hnone
      rw [lastReset_append]
      by_cases ht : t = t'
      · subst ht
        simp [Indexed.set] at hnone
      · simp only [Indexed.set, Function.update_of_ne (Ne.symm ht)] at hnone
        simpa [ht] using hk.absent t' hnone
  | passportMinted dst t uri =>
    simp only [handle] at h
    split at h
    · cases h
    · next hnone =>
      cases h
      have hnone : s.passport t = none := by simpa using hnone
      refine hk.set (fun t' => lastReset_append t' _ _) _ ?_ _
      rw [hk.absent t hnone]
      rfl
  | passportBridgeMinted dst t uri =>
    cases h
    have hn : ∀ t', lastReset t' (logs ++
        [⟨chainId, timestamp, hash, logIndex, .passportBridgeMinted dst t uri⟩]) =
          lastReset t' logs := fun t' => lastReset_append t' _ _
    refine hk.set hn _ ?_ _
    cases hrow : s.passport t with
    | none =>
      rw [hk.absent t hrow]
      rfl
    | some row => exact hk.row t row hrow
  | passportURIUpdated t newURI author =>
    simp only [handle, Option.map_eq_some_iff] at h
    obtain ⟨row, hrow, rfl⟩ := h
    have hn : ∀ t', lastReset t' (logs ++
        [⟨chainId, timestamp, hash, logIndex, .passportURIUpdated t newURI author⟩]) =
          lastReset t' logs := fun t' => lastReset_append t' _ _
    exact hk.set hn ⟨newURI, row.lastVerificationResetAt⟩ (hk.row t row hrow) _
  | passportVerified | passportDisputed | challengeOpened | challengeJudged | challengeConcluded
  | challengeWithdrawn =>
    simp only [handle] at h
    split at h
    · cases h
      exact hk.same fun t' => lastReset_append t' _ _
    · cases h
  | _ =>
    cases h
    exact hk.same fun t' => lastReset_append t' _ _

/-- The history only grows. -/
theorem handle_history (h : handle s x = some s') : ∃ rows, s'.history = s.history ++ rows := by
  obtain ⟨chainId, timestamp, hash, logIndex, e⟩ := x
  cases e with
  | verificationReset t author =>
    simp only [handle, Option.map_eq_some_iff] at h
    obtain ⟨row, -, rfl⟩ := h
    exact ⟨[], (List.append_nil _).symm⟩
  | passportMinted dst t uri =>
    simp only [handle] at h
    split at h
    · cases h
    · cases h
      exact ⟨_, rfl⟩
  | passportBridgeMinted dst t uri =>
    cases h
    exact ⟨_, rfl⟩
  | passportURIUpdated t newURI author =>
    simp only [handle, Option.map_eq_some_iff] at h
    obtain ⟨row, -, rfl⟩ := h
    exact ⟨_, rfl⟩
  | passportVerified | passportDisputed | challengeOpened | challengeJudged | challengeConcluded
  | challengeWithdrawn =>
    simp only [handle] at h
    split at h
    · cases h
      exact ⟨[], (List.append_nil _).symm⟩
    · cases h
  | _ =>
    cases h
    exact ⟨[], (List.append_nil _).symm⟩

/-- **A run**: the rows know the last reset of all its logs. -/
theorem run_knows (more : List Log) (hk : Knows logs s) (h : more.foldlM handle s = some s') :
    Knows (logs ++ more) s' := by
  induction more generalizing logs s with
  | nil =>
    cases h
    rwa [List.append_nil]
  | cons x more ih =>
    rw [List.foldlM_cons] at h
    obtain ⟨s₁, h₁, h₂⟩ := Option.bind_eq_some_iff.mp h
    have := ih (handle_knows hk h₁) h₂
    rwa [List.append_assoc] at this

theorem run_history (more : List Log) (h : more.foldlM handle s = some s') :
    ∃ rows, s'.history = s.history ++ rows := by
  induction more generalizing s with
  | nil =>
    cases h
    exact ⟨[], (List.append_nil _).symm⟩
  | cons x more ih =>
    rw [List.foldlM_cons] at h
    obtain ⟨s₁, h₁, h₂⟩ := Option.bind_eq_some_iff.mp h
    obtain ⟨rows₁, hrows₁⟩ := handle_history h₁
    obtain ⟨rows₂, hrows₂⟩ := ih h₂
    exact ⟨rows₁ ++ rows₂, by rw [hrows₂, hrows₁, List.append_assoc]⟩

end Handlers

/-! ## §4. The logs of a call. -/

/-- Where in the logs of the call its update is. -/
def Placed.updateIndex (x : Placed) : ℕ := x.logIndex + if x.call.ended = none then 0 else 1

/-- The logs of an update: its reset, if it is one, and then itself. -/
theorem Placed.logs_update {x : Placed} {t : TokenId} {uri : Uri} {author : Address}
    (h : x.call.update = some (t, uri, author)) :
    ∃ before after, x.logs = before ++
        ⟨x.chainId, x.timestamp, x.hash, x.updateIndex, .passportURIUpdated t uri author⟩ :: after ∧
      ∀ logs, lastReset t (logs ++ before) =
        if x.call.ended = some t then some x.timestamp else lastReset t logs := by
  obtain ⟨chainId, timestamp, hash, logIndex, call⟩ := x
  cases call with
  | setPassportURI t' status newURI author' =>
    cases h
    by_cases hv : status = .verified
    · refine ⟨[⟨chainId, timestamp, hash, logIndex, .verificationReset t author⟩], [], ?_, ?_⟩
      · simp [Placed.logs, Call.events, Placed.updateIndex, Call.ended, hv]
      · intro logs
        rw [lastReset_append]
        simp [Call.ended, hv]
    · refine ⟨[], [], ?_, ?_⟩
      · simp [Placed.logs, Call.events, Placed.updateIndex, Call.ended, hv]
      · intro logs
        simp [Call.ended, hv]
  | bridgeResetOnUnlock t' status adopted author' =>
    cases adopted with
    | none => cases h
    | some uri' =>
      cases h
      by_cases hv : status = .verified
      · refine ⟨[⟨chainId, timestamp, hash, logIndex, .verificationReset t author⟩],
          [⟨chainId, timestamp, hash, logIndex + 2, .custodyLockSet t false⟩], ?_, ?_⟩
        · simp [Placed.logs, Call.events, Placed.updateIndex, Call.ended, hv]
        · intro logs
          rw [lastReset_append]
          simp [Call.ended, hv]
      · refine ⟨[], [⟨chainId, timestamp, hash, logIndex + 1, .custodyLockSet t false⟩], ?_, ?_⟩
        · simp [Placed.logs, Call.events, Placed.updateIndex, Call.ended, hv]
        · intro logs
          simp [Call.ended, hv]
  | other e he => cases h

/-- **The logs of the calls** say when a verification was last ended. -/
theorem lastReset_logs (t : TokenId) (calls : List Placed) :
    lastReset t (calls.flatMap Placed.logs) = lastEnded t calls := by
  induction calls using List.reverseRecOn with
  | nil => rfl
  | append_singleton calls x ih =>
    rw [List.flatMap_append, List.flatMap_singleton]
    have hx : ∀ logs, lastReset t (logs ++ x.logs) =
        if x.call.ended = some t then some x.timestamp else lastReset t logs := by
      intro logs
      obtain ⟨chainId, timestamp, hash, logIndex, call⟩ := x
      cases call with
      | setPassportURI t' status newURI author =>
        by_cases hv : status = .verified <;>
          simp [lastReset, Placed.logs, Call.events, Call.ended, hv]
      | bridgeResetOnUnlock t' status adopted author =>
        by_cases hv : status = .verified <;> cases adopted <;>
          simp [lastReset, Placed.logs, Call.events, Call.ended, hv]
      | other e he =>
        cases e with
        | passportURIUpdated | verificationReset => cases he
        | _ => simp [lastReset, Placed.logs, Call.events, Call.ended]
    rw [hx, ih]
    simp [lastEnded]

/-- **The flag of an update**: the second of the last end of a verification, the update's own
    included, is that of the update. -/
theorem flagged_update (older newer : List Placed) (x : Placed) {s : Indexed} {t : TokenId}
    {uri : Uri} {author : Address} (h : index (older ++ x :: newer) = some s)
    (hx : x.call.update = some (t, uri, author)) :
    ∃ row ∈ s.history, row.id = (x.hash, x.updateIndex) ∧ row.tokenId = t ∧
      row.chainId = x.chainId ∧ row.newUri = uri ∧ row.author = author ∧
      row.timestamp = x.timestamp ∧
      (row.verificationReset = true ↔
        x.call.ended = some t ∨ (lastEnded t older).getD 0 = x.timestamp) := by
  obtain ⟨before, after, hlogs, hreset⟩ := Placed.logs_update hx
  unfold index at h
  rw [List.flatMap_append, List.flatMap_cons, hlogs, List.append_assoc, List.cons_append,
    ← List.append_assoc, List.foldlM_append] at h
  obtain ⟨s₁, h₁, h⟩ := Option.bind_eq_some_iff.mp h
  rw [List.foldlM_cons] at h
  obtain ⟨s₂, h₂, h₃⟩ := Option.bind_eq_some_iff.mp h
  have hempty : Knows [] .empty := ⟨fun _ _ h => (nomatch h), fun _ _ => rfl⟩
  have hknows := run_knows _ hempty h₁
  simp only [handle, Option.map_eq_some_iff] at h₂
  obtain ⟨row, hrow, rfl⟩ := h₂
  obtain ⟨rows, hrows⟩ := run_history _ h₃
  have hlast := hknows.row t row hrow
  rw [List.nil_append, hreset, lastReset_logs] at hlast
  refine ⟨⟨(x.hash, x.updateIndex), t, x.chainId, row.tokenUri, uri, author,
    row.lastVerificationResetAt = x.timestamp, x.timestamp⟩, ?_, rfl, rfl, rfl, rfl, rfl, rfl, ?_⟩
  · rw [hrows]
    simp [Indexed.appendUriHistory, Indexed.set]
  · rw [decide_eq_true_eq, hlast]
    split
    · next hended => simp [hended]
    · next hended => simp [hended]

/-! ## §5. The Solana projection. -/

open Kargain.Projection (RawPayload ProjectionState projectPayloads projectStructuredPayload
  PassportUriHistory)

/-- A `set_passport_uri` that the program accepts, where its events are stored. -/
structure SetPassportUri where
  chainId : ℕ
  slot : ℕ
  txIndexInBlock : ℕ
  logIndex : ℕ
  resetId : Projection.Text
  updateId : Projection.Text
  tokenId : ℕ
  state : Svm.PassportState
  newUri : Projection.Text
  currentUri : Projection.Text
  owner : Projection.Pubkey
  reset : Bool
  accepted : Svm.Passport.checkSetUri state true newUri currentUri = .ok reset

/-- The payloads of its events. -/
def SetPassportUri.payloads (x : SetPassportUri) : List RawPayload :=
  (if x.reset then
    [⟨x.resetId, x.chainId, x.slot, x.txIndexInBlock, x.logIndex,
      some (.verificationReset x.tokenId)⟩] else []) ++
  [⟨x.updateId, x.chainId, x.slot, x.txIndexInBlock, x.logIndex + if x.reset then 1 else 0,
    some (.passportURIUpdated x.tokenId x.newUri x.owner)⟩]

theorem projected_row (encode : Projection.Pubkey → Projection.Text) {raw : RawPayload} {t : ℕ}
    {uri : Projection.Text} {owner : Projection.Pubkey}
    (he : raw.event = some (.passportURIUpdated t uri owner)) (rows : List RawPayload)
    (hraw : raw ∈ rows) (state : ProjectionState) :
    ∃ row ∈ (projectPayloads encode rows state).1.uriHistory, row.id = raw.id ∧ row.tokenId = t ∧
      row.newUri = uri ∧ row.verificationReset = false := by
  induction rows generalizing state with
  | nil => cases hraw
  | cons r rows ih =>
    show ∃ row ∈ (projectStructuredPayload encode r state).1.uriHistory ++
      (projectPayloads encode rows (projectStructuredPayload encode r state).2).1.uriHistory, _
    rcases List.mem_cons.mp hraw with rfl | hraw
    · have hown : ∃ row ∈ (projectStructuredPayload encode raw state).1.uriHistory,
          row.id = raw.id ∧ row.tokenId = t ∧ row.newUri = uri ∧ row.verificationReset = false := by
        unfold projectStructuredPayload
        rw [he]
        exact ⟨_, List.mem_singleton_self _, rfl, rfl, rfl, rfl⟩
      obtain ⟨row, hrow, hrest⟩ := hown
      exact ⟨row, List.mem_append_left _ hrow, hrest⟩
    · obtain ⟨row, hrow, hrest⟩ := ih hraw (projectStructuredPayload encode r state).2
      exact ⟨row, List.mem_append_right _ hrow, hrest⟩

/-- **The flag of a projected update** is off. -/
theorem projected_update (encode : Projection.Pubkey → Projection.Text) (x : SetPassportUri)
    (rows : List RawPayload) (hx : ∀ raw ∈ x.payloads, raw ∈ rows) (state : ProjectionState) :
    ∃ row ∈ (projectPayloads encode rows state).1.uriHistory, row.id = x.updateId ∧
      row.tokenId = x.tokenId ∧ row.newUri = x.newUri ∧ row.verificationReset = false :=
  projected_row encode rfl rows (hx _ (List.mem_append_right _ (List.mem_singleton_self _))) state

/-! ## §6. When the flag is right. -/

/-- **The flag of the URI history.**  On the EVM indexer it says of an update whether that ended a
    verification exactly if the update did, or the last verification before it that was ended
    was not in the same second; on the Solana projection, exactly if the update ended none. -/
theorem uri_flag (older newer : List Placed) (x : Placed) (s : Indexed) (t : TokenId) (uri : Uri)
    (author : Address) (h : index (older ++ x :: newer) = some s)
    (hx : x.call.update = some (t, uri, author))
    (encode : Projection.Pubkey → Projection.Text) (y : SetPassportUri) (rows : List RawPayload)
    (state : ProjectionState) (hy : ∀ raw ∈ y.payloads, raw ∈ rows) :
    (∃ row ∈ s.history, row.id = (x.hash, x.updateIndex) ∧ row.tokenId = t ∧
      row.newUri = uri ∧ row.timestamp = x.timestamp ∧
      ((row.verificationReset = true ↔ x.call.ended = some t) ↔
        x.call.ended = some t ∨ (lastEnded t older).getD 0 ≠ x.timestamp)) ∧
    ∃ row ∈ (projectPayloads encode rows state).1.uriHistory, row.id = y.updateId ∧
      row.tokenId = y.tokenId ∧ row.newUri = y.newUri ∧
      ((row.verificationReset = true ↔ y.state.status = .verified) ↔
        y.state.status ≠ .verified) := by
  constructor
  · obtain ⟨row, hrow, hid, ht, -, huri, -, hts, hflag⟩ := flagged_update older newer x h hx
    refine ⟨row, hrow, hid, ht, huri, hts, ?_⟩
    rw [hflag]
    by_cases hended : x.call.ended = some t <;> simp [hended]
  · obtain ⟨row, hrow, hid, ht, huri, hflag⟩ := projected_update encode y rows hy state
    refine ⟨row, hrow, hid, ht, huri, ?_⟩
    rw [hflag]
    simp

/-- A passport is minted, verified, and edited twice in one second. -/
def editedTwice : List Placed := [
  ⟨1, 50, 10, 0, .other (.passportMinted (.account 1) 7 [97]) rfl⟩,
  ⟨1, 60, 11, 0, .other (.passportVerified 7 (.account 2)) rfl⟩,
  ⟨1, 100, 12, 0, .setPassportURI 7 .verified [98] (.account 1)⟩,
  ⟨1, 100, 13, 0, .setPassportURI 7 .unverified [99] (.account 1)⟩]

/-- An edit of a verified passport on Solana. -/
def verifiedEdit : SetPassportUri where
  chainId := 2
  slot := 100
  txIndexInBlock := 0
  logIndex := 0
  resetId := ['r']
  updateId := ['u']
  tokenId := 7
  state := { (default : Svm.PassportState) with status := .verified }
  newUri := ['b']
  currentUri := ['a']
  owner := 1
  reset := true
  accepted := rfl

theorem uri_flag_editedTwice :
    (∃ s, index editedTwice = some s ∧
      ∃ row ∈ s.history, row.id = (12, 1) ∧ row.verificationReset = true) ∧
    ∃ row ∈ (projectPayloads (fun _ => []) verifiedEdit.payloads .empty).1.uriHistory,
      row.id = ['u'] ∧ row.verificationReset = false := by
  obtain ⟨s, hs⟩ := Option.isSome_iff_exists.mp (by decide : (index editedTwice).isSome = true)
  obtain ⟨⟨row, hrow, hid, -, -, -, hflag⟩, row', hrow', hid', -, -, hflag'⟩ := uri_flag
    [⟨1, 50, 10, 0, .other (.passportMinted (.account 1) 7 [97]) rfl⟩,
      ⟨1, 60, 11, 0, .other (.passportVerified 7 (.account 2)) rfl⟩]
    [⟨1, 100, 13, 0, .setPassportURI 7 .unverified [99] (.account 1)⟩]
    ⟨1, 100, 12, 0, .setPassportURI 7 .verified [98] (.account 1)⟩ s 7 [98] (.account 1) hs rfl
    (fun _ => []) verifiedEdit verifiedEdit.payloads .empty (fun _ h => h)
  refine ⟨⟨s, hs, row, hrow, hid, (hflag.mpr (Or.inl rfl)).mpr rfl⟩, row', hrow', hid', ?_⟩
  -- the update ended a verification, so the flag is wrong
  have hwrong := hflag'.not.mpr (not_not.mpr rfl)
  by_contra hset
  exact hwrong (iff_of_true (by simpa using hset) rfl)

/-- **The flags go wrong.**  The second edit of the second is flagged, and ended no verification;
    the edit on Solana ended one, and is not flagged. -/
theorem flags_fail :
    (∃ s, index editedTwice = some s ∧
      ∃ x ∈ editedTwice, x.call.update = some (7, [99], .account 1) ∧ x.call.ended = none ∧
      ∃ row ∈ s.history, row.id = (x.hash, x.updateIndex) ∧ row.verificationReset = true) ∧
    verifiedEdit.state.status = .verified ∧
      ∃ row ∈ (projectPayloads (fun _ => []) verifiedEdit.payloads .empty).1.uriHistory,
        row.id = verifiedEdit.updateId ∧ row.verificationReset = false := by
  refine ⟨?_, rfl, ?_⟩
  · obtain ⟨s, hs⟩ := Option.isSome_iff_exists.mp (by decide : (index editedTwice).isSome = true)
    obtain ⟨row, hrow, hid, -, -, -, -, -, hflag⟩ := flagged_update
      [⟨1, 50, 10, 0, .other (.passportMinted (.account 1) 7 [97]) rfl⟩,
        ⟨1, 60, 11, 0, .other (.passportVerified 7 (.account 2)) rfl⟩,
        ⟨1, 100, 12, 0, .setPassportURI 7 .verified [98] (.account 1)⟩]
      [] ⟨1, 100, 13, 0, .setPassportURI 7 .unverified [99] (.account 1)⟩ hs rfl
    exact ⟨s, hs, ⟨1, 100, 13, 0, .setPassportURI 7 .unverified [99] (.account 1)⟩,
      by simp [editedTwice], rfl, rfl, row, hrow, hid, hflag.mpr (Or.inr rfl)⟩
  · obtain ⟨row, hrow, hid, -, -, hflag⟩ := projected_update (fun _ => []) verifiedEdit
      verifiedEdit.payloads (fun _ h => h) .empty
    exact ⟨row, hrow, hid, hflag⟩

end Kargain.UriFlag
