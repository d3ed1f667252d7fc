/-
  Kargain.Nostr.NwcPay — lib/nostr/nwc/nwc-client.ts, payInvoice.

  The client subscribes to the answers that name its request, decrypts
  every event it is handed and settles on the first one it can classify;
  a timer and a failed publication settle it too.  Decryption is awaited,
  so events may be classified in another order than they came in.

  The filter names the kind, the request and the client, but no author.
  Main result: `own_answer_iff`, the outcome is that of the wallet's own
  events exactly if no event of another author is classified while the
  payment waits.
-/
import Mathlib
import Kargain.Base.Erasure

namespace Kargain.Nostr.Nwc

open Kargain.Erasure

/-! ## §1. Events and results. -/

abbrev Text := List Char

structure Event where
  pubkey : Text
  kind : ℕ
  tags : List (List Text)
  content : Text
deriving DecidableEq

def kindNwcResponse : ℕ := 23195

inductive NwcErrorCode
  | unsupported | timeout | relayUnreachable | unlockDeclined | rejected | insufficientBalance
  | invalidResponse
deriving DecidableEq

inductive NwcPayResult
  | paid (preimage : Text)
  | failed (code : NwcErrorCode)
deriving DecidableEq

/-- Of a number only whether it is zero is asked. -/
inductive Json
  | null
  | bool (b : Bool)
  | number (nonzero : Bool)
  | string (s : Text)
  | array (items : List Json)
  | object (members : List (Text × Json))

/-- A property of a value: `none` where reading it throws, and `some none` where it is undefined. -/
def Json.property (name : String) : Json → Option (Option Json)
  | null => none
  | object members => some ((members.find? fun m => m.1 = name.toList).map Prod.snd)
  | _ => some none

def Json.truthy : Json → Bool
  | null => false
  | bool b => b
  | number nonzero => nonzero
  | string s => s ≠ []
  | array _ => true
  | object _ => true

/-- The connection and what is not of this repository: the request as it was signed, the cipher
    (`none` where it throws), `JSON.parse`, and the relay's pool. -/
structure Env where
  walletPubkey : Text
  ourPubkey : Text
  reqId : Text
  /-- the request was encrypted -/
  encrypts : Bool
  /-- the pool took the subscription and the event without throwing -/
  opens : Bool
  decryptPayload : Text → Option Text
  jsonParse : Text → Option Json
  toUpperCase : Text → Text

variable (env : Env)

/-- `mapNwcErrorCode`, where the code is a text or undefined. -/
def mapNwcErrorCode (code : Option Text) : NwcErrorCode :=
  let normalized := (code.map env.toUpperCase).getD []
  if normalized = "INSUFFICIENT_BALANCE".toList then .insufficientBalance
  else if normalized = "NOT_AUTHORIZED".toList ∨ normalized = "RESTRICTED".toList ∨
      normalized = "QUOTA_EXCEEDED".toList then .rejected
  else .invalidResponse

/-- `parsed.error.code`, mapped; a code that is neither a text nor null throws. -/
def errorResult (error : Json) : Option NwcPayResult :=
  match error.property "code" with
  | none => none
  | some none => some (.failed (mapNwcErrorCode env none))
  | some (some .null) => some (.failed (mapNwcErrorCode env none))
  | some (some (.string code)) => some (.failed (mapNwcErrorCode env (some code)))
  | some (some _) => none

/-- `parsed.result?.preimage`. -/
def preimageResult (parsed : Json) : NwcPayResult :=
  match parsed.property "result" with
  | some (some result) =>
    match result.property "preimage" with
    | some (some (.string preimage)) =>
      if preimage ≠ [] then .paid preimage else .failed .invalidResponse
    | _ => .failed .invalidResponse
  | _ => .failed .invalidResponse

/-- What the handler finishes with on an event; `none` where it throws outside its `try`s. -/
def classify (event : Event) : Option NwcPayResult :=
  match env.decryptPayload event.content with
  | none => some (.failed .invalidResponse)
  | some decrypted =>
    match env.jsonParse decrypted with
    | none => some (.failed .invalidResponse)
    | some parsed =>
      match parsed.property "error" with
      | none => none
      | some (some error) =>
        if error.truthy then errorResult env error else some (preimageResult parsed)
      | some none => some (preimageResult parsed)

/-! ## §2. The wait. -/

/-- What settled the payment. -/
inductive Cause
  | beforehand
  | event (e : Event)
  | timer
  | publication
deriving DecidableEq

/-- `pending` has the events whose decryption is awaited. -/
structure Wait where
  settled : Option (Cause × NwcPayResult)
  pending : List Event

/-- `finish`: the first result stands. -/
def Wait.finish (w : Wait) (cause : Cause) (result : NwcPayResult) : Wait :=
  if w.settled.isSome then w else { w with settled := some (cause, result) }

inductive Action
  /-- the relay sends an event -/
  | send (e : Event)
  /-- the decryption of an event is done, or has failed -/
  | decrypted (e : Event)
  | timeout
  | publishFailed
deriving DecidableEq

/-- The filter of the subscription. -/
def answers (e : Event) : Bool :=
  e.kind = kindNwcResponse ∧
    (e.tags.any fun tag => tag.head? = some "e".toList ∧ tag[1]? = some env.reqId) ∧
    e.tags.any fun tag => tag.head? = some "p".toList ∧ tag[1]? = some env.ourPubkey

/-- Once settled, the subscription is closed. -/
def step (w : Wait) : Action → Wait
  | .send e =>
    if w.settled.isNone ∧ answers env e then { w with pending := e :: w.pending } else w
  | .decrypted e =>
    if e ∈ w.pending then
      match classify env e with
      | some result => { w with pending := w.pending.erase e }.finish (.event e) result
      | none => { w with pending := w.pending.erase e }
    else w
  | .timeout => w.finish .timer (.failed .timeout)
  | .publishFailed => w.finish .publication (.failed .relayUnreachable)

/-- `payInvoice` when it begins to wait. -/
def start : Wait where
  settled :=
    if env.encrypts = false then some (.beforehand, .failed .invalidResponse)
    else if env.opens = false then some (.beforehand, .failed .relayUnreachable)
    else none
  pending := []

def payInvoice (run : List Action) : Wait := run.foldl (step env) (start env)

def outcome (run : List Action) : Option NwcPayResult := (payInvoice env run).settled.map Prod.snd

/-- The step is about no event, or about one of the wallet. -/
def own : Action → Bool
  | .send e => e.pubkey = env.walletPubkey
  | .decrypted e => e.pubkey = env.walletPubkey
  | .timeout => true
  | .publishFailed => true

/-! ## §3. Two runs. -/

/-- The outcome is that of the wallet's events alone, and an event that settled the payment is the
    wallet's. -/
def OwnAnswer (run : List Action) : Prop :=
  outcome env run = outcome env (run.filter (own env)) ∧
    ∀ e result, (payInvoice env run).settled = some (.event e, result) → e.pubkey = env.walletPubkey

/-- The step classifies an event of another author while the payment waits. -/
def Intrudes (w : Wait) : Action → Prop
  | .decrypted e =>
    e.pubkey ≠ env.walletPubkey ∧ e ∈ w.pending ∧ w.settled = none ∧ (classify env e).isSome
  | _ => False

def Undisturbed (run : List Action) : Prop :=
  EachStep (step env) (fun w a => ¬ Intrudes env w a) (start env) run

variable {env}

theorem step_send (w : Wait) (e : Event) : step env w (.send e) =
    if w.settled.isNone ∧ answers env e then { w with pending := e :: w.pending } else w := rfl

theorem step_decrypted (w : Wait) (e : Event) : step env w (.decrypted e) =
    if e ∈ w.pending then
      match classify env e with
      | some result => { w with pending := w.pending.erase e }.finish (.event e) result
      | none => { w with pending := w.pending.erase e }
    else w := rfl

theorem filter_erase {α : Type} [DecidableEq α] (keep : α → Bool) (l : List α) (a : α) :
    (l.erase a).filter keep = (l.filter keep).erase a := by
  induction l with
  | nil => rfl
  | cons b l ih =>
    by_cases hb : b = a
    · subst hb
      rw [List.erase_cons_head]
      cases hk : keep b with
      | true => rw [List.filter_cons_of_pos hk, List.erase_cons_head]
      | false =>
        have hout : b ∉ l.filter keep := fun hin => by simp [hk] at hin
        rw [List.filter_cons_of_neg (by simp [hk]), List.erase_of_not_mem hout]
    · rw [List.erase_cons_tail (by simpa using hb)]
      cases hk : keep b with
      | true =>
        rw [List.filter_cons_of_pos hk, List.filter_cons_of_pos hk,
          List.erase_cons_tail (by simpa using hb), ih]
      | false => rw [List.filter_cons_of_neg (by simp [hk]), List.filter_cons_of_neg (by simp [hk]), ih]

theorem finish_settled {w : Wait} {cause : Cause} {result : NwcPayResult}
    (h : w.settled.isSome) : w.finish cause result = w := if_pos h

/-- **What is settled stays settled.** -/
theorem step_settled {w : Wait} {x : Cause × NwcPayResult} (h : w.settled = some x) (a : Action) :
    (step env w a).settled = some x := by
  have hsome : w.settled.isSome := by rw [h]; rfl
  cases a with
  | send e => simp [step, h]
  | decrypted e =>
    rw [step_decrypted]
    split
    · split
      · rw [finish_settled (by exact hsome)]
        exact h
      · exact h
    · exact h
  | timeout => rw [step, finish_settled hsome, h]
  | publishFailed => rw [step, finish_settled hsome, h]

/-- Both waits are settled alike, or neither is and they await the same events of the wallet. -/
def Alike (env : Env) (w w' : Wait) : Prop :=
  (∃ x, w.settled = some x ∧ w'.settled = some x) ∨
    (w.settled = none ∧ w'.settled = none ∧
      w'.pending = w.pending.filter fun e => e.pubkey = env.walletPubkey)

theorem alike_both {w w' : Wait} (a : Action) (hown : own env a = true) (h : Alike env w w') :
    Alike env (step env w a) (step env w' a) := by
  rcases h with ⟨x, hw, hw'⟩ | ⟨hw, hw', hpending⟩
  · exact .inl ⟨x, step_settled hw a, step_settled hw' a⟩
  cases a with
  | send e =>
    have hkey : e.pubkey = env.walletPubkey := by simpa [own] using hown
    right
    rw [step_send, step_send, hw, hw']
    split
    · exact ⟨rfl, rfl, by simp [hpending, hkey]⟩
    · exact ⟨hw, hw', hpending⟩
  | decrypted e =>
    have hkey : e.pubkey = env.walletPubkey := by simpa [own] using hown
    have hmem : e ∈ w'.pending ↔ e ∈ w.pending := by
      rw [hpending, List.mem_filter]
      simp [hkey]
    have herase : w'.pending.erase e =
        (w.pending.erase e).filter fun e => e.pubkey = env.walletPubkey := by
      rw [hpending, filter_erase]
    rw [step_decrypted, step_decrypted]
    by_cases hin : e ∈ w.pending
    · rw [if_pos hin, if_pos (hmem.mpr hin)]
      cases hc : classify env e with
      | none => exact .inr ⟨hw, hw', herase⟩
      | some result => exact .inl ⟨(.event e, result), by simp [Wait.finish, hw], by simp [Wait.finish, hw']⟩
    · rw [if_neg hin, if_neg fun hin' => hin (hmem.mp hin')]
      exact .inr ⟨hw, hw', hpending⟩
  | timeout => exact .inl ⟨_, by simp [step, Wait.finish, hw]; rfl, by simp [step, Wait.finish, hw']⟩
  | publishFailed =>
    exact .inl ⟨_, by simp [step, Wait.finish, hw]; rfl, by simp [step, Wait.finish, hw']⟩

theorem alike_one {w w' : Wait} (a : Action) (hown : own env a = false) (hok : ¬ Intrudes env w a)
    (h : Alike env w w') : Alike env (step env w a) w' := by
  rcases h with ⟨x, hw, hw'⟩ | ⟨hw, hw', hpending⟩
  · exact .inl ⟨x, step_settled hw a, hw'⟩
  cases a with
  | send e =>
    have hkey : e.pubkey ≠ env.walletPubkey := by simpa [own] using hown
    right
    rw [step_send]
    split
    · exact ⟨hw, hw', by simp [hpending, hkey]⟩
    · exact ⟨hw, hw', hpending⟩
  | decrypted e =>
    have hkey : e.pubkey ≠ env.walletPubkey := by simpa [own] using hown
    rw [step_decrypted]
    split
    · next hin =>
      -- the handler threw: the event is forgotten
      have hnone : classify env e = none := by
        by_contra hsome
        exact hok ⟨hkey, hin, hw, Option.isSome_iff_ne_none.mpr hsome⟩
      rw [hnone]
      refine .inr ⟨hw, hw', ?_⟩
      show w'.pending = (w.pending.erase e).filter _
      rw [hpending, filter_erase]
      rw [List.erase_of_not_mem]
      simp [hkey]
    · exact .inr ⟨hw, hw', hpending⟩
  | timeout => cases hown
  | publishFailed => cases hown

theorem alike_start : Alike env (start env) (start env) := by
  unfold Alike
  cases h : (start env).settled with
  | none => exact .inr ⟨rfl, rfl, rfl⟩
  | some x => exact .inl ⟨x, rfl, rfl⟩

/-- Settled by nobody, or by an event of the wallet, or by no event. -/
def SettledByOwn (env : Env) (w : Wait) : Prop :=
  ∀ e result, w.settled = some (.event e, result) → e.pubkey = env.walletPubkey

theorem settledByOwn_step {w : Wait} (a : Action) (h : SettledByOwn env w) (hok : ¬ Intrudes env w a) :
    SettledByOwn env (step env w a) := by
  intro e result hs
  cases hw : w.settled with
  | some x =>
    rw [step_settled hw a] at hs
    exact h e result (hw.trans hs)
  | none =>
    cases a with
    | send e' =>
      rw [step_send] at hs
      split at hs <;> exact h e result hs
    | decrypted e' =>
      rw [step_decrypted] at hs
      split at hs
      · next hin =>
        cases hc : classify env e' with
        | none =>
          rw [hc] at hs
          exact h e result hs
        | some result' =>
          rw [hc] at hs
          simp only [Wait.finish, hw, Option.isSome_none, Bool.false_eq_true, if_false,
            Option.some.injEq, Prod.mk.injEq, Cause.event.injEq] at hs
          by_contra hkey
          exact hok ⟨by rw [hs.1]; exact hkey, hin, hw, by rw [hc]; rfl⟩
      · exact h e result hs
    | timeout => simp [step, Wait.finish, hw] at hs
    | publishFailed => simp [step, Wait.finish, hw] at hs

/-- An intrusion settles the payment with the other's event, and it stays so. -/
theorem intrusion_stays {w : Wait} {a : Action} (h : Intrudes env w a) (run : List Action) :
    ∃ e result, e.pubkey ≠ env.walletPubkey ∧
      (run.foldl (step env) (step env w a)).settled = some (.event e, result) := by
  cases a with
  | decrypted e =>
    obtain ⟨hkey, hin, hw, hsome⟩ := h
    obtain ⟨result, hresult⟩ := Option.isSome_iff_exists.mp hsome
    refine ⟨e, result, hkey, ?_⟩
    have hnow : (step env w (.decrypted e)).settled = some (.event e, result) := by
      simp [step, hin, hresult, Wait.finish, hw]
    generalize step env w (.decrypted e) = s at hnow
    induction run generalizing s with
    | nil => exact hnow
    | cons b run ih => exact ih _ (step_settled hnow b)
  | send e => cases h
  | timeout => cases h
  | publishFailed => cases h

/-- **When the outcome is the wallet's own.** -/
theorem own_answer_iff (env : Env) (run : List Action) : OwnAnswer env run ↔ Undisturbed env run := by
  constructor
  · intro h
    by_contra hdist
    -- the first intrusion settles the payment
    have hfirst : ∀ (run : List Action) (w : Wait),
        ¬ EachStep (step env) (fun w a => ¬ Intrudes env w a) w run →
        ∃ e result, e.pubkey ≠ env.walletPubkey ∧
          (run.foldl (step env) w).settled = some (.event e, result) := by
      intro run
      induction run with
      | nil => exact fun w hno => absurd trivial hno
      | cons a run ih =>
        intro w hno
        by_cases ha : Intrudes env w a
        · exact intrusion_stays ha run
        · exact ih _ fun hrest => hno ⟨ha, hrest⟩
    obtain ⟨e, result, hkey, hsettled⟩ := hfirst run (start env) hdist
    exact hkey (h.2 e result hsettled)
  · intro h
    constructor
    · have hrel := erased_run (own env) (Alike env)
        (fun _ _ a hv _ hr => alike_both a hv hr) (fun _ _ a hv hok hr => alike_one a hv hok hr)
        alike_start h
      unfold outcome payInvoice
      rcases hrel with ⟨x, hx, hx'⟩ | ⟨hx, hx', _⟩ <;> rw [hx, hx']
    · refine invariant_run (SettledByOwn env) (fun _ a hs hok => settledByOwn_step a hs hok) ?_ h
      intro e result hs
      unfold start at hs
      split at hs
      · cases hs
      · split at hs <;> cases hs

/-- A wallet that answers `paid`: the cipher reads its payload only. -/
def paidEnv : Env where
  walletPubkey := ['w']
  ourPubkey := ['c']
  reqId := ['r']
  encrypts := true
  opens := true
  decryptPayload content := if content = ['k'] then some ['j'] else none
  jsonParse text := if text = ['j'] then
    some (.object [("result".toList, .object [("preimage".toList, .string ['p'])])]) else none
  toUpperCase := id

/-- An event of `author` that answers the request. -/
def answerOf (author content : Text) : Event where
  pubkey := author
  kind := kindNwcResponse
  tags := [["e".toList, ['r']], ["p".toList, ['c']]]
  content := content

/-- A stranger's event, which nobody can decrypt, comes in before the wallet's. -/
def forgedRun : List Action :=
  [.send (answerOf ['x'] ['z']), .decrypted (answerOf ['x'] ['z']),
    .send (answerOf ['w'] ['k']), .decrypted (answerOf ['w'] ['k'])]

theorem forged_failure : outcome paidEnv forgedRun = some (.failed .invalidResponse) ∧
    outcome paidEnv (forgedRun.filter (own paidEnv)) = some (.paid ['p']) ∧
    ¬ ∀ env run, OwnAnswer env run := by
  have hforged : outcome paidEnv forgedRun = some (.failed .invalidResponse) := by decide
  have hown : outcome paidEnv (forgedRun.filter (own paidEnv)) = some (.paid ['p']) := by decide
  refine ⟨hforged, hown, fun h => ?_⟩
  have hsame := (h paidEnv forgedRun).1
  rw [hforged, hown] at hsame
  cases hsame

end Kargain.Nostr.Nwc
