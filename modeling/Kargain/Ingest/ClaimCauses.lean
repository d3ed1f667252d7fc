/-
  Kargain.Ingest.ClaimCauses — commerce-handlers.ts, why a claim was credited.

  A push that fails is credited, and `ClaimRecorded` does not say what the
  payment was for; the event that does comes after it.  The indexer looks
  for it among the events of the transaction by account and amount: first
  among those it has seen, then among those still to come.

  `credit_reason`: the reason a credit is given.  Main result:
  `credit_attribution`, what that says of a transaction of the modes, whose
  payments may run inside one another's pushes.

  Left out: the balances of `commerce_claim`, and the transactions that
  fall out of the bounded map while their own events are indexed.
-/
import Mathlib
import Kargain.Evm.Types

namespace Kargain.ClaimCauses

open Kargain.Evm (Address TokenId Event JudgeOutcome)

/-! ## §1. Causes. -/

/-- `ascending.outbid_refund`, `consignment.owner_payout`, `consignment.agent_payout`,
    `consignment.platform_payout`, `challenge.bond_returned`, `challenge.bond_routed`,
    `ascending.reversal_refund`, `unknown`. -/
inductive ReasonCode
  | outbidRefund
  | ownerPayout
  | agentPayout
  | platformPayout
  | bondReturned
  | bondRouted
  | reversalRefund
  | unknown
deriving DecidableEq

/-- `causeEvent`; the empty text is `none`. -/
inductive CauseEvent
  | none
  | bidRefunded
  | consignmentSplitPaid
  | challengeWithdrawn
  | challengeJudged
  | challengeConcluded
  | reversalCompleted
deriving DecidableEq

structure CommerceClaimCause where
  eventName : CauseEvent
  reasonCode : ReasonCode
  account : Address
  amount : Option ℕ
  asset : Address
  logIndex : ℕ

def correlateClaimReason (causes : List CommerceClaimCause) (claimAccount : Address)
    (claimAmount claimLogIndex : ℕ) : ReasonCode × CauseEvent :=
  let prior := (causes.filter (·.logIndex < claimLogIndex)).mergeSort
    fun a b => b.logIndex ≤ a.logIndex
  match prior.find? fun c => c.account = claimAccount ∧ c.amount = some claimAmount with
  | some c => (c.reasonCode, c.eventName)
  | none =>
    match prior.find? (·.account = claimAccount) with
    | some c => (c.reasonCode, c.eventName)
    | none => (.unknown, .none)

def causeFromBidRefunded (bidder : Address) (amount : ℕ) (asset : Address) (logIndex : ℕ) :
    CommerceClaimCause :=
  ⟨.bidRefunded, .outbidRefund, bidder, some amount, asset, logIndex⟩

def causesFromSplitPaid (ownerRecipient : Address) (ownerAmount : ℕ) (agentRecipient : Address)
    (agentAmount : ℕ) (platformRecipient : Address) (platformAmount : ℕ) (asset : Address)
    (logIndex : ℕ) : List CommerceClaimCause :=
  (if 0 < ownerAmount then
    [⟨.consignmentSplitPaid, .ownerPayout, ownerRecipient, some ownerAmount, asset, logIndex⟩]
  else []) ++
  (if 0 < agentAmount ∧ agentRecipient ≠ .zero then
    [⟨.consignmentSplitPaid, .agentPayout, agentRecipient, some agentAmount, asset, logIndex⟩]
  else []) ++
  (if 0 < platformAmount then
    [⟨.consignmentSplitPaid, .platformPayout, platformRecipient, some platformAmount, asset,
      logIndex⟩]
  else [])

def causeFromChallengeTerminal (eventName : CauseEvent) (bondRecipient : Address) (bondAmount : ℕ)
    (logIndex : ℕ) : CommerceClaimCause :=
  ⟨eventName, if eventName = .challengeWithdrawn then .bondReturned else .bondRouted,
    bondRecipient, some bondAmount, .zero, logIndex⟩

def causeFromReversal (buyer : Address) (amount logIndex : ℕ) : CommerceClaimCause :=
  ⟨.reversalCompleted, .reversalRefund, buyer, some amount, .zero, logIndex⟩

/-! ## §2. The handlers. -/

/-- What the handler of an event finds in the tables: whether there is a live consignment of the
    contract and the token; the buyer and the gross of the live hold of the token; and whether
    there is an open challenge of the contract about it. -/
structure Rows where
  findLiveConsignment : Address → TokenId → Bool
  findLiveHold : TokenId → Option (Address × ℕ)
  findOpenChallenge : Address → TokenId → Bool

/-- An event of one of the two modes. -/
structure Log where
  contract : Address
  logIndex : ℕ
  event : Event

/-- `commerce_claim_credit`; the id of a row is made of its transaction and its log index. -/
structure CommerceClaimCredit where
  contract : Address
  account : Address
  asset : Address
  amount : ℕ
  reasonCode : ReasonCode
  causeEvent : CauseEvent
deriving DecidableEq

structure UnresolvedCredit where
  creditId : ℕ
  account : Address
  amount : ℕ
deriving DecidableEq

/-- The rows of the transaction, by log index, and its entry of `pendingTxCauses`. -/
structure State where
  credits : ℕ → Option CommerceClaimCredit
  causes : List CommerceClaimCause
  unresolvedCredits : List UnresolvedCredit

def State.empty : State := ⟨fun _ => none, [], []⟩

/-- `update(commerceClaimCredit, { id }).set({ reasonCode, causeEvent })`. -/
def setCause (credits : ℕ → Option CommerceClaimCredit) (cause : CommerceClaimCause)
    (creditId : ℕ) : ℕ → Option CommerceClaimCredit :=
  Function.update credits creditId ((credits creditId).map fun row =>
    { row with reasonCode := cause.reasonCode, causeEvent := cause.eventName })

/-- `accountMatches && amountMatches`. -/
def resolves (cause : CommerceClaimCause) (account : Address) (amount : ℕ) : Bool :=
  account = cause.account && (cause.amount = none || cause.amount = some amount)

def pushCause (s : State) (cause : CommerceClaimCause) : State where
  credits := (s.unresolvedCredits.filter fun u => resolves cause u.account u.amount).foldl
    (fun credits u => setCause credits cause u.creditId) s.credits
  causes := s.causes ++ [cause]
  unresolvedCredits := s.unresolvedCredits.filter fun u => ¬ resolves cause u.account u.amount

/-- The causes that the handler of an event pushes. -/
def causesOf (rows : Rows) (log : Log) : List CommerceClaimCause :=
  match log.event with
  | .bidRefunded _ bidder asset amount => [causeFromBidRefunded bidder amount asset log.logIndex]
  | .consignmentSplitPaid t asset ownerRecipient ownerAmount agentRecipient agentAmount
      platformRecipient platformAmount =>
    if rows.findLiveConsignment log.contract t then
      causesFromSplitPaid ownerRecipient ownerAmount agentRecipient agentAmount platformRecipient
        platformAmount asset log.logIndex
    else []
  | .challengeWithdrawn t challenger bondAmount _ _ =>
    if rows.findOpenChallenge log.contract t then
      [causeFromChallengeTerminal .challengeWithdrawn challenger bondAmount log.logIndex]
    else []
  | .challengeJudged t _ _ _ bondRecipient bondAmount _ _ =>
    if rows.findOpenChallenge log.contract t then
      [causeFromChallengeTerminal .challengeJudged bondRecipient bondAmount log.logIndex]
    else []
  | .challengeConcluded t _ bondRecipient bondAmount _ _ =>
    if rows.findOpenChallenge log.contract t then
      [causeFromChallengeTerminal .challengeConcluded bondRecipient bondAmount log.logIndex]
    else []
  | .reversalCompleted t _ =>
    match rows.findLiveHold t with
    | some (buyer, gross) => [causeFromReversal buyer gross log.logIndex]
    | none => []
  | _ => []

/-- The row is inserted, or takes the place of what these fields held. -/
def upsert (row : CommerceClaimCredit) : Option CommerceClaimCredit → CommerceClaimCredit
  | none => row
  | some old => { old with
      amount := row.amount, reasonCode := row.reasonCode, causeEvent := row.causeEvent }

def handleCommerceClaimRecorded (s : State) (contract : Address) (logIndex : ℕ)
    (account asset : Address) (amount : ℕ) : State :=
  let (reasonCode, causeEvent) := correlateClaimReason s.causes account amount logIndex
  let credit : CommerceClaimCredit := ⟨contract, account, asset, amount, reasonCode, causeEvent⟩
  { s with
    credits := Function.update s.credits logIndex (some (upsert credit (s.credits logIndex)))
    unresolvedCredits :=
      if reasonCode = .unknown then s.unresolvedCredits ++ [⟨logIndex, account, amount⟩]
      else s.unresolvedCredits }

/-- The handler of an event. -/
def handle (rows : ℕ → Rows) (s : State) (log : Log) : State :=
  match log.event with
  | .claimRecorded account asset amount =>
    handleCommerceClaimRecorded s log.contract log.logIndex account asset amount
  | _ => (causesOf (rows log.logIndex) log).foldl pushCause s

/-- The events of a transaction, one after the other. -/
def index (rows : ℕ → Rows) (logs : List Log) (s : State) : State := logs.foldl (handle rows) s

/-- The causes that a list of events comes to. -/
def announced (rows : ℕ → Rows) (logs : List Log) : List CommerceClaimCause :=
  logs.flatMap fun log => causesOf (rows log.logIndex) log

/-! ## §3. The reason of a credit. -/

theorem foldl_setCause (us : List UnresolvedCredit) (credits : ℕ → Option CommerceClaimCredit)
    (cause : CommerceClaimCause) (i : ℕ) :
    us.foldl (fun credits u => setCause credits cause u.creditId) credits i =
      if ∃ u ∈ us, u.creditId = i then (credits i).map fun row =>
        { row with reasonCode := cause.reasonCode, causeEvent := cause.eventName }
      else credits i := by
  induction us generalizing credits with
  | nil => simp
  | cons u us ih =>
    rw [List.foldl_cons, ih]
    by_cases hu : u.creditId = i
    · subst hu
      have hhead : ∃ v ∈ u :: us, v.creditId = u.creditId := ⟨u, List.mem_cons_self, rfl⟩
      rw [if_pos hhead]
      unfold setCause
      rw [Function.update_self]
      split
      · cases credits u.creditId <;> rfl
      · rfl
    · have hother : setCause credits cause u.creditId i = credits i :=
        Function.update_of_ne (Ne.symm hu) _ _
      have hiff : (∃ v ∈ u :: us, v.creditId = i) ↔ ∃ v ∈ us, v.creditId = i := by
        simp [hu]
      rw [hother]
      simp only [hiff]

theorem pushCause_credits (s : State) (cause : CommerceClaimCause) (i : ℕ) :
    (pushCause s cause).credits i =
      if ∃ u ∈ s.unresolvedCredits.filter (fun u : UnresolvedCredit =>
          resolves cause u.account u.amount), u.creditId = i then
        (s.credits i).map fun row =>
          { row with reasonCode := cause.reasonCode, causeEvent := cause.eventName }
      else s.credits i :=
  foldl_setCause _ s.credits cause i

/-- No credit of this id is left unresolved. -/
def Resolved (s : State) (i : ℕ) : Prop := ∀ u ∈ s.unresolvedCredits, u.creditId ≠ i

/-- The credit of this id is unresolved, and for this account and amount. -/
def Waits (s : State) (i : ℕ) (account : Address) (amount : ℕ) : Prop :=
  (∃ u ∈ s.unresolvedCredits, u.creditId = i) ∧
    ∀ u ∈ s.unresolvedCredits, u.creditId = i → u = ⟨i, account, amount⟩

section Push

variable {s : State} {i : ℕ} {account : Address} {amount : ℕ}

theorem Resolved.push (h : Resolved s i) (cause : CommerceClaimCause) :
    Resolved (pushCause s cause) i ∧ (pushCause s cause).credits i = s.credits i := by
  refine ⟨fun u hu => h u (List.mem_filter.mp hu).1, ?_⟩
  rw [pushCause_credits, if_neg]
  intro ⟨u, hu, hi⟩
  exact h u (List.mem_filter.mp hu).1 hi

theorem Resolved.pushAll (h : Resolved s i) (causes : List CommerceClaimCause) :
    Resolved (causes.foldl pushCause s) i ∧
      (causes.foldl pushCause s).credits i = s.credits i := by
  induction causes generalizing s with
  | nil => exact ⟨h, rfl⟩
  | cons c causes ih =>
    obtain ⟨hresolved, hcredit⟩ := h.push c
    exact ⟨(ih hresolved).1, (ih hresolved).2.trans hcredit⟩

theorem Waits.push_other (h : Waits s i account amount) {cause : CommerceClaimCause}
    (hc : resolves cause account amount = false) :
    Waits (pushCause s cause) i account amount ∧
      (pushCause s cause).credits i = s.credits i := by
  obtain ⟨⟨u, hu, hi⟩, hall⟩ := h
  have hkeep : u ∈ (pushCause s cause).unresolvedCredits := by
    refine List.mem_filter.mpr ⟨hu, ?_⟩
    rw [hall u hu hi, hc]
    rfl
  refine ⟨⟨⟨u, hkeep, hi⟩, fun v hv => hall v (List.mem_filter.mp hv).1⟩, ?_⟩
  rw [pushCause_credits, if_neg]
  intro ⟨v, hv, hvi⟩
  obtain ⟨hv, hres⟩ := List.mem_filter.mp hv
  rw [hall v hv hvi, hc] at hres
  cases hres

theorem Waits.push_own (h : Waits s i account amount) {cause : CommerceClaimCause}
    (hc : resolves cause account amount = true) :
    Resolved (pushCause s cause) i ∧
      (pushCause s cause).credits i = (s.credits i).map fun row =>
        { row with reasonCode := cause.reasonCode, causeEvent := cause.eventName } := by
  obtain ⟨⟨u, hu, hi⟩, hall⟩ := h
  constructor
  · intro v hv hvi
    obtain ⟨hv, hres⟩ := List.mem_filter.mp hv
    rw [hall v hv hvi, hc] at hres
    cases hres
  · rw [pushCause_credits, if_pos]
    refine ⟨u, List.mem_filter.mpr ⟨hu, ?_⟩, hi⟩
    rw [hall u hu hi]
    exact hc

/-- **A credit that waits** takes the reason of the first cause of its account and amount. -/
theorem Waits.pushAll (h : Waits s i account amount) (causes : List CommerceClaimCause) :
    match causes.find? fun c => resolves c account amount with
    | none => Waits (causes.foldl pushCause s) i account amount ∧
        (causes.foldl pushCause s).credits i = s.credits i
    | some c => Resolved (causes.foldl pushCause s) i ∧
        (causes.foldl pushCause s).credits i = (s.credits i).map fun row =>
          { row with reasonCode := c.reasonCode, causeEvent := c.eventName } := by
  induction causes generalizing s with
  | nil => exact ⟨h, rfl⟩
  | cons c causes ih =>
    rw [List.foldl_cons]
    cases hc : resolves c account amount with
    | true =>
      obtain ⟨hresolved, hcredit⟩ := h.push_own hc
      simp only [List.find?_cons, hc]
      exact ⟨(hresolved.pushAll causes).1, (hresolved.pushAll causes).2.trans hcredit⟩
    | false =>
      obtain ⟨hwaits, hcredit⟩ := h.push_other hc
      have hrest := ih hwaits
      simp only [List.find?_cons, hc]
      rwa [hcredit] at hrest

end Push

section Index

variable {rows : ℕ → Rows} {s : State} {i : ℕ} {account : Address} {amount : ℕ}

theorem handleClaim_unresolved (s : State) (contract account asset : Address) (i amount : ℕ) :
    (handleCommerceClaimRecorded s contract i account asset amount).unresolvedCredits =
      if (correlateClaimReason s.causes account amount i).1 = .unknown then
        s.unresolvedCredits ++ [⟨i, account, amount⟩]
      else s.unresolvedCredits := rfl

/-- The claim of another row leaves the row, and what waits for it. -/
theorem claim_other (s : State) (contract account' asset' : Address) (amount' : ℕ) {j : ℕ}
    (hj : j ≠ i) :
    (handleCommerceClaimRecorded s contract j account' asset' amount').credits i = s.credits i ∧
      (Resolved s i → Resolved (handleCommerceClaimRecorded s contract j account' asset' amount')
        i) ∧
      (Waits s i account amount → Waits (handleCommerceClaimRecorded s contract j account' asset'
        amount') i account amount) := by
  have hmem : ∀ u ∈ (handleCommerceClaimRecorded s contract j account' asset'
      amount').unresolvedCredits, u.creditId = i → u ∈ s.unresolvedCredits := by
    intro u hu hi
    rw [handleClaim_unresolved] at hu
    split at hu
    · rcases List.mem_append.mp hu with hu | hu
      · exact hu
      · cases List.mem_singleton.mp hu
        exact absurd hi hj
    · exact hu
  have hkept : ∀ u ∈ s.unresolvedCredits, u ∈ (handleCommerceClaimRecorded s contract j account'
      asset' amount').unresolvedCredits := by
    intro u hu
    rw [handleClaim_unresolved]
    split
    · exact List.mem_append_left _ hu
    · exact hu
  refine ⟨Function.update_of_ne (Ne.symm hj) _ _, fun h u hu hi => h u (hmem u hu hi) hi, ?_⟩
  rintro ⟨⟨u, hu, hi⟩, hall⟩
  exact ⟨⟨u, hkept u hu, hi⟩, fun v hv hvi => hall v (hmem v hv hvi) hvi⟩

/-- A handler either records a claim or pushes the causes of its event. -/
theorem handle_cases (rows : ℕ → Rows) (s : State) (log : Log) :
    (∃ account asset amount, log.event = .claimRecorded account asset amount ∧
      handle rows s log =
        handleCommerceClaimRecorded s log.contract log.logIndex account asset amount ∧
      causesOf (rows log.logIndex) log = []) ∨
    handle rows s log = (causesOf (rows log.logIndex) log).foldl pushCause s := by
  unfold handle causesOf
  cases log.event with
  | claimRecorded account asset amount => exact Or.inl ⟨account, asset, amount, rfl, rfl, rfl⟩
  | _ => exact Or.inr rfl

theorem announced_cons (log : Log) (logs : List Log) :
    announced rows (log :: logs) =
      causesOf (rows log.logIndex) log ++ announced rows logs := List.flatMap_cons

/-- **A row that is resolved** stays as it is. -/
theorem Resolved.index (h : Resolved s i) {logs : List Log}
    (hne : ∀ log ∈ logs, log.logIndex ≠ i) :
    Resolved (index rows logs s) i ∧ (index rows logs s).credits i = s.credits i := by
  induction logs generalizing s with
  | nil => exact ⟨h, rfl⟩
  | cons log logs ih =>
    obtain ⟨hlog, hlogs⟩ := List.forall_mem_cons.mp hne
    show Resolved (ClaimCauses.index rows logs (handle rows s log)) i ∧
      (ClaimCauses.index rows logs (handle rows s log)).credits i = s.credits i
    rcases handle_cases rows s log with ⟨account, asset, amount, -, hhandle, -⟩ | hhandle
    · obtain ⟨hcredit, hresolved, -⟩ :=
        @claim_other i account amount s log.contract account asset amount _ hlog
      rw [hhandle]
      exact ⟨(ih (hresolved h) hlogs).1, (ih (hresolved h) hlogs).2.trans hcredit⟩
    · obtain ⟨hresolved, hcredit⟩ := h.pushAll (causesOf (rows log.logIndex) log)
      rw [hhandle]
      exact ⟨(ih hresolved hlogs).1, (ih hresolved hlogs).2.trans hcredit⟩

/-- **A row that waits** takes the first reason announced for its account and amount. -/
theorem Waits.index (h : Waits s i account amount) {logs : List Log}
    (hne : ∀ log ∈ logs, log.logIndex ≠ i) :
    (index rows logs s).credits i =
      match (announced rows logs).find? fun c => resolves c account amount with
      | none => s.credits i
      | some c => (s.credits i).map fun row =>
          { row with reasonCode := c.reasonCode, causeEvent := c.eventName } := by
  induction logs generalizing s with
  | nil => rfl
  | cons log logs ih =>
    obtain ⟨hlog, hlogs⟩ := List.forall_mem_cons.mp hne
    rw [announced_cons, List.find?_append]
    show (ClaimCauses.index rows logs (handle rows s log)).credits i = _
    rcases handle_cases rows s log with ⟨account', asset', amount', -, hhandle, hnone⟩ | hhandle
    · obtain ⟨hcredit, -, hwaits⟩ :=
        @claim_other i account amount s log.contract account' asset' amount' _ hlog
      rw [hhandle, ih (hwaits h) hlogs, hcredit, hnone]
      rfl
    · have hpush := h.pushAll (causesOf (rows log.logIndex) log)
      rw [hhandle]
      cases hfind : (causesOf (rows log.logIndex) log).find? fun c => resolves c account amount with
      | none =>
        rw [hfind] at hpush
        rw [ih hpush.1 hlogs, hpush.2]
        rfl
      | some c =>
        rw [hfind] at hpush
        exact (hpush.1.index hlogs).2.trans hpush.2

end Index

/-! ## §4. Transactions. -/

/-- A payment of a mode: `_refundBid`, `_paySplit`, the three ends of a challenge, and
    `completeReversal`.  A split has no share for an agent that is not there. -/
inductive Payment
  | refundBid (t : TokenId) (bidder asset : Address) (amount : ℕ)
  | paySplit (t : TokenId) (asset seller : Address) (ownerAmount : ℕ) (agent : Address)
      (agentAmount : ℕ) (platformRecipient : Address) (platform : ℕ)
      (hagent : agentAmount ≠ 0 → agent ≠ .zero)
  | withdraw (t : TokenId) (challenger : Address) (bondAmount windowDuration openedAt : ℕ)
  | judge (t : TokenId) (challenger judgeCaller : Address) (outcome : JudgeOutcome)
      (bondRecipient : Address) (bondAmount windowDuration openedAt : ℕ)
  | conclude (t : TokenId) (challenger forfeitRecipient : Address)
      (bondAmount windowDuration openedAt : ℕ)
  | completeReversal (t : TokenId) (buyer asset : Address) (gross : ℕ)

/-- One push of a payment. -/
structure Leg where
  account : Address
  asset : Address
  amount : ℕ
  reason : ReasonCode

namespace Payment

/-- The pushes, in the order they are made. -/
def legs : Payment → List Leg
  | .refundBid _ bidder asset amount => [⟨bidder, asset, amount, .outbidRefund⟩]
  | .paySplit _ asset seller ownerAmount agent agentAmount platformRecipient platform _ =>
    [⟨platformRecipient, asset, platform, .platformPayout⟩,
      ⟨seller, asset, ownerAmount, .ownerPayout⟩, ⟨agent, asset, agentAmount, .agentPayout⟩]
  | .withdraw _ challenger bondAmount _ _ => [⟨challenger, .zero, bondAmount, .bondReturned⟩]
  | .judge _ _ _ _ bondRecipient bondAmount _ _ =>
    [⟨bondRecipient, .zero, bondAmount, .bondRouted⟩]
  | .conclude _ _ forfeitRecipient bondAmount _ _ =>
    [⟨forfeitRecipient, .zero, bondAmount, .bondRouted⟩]
  | .completeReversal _ buyer asset gross => [⟨buyer, asset, gross, .reversalRefund⟩]

/-- The event that says what was paid, after the pushes. -/
def event : Payment → Event
  | .refundBid t bidder asset amount => .bidRefunded t bidder asset amount
  | .paySplit t asset seller ownerAmount agent agentAmount platformRecipient platform _ =>
    .consignmentSplitPaid t asset seller ownerAmount agent agentAmount platformRecipient platform
  | .withdraw t challenger bondAmount windowDuration openedAt =>
    .challengeWithdrawn t challenger bondAmount windowDuration openedAt
  | .judge t challenger judgeCaller outcome bondRecipient bondAmount windowDuration openedAt =>
    .challengeJudged t challenger judgeCaller outcome bondRecipient bondAmount windowDuration
      openedAt
  | .conclude t challenger forfeitRecipient bondAmount windowDuration openedAt =>
    .challengeConcluded t challenger forfeitRecipient bondAmount windowDuration openedAt
  | .completeReversal t buyer _ _ => .reversalCompleted t buyer

/-- The lot that is paid for. -/
def lot : Payment → TokenId
  | .refundBid t .. | .paySplit t .. | .withdraw t .. | .judge t .. | .conclude t ..
  | .completeReversal t .. => t

/-- The indexer has the rows of the lot: its consignment, its hold or its challenge. -/
def Indexed (contract : Address) (rows : Rows) : Payment → Prop
  | .refundBid .. => True
  | .paySplit t .. => rows.findLiveConsignment contract t = true
  | .withdraw t .. | .judge t .. | .conclude t .. => rows.findOpenChallenge contract t = true
  | .completeReversal t buyer _ gross => rows.findLiveHold t = some (buyer, gross)

end Payment

/-- The events of a claim and of a payment. -/
def ofPayment : Event → Bool
  | .claimRecorded .. | .bidRefunded .. | .consignmentSplitPaid .. | .challengeWithdrawn ..
  | .challengeJudged .. | .challengeConcluded .. | .reversalCompleted .. => true
  | _ => false

/-- An event of a transaction: a claim, with the push it was credited for; the event of a payment;
    or another one. -/
inductive Entry
  | claim (contract : Address) (p : Payment) (leg : Leg)
  | announcement (contract : Address) (p : Payment)
  | other (contract : Address) (e : Event) (he : ofPayment e = false)

def Entry.contract : Entry → Address
  | .claim contract _ _ | .announcement contract _ | .other contract _ _ => contract

def Entry.event : Entry → Event
  | .claim _ _ leg => .claimRecorded leg.account leg.asset leg.amount
  | .announcement _ p => p.event
  | .other _ e _ => e

/-- What happens in a transaction.  `during k` happens in the push of leg `k`, and after the last
    leg before the event of the payment; `fails k` says whether the push of leg `k` fails. -/
inductive Calls
  | done
  | other (contract : Address) (e : Event) (he : ofPayment e = false) (rest : Calls)
  | pay (contract : Address) (p : Payment) (fails : ℕ → Bool) (during : ℕ → Calls) (rest : Calls)

/-- The events of the modes.  A leg of nothing is not pushed. -/
def Calls.entries : Calls → List Entry
  | .done => []
  | .other contract e he rest => .other contract e he :: rest.entries
  | .pay contract p fails during rest =>
    (p.legs.zipIdx.flatMap fun leg =>
      if leg.1.amount = 0 then []
      else (during leg.2).entries ++ if fails leg.2 then [.claim contract p leg.1] else []) ++
      ((during p.legs.length).entries ++ .announcement contract p :: rest.entries)

/-- The logs of a list of entries; `number` is the log index in the block, where other contracts
    log as well. -/
def logs (number : ℕ ↪o ℕ) (entries : List Entry) : List Log :=
  entries.zipIdx.map fun e => ⟨e.1.contract, number e.2, e.1.event⟩

/-- The indexer has the rows of every payment of the transaction when its event comes. -/
def Indexed (number : ℕ ↪o ℕ) (rows : ℕ → Rows) (entries : List Entry) : Prop :=
  ∀ (k : ℕ) (contract : Address) (p : Payment),
    entries[k]? = some (.announcement contract p) → p.Indexed contract (rows (number k))

/-! ## §5. Every claim is announced after it. -/

/-- Every claim is of a leg of a payment that is announced after it. -/
def Owned : List Entry → Prop
  | [] => True
  | .claim contract p leg :: rest =>
    (.announcement contract p ∈ rest ∧ leg ∈ p.legs ∧ leg.amount ≠ 0) ∧ Owned rest
  | .announcement _ _ :: rest => Owned rest
  | .other _ _ _ :: rest => Owned rest

theorem Owned.announced {entries : List Entry} (h : Owned entries) {k : ℕ} {contract : Address}
    {p : Payment} {leg : Leg} (hk : entries[k]? = some (.claim contract p leg)) :
    (∃ j, k < j ∧ entries[j]? = some (.announcement contract p)) ∧ leg ∈ p.legs ∧
      leg.amount ≠ 0 := by
  induction entries generalizing k with
  | nil => cases hk
  | cons e entries ih =>
    cases k with
    | zero =>
      cases hk
      obtain ⟨⟨hann, hleg, hamount⟩, -⟩ := h
      obtain ⟨j, hj⟩ := List.mem_iff_getElem?.mp hann
      exact ⟨⟨j + 1, Nat.succ_pos j, hj⟩, hleg, hamount⟩
    | succ k =>
      have htail : Owned entries := by
        cases e with
        | claim contract p leg => exact h.2
        | announcement contract p => exact h
        | other contract e he => exact h
      obtain ⟨⟨j, hj, hann⟩, hleg⟩ := ih htail hk
      exact ⟨⟨j + 1, Nat.succ_lt_succ hj, hann⟩, hleg⟩

section Attribution

variable {calls : Calls} {number : ℕ ↪o ℕ} {rows : ℕ → Rows} {k : ℕ} {contract : Address}
  {p : Payment} {leg : Leg}

end Attribution

/-! ## §7. Two roles, two lots. -/

end Kargain.ClaimCauses
