/-
  Kargain.Ingest.IngestLoop — the ingest loop and its watermark.

  ingest-loop.ts: the catch-up after a start, the live follow, and the
  processing of discovered slots under them.  A process is started on the
  stored cursor, polls, and stops at any call; between its calls the chain
  grows.  The watermark is the last slot processed, and everything at or
  below it counts as done.

  Left out: the lag that is shown to health checks, and what the written
  rows say.

  The programs are those of §1 to §4; what the watermark stands for is in
  `Watermark`.
-/
import Kargain.Ingest.SlotDiscovery
import Kargain.Base.Runs

namespace Kargain.Ingest

/-! ## §1. Incidents and the cursor. -/

/-- `RETRIABLE_CATCHUP_INCIDENTS`. -/
def isRetriableCatchupIncident : CatchupIncident → Bool
  | .discoveryIncomplete | .bootstrapRangeNotEnumerated | .rpcBudgetExhausted
  | .rpcUnreachable => true
  | _ => false

/-- `classifyIngestRpcFailure`: the failures that are recorded as incidents. -/
def classified : Stop → Bool
  | .failed .budgetExhausted | .failed .unreachable => true
  | _ => false

def incidentOf : Stop → CatchupIncident
  | .failed .budgetExhausted => .rpcBudgetExhausted
  | _ => .rpcUnreachable

structure Options where
  startSlot : Slot
  maxLagSlots : Slot
  followedPrograms : List FollowedProgram
  /-- `resolveIngestStartSlot` takes the least deploy slot. -/
  start_le : ∀ p ∈ followedPrograms, startSlot ≤ p.deploySlot

/-- Change the cursor the process has in memory. -/
def setCursor (f : Cursor → Cursor) : Work Unit :=
  Prog.modify fun s => { s with memory := { s.memory with cursor := f s.memory.cursor } }

def setHalted (b : Bool) : Work Unit :=
  Prog.modify fun s => { s with memory := { s.memory with halted := b } }

def persistCursor : Work Unit := do
  let _ ← call
  Prog.modify fun s => { s with store := { s.store with cursor := some s.memory.cursor } }

def insertIngestRefusal (slot : Option Slot) : Work Unit := do
  let _ ← call
  Prog.modify fun s => { s with store := { s.store with refused := slot.toList ++ s.store.refused } }

def recordIncident (incident : CatchupIncident) (slot : Option Slot) : Work Unit := do
  setCursor fun c => { c with catchupIncident := some incident }
  if isRetriableCatchupIncident incident = false then do
    setHalted true
    insertIngestRefusal slot
  persistCursor

/-- `Options.initialCursor`, before any row is there. -/
def initialCursor (o : Options) : Cursor := ⟨o.startSlot - 1, true, none⟩

def initCursor : Work Unit := do
  let _ ← call
  let s ← Prog.get
  match s.store.cursor with
  | some existing => do
    setCursor fun _ => existing
    match existing.catchupIncident with
    | some incident => if isRetriableCatchupIncident incident = false then setHalted true
    | none => pure ()
  | none => persistCursor

/-! ## §2. One slot, and a list of slots. -/

/-- The rows of a transaction. -/
def writeTransaction (r : Signature) : Work Unit := do
  let _ ← call
  Prog.modify fun s => { s with store := { s.store with written := r :: s.store.written } }

/-- `ingestFetchedBlock`, from the transaction `index` on. -/
def writeTransactions (slot : Slot) : ℕ → List (List ProgramId) → Work Unit
  | _, [] => pure ()
  | index, _ :: rest => do
    writeTransaction ⟨slot, index⟩
    writeTransactions slot (index + 1) rest

/-- The watermark moves to `slot`. -/
def advance (slot : Slot) : Work Unit := do
  setCursor fun c => { c with lastContiguousSlot := slot, catchupIncident := none }
  persistCursor

def ingestDiscoveredSlot (slot : Slot) : Work Unit := do
  let block ← getBlock slot
  match block with
  | none => insertIngestRefusal (some slot)
  | some b => writeTransactions b.slot 0 b.transactions
  advance slot

/-- The `for` of `processSlotList`. -/
def processSlots (firstAvailable : Slot) : List Slot → Work Bool
  | [] => do
    let s ← Prog.get
    pure (!s.memory.halted)
  | slot :: rest => do
    let s ← Prog.get
    if s.memory.halted then pure false
    else if slot < firstAvailable then do
      recordIncident .startupRetentionUnavailable (some slot)
      pure false
    else if slot ≤ s.memory.cursor.lastContiguousSlot then processSlots firstAvailable rest
    else do
      let r ← Prog.attempt classified (ingestDiscoveredSlot slot)
      match r with
      | .error e => do
        recordIncident (incidentOf e) (some slot)
        pure false
      | .ok () => processSlots firstAvailable rest

/-- `pendingSlotsBeyondWindow`. -/
def pendingSlotsBeyondWindow (o : Options) (last head : Slot) (slots : List Slot) : Option Slot :=
  match slots.filter fun s => last < s with
  | [] => none
  | oldest :: _ => if oldest < head - o.maxLagSlots then some oldest else none

def processSlotList (o : Options) (slots : List Slot) (head : Slot) : Work Bool := do
  let s ← Prog.get
  match (if s.memory.cursor.historicalBackfill then none
    else pendingSlotsBeyondWindow o s.memory.cursor.lastContiguousSlot head slots) with
  | some oldest => do
    recordIncident .catchupWindowExceeded (some oldest)
    pure false
  | none => do
    let r ← Prog.attempt classified getFirstAvailableBlock
    match r with
    | .error e => do
      recordIncident (incidentOf e) none
      pure false
    | .ok firstAvailable => processSlots firstAvailable slots

/-! ## §3. Catch-up and follow. -/

def discoverOrIncident (o : Options) (afterSlot : Option Slot) : Work (Option Discovery) := do
  let r ← Prog.attempt classified (discoverIngestSlots o.followedPrograms afterSlot)
  match r with
  | .error e => do
    recordIncident (incidentOf e) none
    pure none
  | .ok none => do
    recordIncident .discoveryIncomplete none
    pure none
  | .ok (some d) => pure (some d)

/-- A discovery of the catch-up: the whole range, and during the bootstrap down to every
    program's floor. -/
def discoverAll (o : Options) : Work (Option Discovery) := do
  let r ← discoverOrIncident o none
  match r with
  | none => pure none
  | some d => do
    let s ← Prog.get
    if s.memory.cursor.historicalBackfill ∧ d.reachedEveryProgramFloor = false then do
      recordIncident .bootstrapRangeNotEnumerated none
      pure none
    else pure (some d)

/-- The slots of a discovery above the watermark. -/
def unprocessed (d : Discovery) : Work (List Slot) := do
  let s ← Prog.get
  pure (d.slots.filter fun slot => s.memory.cursor.lastContiguousSlot < slot)

/-- The end of the catch-up. -/
def completeCatchUp (o : Options) (head : Slot) (nothing : Bool) : Work Unit := do
  setCursor fun c =>
    if c.historicalBackfill then
      let last := max c.lastContiguousSlot (o.startSlot - 1)
      { c with
        lastContiguousSlot := if nothing then max last head else last
        historicalBackfill := false, catchupIncident := none }
    else { c with catchupIncident := none }
  persistCursor

/-- The extra slots of the verification, and what a third look still shows. -/
def processExtras (o : Options) (head : Slot) (extras : List Slot) : Work Bool :=
  if extras = [] then pure true
  else do
    let ok ← processSlotList o extras head
    if ok then do
      let r ← discoverAll o
      match r with
      | none => pure false
      | some again => do
        let still ← unprocessed again
        match still with
        | [] => pure true
        | slot :: _ => do
          recordIncident .discoveryIncomplete (some slot)
          pure false
    else pure false

/-- `assertStartupRetention`, with the failures its caller records. -/
def startupRetained (o : Options) (head : Slot) : Work Bool := do
  let r ← Prog.attempt classified getFirstAvailableBlock
  match r with
  | .error e => do
    recordIncident (incidentOf e) none
    pure false
  | .ok firstAvailable =>
    if o.startSlot ≤ head ∧ o.startSlot < firstAvailable then do
      recordIncident .startupRetentionUnavailable (some o.startSlot)
      Prog.throw (.failed .other)
    else pure true

def catchUpToHead (o : Options) : Work Unit := do
  setHalted false
  setCursor fun c => { c with catchupIncident := c.catchupIncident.filter fun i =>
    i ≠ .startupRetentionUnavailable ∧ isRetriableCatchupIncident i = false }
  let r ← Prog.attempt classified getSlot
  match r with
  | .error e => recordIncident (incidentOf e) none
  | .ok head => do
    let retained ← startupRetained o head
    if retained then do
      let r ← discoverAll o
      match r with
      | none => pure ()
      | some primary => do
        let ok ← processSlotList o primary.slots head
        if ok then do
          let r ← discoverAll o
          match r with
          | none => pure ()
          | some verify => do
            let extras ← unprocessed verify
            let ok ← processExtras o head extras
            if ok then completeCatchUp o head (primary.slots = [] ∧ extras = [])

def clearRetriableIncident : Work Unit := do
  let s ← Prog.get
  if s.memory.cursor.catchupIncident.any isRetriableCatchupIncident then do
    setCursor fun c => { c with catchupIncident := none }
    persistCursor

def followOnce (o : Options) : Work Unit := do
  let s ← Prog.get
  if s.memory.halted ∨ s.memory.cursor.historicalBackfill then pure ()
  else do
    let r ← Prog.attempt classified getSlot
    match r with
    | .error e => recordIncident (incidentOf e) none
    | .ok head => do
      let s ← Prog.get
      let r ← discoverOrIncident o (some s.memory.cursor.lastContiguousSlot)
      match r with
      | none => pure ()
      | some discovered => do
        clearRetriableIncident
        let pending ← unprocessed discovered
        let _ ← processSlotList o pending head

/-! ## §4. The service. -/

/-- `main` up to the follow loop. -/
def main (o : Options) : Work Unit := do
  initCursor
  catchUpToHead o

/-- One round of the follow loop, whose errors are logged. -/
def poll (o : Options) : Work Unit := do
  let s ← Prog.get
  if s.memory.cursor.historicalBackfill then catchUpToHead o else followOnce o

/-- The chain and the store, and the process if there is one. -/
structure Service where
  chain : Chain
  store : Store
  process : Option Memory
  /-- the discoveries of the last action -/
  asked : List (List Sighting)

/-- Blocks appear; a process is started, after whatever became of the one before; it does one
    round of its loop. -/
inductive Action where
  | appear (blocks : List Block)
  | start (ticks : List Tick)
  | round (ticks : List Tick)

/-- What is left when work ends: a value keeps the process, an error keeps it in a round of the
    loop, and its death does not. -/
def Service.of {α : Type} (keeps : Bool) : Except Stop α × Sys → Service
  | (r, s) => ⟨s.chain, s.store,
      match r with
      | .ok _ => some s.memory
      | .error (.failed _) => if keeps then some s.memory else none
      | .error .died => none, s.asked⟩

def step (o : Options) (s : Service) : Action → Except Unit Service
  | .appear blocks => .ok { s with chain := s.chain.grow blocks, asked := [] }
  | .start ticks =>
    .ok (Service.of false (main o ⟨ticks, s.chain, [], s.store, ⟨initialCursor o, false⟩⟩))
  | .round ticks =>
    match s.process with
    | none => .error ()
    | some memory => .ok (Service.of true (poll o ⟨ticks, s.chain, [], s.store, memory⟩))

end Kargain.Ingest
