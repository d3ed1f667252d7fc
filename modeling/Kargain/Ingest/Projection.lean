/-
  Kargain.Ingest.Projection — the projection tables, inline and rebuilt.

  projection-projector.ts and projection-rebuild.ts: the ingest process
  writes the projection tables as it goes, from what it has in memory, and
  the rebuild writes them anew from the stored payloads and metadata
  snapshots.  Both run project-raw-to-projection.ts and
  passport-entity-projection.ts over decoded payloads.

  Payloads that are not KarPassport's, do not decode or project nothing
  have no event here.  A snapshot has the metadata its stored document
  yields, if it was captured and yields any.  Left out: the URI map of the
  entity state, which nothing reads.

  What the two leave behind is compared in `ProjectionRebuild`.
-/
import Mathlib
import Kargain.Base.Runs

namespace Kargain.Projection

/-! ## §1. Maps. -/

/-- A JavaScript `Map`: its entries in the order of their insertion. -/
abbrev Map (K V : Type) := List (K × V)

namespace Map

variable {K V : Type} [DecidableEq K]

def get (k : K) : Map K V → Option V
  | [] => none
  | (k', v) :: m => if k' = k then some v else get k m

def set (k : K) (v : V) : Map K V → Map K V
  | [] => [(k, v)]
  | (k', v') :: m => if k' = k then (k', v) :: m else (k', v') :: set k v m

end Map

/-! ## §2. Payloads. -/

abbrev Text := List Char
abbrev TokenId := ℕ
abbrev Pubkey := ℕ

/-- A decoded event of KarPassport, with the fields that are projected. -/
inductive PassportEvent
  | passportMinted (dst : Pubkey) (tokenId : TokenId) (uri : Text)
  | passportBridgeMinted (dst : Pubkey) (tokenId : TokenId) (uri : Text)
  | transfer (src dst : Pubkey) (tokenId : TokenId)
  | custodyLockSet (tokenId : TokenId) (locked : ℕ)
  | passportVerified (tokenId : TokenId) (verifier : Pubkey)
  | passportDisputed (tokenId : TokenId) (disputer : Pubkey)
  | challengeOpened (subjectId : TokenId) (bondAmount : ℕ)
  | challengeJudged (subjectId : TokenId) (outcome : ℕ)
  | challengeConcluded (subjectId : TokenId)
  | challengeWithdrawn (subjectId : TokenId)
  | verificationReset (tokenId : TokenId)
  | passportURIUpdated (tokenId : TokenId) (newURI : Text) (author : Pubkey)
  | recordAppended (tokenId : TokenId) (author : Pubkey) (recordType description evidenceCID : Text)
deriving DecidableEq

structure RawPayload where
  id : Text
  chainId : ℕ
  slot : ℕ
  txIndexInBlock : ℕ
  logIndex : ℕ
  event : Option PassportEvent
deriving DecidableEq

/-- The comparison of `sortRawPayloadsOrdered`, and the `ORDER BY` of the stored rows. -/
def RawPayload.upTo (a b : RawPayload) : Bool :=
  if a.chainId ≠ b.chainId then a.chainId < b.chainId
  else if a.slot ≠ b.slot then a.slot < b.slot
  else if a.txIndexInBlock ≠ b.txIndexInBlock then a.txIndexInBlock < b.txIndexInBlock
  else a.logIndex ≤ b.logIndex

def sortRawPayloadsOrdered (rows : List RawPayload) : List RawPayload :=
  rows.mergeSort RawPayload.upTo

def provenanceTimestampFromSlot (slot : ℕ) : ℕ := slot

/-- `originNamespaceOf`. -/
def originNamespaceOf (t : TokenId) : ℕ := t / 2 ^ 128

/-- What `String.prototype.trim` takes for white space. -/
def isWhiteSpace (c : Char) : Bool :=
  c.toNat ∈ [0x9, 0xA, 0xB, 0xC, 0xD, 0x20, 0xA0, 0x1680, 0x2028, 0x2029, 0x202F, 0x205F, 0x3000,
    0xFEFF] || (0x2000 ≤ c.toNat && c.toNat ≤ 0x200A)

def trim (s : Text) : Text :=
  ((s.dropWhile isWhiteSpace).reverse.dropWhile isWhiteSpace).reverse

/-! ## §3. Metadata snapshots. -/

structure IndexedPassportMetadata where
  vin : Text
  make : Text
  model : Text
  year : ℤ
  mileageKm : ℤ
  fuelType : Text
  bodyType : Text
  transmission : Text
  condition : Text
  vehicleType : Text
  colour : Text
  locationLabel : Text
  locationPlaceId : Text
  locationCountryCode : Text
  coverPhotoUri : Text
deriving DecidableEq

def IndexedPassportMetadata.none : IndexedPassportMetadata :=
  ⟨[], [], [], 0, 0, [], [], [], [], [], [], [], [], [], []⟩

/-- A row of `metadata_snapshot`; `denorm` is `denormFromMetadataSnapshotRow` of it. -/
structure MetadataSnapshot where
  id : Text
  chainId : ℕ
  uri : Text
  slot : ℕ
  denorm : Option IndexedPassportMetadata
deriving DecidableEq

/-- What fetching a URI comes to. -/
inductive MetadataFetchResult
  | captured (contentSha256 : Text) (denorm : Option IndexedPassportMetadata)
  | unavailable

def decimal (n : ℕ) : Text := (toString n).toList

/-- `metadataSnapshotRowId`: a captured document has one row. -/
def metadataSnapshotRowId (p : RawPayload) (uri : Text) : MetadataFetchResult → Text
  | .captured digest _ => decimal p.chainId ++ ':' :: uri ++ ':' :: digest
  | .unavailable =>
    decimal p.chainId ++ ':' :: uri ++ ":obs:".toList ++ p.id ++ ':' :: decimal p.slot

/-- `uriFromStructuredPayload`. -/
def uriFromStructuredPayload (p : RawPayload) : Option Text :=
  match p.event with
  | some (.passportMinted _ _ uri) | some (.passportBridgeMinted _ _ uri)
  | some (.passportURIUpdated _ uri _) => if trim uri = [] then none else some (trim uri)
  | _ => none

/-- `buildMetadataSnapshotDraft`. -/
def buildMetadataSnapshotDraft (fetcher : RawPayload → MetadataFetchResult) (p : RawPayload) :
    Option MetadataSnapshot :=
  (uriFromStructuredPayload p).map fun uri =>
    ⟨metadataSnapshotRowId p uri (fetcher p), p.chainId, uri, p.slot,
      match fetcher p with
      | .captured _ denorm => denorm
      | .unavailable => none⟩

def metadataSnapshotsForPayloads (payloads : List RawPayload)
    (fetcher : RawPayload → MetadataFetchResult) : List MetadataSnapshot :=
  payloads.filterMap (buildMetadataSnapshotDraft fetcher)

/-- `ORDER BY namespace, slot, id`. -/
def fetchMetadataSnapshotsOrdered (rows : List MetadataSnapshot) : List MetadataSnapshot :=
  rows.mergeSort fun a b =>
    if a.chainId ≠ b.chainId then a.chainId < b.chainId
    else if a.slot ≠ b.slot then a.slot < b.slot
    else decide (a.id ≤ b.id)

/-! ## §4. Rows. -/

inductive EntityOrigin
  | preMint
  | minted
deriving DecidableEq

inductive EntityStatus
  | unverified
  | verified
  | disputed
deriving DecidableEq

inductive DisputeTerminalTag
  | confirm
  | reject
  | expire
  | withdraw
deriving DecidableEq

/-- A row of `passport`; `metadata` are the columns taken from a snapshot. -/
structure PassportEntity where
  id : TokenId
  chainId : ℕ
  entityOrigin : EntityOrigin
  owner : Text
  status : EntityStatus
  verifier : Text
  verifiedAt : ℕ
  tokenUri : Text
  metadata : IndexedPassportMetadata
  lastDisputer : Text
  disputeReason : Text
  disputeWithdrawnAt : ℕ
  lastVerificationResetAt : ℕ
  duplicateVin : Bool
  lastMetadataChangeAt : ℕ
  verificationResetCount : ℕ
  hadDispute : Bool
  lastDisputeResolvedAt : ℕ
  lastDisputeTerminal : Option DisputeTerminalTag
  disputeOpenedAt : ℕ
  disputeDeposit : Option ℕ
  createdAt : ℕ
  updatedAt : ℕ
deriving DecidableEq

structure PassportRecord where
  id : Text
  tokenId : TokenId
  chainId : ℕ
  author : Text
  recordType : Text
  description : Text
  evidenceCID : Text
  timestamp : ℕ
deriving DecidableEq

structure PassportUriHistory where
  id : Text
  tokenId : TokenId
  chainId : ℕ
  previousUri : Text
  newUri : Text
  author : Text
  verificationReset : Bool
  timestamp : ℕ
deriving DecidableEq

inductive CustodyKind
  | nativeMint
  | bridgeArrival
  | custodyUnlock
  | homeUnlock
deriving DecidableEq

structure CustodyDetermining where
  id : Text
  tokenId : TokenId
  chainId : ℕ
  kind : CustodyKind
  blockNumber : ℕ
  logIndex : ℕ
deriving DecidableEq

/-! ## §5. The passport entity. -/

namespace PassportEntity

variable (row : PassportEntity) (ts : ℕ)

/-- `passportMintTrustFields`. -/
def minted : PassportEntity :=
  { row with lastMetadataChangeAt := ts, createdAt := ts, updatedAt := ts }

/-- `bridgeMintArrivalTrustFields`. -/
def bridgeMintArrived : PassportEntity :=
  { row with
    status := .unverified, verifier := [], verifiedAt := 0
    lastMetadataChangeAt := ts, updatedAt := ts }

/-- `passportDisputedTrustFields`. -/
def passportDisputed : PassportEntity :=
  { row with
    status := .disputed, disputeWithdrawnAt := 0, disputeOpenedAt := ts, hadDispute := true
    updatedAt := ts }

/-- `disputeResolvedTrustFields`. -/
def disputeResolved (uphold : Bool) : PassportEntity :=
  let resolved := { row with
    lastDisputeResolvedAt := ts, disputeOpenedAt := 0, disputeDeposit := none
    lastDisputeTerminal := some (if uphold then .reject else .confirm), updatedAt := ts }
  if uphold then { resolved with status := .verified }
  else { resolved with status := .unverified, verifier := [], verifiedAt := 0 }

/-- `disputeExpiredTrustFields`. -/
def disputeExpired : PassportEntity :=
  { row with
    status := .unverified, verifier := [], verifiedAt := 0, lastDisputeResolvedAt := ts
    disputeOpenedAt := 0, disputeDeposit := none, lastDisputeTerminal := some .expire
    updatedAt := ts }

/-- `disputeWithdrawnTrustFields`. -/
def disputeWithdrawn : PassportEntity :=
  { row with
    status := .verified, disputeWithdrawnAt := ts, disputeOpenedAt := 0, disputeDeposit := none
    lastDisputeTerminal := some .withdraw, updatedAt := ts }

/-- `verificationResetTrustFields`. -/
def verificationReset : PassportEntity :=
  { row with
    status := .unverified, verifier := [], verifiedAt := 0, lastVerificationResetAt := ts
    verificationResetCount := row.verificationResetCount + 1, updatedAt := ts }

/-- `applyUriToEntity`, with what is known of the URI. -/
def applyUri (uri : Text) (denorm : Option IndexedPassportMetadata) : PassportEntity :=
  { row with
    tokenUri := uri, lastMetadataChangeAt := ts, updatedAt := ts
    metadata := denorm.getD row.metadata }

end PassportEntity

def emptyEntityDefaults (t : TokenId) (ts : ℕ) : PassportEntity where
  id := t
  chainId := originNamespaceOf t
  entityOrigin := .preMint
  owner := []
  status := .unverified
  verifier := []
  verifiedAt := 0
  tokenUri := []
  metadata := .none
  lastDisputer := []
  disputeReason := []
  disputeWithdrawnAt := 0
  lastVerificationResetAt := 0
  duplicateVin := false
  lastMetadataChangeAt := 0
  verificationResetCount := 0
  hadDispute := false
  lastDisputeResolvedAt := 0
  lastDisputeTerminal := none
  disputeOpenedAt := 0
  disputeDeposit := none
  createdAt := ts
  updatedAt := ts

/-- `DISPUTE_WITHDRAWN_PREFIX`. -/
def disputeWithdrawnPrefix : Text := "[dispute-withdrawn]".toList

def isDisputeWithdrawnRecord (recordType description author lastDisputer : Text) : Bool :=
  if recordType ≠ "discrepancy".toList then false
  else if lastDisputer = [] ∨ author.map Char.toLower ≠ lastDisputer.map Char.toLower then false
  else disputeWithdrawnPrefix.isPrefixOf (trim description)

/-- The passport an event is about. -/
def PassportEvent.tokenId : PassportEvent → TokenId
  | .passportMinted _ t _ | .passportBridgeMinted _ t _ | .transfer _ _ t | .custodyLockSet t _
  | .passportVerified t _ | .passportDisputed t _ | .challengeOpened t _ | .challengeJudged t _
  | .challengeConcluded t | .challengeWithdrawn t | .verificationReset t
  | .passportURIUpdated t _ _ | .recordAppended t _ _ _ _ => t

section Project

variable (encode : Pubkey → Text)

/-- The cases of `projectEntityFromPayload`: the row an event makes of the one that is there,
    if it is projected.  `encode` is `encodeSvmPubkeyBytes`. -/
def projectedRow (ts : ℕ) (denormByUri : Text → Option IndexedPassportMetadata)
    (existing : Option PassportEntity) (e : PassportEvent) : Option PassportEntity :=
  let row := existing.getD (emptyEntityDefaults e.tokenId ts)
  match e with
  | .passportMinted dst _ uri =>
    let row := { row with entityOrigin := .minted, owner := encode dst }
    some ((row.minted ts).applyUri ts uri (denormByUri uri))
  | .passportBridgeMinted dst _ uri =>
    let row' := { row with entityOrigin := .minted, owner := encode dst }
    -- the source asks the row after the assignment: one that is there is minted by now
    let row' := if existing.isSome then row'.bridgeMintArrived ts else row'.minted ts
    some (row'.applyUri ts uri (denormByUri uri))
  | .transfer src dst _ =>
    if src = 0 then none else some { row with owner := encode dst, updatedAt := ts }
  | .custodyLockSet _ _ => none
  | .passportVerified _ verifier => some { row with
      status := .verified, verifier := encode verifier, verifiedAt := ts, updatedAt := ts }
  | .passportDisputed _ disputer =>
    some ({ row with lastDisputer := encode disputer, disputeReason := [] }.passportDisputed ts)
  | .challengeOpened _ bondAmount =>
    some { row with disputeDeposit := some bondAmount, updatedAt := ts }
  | .challengeJudged _ outcome => some (row.disputeResolved ts (outcome = 1))
  | .challengeConcluded _ => some (row.disputeExpired ts)
  | .challengeWithdrawn _ => some (row.disputeWithdrawn ts)
  | .verificationReset _ => some (row.verificationReset ts)
  | .passportURIUpdated _ newURI _ =>
    let row' := row.applyUri ts newURI (denormByUri newURI)
    some (if row.lastVerificationResetAt = ts ∧ 0 < row.lastVerificationResetAt then
      { row' with lastVerificationResetAt := ts } else row')
  | .recordAppended _ author recordType description _ =>
    some (if isDisputeWithdrawnRecord recordType description (encode author) row.lastDisputer then
      { row with
        disputeWithdrawnAt := ts, disputeOpenedAt := 0, disputeDeposit := none, updatedAt := ts }
    else row)

/-- What the projection has in memory. -/
structure ProjectionState where
  uriByToken : Map (ℕ × TokenId) Text
  entities : Map TokenId PassportEntity
  denormByUri : Map Text IndexedPassportMetadata

def ProjectionState.empty : ProjectionState := ⟨[], [], []⟩

def projectEntityFromPayload (raw : RawPayload) (e : PassportEvent) (state : ProjectionState) :
    ProjectionState :=
  match projectedRow encode (provenanceTimestampFromSlot raw.slot) (state.denormByUri.get ·)
      (state.entities.get e.tokenId) e with
  | some row => { state with entities := state.entities.set e.tokenId row }
  | none => state

def loadMetadataSnapshotsIntoState (snapshots : List MetadataSnapshot) (state : ProjectionState) :
    ProjectionState :=
  { state with denormByUri := snapshots.foldl (fun m snap =>
      match snap.denorm with
      | some denorm => m.set snap.uri denorm
      | none => m) state.denormByUri }

/-- `recomputeSvmDuplicateVin`. -/
def recomputeSvmDuplicateVin (entities : Map TokenId PassportEntity) : Map TokenId PassportEntity :=
  entities.map fun (t, row) => (t, { row with
    duplicateVin := row.metadata.vin ≠ [] ∧
      1 < entities.countP fun (_, other) => other.metadata.vin = row.metadata.vin })

/-! ## §6. Payloads to rows. -/

structure ProjectionBatch where
  passportRecords : List PassportRecord
  uriHistory : List PassportUriHistory
  custodyEvents : List CustodyDetermining

def ProjectionBatch.empty : ProjectionBatch := ⟨[], [], []⟩

def ProjectionBatch.append (a b : ProjectionBatch) : ProjectionBatch :=
  ⟨a.passportRecords ++ b.passportRecords, a.uriHistory ++ b.uriHistory,
    a.custodyEvents ++ b.custodyEvents⟩

/-- `projectCustodyEvent`. -/
def projectCustodyEvent (raw : RawPayload) (e : PassportEvent) : Option CustodyDetermining :=
  let kind : Option CustodyKind := match e with
    | .passportMinted .. => some .nativeMint
    | .passportBridgeMinted .. => some .bridgeArrival
    | .custodyLockSet _ locked => if locked ≠ 0 then none else some .custodyUnlock
    | .verificationReset t => if raw.chainId ≠ originNamespaceOf t then none else some .homeUnlock
    | _ => none
  kind.map fun kind => ⟨raw.id, e.tokenId, raw.chainId, kind, raw.slot, raw.logIndex⟩

/-- `projectStructuredPayload`, of an event. -/
def projectEvent (raw : RawPayload) (e : PassportEvent) (state : ProjectionState) :
    ProjectionBatch × ProjectionState :=
  let ts := provenanceTimestampFromSlot raw.slot
  match e with
  | .recordAppended t author recordType description evidenceCID =>
    (⟨[⟨raw.id, t, raw.chainId, encode author, recordType, description, evidenceCID, ts⟩], [], []⟩,
      projectEntityFromPayload encode raw e state)
  | .passportURIUpdated t newURI author =>
    let previousUri := (state.uriByToken.get (raw.chainId, t)).getD []
    let state := { state with uriByToken := state.uriByToken.set (raw.chainId, t) newURI }
    (⟨[], [⟨raw.id, t, raw.chainId, previousUri, newURI, encode author, false, ts⟩], []⟩,
      projectEntityFromPayload encode raw e state)
  | e => (⟨[], [], (projectCustodyEvent raw e).toList⟩, projectEntityFromPayload encode raw e state)

def projectStructuredPayload (raw : RawPayload) (state : ProjectionState) :
    ProjectionBatch × ProjectionState :=
  match raw.event with
  | some e => projectEvent encode raw e state
  | none => (.empty, state)

/-- The loop over payloads, with the rows it comes to. -/
def projectPayloads : List RawPayload → ProjectionState → ProjectionBatch × ProjectionState
  | [], state => (.empty, state)
  | raw :: rows, state =>
    let (batch, state) := projectStructuredPayload encode raw state
    let (batches, state) := projectPayloads rows state
    (batch.append batches, state)

/-! ## §7. The tables. -/

structure Tables where
  passportRecord : Text → Option PassportRecord
  passportUriHistory : Text → Option PassportUriHistory
  custodyDeterminingEvent : Text → Option CustodyDetermining
  passport : TokenId → Option PassportEntity

/-- `applySvmProjectionSchema` after a drop. -/
def Tables.empty : Tables := ⟨fun _ => none, fun _ => none, fun _ => none, fun _ => none⟩

/-- `INSERT … ON CONFLICT (id) DO NOTHING`, row by row. -/
def insertRows {R : Type} (id : R → Text) (table : Text → Option R) (rows : List R) :
    Text → Option R :=
  rows.foldl (fun table row => if (table (id row)).isSome then table
    else Function.update table (id row) (some row)) table

/-- `upsertPassportEntities`. -/
def upsertPassportEntities (table : TokenId → Option PassportEntity)
    (rows : Map TokenId PassportEntity) : TokenId → Option PassportEntity :=
  rows.foldl (fun table (t, row) => Function.update table t (some row)) table

def Tables.insert (tables : Tables) (batch : ProjectionBatch) : Tables :=
  { tables with
    passportRecord := insertRows (·.id) tables.passportRecord batch.passportRecords
    passportUriHistory := insertRows (·.id) tables.passportUriHistory batch.uriHistory
    custodyDeterminingEvent := insertRows (·.id) tables.custodyDeterminingEvent batch.custodyEvents }

def Tables.upsert (tables : Tables) (rows : Map TokenId PassportEntity) : Tables :=
  { tables with passport := upsertPassportEntities tables.passport rows }

/-! ## §8. Inline. -/

/-- The loop of `projectPayloadsIntoWriter`: the rows of each payload are written before the
    next is projected. -/
def writePayloads : List RawPayload → ProjectionState → Tables → ProjectionState × Tables
  | [], state, tables => (state, tables)
  | raw :: rows, state, tables =>
    let (batch, state) := projectStructuredPayload encode raw state
    writePayloads rows state (tables.insert batch)

/-- `finalizeEntityProjectionState` sets the flags on the rows in memory. -/
def finalizeEntityProjectionState (state : ProjectionState) : ProjectionState :=
  { state with entities := recomputeSvmDuplicateVin state.entities }

def projectPayloadsIntoWriter (payloads : List RawPayload) (snapshots : List MetadataSnapshot)
    (state : ProjectionState) (tables : Tables) : ProjectionState × Tables :=
  let state := loadMetadataSnapshotsIntoState snapshots state
  let (state, tables) := writePayloads encode payloads state tables
  let state := finalizeEntityProjectionState state
  (state, tables.upsert state.entities)

/-! ## §9. Rebuilt. -/

/-- `projectStructuredPayloadsOrdered` and the writes of `rebuildProjectionFromRaw`. -/
def rebuildProjectionFromRaw (payloads : List RawPayload) (snapshots : List MetadataSnapshot) :
    Tables :=
  let rawRows := sortRawPayloadsOrdered payloads
  let snapshotRows := fetchMetadataSnapshotsOrdered snapshots
  let state := loadMetadataSnapshotsIntoState snapshotRows .empty
  let (batch, state) := projectPayloads encode (sortRawPayloadsOrdered rawRows) state
  (Tables.empty.insert batch).upsert (finalizeEntityProjectionState state).entities

/-! ## §10. The ingest process. -/

/-- The stored payloads and snapshots, the tables, and what the process has in memory. -/
structure Ingestion where
  payloads : List RawPayload
  snapshots : List MetadataSnapshot
  tables : Tables
  memory : ProjectionState

def Ingestion.empty : Ingestion := ⟨[], [], .empty, .empty⟩

/-- `insertStructuredPayloads`: a payload that is stored is not stored again. -/
def insertStructuredPayloads (stored rows : List RawPayload) : List RawPayload :=
  rows.foldl (fun stored row =>
    if stored.any fun r => r.id = row.id then stored else stored ++ [row]) stored

def insertMetadataSnapshots (stored rows : List MetadataSnapshot) : List MetadataSnapshot :=
  rows.foldl (fun stored row =>
    if stored.any fun r => r.id = row.id then stored else stored ++ [row]) stored

/-- How far the processing of a transaction gets before a call fails or the process dies: so
    many rows of one kind, and all of the kinds before. -/
inductive Reached
  | payloads (n : ℕ)
  | snapshots (n : ℕ)
  | projecting (n : ℕ)
  | upserting (n : ℕ)

inductive Step
  /-- a transaction of a fetched block, with what fetching its URIs comes to -/
  | ingest (payloads : List RawPayload) (fetcher : RawPayload → MetadataFetchResult)
  | brokenOff (payloads : List RawPayload) (fetcher : RawPayload → MetadataFetchResult)
      (reached : Reached)
  | restart

/-- The processing of one transaction in `ingestFetchedBlock`. -/
def Ingestion.ingest (s : Ingestion) (payloads : List RawPayload)
    (fetcher : RawPayload → MetadataFetchResult) : Ingestion :=
  let snapshots := metadataSnapshotsForPayloads payloads fetcher
  let stored := insertStructuredPayloads s.payloads payloads
  let captured := insertMetadataSnapshots s.snapshots snapshots
  if payloads = [] then ⟨stored, captured, s.tables, s.memory⟩
  else
    let (memory, tables) := projectPayloadsIntoWriter encode payloads snapshots s.memory s.tables
    ⟨stored, captured, tables, memory⟩

/-- The same, broken off. -/
def Ingestion.brokenOff (s : Ingestion) (payloads : List RawPayload)
    (fetcher : RawPayload → MetadataFetchResult) (reached : Reached) : Ingestion :=
  let snapshots := metadataSnapshotsForPayloads payloads fetcher
  let stored := insertStructuredPayloads s.payloads payloads
  let captured := insertMetadataSnapshots s.snapshots snapshots
  let loaded := loadMetadataSnapshotsIntoState snapshots s.memory
  match reached with
  | .payloads n => { s with payloads := insertStructuredPayloads s.payloads (payloads.take n) }
  | .snapshots n =>
    { s with payloads := stored
             snapshots := insertMetadataSnapshots s.snapshots (snapshots.take n) }
  | .projecting n =>
    let (memory, tables) := writePayloads encode (payloads.take n) loaded s.tables
    ⟨stored, captured, tables, memory⟩
  | .upserting n =>
    let (memory, tables) := writePayloads encode payloads loaded s.tables
    let memory := finalizeEntityProjectionState memory
    ⟨stored, captured, tables.upsert (memory.entities.take n), memory⟩

def step (s : Ingestion) : Step → Except Unit Ingestion
  | .ingest payloads fetcher => .ok (s.ingest encode payloads fetcher)
  | .brokenOff payloads fetcher reached => .ok (s.brokenOff encode payloads fetcher reached)
  | .restart => .ok { s with memory := .empty }

end Project

end Kargain.Projection
