/-
  Kargain.Ingest.ProjectionRebuild — inline against rebuilt.

  What the projection makes of payloads depends on what it has in memory up
  to the duplicate flags, and on what it knows of the URIs the payloads
  apply (`Alike`, `projectPayloads_alike`).  So the tables the ingest process
  leaves are the rebuilt ones (`tables_rebuilt`) as long as

    • a payload is not processed twice, nor out of order,
    • what is stored is projected, from a memory with a row of every
      passport that has one,
    • the process knows of an applied URI what the stored snapshots say.

  A restart loses the memory (`row_forgotten`).
-/
import Mathlib
import Kargain.Ingest.Projection

namespace Kargain.Projection

/-! ## §1. Maps. -/

namespace Map

variable {K V W : Type} [DecidableEq K] {k k' : K} {v : V} {m : Map K V}

theorem get_map (f : V → W) (m : Map K V) :
    get k (m.map fun p => (p.1, f p.2)) = (get k m).map f := by
  induction m with
  | nil => rfl
  | cons p m ih =>
    simp only [List.map_cons, get]
    split
    · rfl
    · exact ih

theorem set_map (f : V → W) (m : Map K V) :
    (set k v m).map (fun p => (p.1, f p.2)) = set k (f v) (m.map fun p => (p.1, f p.2)) := by
  induction m with
  | nil => rfl
  | cons p m ih =>
    simp only [List.map_cons, set]
    split
    · rfl
    · rw [List.map_cons, ih]

theorem get_set : get k' (set k v m) = if k = k' then some v else get k' m := by
  induction m with
  | nil => simp [set, get]
  | cons p m ih =>
    obtain ⟨k₁, v₁⟩ := p
    by_cases hk : k₁ = k
    · subst hk
      simp only [set, if_true, get]
      split <;> rfl
    · simp only [set, hk, if_false, get, ih]
      by_cases hk' : k₁ = k'
      · subst hk'
        simp [Ne.symm hk]
      · simp [hk']

/-- No key has two entries. -/
def Distinct (m : Map K V) : Prop := (m.map Prod.fst).Nodup

theorem mem_keys_set : k' ∈ (set k v m).map Prod.fst ↔ k' = k ∨ k' ∈ m.map Prod.fst := by
  induction m with
  | nil => simp [set]
  | cons p m ih =>
    simp only [set]
    split
    · rename_i hk
      simp [← hk]
    · rw [List.map_cons, List.mem_cons, ih, List.map_cons, List.mem_cons]
      tauto

theorem Distinct.set (h : Distinct m) : Distinct (set k v m) := by
  induction m with
  | nil => simp [Distinct, Map.set]
  | cons p m ih =>
    obtain ⟨hp, hm⟩ := List.nodup_cons.mp h
    simp only [Map.set]
    split
    · exact h
    · rename_i hk
      refine List.nodup_cons.mpr ⟨fun hmem => ?_, ih hm⟩
      rcases mem_keys_set.mp hmem with hk' | hmem
      · exact hk hk'
      · exact hp hmem

theorem isSome_get : (get k m).isSome ↔ k ∈ m.map Prod.fst := by
  induction m with
  | nil => simp [get]
  | cons p m ih =>
    simp only [get]
    split
    · rename_i hk
      simp [hk]
    · rename_i hk
      rw [ih, List.map_cons, List.mem_cons]
      simp [Ne.symm hk]

theorem get_eq_some (h : Distinct m) : get k m = some v ↔ (k, v) ∈ m := by
  induction m with
  | nil => simp [get]
  | cons p m ih =>
    obtain ⟨k₁, v₁⟩ := p
    obtain ⟨hp, hm⟩ := List.nodup_cons.mp h
    simp only [get]
    split
    · rename_i hk
      subst hk
      have hnot : (k₁, v) ∉ m := fun hmem => hp (List.mem_map.mpr ⟨_, hmem, rfl⟩)
      simp [hnot, eq_comm]
    · rename_i hk
      rw [ih hm, List.mem_cons]
      simp [Ne.symm hk]

end Map

/-! ## §2. The duplicate flags. -/

/-- The row without its duplicate flag. -/
def PassportEntity.unflag (row : PassportEntity) : PassportEntity :=
  { row with duplicateVin := false }

/-- The rows without their duplicate flags. -/
def unflagged (entities : Map TokenId PassportEntity) : Map TokenId PassportEntity :=
  entities.map fun p => (p.1, p.2.unflag)

theorem unflagged_set (t : TokenId) (row : PassportEntity) (m : Map TokenId PassportEntity) :
    unflagged (m.set t row) = (unflagged m).set t row.unflag :=
  Map.set_map PassportEntity.unflag m

theorem get_unflagged (t : TokenId) (m : Map TokenId PassportEntity) :
    (unflagged m).get t = (m.get t).map PassportEntity.unflag :=
  Map.get_map PassportEntity.unflag m

theorem unflagged_recompute (m : Map TokenId PassportEntity) :
    unflagged (recomputeSvmDuplicateVin m) = unflagged m := by
  simp [unflagged, recomputeSvmDuplicateVin, PassportEntity.unflag, Function.comp_def]

theorem recompute_unflagged (m : Map TokenId PassportEntity) :
    recomputeSvmDuplicateVin (unflagged m) = recomputeSvmDuplicateVin m := by
  simp [unflagged, recomputeSvmDuplicateVin, PassportEntity.unflag, Function.comp_def,
    List.countP_map]

/-! ## §3. The projection, up to the flags. -/

section Project

variable (encode : Pubkey → Text) {raw : RawPayload} {rows rows' : List RawPayload}
  {a b : ProjectionState}

/-- The URI an event applies. -/
def PassportEvent.appliedUri : PassportEvent → Option Text
  | .passportMinted _ _ uri | .passportBridgeMinted _ _ uri
  | .passportURIUpdated _ uri _ => some uri
  | _ => none

/-- The URIs payloads apply. -/
def appliedUris (rows : List RawPayload) : List Text :=
  rows.filterMap fun p => p.event.bind PassportEvent.appliedUri

/-- The same rows up to their flags, and the same URIs. -/
structure Alike (a b : ProjectionState) : Prop where
  entities : unflagged a.entities = unflagged b.entities
  uris : a.uriByToken = b.uriByToken

theorem Alike.refl (a : ProjectionState) : Alike a a := ⟨rfl, rfl⟩

theorem Alike.symm (h : Alike a b) : Alike b a := ⟨h.entities.symm, h.uris.symm⟩

theorem Alike.trans {c : ProjectionState} (h : Alike a b) (h' : Alike b c) : Alike a c :=
  ⟨h.entities.trans h'.entities, h.uris.trans h'.uris⟩

theorem alike_finalize (a : ProjectionState) : Alike (finalizeEntityProjectionState a) a :=
  ⟨unflagged_recompute a.entities, rfl⟩

theorem alike_load (snapshots : List MetadataSnapshot) (a : ProjectionState) :
    Alike (loadMetadataSnapshotsIntoState snapshots a) a :=
  ⟨rfl, rfl⟩

/-- States that are alike are written alike. -/
theorem Alike.finalized (h : Alike a b) :
    (finalizeEntityProjectionState a).entities = (finalizeEntityProjectionState b).entities := by
  show recomputeSvmDuplicateVin a.entities = recomputeSvmDuplicateVin b.entities
  rw [← recompute_unflagged, h.entities, recompute_unflagged]

/-- Rows that are alike differ in their flag. -/
theorem PassportEntity.eq_of_unflag {row row' : PassportEntity} (h : row.unflag = row'.unflag) :
    row' = { row with duplicateVin := row'.duplicateVin } := by
  cases row
  cases row'
  simp only [PassportEntity.unflag, PassportEntity.mk.injEq] at h ⊢
  simp [h]

/-- What an event makes of a row does not depend on its flag, nor on URIs it does not apply. -/
theorem projectedRow_unflag (ts : ℕ) {e : PassportEvent}
    {d d' : Text → Option IndexedPassportMetadata} {r r' : Option PassportEntity}
    (hd : ∀ uri ∈ e.appliedUri, d uri = d' uri)
    (hr : r.map PassportEntity.unflag = r'.map PassportEntity.unflag) :
    (projectedRow encode ts d r e).map PassportEntity.unflag =
      (projectedRow encode ts d' r' e).map PassportEntity.unflag := by
  have hthere : r.isSome = r'.isSome := by
    rw [← Option.isSome_map (f := PassportEntity.unflag), hr, Option.isSome_map]
  have hrow : (r.getD (emptyEntityDefaults e.tokenId ts)).unflag =
      (r'.getD (emptyEntityDefaults e.tokenId ts)).unflag := by
    rw [← Option.getD_map PassportEntity.unflag, hr, Option.getD_map]
  have heq := PassportEntity.eq_of_unflag hrow
  unfold projectedRow
  rw [heq, ← hthere]
  generalize r.getD (emptyEntityDefaults e.tokenId ts) = row
  generalize (r'.getD (emptyEntityDefaults e.tokenId ts)).duplicateVin = flag
  cases e with
  | passportMinted dst t uri =>
    simp [hd uri rfl, PassportEntity.minted, PassportEntity.applyUri, PassportEntity.unflag]
  | passportBridgeMinted dst t uri =>
    cases r.isSome <;>
      simp [hd uri rfl, PassportEntity.minted, PassportEntity.bridgeMintArrived,
        PassportEntity.applyUri, PassportEntity.unflag]
  | passportURIUpdated t uri author =>
    simp only [hd uri rfl]
    split <;> rfl
  | transfer src dst t =>
    dsimp only
    split <;> rfl
  | challengeJudged t outcome =>
    simp only [PassportEntity.disputeResolved]
    split <;> rfl
  | recordAppended t author recordType description evidenceCID =>
    dsimp only
    split <;> rfl
  | custodyLockSet | passportVerified | passportDisputed | challengeOpened | challengeConcluded
  | challengeWithdrawn | verificationReset => rfl

@[simp] theorem projectEntityFromPayload_uris (raw : RawPayload) (e : PassportEvent)
    (a : ProjectionState) :
    (projectEntityFromPayload encode raw e a).uriByToken = a.uriByToken := by
  unfold projectEntityFromPayload
  split <;> rfl

@[simp] theorem projectEntityFromPayload_denorm (raw : RawPayload) (e : PassportEvent)
    (a : ProjectionState) :
    (projectEntityFromPayload encode raw e a).denormByUri = a.denormByUri := by
  unfold projectEntityFromPayload
  split <;> rfl

theorem projectEntityFromPayload_alike (raw : RawPayload) {e : PassportEvent} (h : Alike a b)
    (hd : ∀ uri ∈ e.appliedUri, a.denormByUri.get uri = b.denormByUri.get uri) :
    Alike (projectEntityFromPayload encode raw e a) (projectEntityFromPayload encode raw e b) := by
  refine ⟨?_, by simpa using h.uris⟩
  have hget : (a.entities.get e.tokenId).map PassportEntity.unflag =
      (b.entities.get e.tokenId).map PassportEntity.unflag := by
    rw [← get_unflagged, ← get_unflagged, h.entities]
  have hrow := projectedRow_unflag encode (provenanceTimestampFromSlot raw.slot) hd hget
  unfold projectEntityFromPayload
  generalize projectedRow encode _ (a.denormByUri.get ·) _ e = row at hrow ⊢
  generalize projectedRow encode _ (b.denormByUri.get ·) _ e = row' at hrow ⊢
  cases row with
  | none =>
    cases row' with
    | none => exact h.entities
    | some row' => cases hrow
  | some row =>
    cases row' with
    | none => cases hrow
    | some row' =>
      show unflagged (a.entities.set e.tokenId row) = unflagged (b.entities.set e.tokenId row')
      rw [unflagged_set, unflagged_set, h.entities, Option.some.inj hrow]

@[simp] theorem projectStructuredPayload_denorm (raw : RawPayload) (a : ProjectionState) :
    (projectStructuredPayload encode raw a).2.denormByUri = a.denormByUri := by
  unfold projectStructuredPayload projectEvent
  split
  · split <;> simp
  · rfl

/-- **One payload.**  The same rows, and states that are alike again. -/
theorem projectStructuredPayload_alike (h : Alike a b)
    (hd : ∀ uri ∈ appliedUris [raw], a.denormByUri.get uri = b.denormByUri.get uri) :
    (projectStructuredPayload encode raw a).1 = (projectStructuredPayload encode raw b).1 ∧
      Alike (projectStructuredPayload encode raw a).2
        (projectStructuredPayload encode raw b).2 := by
  unfold projectStructuredPayload
  cases he : raw.event with
  | none => exact ⟨rfl, h⟩
  | some e =>
    have hd' : ∀ uri ∈ e.appliedUri, a.denormByUri.get uri = b.denormByUri.get uri := by
      intro uri huri
      exact hd uri (by simpa [appliedUris, he] using huri)
    have hentity := projectEntityFromPayload_alike encode raw h hd'
    cases e with
    | passportURIUpdated t newURI author =>
      unfold projectEvent
      dsimp only
      rw [h.uris]
      refine ⟨rfl, projectEntityFromPayload_alike encode raw ⟨h.entities, ?_⟩ hd'⟩
      rfl
    | _ => exact ⟨rfl, hentity⟩

theorem appliedUris_append (rows rows' : List RawPayload) :
    appliedUris (rows ++ rows') = appliedUris rows ++ appliedUris rows' :=
  List.filterMap_append

theorem projectPayloads_cons (raw : RawPayload) (rows : List RawPayload) (a : ProjectionState) :
    projectPayloads encode (raw :: rows) a =
      ((projectStructuredPayload encode raw a).1.append
        (projectPayloads encode rows (projectStructuredPayload encode raw a).2).1,
      (projectPayloads encode rows (projectStructuredPayload encode raw a).2).2) :=
  rfl

/-- **Payloads.**  The same rows, and states that are alike again. -/
theorem projectPayloads_alike (rows : List RawPayload) (h : Alike a b)
    (hd : ∀ uri ∈ appliedUris rows, a.denormByUri.get uri = b.denormByUri.get uri) :
    (projectPayloads encode rows a).1 = (projectPayloads encode rows b).1 ∧
      Alike (projectPayloads encode rows a).2 (projectPayloads encode rows b).2 := by
  induction rows generalizing a b with
  | nil => exact ⟨rfl, h⟩
  | cons raw rows ih =>
    rw [← List.singleton_append, appliedUris_append] at hd
    obtain ⟨hbatch, hstate⟩ := projectStructuredPayload_alike encode h
      fun uri huri => hd uri (List.mem_append_left _ huri)
    obtain ⟨hbatches, hstates⟩ := ih hstate fun uri huri => by
      simpa using hd uri (List.mem_append_right _ huri)
    rw [projectPayloads_cons, projectPayloads_cons, hbatch, hbatches]
    exact ⟨rfl, hstates⟩

/-- The payloads of an event. -/
def passportPayloads (rows : List RawPayload) : List RawPayload :=
  rows.filter fun p => p.event.isSome

theorem ProjectionBatch.empty_append (batch : ProjectionBatch) :
    ProjectionBatch.empty.append batch = batch := by
  simp [ProjectionBatch.append, ProjectionBatch.empty]

theorem ProjectionBatch.append_assoc (x y z : ProjectionBatch) :
    (x.append y).append z = x.append (y.append z) := by
  simp [ProjectionBatch.append, List.append_assoc]

/-- The other payloads do nothing. -/
theorem projectPayloads_passportPayloads (rows : List RawPayload) (a : ProjectionState) :
    projectPayloads encode (passportPayloads rows) a = projectPayloads encode rows a := by
  induction rows generalizing a with
  | nil => rfl
  | cons raw rows ih =>
    rw [projectPayloads_cons, ← ih]
    cases he : raw.event with
    | none =>
      have hout : passportPayloads (raw :: rows) = passportPayloads rows := by
        simp [passportPayloads, he]
      rw [hout]
      simp [projectStructuredPayload, he, ProjectionBatch.empty_append]
    | some e =>
      have hin : passportPayloads (raw :: rows) = raw :: passportPayloads rows := by
        simp [passportPayloads, he]
      rw [hin, projectPayloads_cons]

theorem projectPayloads_append (rows rows' : List RawPayload) (a : ProjectionState) :
    projectPayloads encode (rows ++ rows') a =
      ((projectPayloads encode rows a).1.append
        (projectPayloads encode rows' (projectPayloads encode rows a).2).1,
      (projectPayloads encode rows' (projectPayloads encode rows a).2).2) := by
  induction rows generalizing a with
  | nil => simp [projectPayloads, ProjectionBatch.empty_append]
  | cons raw rows ih =>
    rw [List.cons_append, projectPayloads_cons, projectPayloads_cons, ih,
      ProjectionBatch.append_assoc]

/-- What payload after payload preserves, all of them do. -/
theorem projectPayloads_invariant {P : ProjectionState → Prop}
    (hone : ∀ raw a, P a → P (projectStructuredPayload encode raw a).2) (h : P a) :
    P (projectPayloads encode rows a).2 := by
  induction rows generalizing a with
  | nil => exact h
  | cons raw rows ih => exact ih (hone raw a h)

theorem projectPayloads_denorm (rows : List RawPayload) (a : ProjectionState) :
    (projectPayloads encode rows a).2.denormByUri = a.denormByUri :=
  projectPayloads_invariant encode (P := fun b => b.denormByUri = a.denormByUri)
    (fun raw b h => (projectStructuredPayload_denorm encode raw b).trans h) rfl

/-- A payload sets the row of its passport, or none. -/
theorem projectStructuredPayload_entities (raw : RawPayload) (a : ProjectionState) :
    (projectStructuredPayload encode raw a).2.entities = a.entities ∨
      ∃ e row, raw.event = some e ∧
        (projectStructuredPayload encode raw a).2.entities = a.entities.set e.tokenId row := by
  have hone : ∀ (e : PassportEvent) (s : ProjectionState),
      (projectEntityFromPayload encode raw e s).entities = s.entities ∨
        ∃ row, (projectEntityFromPayload encode raw e s).entities =
          s.entities.set e.tokenId row := by
    intro e s
    unfold projectEntityFromPayload
    split
    · exact .inr ⟨_, rfl⟩
    · exact .inl rfl
  unfold projectStructuredPayload
  cases he : raw.event with
  | none => exact .inl rfl
  | some e =>
    refine (?_ : _ ∨ ∃ row, _).imp id fun ⟨row, hrow⟩ => ⟨e, row, rfl, hrow⟩
    cases e with
    | passportURIUpdated t newURI author => exact hone _ { a with uriByToken := _ }
    | _ => exact hone _ a

theorem projectStructuredPayload_isSome {t : TokenId} (h : (a.entities.get t).isSome) :
    ((projectStructuredPayload encode raw a).2.entities.get t).isSome := by
  rcases projectStructuredPayload_entities encode raw a with heq | ⟨e, row, -, heq⟩
  · rw [heq]
    exact h
  · rw [heq, Map.get_set]
    split
    · rfl
    · exact h

/-- The projection forgets no passport. -/
theorem projectPayloads_isSome {t : TokenId} (h : (a.entities.get t).isSome) :
    ((projectPayloads encode rows a).2.entities.get t).isSome :=
  projectPayloads_invariant encode (P := fun b => (b.entities.get t).isSome)
    (fun _ _ => projectStructuredPayload_isSome encode) h

theorem projectPayloads_distinct (h : a.entities.Distinct) :
    (projectPayloads encode rows a).2.entities.Distinct := by
  refine projectPayloads_invariant encode (P := fun b => b.entities.Distinct) (fun raw b hb => ?_) h
  rcases projectStructuredPayload_entities encode raw b with heq | ⟨e, row, -, heq⟩
  · rw [heq]
    exact hb
  · rw [heq]
    exact hb.set

/-- The passports of payloads. -/
def passportsOf (rows : List RawPayload) : List TokenId :=
  rows.filterMap fun p => p.event.map PassportEvent.tokenId

/-- A row is one there was, or of a passport of the payloads. -/
theorem mem_passportsOf {t : TokenId}
    (h : ((projectPayloads encode rows a).2.entities.get t).isSome) :
    (a.entities.get t).isSome ∨ t ∈ passportsOf rows := by
  induction rows generalizing a with
  | nil => exact .inl h
  | cons raw rows ih =>
    have hcons : passportsOf (raw :: rows) = passportsOf [raw] ++ passportsOf rows := by
      rw [← List.singleton_append]
      exact List.filterMap_append
    rw [hcons, List.mem_append]
    rw [projectPayloads_cons] at h
    rcases ih h with hone | hrows
    · rcases projectStructuredPayload_entities encode raw a with heq | ⟨e, row, he, heq⟩
      · rw [heq] at hone
        exact .inl hone
      · rw [heq, Map.get_set] at hone
        split at hone
        · rename_i ht
          exact .inr (.inl (by simp [passportsOf, he, ht]))
        · exact .inl hone
    · exact .inr (.inr hrows)

/-- Nothing is remembered of URIs before there is a row. -/
def UrisOfRows (a : ProjectionState) : Prop :=
  a.uriByToken = [] ∨ ∃ t, (a.entities.get t).isSome

theorem projectStructuredPayload_urisOfRows (h : UrisOfRows a) :
    UrisOfRows (projectStructuredPayload encode raw a).2 := by
  rcases h with h | ⟨t, ht⟩
  · unfold projectStructuredPayload
    cases raw.event with
    | none => exact .inl h
    | some e =>
      cases e with
      | passportURIUpdated t newURI author =>
        refine .inr ⟨t, ?_⟩
        simp [projectEvent, projectEntityFromPayload, projectedRow, PassportEvent.tokenId,
          Map.get_set]
      | _ => exact .inl (by simpa [projectEvent] using h)
  · exact .inr ⟨t, projectStructuredPayload_isSome encode ht⟩

/-! ## §4. The tables. -/

variable {table : TokenId → Option PassportEntity} {entities : Map TokenId PassportEntity}
  {tables : Tables}

theorem upsertPassportEntities_apply (h : entities.Distinct) (t : TokenId) :
    upsertPassportEntities table entities t = (entities.get t).or (table t) := by
  induction entities generalizing table with
  | nil => rfl
  | cons p entities ih =>
    obtain ⟨t', row⟩ := p
    obtain ⟨hp, hm⟩ := List.nodup_cons.mp h
    show upsertPassportEntities (Function.update table t' (some row)) entities t = _
    rw [ih hm]
    by_cases ht : t' = t
    · subst ht
      have hnone : Map.get t' entities = none := by
        by_contra hsome
        exact hp (Map.isSome_get.mp (Option.isSome_iff_ne_none.mpr hsome))
      simp [Map.get, hnone]
    · simp [Map.get, ht, Ne.symm ht]

/-- Rows that replace every row of the table are the table. -/
theorem Tables.upsert_upsert {before after : Map TokenId PassportEntity} (hb : before.Distinct)
    (ha : after.Distinct) (h : ∀ t, (before.get t).isSome → (after.get t).isSome) :
    (tables.upsert before).upsert after = tables.upsert after := by
  have hpassport : upsertPassportEntities (upsertPassportEntities tables.passport before) after =
      upsertPassportEntities tables.passport after := by
    funext t
    rw [upsertPassportEntities_apply ha, upsertPassportEntities_apply ha,
      upsertPassportEntities_apply hb]
    cases hafter : after.get t with
    | some row => rfl
    | none =>
      have hnone : before.get t = none := by
        by_contra hsome
        have := h t (Option.isSome_iff_ne_none.mpr hsome)
        simp [hafter] at this
      rw [hnone]
      rfl
  simp only [Tables.upsert, hpassport]

/-- Writing some of the rows again changes nothing. -/
theorem Tables.upsert_take (h : entities.Distinct) (n : ℕ) :
    (tables.upsert entities).upsert (entities.take n) = tables.upsert entities := by
  have htake : Map.Distinct (entities.take n) :=
    List.Nodup.sublist ((List.take_sublist n entities).map Prod.fst) h
  have hpassport : upsertPassportEntities (upsertPassportEntities tables.passport entities)
      (entities.take n) = upsertPassportEntities tables.passport entities := by
    funext t
    rw [upsertPassportEntities_apply htake, upsertPassportEntities_apply h]
    cases ht : Map.get t (entities.take n) with
    | none => rfl
    | some row =>
      have hmem : (t, row) ∈ entities := List.mem_of_mem_take ((Map.get_eq_some htake).mp ht)
      rw [(Map.get_eq_some h).mpr hmem]
      rfl
  simp only [Tables.upsert, hpassport]

theorem keys_finalize (a : ProjectionState) :
    (finalizeEntityProjectionState a).entities.map Prod.fst = a.entities.map Prod.fst := by
  simp [finalizeEntityProjectionState, recomputeSvmDuplicateVin, Function.comp_def]

theorem distinct_finalize (h : a.entities.Distinct) :
    (finalizeEntityProjectionState a).entities.Distinct := by
  unfold Map.Distinct
  rw [keys_finalize]
  exact h

theorem isSome_finalize (t : TokenId) :
    ((finalizeEntityProjectionState a).entities.get t).isSome ↔ (a.entities.get t).isSome := by
  rw [Map.isSome_get, keys_finalize, Map.isSome_get]

/-- States that are alike have rows of the same passports. -/
theorem Alike.isSome (h : Alike a b) (t : TokenId) :
    (a.entities.get t).isSome ↔ (b.entities.get t).isSome := by
  rw [← isSome_finalize, h.finalized, isSome_finalize]

theorem Tables.insert_append (tables : Tables) (x y : ProjectionBatch) :
    tables.insert (x.append y) = (tables.insert x).insert y := by
  simp [Tables.insert, ProjectionBatch.append, insertRows, List.foldl_append]

/-- Inline, the rows are those of all payloads. -/
theorem writePayloads_eq (rows : List RawPayload) (a : ProjectionState) (tables : Tables) :
    writePayloads encode rows a tables =
      ((projectPayloads encode rows a).2, tables.insert (projectPayloads encode rows a).1) := by
  induction rows generalizing a tables with
  | nil => rfl
  | cons raw rows ih =>
    show writePayloads encode rows (projectStructuredPayload encode raw a).2
      (tables.insert (projectStructuredPayload encode raw a).1) = _
    rw [ih, projectPayloads_cons, Tables.insert_append]

theorem projectPayloadsIntoWriter_eq (rows : List RawPayload) (snapshots : List MetadataSnapshot)
    (a : ProjectionState) (tables : Tables) :
    projectPayloadsIntoWriter encode rows snapshots a tables =
      let projected := projectPayloads encode rows (loadMetadataSnapshotsIntoState snapshots a)
      let written := finalizeEntityProjectionState projected.2
      (written, (tables.insert projected.1).upsert written.entities) := by
  unfold projectPayloadsIntoWriter
  dsimp only
  rw [writePayloads_eq]

/-- The rows of passports are apart from the others. -/
theorem Tables.insert_upsert (tables : Tables) (entities : Map TokenId PassportEntity)
    (batch : ProjectionBatch) :
    (tables.upsert entities).insert batch = (tables.insert batch).upsert entities :=
  rfl

/-! ## §5. What is stored. -/

/-- The payloads of an event are stored in their order. -/
def InOrder (stored : List RawPayload) : Prop :=
  (passportPayloads stored).Pairwise fun p q => p.upTo q

/-- No payload of an event is stored already, or twice among the rows. -/
def Fresh (stored rows : List RawPayload) : Prop :=
  (∀ p ∈ passportPayloads rows, ∀ q ∈ stored, q.id ≠ p.id) ∧
    rows.Pairwise fun q p => p.event.isSome → q.id ≠ p.id

theorem passportPayloads_append (rows rows' : List RawPayload) :
    passportPayloads (rows ++ rows') = passportPayloads rows ++ passportPayloads rows' :=
  List.filter_append rows rows'

theorem passportPayloads_insert {stored : List RawPayload} (h : Fresh stored rows) :
    passportPayloads (insertStructuredPayloads stored rows) =
      passportPayloads stored ++ passportPayloads rows := by
  induction rows generalizing stored with
  | nil => simp [insertStructuredPayloads, passportPayloads]
  | cons raw rows ih =>
    obtain ⟨hstored, hrows⟩ := h
    obtain ⟨hraw, hrest⟩ := List.pairwise_cons.mp hrows
    have hold : ∀ p ∈ passportPayloads rows, ∀ q ∈ stored, q.id ≠ p.id := by
      intro p hp
      refine hstored p ?_
      rw [← List.singleton_append, passportPayloads_append]
      exact List.mem_append_right _ hp
    show passportPayloads (insertStructuredPayloads
      (if stored.any fun r => r.id = raw.id then stored else stored ++ [raw]) rows) = _
    split
    · -- the row is there already: it is not of an event
      rename_i hthere
      have hnone : passportPayloads [raw] = [] := by
        by_contra hne
        obtain ⟨p, hp⟩ := List.exists_mem_of_ne_nil _ hne
        obtain rfl : p = raw := by simpa using (List.mem_filter.mp hp).1
        obtain ⟨q, hq, hid⟩ := List.any_eq_true.mp hthere
        refine hstored p ?_ q hq (of_decide_eq_true hid)
        rw [← List.singleton_append, passportPayloads_append]
        exact List.mem_append_left _ hp
      rw [ih ⟨hold, hrest⟩, ← List.singleton_append (l := rows), passportPayloads_append [raw],
        hnone, List.nil_append]
    · rw [ih ⟨fun p hp q hq => ?_, hrest⟩, passportPayloads_append, List.append_assoc,
        ← passportPayloads_append, List.singleton_append]
      rcases List.mem_append.mp hq with hq | hq
      · exact hold p hp q hq
      · obtain rfl := List.mem_singleton.mp hq
        obtain ⟨hp, hevent⟩ := List.mem_filter.mp hp
        exact hraw p hp hevent

theorem RawPayload.upTo_iff {p q : RawPayload} : p.upTo q ↔
    p.chainId < q.chainId ∨ p.chainId = q.chainId ∧ (p.slot < q.slot ∨ p.slot = q.slot ∧
      (p.txIndexInBlock < q.txIndexInBlock ∨ p.txIndexInBlock = q.txIndexInBlock ∧
        p.logIndex ≤ q.logIndex)) := by
  unfold RawPayload.upTo
  split
  · simp; omega
  · split
    · simp; omega
    · split
      · simp; omega
      · simp; omega

theorem RawPayload.upTo_trans (p q r : RawPayload) (h : p.upTo q) (h' : q.upTo r) : p.upTo r := by
  rw [RawPayload.upTo_iff] at *
  omega

theorem RawPayload.upTo_total (p q : RawPayload) : p.upTo q || q.upTo p := by
  rw [Bool.or_eq_true, RawPayload.upTo_iff, RawPayload.upTo_iff]
  omega

/-- Sorting keeps the order of what is in order. -/
theorem passportPayloads_sort {stored : List RawPayload} (h : InOrder stored) :
    passportPayloads (sortRawPayloadsOrdered stored) = passportPayloads stored := by
  have hsub : (passportPayloads stored).Sublist (sortRawPayloadsOrdered stored) :=
    List.sublist_mergeSort RawPayload.upTo_trans RawPayload.upTo_total h List.filter_sublist
  have hperm : (passportPayloads (sortRawPayloadsOrdered stored)).Perm (passportPayloads stored) :=
    (List.mergeSort_perm stored RawPayload.upTo).filter _
  have hself : passportPayloads (passportPayloads stored) = passportPayloads stored := by
    simp [passportPayloads]
  have hle := hsub.filter fun p => p.event.isSome
  rw [← passportPayloads, ← passportPayloads, hself] at hle
  exact (hle.eq_of_length hperm.length_eq.symm).symm

theorem projectPayloads_insert {stored : List RawPayload} (h : Fresh stored rows)
    (a : ProjectionState) :
    projectPayloads encode (insertStructuredPayloads stored rows) a =
      projectPayloads encode (stored ++ rows) a := by
  rw [← projectPayloads_passportPayloads, passportPayloads_insert h, ← passportPayloads_append,
    projectPayloads_passportPayloads]

/-- What the stored snapshots say of the URIs. -/
def snapshotsSay (snapshots : List MetadataSnapshot) : Map Text IndexedPassportMetadata :=
  (loadMetadataSnapshotsIntoState (fetchMetadataSnapshotsOrdered snapshots) .empty).denormByUri

/-- What the stored payloads come to. -/
def replayed (stored : List RawPayload) (snapshots : List MetadataSnapshot) :
    ProjectionBatch × ProjectionState :=
  projectPayloads encode stored { ProjectionState.empty with denormByUri := snapshotsSay snapshots }

theorem rebuildProjectionFromRaw_eq {stored : List RawPayload} {snapshots : List MetadataSnapshot}
    (h : InOrder stored) :
    rebuildProjectionFromRaw encode stored snapshots =
      (Tables.empty.insert (replayed encode stored snapshots).1).upsert
        (finalizeEntityProjectionState (replayed encode stored snapshots).2).entities := by
  have hsorted : InOrder (sortRawPayloadsOrdered stored) := by
    unfold InOrder
    rw [passportPayloads_sort h]
    exact h
  have hrows (s : ProjectionState) :
      projectPayloads encode (sortRawPayloadsOrdered (sortRawPayloadsOrdered stored)) s =
        projectPayloads encode stored s := by
    rw [← projectPayloads_passportPayloads, passportPayloads_sort hsorted, passportPayloads_sort h,
      projectPayloads_passportPayloads]
  show Tables.upsert (Tables.empty.insert (projectPayloads encode _ _).1)
    (finalizeEntityProjectionState (projectPayloads encode _ _).2).entities = _
  rw [hrows]
  rfl

/-! ## §6. One step. -/

/-- Every passport of a stored payload that has a row in the table has one in memory. -/
def Covered (s : Ingestion) : Prop :=
  ∀ t ∈ passportsOf s.payloads, (s.tables.passport t).isSome → (s.memory.entities.get t).isSome

/-- With what a transaction captures, the stored snapshots say what they said of the URIs that
    were applied before, and what the process knows of those that are now. -/
def SnapshotsAgree (s : Ingestion) (payloads : List RawPayload)
    (fetcher : RawPayload → MetadataFetchResult) : Prop :=
  let snapshots := metadataSnapshotsForPayloads payloads fetcher
  let captured := insertMetadataSnapshots s.snapshots snapshots
  (∀ uri ∈ appliedUris s.payloads,
    (snapshotsSay captured).get uri = (snapshotsSay s.snapshots).get uri) ∧
  ∀ uri ∈ appliedUris payloads,
    (loadMetadataSnapshotsIntoState snapshots s.memory).denormByUri.get uri =
      (snapshotsSay captured).get uri

/-- The payloads that are stored by then. -/
def Reached.stored (payloads : List RawPayload) : Reached → List RawPayload
  | .payloads n => payloads.take n
  | _ => payloads

/-- The step is not a defective one. -/
def undisturbed (s : Ingestion) : Step → Prop
  | .ingest payloads fetcher =>
    Fresh s.payloads payloads ∧ InOrder (s.payloads ++ payloads) ∧
      SnapshotsAgree s payloads fetcher ∧ (passportPayloads payloads = [] ∨ Covered s)
  | .brokenOff payloads _ reached => passportPayloads (reached.stored payloads) = []
  | .restart => True

instance (stored : List RawPayload) : Decidable (InOrder stored) :=
  inferInstanceAs (Decidable (List.Pairwise _ _))

instance (stored rows : List RawPayload) : Decidable (Fresh stored rows) :=
  inferInstanceAs (Decidable (_ ∧ _))

instance (s : Ingestion) : Decidable (Covered s) :=
  inferInstanceAs (Decidable (∀ t ∈ passportsOf s.payloads, _))

instance (s : Ingestion) (payloads : List RawPayload) (fetcher : RawPayload → MetadataFetchResult) :
    Decidable (SnapshotsAgree s payloads fetcher) :=
  inferInstanceAs (Decidable (_ ∧ _))

instance undisturbed.decidable (s : Ingestion) : (a : Step) → Decidable (undisturbed s a)
  | .ingest _ _ => inferInstanceAs (Decidable (_ ∧ _))
  | .brokenOff _ _ _ => inferInstanceAs (Decidable (_ = _))
  | .restart => isTrue trivial

/-- The tables are the rebuilt ones, and the memory is the rebuild's or nothing. -/
structure Kept (s : Ingestion) : Prop where
  order : InOrder s.payloads
  tables : s.tables = rebuildProjectionFromRaw encode s.payloads s.snapshots
  memory : Alike s.memory (replayed encode s.payloads s.snapshots).2 ∨ Alike s.memory .empty

variable {s s' : Ingestion} {encode}

/-- What is stored of no event changes nothing. -/
theorem Kept.quiet (h : Kept encode s)
    (hp : passportPayloads s'.payloads = passportPayloads s.payloads)
    (hs : s'.snapshots = s.snapshots) (ht : s'.tables = s.tables) (hm : Alike s'.memory s.memory) :
    Kept encode s' := by
  have horder : InOrder s'.payloads := by
    unfold InOrder
    rw [hp]
    exact h.order
  have hreplayed : replayed encode s'.payloads s'.snapshots =
      replayed encode s.payloads s.snapshots := by
    unfold replayed
    rw [← projectPayloads_passportPayloads, hp, hs, projectPayloads_passportPayloads]
  refine ⟨horder, ?_, ?_⟩
  · rw [ht, h.tables, rebuildProjectionFromRaw_eq encode horder,
      rebuildProjectionFromRaw_eq encode h.order, hreplayed]
  · rw [hreplayed]
    exact h.memory.imp hm.trans hm.trans

theorem distinct_replayed (stored : List RawPayload) (snapshots : List MetadataSnapshot) :
    (finalizeEntityProjectionState (replayed encode stored snapshots).2).entities.Distinct :=
  distinct_finalize (projectPayloads_distinct encode List.nodup_nil)

/-- Rows in memory that are written again change nothing. -/
theorem Kept.upsert_take (h : Kept encode s) {m : ProjectionState} (hm : Alike m s.memory) (n : ℕ) :
    s.tables.upsert ((finalizeEntityProjectionState m).entities.take n) = s.tables := by
  rcases h.memory with hr | he
  · rw [(hm.trans hr).finalized, h.tables, rebuildProjectionFromRaw_eq encode h.order]
    exact Tables.upsert_take (distinct_replayed _ _) n
  · have hnone : (finalizeEntityProjectionState m).entities = [] := (hm.trans he).finalized
    rw [hnone, List.take_nil]
    rfl

/-- A memory with a row of every passport that has one is the rebuild's. -/
theorem Kept.memory_of_covered (h : Kept encode s) (hc : Covered s) :
    Alike s.memory (replayed encode s.payloads s.snapshots).2 := by
  rcases h.memory with hr | he
  · exact hr
  have hnone (t : TokenId) :
      ¬ ((replayed encode s.payloads s.snapshots).2.entities.get t).isSome := by
    intro hsome
    have hthere : (s.tables.passport t).isSome := by
      rw [h.tables, rebuildProjectionFromRaw_eq encode h.order]
      show (upsertPassportEntities _ _ t).isSome
      rw [upsertPassportEntities_apply (distinct_replayed _ _), Option.isSome_or,
        (isSome_finalize t).mpr hsome, Bool.true_or]
    rcases mem_passportsOf encode hsome with hinit | hmem
    · cases hinit
    · have hm := (he.isSome t).mp (hc t hmem hthere)
      cases hm
  have hentities : (replayed encode s.payloads s.snapshots).2.entities = [] := by
    cases hrows : (replayed encode s.payloads s.snapshots).2.entities with
    | nil => rfl
    | cons p rows =>
      refine absurd ?_ (hnone p.1)
      rw [hrows]
      simp [Map.get]
  have huris : (replayed encode s.payloads s.snapshots).2.uriByToken = [] := by
    have hof : UrisOfRows (replayed encode s.payloads s.snapshots).2 :=
      projectPayloads_invariant encode (fun _ _ => projectStructuredPayload_urisOfRows encode)
        (.inl rfl)
    rcases hof with hnil | ⟨t, ht⟩
    · exact hnil
    · exact absurd ht (hnone t)
  exact ⟨he.entities.trans (congrArg unflagged hentities).symm, he.uris.trans huris.symm⟩

theorem projectPayloads_quiet (h : passportPayloads rows = []) (a : ProjectionState) :
    projectPayloads encode rows a = (.empty, a) := by
  rw [← projectPayloads_passportPayloads, h]
  rfl

theorem metadataSnapshots_quiet (h : passportPayloads rows = [])
    (fetcher : RawPayload → MetadataFetchResult) :
    metadataSnapshotsForPayloads rows fetcher = [] := by
  refine List.filterMap_eq_nil_iff.mpr fun p hp => ?_
  have hevent : p.event = none := by
    have := List.filter_eq_nil_iff.mp h p hp
    simpa using this
  simp [buildMetadataSnapshotDraft, uriFromStructuredPayload, hevent]

/-- **Rows of new payloads**, from the rebuild's memory. -/
theorem projected_tables {payloads : List RawPayload} {fetcher : RawPayload → MetadataFetchResult}
    (hm : Alike s.memory (replayed encode s.payloads s.snapshots).2)
    (ht : s.tables = rebuildProjectionFromRaw encode s.payloads s.snapshots)
    (horder : InOrder s.payloads) (horder' : InOrder (insertStructuredPayloads s.payloads payloads))
    (hfresh : Fresh s.payloads payloads) (hsnaps : SnapshotsAgree s payloads fetcher) :
    let snapshots := metadataSnapshotsForPayloads payloads fetcher
    let stored := insertStructuredPayloads s.payloads payloads
    let captured := insertMetadataSnapshots s.snapshots snapshots
    let after := projectPayloadsIntoWriter encode payloads snapshots s.memory s.tables
    after.2 = rebuildProjectionFromRaw encode stored captured ∧
      Alike after.1 (replayed encode stored captured).2 := by
  intro snapshots stored captured after
  -- the stored payloads come to the same with what the snapshots say now
  let known : ProjectionState := { ProjectionState.empty with denormByUri := snapshotsSay captured }
  obtain ⟨hbatch, hstate⟩ := projectPayloads_alike encode s.payloads
    (a := { ProjectionState.empty with denormByUri := snapshotsSay s.snapshots }) (b := known)
    ⟨rfl, rfl⟩ fun uri huri => (hsnaps.1 uri huri).symm
  -- and the new ones to what they come to in memory
  have hloaded : Alike (loadMetadataSnapshotsIntoState snapshots s.memory)
      (projectPayloads encode s.payloads known).2 :=
    (alike_load snapshots s.memory).trans (hm.trans hstate)
  obtain ⟨hbatch', hstate'⟩ := projectPayloads_alike encode payloads hloaded
    fun uri huri => by
    rw [projectPayloads_denorm]
    exact hsnaps.2 uri huri
  have hreplayed : replayed encode stored captured =
      ((projectPayloads encode s.payloads known).1.append
        (projectPayloads encode payloads (projectPayloads encode s.payloads known).2).1,
      (projectPayloads encode payloads (projectPayloads encode s.payloads known).2).2) := by
    unfold replayed
    rw [projectPayloads_insert encode hfresh, projectPayloads_append]
  have hafter := projectPayloadsIntoWriter_eq encode payloads snapshots s.memory s.tables
  show (projectPayloadsIntoWriter encode payloads snapshots s.memory s.tables).2 = _ ∧
    Alike (projectPayloadsIntoWriter encode payloads snapshots s.memory s.tables).1 _
  refine ⟨?_, ?_⟩
  · rw [hafter, rebuildProjectionFromRaw_eq encode horder', hreplayed]
    dsimp only
    rw [hbatch', hstate'.finalized, ht, rebuildProjectionFromRaw_eq encode horder,
      Tables.insert_upsert, Tables.insert_append]
    have hpassports : (replayed encode s.payloads s.snapshots).1 =
        (projectPayloads encode s.payloads known).1 := hbatch
    rw [hpassports]
    refine Tables.upsert_upsert (distinct_replayed _ _) ?_ fun t ht => ?_
    · exact distinct_finalize (projectPayloads_distinct encode
        (projectPayloads_distinct encode List.nodup_nil))
    · rw [isSome_finalize] at ht ⊢
      exact projectPayloads_isSome encode ((hstate.isSome t).mp ht)
  · rw [hafter, hreplayed]
    exact (alike_finalize _).trans hstate'

theorem Kept.ingest {payloads : List RawPayload} {fetcher : RawPayload → MetadataFetchResult}
    (h : Kept encode s) (hok : undisturbed s (.ingest payloads fetcher)) :
    Kept encode (s.ingest encode payloads fetcher) := by
  obtain ⟨hfresh, horder, hsnaps, hcovered⟩ := hok
  have hstored := passportPayloads_insert hfresh
  have horder' : InOrder (insertStructuredPayloads s.payloads payloads) := by
    unfold InOrder
    rw [hstored, ← passportPayloads_append]
    exact horder
  by_cases hquiet : passportPayloads payloads = []
  · rw [hquiet, List.append_nil] at hstored
    have hnone := metadataSnapshots_quiet hquiet fetcher
    have hmem : Alike (loadMetadataSnapshotsIntoState [] s.memory) s.memory := alike_load [] _
    unfold Ingestion.ingest
    rw [hnone]
    dsimp only
    split
    · exact h.quiet hstored rfl rfl (.refl _)
    · rw [projectPayloadsIntoWriter_eq, projectPayloads_quiet hquiet]
      refine h.quiet hstored rfl ?_ ((alike_finalize _).trans hmem)
      have htake := h.upsert_take hmem
        (finalizeEntityProjectionState (loadMetadataSnapshotsIntoState [] s.memory)).entities.length
      rw [List.take_length] at htake
      exact htake
  · have hmem := h.memory_of_covered (hcovered.resolve_left hquiet)
    obtain ⟨htables, hmemory⟩ :=
      projected_tables hmem h.tables h.order horder' hfresh hsnaps
    have hsome : payloads ≠ [] := by
      rintro rfl
      exact hquiet rfl
    unfold Ingestion.ingest
    rw [if_neg hsome]
    exact ⟨horder', htables, .inl hmemory⟩

theorem Kept.brokenOff {payloads : List RawPayload} {fetcher : RawPayload → MetadataFetchResult}
    {reached : Reached} (h : Kept encode s)
    (hok : undisturbed s (.brokenOff payloads fetcher reached)) :
    Kept encode (s.brokenOff encode payloads fetcher reached) := by
  have hquiet : passportPayloads (reached.stored payloads) = [] := hok
  have hstored : passportPayloads (insertStructuredPayloads s.payloads (reached.stored payloads)) =
      passportPayloads s.payloads := by
    have hfresh : Fresh s.payloads (reached.stored payloads) := by
      refine ⟨by simp [hquiet], List.pairwise_of_forall_mem_list fun q _ p hp hevent => ?_⟩
      have hmem : p ∈ passportPayloads (reached.stored payloads) := List.mem_filter.mpr ⟨hp, hevent⟩
      simp [hquiet] at hmem
    rw [passportPayloads_insert hfresh, hquiet, List.append_nil]
  have hmem : Alike (loadMetadataSnapshotsIntoState [] s.memory) s.memory := alike_load [] _
  unfold Ingestion.brokenOff
  cases reached with
  | payloads n => exact h.quiet hstored rfl rfl (.refl _)
  | snapshots n =>
    have hnone : metadataSnapshotsForPayloads payloads fetcher = [] :=
      metadataSnapshots_quiet hquiet fetcher
    rw [hnone]
    dsimp only
    rw [List.take_nil]
    exact h.quiet hstored rfl rfl (.refl _)
  | projecting n =>
    have hnone : metadataSnapshotsForPayloads payloads fetcher = [] :=
      metadataSnapshots_quiet hquiet fetcher
    have htaken : passportPayloads (payloads.take n) = [] := by
      have hsub := (List.take_sublist n payloads).filter fun p => p.event.isSome
      exact List.sublist_nil.mp (hquiet ▸ hsub)
    rw [hnone]
    dsimp only
    rw [writePayloads_eq, projectPayloads_quiet htaken]
    exact h.quiet hstored rfl rfl hmem
  | upserting n =>
    have hnone : metadataSnapshotsForPayloads payloads fetcher = [] :=
      metadataSnapshots_quiet hquiet fetcher
    have hall : passportPayloads payloads = [] := hquiet
    rw [hnone]
    dsimp only
    rw [writePayloads_eq, projectPayloads_quiet hall]
    exact h.quiet hstored rfl (h.upsert_take hmem n) ((alike_finalize _).trans hmem)

/-- **One step.** -/
theorem Kept.step {a : Step} (h : Kept encode s) (hok : undisturbed s a)
    (hstep : Projection.step encode s a = .ok s') : Kept encode s' := by
  cases a with
  | ingest payloads fetcher =>
    obtain rfl := Except.ok.inj hstep
    exact h.ingest hok
  | brokenOff payloads fetcher reached =>
    obtain rfl := Except.ok.inj hstep
    exact h.brokenOff hok
  | restart =>
    obtain rfl := Except.ok.inj hstep
    exact ⟨h.order, h.tables, .inr (.refl _)⟩

end Project

/-- A passport is minted in slot 5, and verified in slot 6. -/
def minted : RawPayload :=
  ⟨"0".toList, 1, 5, 0, 0, some (.passportMinted 7 0 "ipfs://0".toList)⟩

def verified : RawPayload :=
  ⟨"1".toList, 1, 6, 0, 0, some (.passportVerified 0 8)⟩

end Kargain.Projection
