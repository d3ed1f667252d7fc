/-
  Kargain.Nostr.Watchlist — lib/nostr/app-event-store.ts, the watchlist.

  A watchlist event carries stamps by token, when it was added and when it
  was removed; merging keeps the latest of each, and a token is shown whose
  latest add is not before its latest remove.  What the records hold after
  a merge is a maximum over the events (`merged_items`, `merged_removed`),
  so neither the order of the events nor their number matters.

  Main result: `watchlist_merge`: the merge does not depend on the order,
  and when an add or a remove survives a merge with the events it was
  applied to.
-/
import Mathlib

namespace Kargain.Nostr

/-! ## §1. Events. -/

/-- An object of stamps by token. -/
abbrev Stamps := AList (fun _ : String => ℤ)

structure LwwElementSetState where
  items : Stamps
  removed : Stamps

/-- What `JSON.parse` makes of the content of an event: an object with `v: 1` and the entries of its
    two members, each with the number its stamp reads as, or something else. -/
inductive Content
  | versioned (items removed : List (String × Option ℚ))
  | other

structure Event where
  content : Content
  tags : List (List String)
  createdAt : ℤ

/-- `out[key] = stamp`; the key `__proto__` makes no entry. -/
def assign (out : Stamps) (key : String) (stamp : ℤ) : Stamps :=
  if key = "__proto__" then out else out.insert key stamp

/-- One entry of `normalizeItemsRecord` and of `normalizeRemovedRecord`. -/
def normalizeEntry (out : Stamps) (entry : String × Option ℚ) : Stamps :=
  if entry.1 = "" then out
  else
    match entry.2 with
    | none => out
    | some ts => if ts < 0 then out else assign out entry.1 ⌊ts⌋

def normalizeRecord (raw : List (String × Option ℚ)) : Stamps := raw.foldl normalizeEntry ∅

def passportTagPrefix : String := "kargain:passport:"

/-- The token a tag names. -/
def legacyTokenId (tag : List String) : Option String :=
  match tag with
  | name :: value :: _ =>
    if name ≠ "i" ∨ ¬ passportTagPrefix.toList.isPrefixOf value.toList then none
    else
      let tokenId := String.ofList (value.toList.drop passportTagPrefix.length)
      if tokenId = "" then none else some tokenId
  | _ => none

def parseTokenIdsFromLegacyTags (tags : List (List String)) : List String :=
  tags.filterMap legacyTokenId

/-- The legacy reading: every tagged token was added when the event was made. -/
def parseLegacy (event : Event) : LwwElementSetState where
  items := (parseTokenIdsFromLegacyTags event.tags).foldl
    (fun out tokenId => assign out tokenId event.createdAt) ∅
  removed := ∅

def parseLwwElementSetEvent (event : Event) : LwwElementSetState :=
  match event.content with
  | .versioned items removed =>
    -- an object without one stamp that reads is taken for a legacy event
    if (normalizeRecord items).entries = [] ∧ (normalizeRecord removed).entries = [] then
      parseLegacy event
    else ⟨normalizeRecord items, normalizeRecord removed⟩
  | .other => parseLegacy event

/-! ## §2. Merging and changing. -/

/-- `record[tokenId]?.a ?? -1`, and the same of `r`. -/
def stampOf (record : Stamps) (tokenId : String) : ℤ := (record.lookup tokenId).getD (-1)

/-- `mergeMaxAdd` and `mergeMaxRemove`. -/
def mergeMax (target source : Stamps) : Stamps :=
  source.entries.foldl
    (fun target e => if stampOf target e.1 < e.2 then target.insert e.1 e.2 else target) target

def mergeEvent (merged : LwwElementSetState) (event : Event) : LwwElementSetState where
  items := mergeMax merged.items (parseLwwElementSetEvent event).items
  removed := mergeMax merged.removed (parseLwwElementSetEvent event).removed

def mergeLwwElementSetEvents (events : List Event) : LwwElementSetState :=
  events.foldl mergeEvent ⟨∅, ∅⟩

def applyLwwAdd (state : LwwElementSetState) (tokenId : String) (ts : ℤ) : LwwElementSetState :=
  if tokenId = "" then state else ⟨state.items.insert tokenId ts, state.removed.erase tokenId⟩

def applyLwwRemove (state : LwwElementSetState) (tokenId : String) (ts : ℤ) : LwwElementSetState :=
  if tokenId = "" then state else ⟨state.items.erase tokenId, state.removed.insert tokenId ts⟩

def lwwTombstonePruneSeconds : ℤ := 90 * 24 * 60 * 60

def cutoff (nowSeconds : ℤ) : ℤ := nowSeconds - lwwTombstonePruneSeconds

def pruneLwwTombstones (state : LwwElementSetState) (nowSeconds : ℤ) : LwwElementSetState where
  items := state.items
  removed :=
    state.removed.entries.foldl
      (fun removed e => if cutoff nowSeconds ≤ e.2 then assign removed e.1 e.2 else removed) ∅

def isTokenActive (state : LwwElementSetState) (tokenId : String) : Bool :=
  stampOf state.removed tokenId ≤ stampOf state.items tokenId

section Product

-- `a.localeCompare(b)`
variable (localeCompare : String → String → ℤ)

def lwwActiveTokenIds (state : LwwElementSetState) : List String :=
  let ids := (state.items.keys ++ state.removed.keys).dedup
  let addTs (tokenId : String) := (state.items.lookup tokenId).getD 0
  (ids.filter (isTokenActive state)).mergeSort
    (fun a b => addTs a < addTs b ∨ (addTs a = addTs b ∧ localeCompare a b ≤ 0))

/-- `serializeLwwContent`, one member, as it parses again. -/
def serializedEntries (stamps : Stamps) : List (String × Option ℚ) :=
  stamps.entries.map (fun e => (e.1, some (e.2 : ℚ)))

def buildLwwLegacyTags (tokenIds : List String) (dTag : String) : List (List String) :=
  ["d", dTag] :: tokenIds.map (fun tokenId => ["i", passportTagPrefix ++ tokenId])

/-- The event `publishLwwElementSet` signs. -/
def publishedEvent (dTag : String) (state : LwwElementSetState) (createdAt : ℤ) : Event where
  content := .versioned (serializedEntries state.items) (serializedEntries state.removed)
  tags := buildLwwLegacyTags (lwwActiveTokenIds localeCompare state) dTag
  createdAt := createdAt

/-- `mergeReadLwwState`, of the events the relays answered with. -/
def mergeReadLwwState (events : List Event) (nowSeconds : ℤ) : LwwElementSetState :=
  pruneLwwTombstones (mergeLwwElementSetEvents events) nowSeconds

theorem mem_lwwActiveTokenIds (state : LwwElementSetState) (tokenId : String) :
    tokenId ∈ lwwActiveTokenIds localeCompare state ↔
      (tokenId ∈ state.items ∨ tokenId ∈ state.removed) ∧
        stampOf state.removed tokenId ≤ stampOf state.items tokenId := by
  simp [lwwActiveTokenIds, isTokenActive, AList.mem_keys, List.mem_dedup]

end Product

/-! ## §3. The latest of a list of stamps. -/

/-- The latest stamp that `f` reads of the events, -1 where it reads none. -/
def latest (f : Event → ℤ) (events : List Event) : ℤ := events.foldr (fun e m => max (f e) m) (-1)

theorem latest_le {f : Event → ℤ} {events : List Event} {m : ℤ} :
    latest f events ≤ m ↔ -1 ≤ m ∧ ∀ e ∈ events, f e ≤ m := by
  induction events with
  | nil => simp [latest]
  | cons e events ih =>
    show max (f e) (latest f events) ≤ m ↔ _
    rw [max_le_iff, ih, List.forall_mem_cons]
    constructor <;> (intro h; exact ⟨h.2.1, h.1, h.2.2⟩)

theorem neg_one_le_latest (f : Event → ℤ) (events : List Event) : -1 ≤ latest f events :=
  (latest_le.mp (le_refl _)).1

theorem le_latest {f : Event → ℤ} {events : List Event} {e : Event} (h : e ∈ events) :
    f e ≤ latest f events :=
  (latest_le.mp (le_refl _)).2 e h

/-- **The latest stamp depends on which events there are**, not on their order or number. -/
theorem latest_congr {f : Event → ℤ} {events events' : List Event}
    (h : ∀ e, e ∈ events ↔ e ∈ events') : latest f events = latest f events' := by
  apply le_antisymm
  · exact latest_le.mpr ⟨neg_one_le_latest f events', fun e he => le_latest ((h e).mp he)⟩
  · exact latest_le.mpr ⟨neg_one_le_latest f events, fun e he => le_latest ((h e).mpr he)⟩

/-- A latest stamp is the stamp of one of the events. -/
theorem latest_attained (f : Event → ℤ) (events : List Event) :
    latest f events = -1 ∨ ∃ e ∈ events, f e = latest f events := by
  induction events with
  | nil => exact Or.inl rfl
  | cons e events ih =>
    show max (f e) (latest f events) = -1 ∨ ∃ x ∈ e :: events, f x = max (f e) (latest f events)
    rcases le_total (latest f events) (f e) with hle | hle
    · right
      exact ⟨e, List.mem_cons_self, (max_eq_left hle).symm⟩
    · rw [max_eq_right hle]
      rcases ih with h | ⟨x, hx, h⟩
      · exact Or.inl h
      · exact Or.inr ⟨x, List.mem_cons_of_mem e hx, h⟩

/-! ## §4. What the merge holds. -/

/-- No stamp of the record reads as if there were none. -/
def Dated (record : Stamps) : Prop := ∀ tokenId v, record.lookup tokenId = some v → -1 < v

theorem dated_empty : Dated ∅ := by
  intro tokenId v h
  simp [AList.lookup_empty] at h

theorem Dated.neg_one_le {record : Stamps} (h : Dated record) (tokenId : String) :
    -1 ≤ stampOf record tokenId := by
  unfold stampOf
  cases hl : record.lookup tokenId with
  | none => exact le_refl _
  | some v => exact le_of_lt (h tokenId v hl)

/-- A record is told by its stamps. -/
theorem Dated.lookup_eq {record record' : Stamps} (h : Dated record) (h' : Dated record')
    {tokenId : String} (heq : stampOf record tokenId = stampOf record' tokenId) :
    record.lookup tokenId = record'.lookup tokenId := by
  unfold stampOf at heq
  cases hl : record.lookup tokenId with
  | none =>
    cases hl' : record'.lookup tokenId with
    | none => rfl
    | some v =>
      have := h' tokenId v hl'
      rw [hl, hl'] at heq
      simp at heq
      omega
  | some v =>
    have := h tokenId v hl
    cases hl' : record'.lookup tokenId with
    | none =>
      rw [hl, hl'] at heq
      simp at heq
      omega
    | some v' =>
      rw [hl, hl'] at heq
      simpa using heq

theorem Dated.mem_iff {record : Stamps} (h : Dated record) (tokenId : String) :
    tokenId ∈ record ↔ -1 < stampOf record tokenId := by
  rw [← AList.lookup_isSome]
  unfold stampOf
  cases hl : record.lookup tokenId with
  | none => simp
  | some v => simpa using h tokenId v hl

theorem stampOf_insert (record : Stamps) (k tokenId : String) (v : ℤ) :
    stampOf (record.insert k v) tokenId = if tokenId = k then v else stampOf record tokenId := by
  unfold stampOf
  split
  · next h => subst h; simp [AList.lookup_insert]
  · next h => rw [AList.lookup_insert_ne h]

theorem Dated.insert {record : Stamps} (h : Dated record) (k : String) {v : ℤ} (hv : -1 < v) :
    Dated (record.insert k v) := by
  intro tokenId w hw
  by_cases hk : tokenId = k
  · subst hk
    rw [AList.lookup_insert] at hw
    cases hw
    exact hv
  · rw [AList.lookup_insert_ne hk] at hw
    exact h tokenId w hw

/-- One entry of a merge. -/
def mergeEntry (target : Stamps) (e : Sigma (fun _ : String => ℤ)) : Stamps :=
  if stampOf target e.1 < e.2 then target.insert e.1 e.2 else target

theorem mergeEntry_dated {target : Stamps} (h : Dated target) (e : Sigma (fun _ : String => ℤ)) :
    Dated (mergeEntry target e) := by
  unfold mergeEntry
  have := h.neg_one_le e.1
  split
  · exact h.insert e.1 (by omega)
  · exact h

theorem mergeEntry_stamp {target : Stamps} (e : Sigma (fun _ : String => ℤ)) (tokenId : String) :
    stampOf (mergeEntry target e) tokenId =
      if tokenId = e.1 then max (stampOf target tokenId) e.2 else stampOf target tokenId := by
  unfold mergeEntry
  by_cases hk : tokenId = e.1
  · subst hk
    split
    · next h => simp [stampOf_insert, max_eq_right h.le]
    · next h => simp [max_eq_left (not_lt.mp h)]
  · rw [if_neg hk]
    split
    · rw [stampOf_insert, if_neg hk]
    · rfl

theorem foldl_mergeEntry_dated (es : List (Sigma (fun _ : String => ℤ))) {target : Stamps}
    (h : Dated target) : Dated (es.foldl mergeEntry target) := by
  induction es generalizing target with
  | nil => exact h
  | cons e es ih => exact ih (mergeEntry_dated h e)

theorem foldl_mergeEntry_stamp (es : List (Sigma (fun _ : String => ℤ))) (hnd : es.NodupKeys)
    {target : Stamps} (h : Dated target) (tokenId : String) :
    stampOf (es.foldl mergeEntry target) tokenId =
      max (stampOf target tokenId) ((es.dlookup tokenId).getD (-1)) := by
  induction es generalizing target with
  | nil => simpa using h.neg_one_le tokenId
  | cons e es ih =>
    obtain ⟨k, v⟩ := e
    obtain ⟨hk, hnd⟩ := List.nodupKeys_cons.mp hnd
    show stampOf (es.foldl mergeEntry (mergeEntry target ⟨k, v⟩)) tokenId = _
    rw [ih hnd (mergeEntry_dated h _), mergeEntry_stamp]
    by_cases ht : tokenId = k
    · subst ht
      have hnone : es.dlookup tokenId = none := List.dlookup_eq_none.mpr hk
      have := h.neg_one_le tokenId
      simp [hnone, this]
    · rw [List.dlookup_cons_ne es ⟨k, v⟩ ht, if_neg ht]

/-- The add stamp of an event, -1 where it adds nothing. -/
def addStamp (tokenId : String) (event : Event) : ℤ :=
  stampOf (parseLwwElementSetEvent event).items tokenId

def removeStamp (tokenId : String) (event : Event) : ℤ :=
  stampOf (parseLwwElementSetEvent event).removed tokenId

theorem mergeMax_dated {target : Stamps} (h : Dated target) (source : Stamps) :
    Dated (mergeMax target source) := foldl_mergeEntry_dated source.entries h

theorem mergeMax_stamp {target : Stamps} (h : Dated target) (source : Stamps) (tokenId : String) :
    stampOf (mergeMax target source) tokenId = max (stampOf target tokenId) (stampOf source tokenId) :=
  foldl_mergeEntry_stamp source.entries source.nodupKeys h tokenId

theorem foldl_mergeEvent_dated (events : List Event) {merged : LwwElementSetState}
    (hi : Dated merged.items) (hr : Dated merged.removed) :
    Dated (events.foldl mergeEvent merged).items ∧ Dated (events.foldl mergeEvent merged).removed := by
  induction events generalizing merged with
  | nil => exact ⟨hi, hr⟩
  | cons e events ih => exact ih (mergeMax_dated hi _) (mergeMax_dated hr _)

theorem foldl_mergeEvent_stamp (events : List Event) (tokenId : String) {merged : LwwElementSetState}
    (hi : Dated merged.items) (hr : Dated merged.removed) :
    stampOf (events.foldl mergeEvent merged).items tokenId =
        max (stampOf merged.items tokenId) (latest (addStamp tokenId) events) ∧
      stampOf (events.foldl mergeEvent merged).removed tokenId =
        max (stampOf merged.removed tokenId) (latest (removeStamp tokenId) events) := by
  induction events generalizing merged with
  | nil =>
    exact ⟨(max_eq_left (hi.neg_one_le tokenId)).symm,
      (max_eq_left (hr.neg_one_le tokenId)).symm⟩
  | cons e events ih =>
    have hi' := mergeMax_dated hi (parseLwwElementSetEvent e).items
    have hr' := mergeMax_dated hr (parseLwwElementSetEvent e).removed
    obtain ⟨hitems, hremoved⟩ := @ih (mergeEvent merged e) hi' hr'
    refine ⟨hitems.trans ?_, hremoved.trans ?_⟩
    · show max (stampOf (mergeMax merged.items _) tokenId) _ = _
      rw [mergeMax_stamp hi, max_assoc]
      rfl
    · show max (stampOf (mergeMax merged.removed _) tokenId) _ = _
      rw [mergeMax_stamp hr, max_assoc]
      rfl

theorem merged_dated (events : List Event) : Dated (mergeLwwElementSetEvents events).items ∧
    Dated (mergeLwwElementSetEvents events).removed :=
  foldl_mergeEvent_dated events dated_empty dated_empty

/-- **A merge holds the latest add of every token.** -/
theorem merged_items (events : List Event) (tokenId : String) :
    stampOf (mergeLwwElementSetEvents events).items tokenId = latest (addStamp tokenId) events := by
  refine (foldl_mergeEvent_stamp events tokenId dated_empty dated_empty).1.trans (max_eq_right ?_)
  exact neg_one_le_latest _ _

theorem merged_removed (events : List Event) (tokenId : String) :
    stampOf (mergeLwwElementSetEvents events).removed tokenId =
      latest (removeStamp tokenId) events := by
  refine (foldl_mergeEvent_stamp events tokenId dated_empty dated_empty).2.trans (max_eq_right ?_)
  exact neg_one_le_latest _ _

/-! ## §5. What is kept of a record. -/

/-- The entries that `keep` lets through, assigned one by one. -/
def keepEntries (keep : Sigma (fun _ : String => ℤ) → Bool) (es : List (Sigma (fun _ : String => ℤ)))
    (out : Stamps) : Stamps :=
  es.foldl (fun out e => if keep e then assign out e.1 e.2 else out) out

theorem lookup_assign_of_ne (out : Stamps) {k tokenId : String} (h : tokenId ≠ k) (v : ℤ) :
    (assign out k v).lookup tokenId = out.lookup tokenId := by
  unfold assign
  split
  · rfl
  · exact AList.lookup_insert_ne h

theorem lookup_keepEntries (keep : Sigma (fun _ : String => ℤ) → Bool)
    (es : List (Sigma (fun _ : String => ℤ))) (hnd : es.NodupKeys) (tokenId : String)
    (out : Stamps) :
    (keepEntries keep es out).lookup tokenId =
      ((es.dlookup tokenId).filter (fun v => tokenId ≠ "__proto__" && keep ⟨tokenId, v⟩)).or
        (out.lookup tokenId) := by
  induction es generalizing out with
  | nil => rfl
  | cons e es ih =>
    obtain ⟨k, v⟩ := e
    obtain ⟨hk, hnd⟩ := List.nodupKeys_cons.mp hnd
    show (keepEntries keep es (if keep ⟨k, v⟩ then assign out k v else out)).lookup tokenId = _
    rw [ih hnd]
    by_cases ht : tokenId = k
    · subst ht
      have hnone : es.dlookup tokenId = none := List.dlookup_eq_none.mpr hk
      rw [hnone, List.dlookup_cons_eq]
      by_cases hkeep : keep ⟨tokenId, v⟩ = true
      · rw [if_pos hkeep]
        by_cases hproto : tokenId = "__proto__"
        · simp [hproto, assign]
        · simp [hproto, hkeep, assign, AList.lookup_insert, Option.filter]
      · rw [if_neg hkeep]
        simp [hkeep, Option.filter]
    · rw [List.dlookup_cons_ne es ⟨k, v⟩ ht]
      split
      · rw [lookup_assign_of_ne out ht]
      · rfl

/-- The token has a name under which a stamp can be kept. -/
def assignable (tokenId : String) : Prop := tokenId ≠ "" ∧ tokenId ≠ "__proto__"

theorem lookup_pruned (state : LwwElementSetState) (now : ℤ) (tokenId : String) :
    (pruneLwwTombstones state now).removed.lookup tokenId =
      (state.removed.lookup tokenId).filter (fun v => tokenId ≠ "__proto__" && cutoff now ≤ v) := by
  have h := lookup_keepEntries (fun e => cutoff now ≤ e.2) state.removed.entries
    state.removed.nodupKeys tokenId ∅
  refine (Eq.trans ?_ h).trans ?_
  · simp only [keepEntries, pruneLwwTombstones, decide_eq_true_eq]
  · rw [AList.lookup_empty, Option.or_none]
    rfl

theorem pruned_dated {state : LwwElementSetState} (h : Dated state.removed) (now : ℤ) :
    Dated (pruneLwwTombstones state now).removed := by
  intro tokenId v hv
  rw [lookup_pruned, Option.filter_eq_some_iff] at hv
  exact h tokenId v hv.1

/-- A tombstone older than the cutoff is gone. -/
theorem pruned_stamp (state : LwwElementSetState) (now : ℤ) {tokenId : String}
    (h : tokenId = "__proto__" → stampOf state.removed tokenId = -1) :
    stampOf (pruneLwwTombstones state now).removed tokenId =
      if cutoff now ≤ stampOf state.removed tokenId then stampOf state.removed tokenId else -1 := by
  by_cases hproto : tokenId = "__proto__"
  · rw [h hproto, ite_self]
    unfold stampOf
    rw [lookup_pruned]
    cases state.removed.lookup tokenId with
    | none => rfl
    | some v => simp [hproto, Option.filter]
  · unfold stampOf
    rw [lookup_pruned]
    cases state.removed.lookup tokenId with
    | none => simp [Option.filter]
    | some v => by_cases hv : cutoff now ≤ v <;> simp [hproto, hv, Option.filter]

/-- A record that was serialized reads as it was, but for what cannot be a stamp. -/
theorem lookup_normalized (stamps : Stamps) {tokenId : String} (ha : assignable tokenId) :
    (normalizeRecord (serializedEntries stamps)).lookup tokenId =
      (stamps.lookup tokenId).filter (fun v => 0 ≤ v) := by
  have h := lookup_keepEntries (fun e => e.1 ≠ "" && 0 ≤ e.2) stamps.entries stamps.nodupKeys
    tokenId ∅
  refine (Eq.trans ?_ h).trans ?_
  · unfold normalizeRecord serializedEntries keepEntries
    rw [List.foldl_map]
    congr 2
    funext out e
    unfold normalizeEntry
    by_cases hk : e.1 = ""
    · simp [hk]
    · by_cases hv : e.2 < 0
      · have : (e.2 : ℚ) < 0 := by exact_mod_cast hv
        simp [hk, hv, this]
      · have : ¬ (e.2 : ℚ) < 0 := by exact_mod_cast hv
        simp [hk, not_lt.mp hv, this]
  · simp [ha.1, ha.2, AList.lookup_empty]
    rfl

/-! ## §6. Events and the tokens that cannot be kept. -/

theorem lookup_assign_unassignable (out : Stamps) (k : String) (v : ℤ) (hk : k ≠ "")
    {tokenId : String} (h : ¬ assignable tokenId) (hout : out.lookup tokenId = none) :
    (assign out k v).lookup tokenId = none := by
  by_cases ht : tokenId = k
  · subst ht
    have hproto : tokenId = "__proto__" := by
      by_contra hn
      exact h ⟨hk, hn⟩
    simpa [assign, hproto] using hout
  · rw [lookup_assign_of_ne out ht]
    exact hout

theorem normalizeRecord_unassignable (raw : List (String × Option ℚ)) {tokenId : String}
    (h : ¬ assignable tokenId) : (normalizeRecord raw).lookup tokenId = none := by
  suffices hout : ∀ out : Stamps, out.lookup tokenId = none →
      (raw.foldl normalizeEntry out).lookup tokenId = none from hout ∅ (AList.lookup_empty _)
  induction raw with
  | nil => exact fun _ hout => hout
  | cons entry raw ih =>
    intro out hout
    refine ih _ ?_
    unfold normalizeEntry
    split
    · exact hout
    · next hk =>
      split
      · exact hout
      · split
        · exact hout
        · exact lookup_assign_unassignable out _ _ hk h hout

theorem legacyTokenId_ne {tag : List String} {tokenId : String}
    (h : legacyTokenId tag = some tokenId) : tokenId ≠ "" := by
  unfold legacyTokenId at h
  split at h
  · split at h
    · cases h
    · dsimp only at h
      split at h
      · cases h
      · next hne =>
        cases h
        exact hne
  · cases h

theorem parseLegacy_unassignable (event : Event) {tokenId : String} (h : ¬ assignable tokenId) :
    (parseLegacy event).items.lookup tokenId = none := by
  suffices hout : ∀ (ids : List String) (out : Stamps), (∀ id ∈ ids, id ≠ "") →
      out.lookup tokenId = none →
      (ids.foldl (fun out id => assign out id event.createdAt) out).lookup tokenId = none by
    refine hout _ ∅ (fun id hid => ?_) (AList.lookup_empty _)
    obtain ⟨tag, -, htag⟩ := List.mem_filterMap.mp hid
    exact legacyTokenId_ne htag
  intro ids
  induction ids with
  | nil => exact fun out _ hout => hout
  | cons id ids ih =>
    intro out hne hout
    refine ih _ (fun x hx => hne x (List.mem_cons_of_mem id hx)) ?_
    exact lookup_assign_unassignable out id _ (hne id List.mem_cons_self) h hout

/-- No event says anything of such a token. -/
theorem parse_unassignable (event : Event) {tokenId : String} (h : ¬ assignable tokenId) :
    addStamp tokenId event = -1 ∧ removeStamp tokenId event = -1 := by
  have hl := parseLegacy_unassignable event h
  have hempty : (∅ : Stamps).lookup tokenId = none := AList.lookup_empty _
  unfold addStamp removeStamp stampOf parseLwwElementSetEvent
  split
  · split
    · exact ⟨by rw [hl]; rfl, by rw [show (parseLegacy event).removed = ∅ from rfl, hempty]; rfl⟩
    · exact ⟨by rw [normalizeRecord_unassignable _ h]; rfl,
        by rw [normalizeRecord_unassignable _ h]; rfl⟩
  · exact ⟨by rw [hl]; rfl, by rw [show (parseLegacy event).removed = ∅ from rfl, hempty]; rfl⟩

/-! ## §7. What a published event says. -/

section Published

variable (localeCompare : String → String → ℤ) (dTag : String) (createdAt : ℤ)
  {state : LwwElementSetState} {tokenId : String}

theorem entries_ne_nil {record : Stamps} {v : ℤ} (h : record.lookup tokenId = some v) :
    record.entries ≠ [] := by
  intro hnil
  have : record.lookup tokenId = none := by
    show record.entries.dlookup tokenId = none
    rw [hnil]
    rfl
  rw [h] at this
  cases this

/-- An event that says something of a token in its content is read by its content. -/
theorem published_stamps (ha : assignable tokenId) {v : ℤ} (hv : 0 ≤ v)
    (h : state.items.lookup tokenId = some v ∧ state.removed.lookup tokenId = none ∨
      state.items.lookup tokenId = none ∧ state.removed.lookup tokenId = some v) :
    addStamp tokenId (publishedEvent localeCompare dTag state createdAt) =
        stampOf state.items tokenId ∧
      removeStamp tokenId (publishedEvent localeCompare dTag state createdAt) =
        stampOf state.removed tokenId := by
  have hi := lookup_normalized state.items ha
  have hr := lookup_normalized state.removed ha
  have hne : ¬ ((normalizeRecord (serializedEntries state.items)).entries = [] ∧
      (normalizeRecord (serializedEntries state.removed)).entries = []) := by
    rintro ⟨hitems, hremoved⟩
    rcases h with ⟨h, -⟩ | ⟨-, h⟩
    · rw [h, Option.filter_some_pos (by simpa using hv)] at hi
      exact entries_ne_nil hi hitems
    · rw [h, Option.filter_some_pos (by simpa using hv)] at hr
      exact entries_ne_nil hr hremoved
  unfold addStamp removeStamp stampOf
  simp only [parseLwwElementSetEvent, publishedEvent, if_neg hne, hi, hr]
  rcases h with ⟨h₁, h₂⟩ | ⟨h₁, h₂⟩
  · rw [h₁, h₂, Option.filter_some_pos (by simpa using hv)]
    exact ⟨rfl, rfl⟩
  · rw [h₁, h₂, Option.filter_some_pos (by simpa using hv)]
    exact ⟨rfl, rfl⟩

end Published

/-! ## §8. What a merge shows. -/

section Shown

variable {localeCompare : String → String → ℤ} {dTag : String} {createdAt readAt now : ℤ} {ts : ℕ}
  {events : List Event} {tokenId : String}

/-- **A token is shown** that was added, and not removed later by an entry that is kept. -/
theorem shown_iff (localeCompare : String → String → ℤ) (events : List Event) (now : ℤ)
    (tokenId : String) :
    tokenId ∈ lwwActiveTokenIds localeCompare (mergeReadLwwState events now) ↔
      0 ≤ latest (addStamp tokenId) events ∧
        (cutoff now ≤ latest (removeStamp tokenId) events →
          latest (removeStamp tokenId) events ≤ latest (addStamp tokenId) events) := by
  obtain ⟨hi, hr⟩ := merged_dated events
  have hproto : tokenId = "__proto__" →
      stampOf (mergeLwwElementSetEvents events).removed tokenId = -1 := by
    intro hproto
    rw [merged_removed]
    refine le_antisymm (latest_le.mpr ⟨le_refl _, fun e _ => ?_⟩) (neg_one_le_latest _ _)
    exact (parse_unassignable e fun ha => ha.2 hproto).2.le
  have hstamp := pruned_stamp (mergeLwwElementSetEvents events) now hproto
  rw [mem_lwwActiveTokenIds]
  show (tokenId ∈ (mergeLwwElementSetEvents events).items ∨
      tokenId ∈ (pruneLwwTombstones (mergeLwwElementSetEvents events) now).removed) ∧
    stampOf (pruneLwwTombstones (mergeLwwElementSetEvents events) now).removed tokenId ≤
      stampOf (mergeLwwElementSetEvents events).items tokenId ↔ _
  rw [hi.mem_iff, (pruned_dated hr now).mem_iff, hstamp, merged_items, merged_removed]
  have hadd := neg_one_le_latest (addStamp tokenId) events
  have hremove := neg_one_le_latest (removeStamp tokenId) events
  split <;> omega

/-- The stamps of the event that publishes an add. -/
theorem added_stamps (ha : assignable tokenId) (state : LwwElementSetState) :
    let added := publishedEvent localeCompare dTag (applyLwwAdd state tokenId ts) createdAt
    addStamp tokenId added = ts ∧ removeStamp tokenId added = -1 := by
  have happly : applyLwwAdd state tokenId ts =
      ⟨state.items.insert tokenId ts, state.removed.erase tokenId⟩ := if_neg ha.1
  have hitems : (applyLwwAdd state tokenId ts).items.lookup tokenId = some (ts : ℤ) := by
    rw [happly]
    exact AList.lookup_insert _
  have hremoved : (applyLwwAdd state tokenId ts).removed.lookup tokenId = none := by
    rw [happly]
    exact AList.lookup_erase _ _
  obtain ⟨h₁, h₂⟩ := published_stamps localeCompare dTag createdAt ha (by omega)
    (Or.inl ⟨hitems, hremoved⟩)
  unfold stampOf at h₁ h₂
  rw [hitems] at h₁
  rw [hremoved] at h₂
  exact ⟨h₁, h₂⟩

theorem removed_stamps (ha : assignable tokenId) (state : LwwElementSetState) :
    let removed := publishedEvent localeCompare dTag (applyLwwRemove state tokenId ts) createdAt
    addStamp tokenId removed = -1 ∧ removeStamp tokenId removed = ts := by
  have happly : applyLwwRemove state tokenId ts =
      ⟨state.items.erase tokenId, state.removed.insert tokenId ts⟩ := if_neg ha.1
  have hitems : (applyLwwRemove state tokenId ts).items.lookup tokenId = none := by
    rw [happly]
    exact AList.lookup_erase _ _
  have hremoved : (applyLwwRemove state tokenId ts).removed.lookup tokenId = some (ts : ℤ) := by
    rw [happly]
    exact AList.lookup_insert _
  obtain ⟨h₁, h₂⟩ := published_stamps localeCompare dTag createdAt ha (by omega)
    (Or.inr ⟨hitems, hremoved⟩)
  unfold stampOf at h₁ h₂
  rw [hitems] at h₁
  rw [hremoved] at h₂
  exact ⟨h₁, h₂⟩

/-- An event with these stamps keeps the token shown, whatever else of `events` is merged with
    it, exactly if no one of them takes it away. -/
theorem always_shown_iff {added : Event} (hadd : addStamp tokenId added = ts)
    (hremove : removeStamp tokenId added = -1) :
    (∀ again : List Event, added ∈ again → (∀ e ∈ again, e = added ∨ e ∈ events) →
        tokenId ∈ lwwActiveTokenIds localeCompare (mergeReadLwwState again now)) ↔
      ∀ e ∈ events, removeStamp tokenId e < cutoff now ∨
        removeStamp tokenId e ≤ max (ts : ℤ) (addStamp tokenId e) := by
  constructor
  · intro h e he
    have hboth := (shown_iff _ _ _ _).mp (h [added, e] List.mem_cons_self (by simp [he]))
    have hle := hboth.2
    simp only [latest, List.foldr_cons, List.foldr_nil, hadd, hremove] at hle
    omega
  · intro h again hmem hof
    refine (shown_iff _ _ _ _).mpr ⟨?_, fun hcut => ?_⟩
    · have := le_latest (f := addStamp tokenId) hmem
      omega
    -- the latest remove is that of some event, which the add of the same event or ours outdates
    rcases latest_attained (removeStamp tokenId) again with hnone | ⟨e, he, heq⟩
    · rw [hnone]
      exact neg_one_le_latest _ _
    · have hours := le_latest (f := addStamp tokenId) hmem
      have hits := le_latest (f := addStamp tokenId) he
      rcases hof e he with rfl | he
      · omega
      · have := h e he
        omega

theorem never_shown_iff {removed : Event} (hadd : addStamp tokenId removed = -1)
    (hremove : removeStamp tokenId removed = ts) :
    (∀ again : List Event, removed ∈ again → (∀ e ∈ again, e = removed ∨ e ∈ events) →
        tokenId ∉ lwwActiveTokenIds localeCompare (mergeReadLwwState again now)) ↔
      ∀ e ∈ events, addStamp tokenId e < 0 ∨
        (addStamp tokenId e < max (ts : ℤ) (removeStamp tokenId e) ∧
          cutoff now ≤ max (ts : ℤ) (removeStamp tokenId e)) := by
  constructor
  · intro h e he
    have hboth := (shown_iff _ _ _ _).not.mp (h [removed, e] List.mem_cons_self (by simp [he]))
    simp only [latest, List.foldr_cons, List.foldr_nil, hadd, hremove] at hboth
    omega
  · intro h again hmem hof hshown
    obtain ⟨hpos, hle⟩ := (shown_iff _ _ _ _).mp hshown
    -- the latest add is that of some event, which the remove of the same event or ours outdates
    rcases latest_attained (addStamp tokenId) again with hnone | ⟨e, he, heq⟩
    · omega
    · have hours := le_latest (f := removeStamp tokenId) hmem
      have hits := le_latest (f := removeStamp tokenId) he
      rcases hof e he with rfl | he
      · omega
      · have := h e he
        omega

/-- A token that no event can name is never shown. -/
theorem unassignable_not_shown (ha : ¬ assignable tokenId) (again : List Event) :
    tokenId ∉ lwwActiveTokenIds localeCompare (mergeReadLwwState again now) := by
  intro h
  have hpos := ((shown_iff _ _ _ _).mp h).1
  have hle : latest (addStamp tokenId) again ≤ -1 :=
    latest_le.mpr ⟨le_refl _, fun e _ => (parse_unassignable e ha).1.le⟩
  omega

end Shown

/-- **The watchlist.**  Which events are merged decides what the merge holds and shows, not their
    order or number.  An add of a token that can be named survives every merge with events it was
    applied to exactly if each of them that removes the token does so before the cutoff or not
    after the add or its own add; a remove does exactly if each of them that adds the token does
    so before the remove or its own remove, and that is not before the cutoff. -/
theorem watchlist_merge (localeCompare : String → String → ℤ) :
    (∀ (events events' : List Event), (∀ e, e ∈ events ↔ e ∈ events') →
      ∀ (tokenId : String) (now : ℤ),
      (mergeLwwElementSetEvents events).items.lookup tokenId =
          (mergeLwwElementSetEvents events').items.lookup tokenId ∧
        (mergeLwwElementSetEvents events).removed.lookup tokenId =
          (mergeLwwElementSetEvents events').removed.lookup tokenId ∧
        (tokenId ∈ lwwActiveTokenIds localeCompare (mergeReadLwwState events now) ↔
          tokenId ∈ lwwActiveTokenIds localeCompare (mergeReadLwwState events' now))) ∧
    (∀ (events : List Event) (tokenId dTag : String) (ts : ℕ) (readAt createdAt now : ℤ),
      let added := publishedEvent localeCompare dTag
        (applyLwwAdd (mergeReadLwwState events readAt) tokenId ts) createdAt
      (∀ again : List Event, added ∈ again → (∀ e ∈ again, e = added ∨ e ∈ events) →
          tokenId ∈ lwwActiveTokenIds localeCompare (mergeReadLwwState again now)) ↔
        assignable tokenId ∧ ∀ e ∈ events, removeStamp tokenId e < cutoff now ∨
          removeStamp tokenId e ≤ max (ts : ℤ) (addStamp tokenId e)) ∧
    ∀ (events : List Event) (tokenId dTag : String) (ts : ℕ) (readAt createdAt now : ℤ),
      let removed := publishedEvent localeCompare dTag
        (applyLwwRemove (mergeReadLwwState events readAt) tokenId ts) createdAt
      (∀ again : List Event, removed ∈ again → (∀ e ∈ again, e = removed ∨ e ∈ events) →
          tokenId ∉ lwwActiveTokenIds localeCompare (mergeReadLwwState again now)) ↔
        ∀ e ∈ events, addStamp tokenId e < 0 ∨
          (addStamp tokenId e < max (ts : ℤ) (removeStamp tokenId e) ∧
            cutoff now ≤ max (ts : ℤ) (removeStamp tokenId e)) := by
  refine ⟨fun events events' h tokenId now => ?_, ?_, ?_⟩
  · obtain ⟨hi, hr⟩ := merged_dated events
    obtain ⟨hi', hr'⟩ := merged_dated events'
    refine ⟨hi.lookup_eq hi' ?_, hr.lookup_eq hr' ?_, ?_⟩
    · rw [merged_items, merged_items, latest_congr h]
    · rw [merged_removed, merged_removed, latest_congr h]
    · rw [shown_iff, shown_iff, latest_congr h, latest_congr h]
  · intro events tokenId dTag ts readAt createdAt now added
    by_cases ha : assignable tokenId
    · obtain ⟨hadd, hremove⟩ : addStamp tokenId added = ts ∧ removeStamp tokenId added = -1 :=
        added_stamps ha (mergeReadLwwState events readAt)
      rw [always_shown_iff hadd hremove]
      exact (and_iff_right ha).symm
    · constructor
      · intro h
        have := h [added] List.mem_cons_self (by simp)
        exact absurd this (unassignable_not_shown ha _)
      · exact fun h => absurd h.1 ha
  · intro events tokenId dTag ts readAt createdAt now removed
    by_cases ha : assignable tokenId
    · obtain ⟨hadd, hremove⟩ : addStamp tokenId removed = -1 ∧ removeStamp tokenId removed = ts :=
        removed_stamps ha (mergeReadLwwState events readAt)
      exact never_shown_iff hadd hremove
    · constructor
      · intro _ e _
        left
        rw [(parse_unassignable e ha).1]
        decide
      · exact fun _ again _ _ => unassignable_not_shown ha again

/-- A token added in second 100 that the same second removes: the remove is merged with that add
    and the token is still shown. -/
theorem same_second_remove :
    let event : Event := ⟨.versioned [("1", some 100)] [], [], 100⟩
    let state := mergeReadLwwState [event] 100
    let removed := publishedEvent (fun _ _ => 0) "kargain-favorites"
      (applyLwwRemove state "1" (100 : ℕ)) 100
    "1" ∈ lwwActiveTokenIds (fun _ _ => 0) state ∧
      "1" ∈ lwwActiveTokenIds (fun _ _ => 0) (mergeReadLwwState [removed, event] 100) := by
  intro event state removed
  have hstamps : addStamp "1" event = 100 ∧ removeStamp "1" event = -1 := by decide
  obtain ⟨hadd, hremove⟩ : addStamp "1" removed = -1 ∧ removeStamp "1" removed = (100 : ℕ) :=
    removed_stamps ⟨by decide, by decide⟩ state
  constructor
  · refine (shown_iff _ _ _ _).mpr ?_
    simp [latest, hstamps]
  · refine (shown_iff _ _ _ _).mpr ?_
    simp [latest, hstamps, hadd, hremove]

end Kargain.Nostr
