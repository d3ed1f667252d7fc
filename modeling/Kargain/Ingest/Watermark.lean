/-
  Kargain.Ingest.Watermark — what the watermark stands for.

  Every slot at or below the stored watermark that holds a transaction of a
  followed program has been ingested, or refused by name.  The ingest
  moves the watermark along the sorted union of what the programs showed,
  so this rests on the union having no holes below its last slot.  Each
  program is asked on a later chain than the one before: a slot may appear
  for a program that has been asked, below one that a later program shows.
  `Steady` says that this does not happen.

  `Kept` is the triple of every piece of the loop: the watermark, a fact
  `J` of chain and store that their growth keeps, and `Covers`, the slots
  that are left.

  Main results: `no_slot_lost`, in every run whose discoveries are steady;
  `slot_lost`, a run in which one is not.
-/
import Kargain.Ingest.IngestLoop

namespace Kargain.Ingest

/-! ## §1. What counts as done. -/

/-- A block with a transaction of a followed program, deployed by then. -/
def Followed (o : Options) (b : Block) : Prop :=
  ∃ p ∈ o.followedPrograms, b.Calls p.programId ∧ p.deploySlot ≤ b.slot

/-- Every transaction of the block is written, or its slot is refused. -/
def Done (st : Store) (b : Block) : Prop :=
  b.slot ∈ st.refused ∨ ∀ i < b.transactions.length, (⟨b.slot, i⟩ : Signature) ∈ st.written

/-- The watermark at `last`: all is done up to there, and what comes is above. -/
structure Upto (o : Options) (c : Chain) (st : Store) (last : Slot) : Prop where
  done : ∀ b ∈ c.blocks, Followed o b → b.slot ≤ last → Done st b
  old : last ≤ c.tip ∨ last < o.startSlot

/-- Rows are only added. -/
structure Store.Grows (st st' : Store) : Prop where
  written : ∀ r ∈ st.written, r ∈ st'.written
  refused : ∀ a ∈ st.refused, a ∈ st'.refused

/-- No slot appears for a program that has been asked at or below one that a program asked later
    shows, but for those that a program shows all the same. -/
def Steady (programs : List FollowedProgram) (snaps : List Sighting) : Prop :=
  snaps.map (·.1) = programs → snaps.Pairwise fun q q' =>
    ∀ x ∈ q'.2.slotsOf q.1.programId, q.1.deploySlot ≤ x →
      ∀ a ∈ q'.2.slotsOf q'.1.programId, q'.1.deploySlot ≤ a → x ≤ a →
        ∃ r ∈ snaps, x ∈ r.2.slotsOf r.1.programId ∧ r.1.deploySlot ≤ x

instance (programs : List FollowedProgram) (snaps : List Sighting) :
    Decidable (Steady programs snaps) := by
  unfold Steady
  infer_instance

section Facts

variable {o : Options} {c d : Chain} {st st' : Store} {b : Block} {last : Slot}

theorem Followed.start_le (h : Followed o b) : o.startSlot ≤ b.slot := by
  obtain ⟨p, hp, -, hd⟩ := h
  exact (o.start_le p hp).trans hd

theorem Store.Grows.refl (st : Store) : st.Grows st := ⟨fun _ h => h, fun _ h => h⟩

theorem Done.grows (h : Done st b) (hst : st.Grows st') : Done st' b := by
  rcases h with h | h
  · exact .inl (hst.refused _ h)
  · exact .inr fun i hi => hst.written _ (h i hi)

/-- New blocks are above the watermark, or from before the first deployment. -/
theorem Upto.grows (h : Upto o c st last) (hc : c.Extends d) (hst : st.Grows st') :
    Upto o d st' last where
  done b hb hf hle := by
    rcases h.old with hold | hold
    · exact (h.done b (hc.mem_of_le hb (hle.trans hold)) hf hle).grows hst
    · exact absurd (hf.start_le.trans hle) (not_le_of_gt hold)
  old := by
    rcases h.old with hold | hold
    · exact .inl (hold.trans hc.1)
    · exact .inr hold

/-- Before the first deployment there is nothing to do. -/
theorem Upto.bootstrap (h : last < o.startSlot) : Upto o c st last where
  done _ _ hf hle := absurd (hf.start_le.trans hle) (not_le_of_gt h)
  old := .inr h

theorem Upto.max {last' : Slot} (h : Upto o c st last) (h' : Upto o c st last') :
    Upto o c st (max last last') := by
  rcases le_total last last' with hle | hle
  · rwa [max_eq_right hle]
  · rwa [max_eq_left hle]

/-- The watermark may move to `a` when all between is done. -/
theorem Upto.move (h : Upto o c st last) {a : Slot} (ha : a ≤ c.tip)
    (hbetween : ∀ b ∈ c.blocks, Followed o b → last < b.slot → b.slot ≤ a → Done st b) :
    Upto o c st a where
  done b hb hf hle := by
    rcases le_or_gt b.slot last with hlast | hlast
    · exact h.done b hb hf hlast
    · exact hbetween b hb hf hlast hle
  old := .inl ha

/-- There is one block to a slot. -/
theorem Chain.block_unique {b' : Block} (hb : b ∈ c.blocks) (hb' : b' ∈ c.blocks)
    (h : b.slot = b'.slot) : b = b' := by
  have hnodup : (c.blocks.map (·.slot)).Nodup :=
    List.pairwise_map.mpr (c.sorted.imp fun h => ne_of_gt h)
  exact List.inj_on_of_nodup_map hnodup hb hb' h

end Facts

/-! ## §2. The pieces of the loop. -/

/-- What is trusted of the discoveries of an action so far. -/
def Trusted (o : Options) (s : Sys) : Prop := ∀ snaps ∈ s.asked, Steady o.followedPrograms snaps

/-- The state between two steps of the loop. -/
structure Holds (o : Options) (J : Chain → Store → Prop) (s : Sys) : Prop where
  memory : Upto o s.chain s.store s.memory.cursor.lastContiguousSlot
  stored : ∀ cur ∈ s.store.cursor, Upto o s.chain s.store cur.lastContiguousSlot
  fact : J s.chain s.store

def Kept (o : Options) (J : Chain → Store → Prop) (s : Sys) : Prop := Trusted o s → Holds o J s

/-- A fact that growth keeps. -/
def Stable (J : Chain → Store → Prop) : Prop :=
  ∀ c d st st', Chain.Extends c d → Store.Grows st st' → J c st → J d st'

/-- All up to `a` is in the list, or done. -/
structure Shows (o : Options) (l : List Slot) (a : Slot) (c : Chain) (st : Store) : Prop where
  below : a ≤ c.tip
  full : ∀ b ∈ c.blocks, Followed o b → b.slot ≤ a → b.slot ∈ l ∨ Done st b

/-- The slots that are left: in order, and with no hole. -/
structure Covers (o : Options) (l : List Slot) (c : Chain) (st : Store) : Prop where
  sorted : l.Pairwise (· ≤ ·)
  shows : ∀ a ∈ l, Shows o l a c st

/-- The slot `a` is done. -/
structure SlotDone (a : Slot) (c : Chain) (st : Store) : Prop where
  below : a ≤ c.tip
  done : ∀ b ∈ c.blocks, b.slot = a → Done st b

/-- The first transactions of the slot `a` are written. -/
def Written (a : Slot) (n : ℕ) (_ : Chain) (st : Store) : Prop :=
  ∀ i < n, (⟨a, i⟩ : Signature) ∈ st.written

/-- `b` is the block of its slot. -/
structure IsBlock (b : Block) (c : Chain) (_ : Store) : Prop where
  below : b.slot ≤ c.tip
  only : ∀ b' ∈ c.blocks, b'.slot = b.slot → b' = b

def Both (J K : Chain → Store → Prop) (c : Chain) (st : Store) : Prop := J c st ∧ K c st

section Stability

variable {o : Options} {J J' K : Chain → Store → Prop} {l : List Slot} {a : Slot} {s s' : Sys}

theorem Stable.both (hJ : Stable J) (hK : Stable K) : Stable (Both J K) :=
  fun _ _ _ _ hc hst h => ⟨hJ _ _ _ _ hc hst h.1, hK _ _ _ _ hc hst h.2⟩

theorem Shows.stable : Stable (Shows o l a) := by
  intro c d st st' hc hst h
  refine ⟨h.below.trans hc.1, fun b hb hf hle => ?_⟩
  exact (h.full b (hc.mem_of_le hb (hle.trans h.below)) hf hle).imp_right fun h => h.grows hst

theorem Covers.stable : Stable (Covers o l) := fun _ _ _ _ hc hst h =>
  ⟨h.sorted, fun a ha => Shows.stable _ _ _ _ hc hst (h.shows a ha)⟩

theorem SlotDone.stable : Stable (SlotDone a) := by
  intro c d st st' hc hst h
  exact ⟨h.below.trans hc.1, fun b hb he =>
    (h.done b (hc.mem_of_le hb (he ▸ h.below)) he).grows hst⟩

theorem Written.stable {n : ℕ} : Stable (Written a n) :=
  fun _ _ _ _ _ hst h i hi => hst.written _ (h i hi)

theorem IsBlock.stable {b : Block} : Stable (IsBlock b) := by
  intro c d st st' hc hst h
  exact ⟨h.below.trans hc.1, fun b' hb he => h.only b' (hc.mem_of_le hb (he ▸ h.below)) he⟩

theorem Kept.imp (h : Kept o J s) (himp : ∀ c st, J c st → J' c st) : Kept o J' s :=
  fun ht => ⟨(h ht).memory, (h ht).stored, himp _ _ (h ht).fact⟩

theorem Kept.left (h : Kept o (Both J K) s) : Kept o J s := h.imp fun _ _ h => h.1

/-- Whatever leaves the watermarks alone keeps what holds. -/
theorem Holds.grows (h : Holds o J s) (hJ : Stable J) (hc : s.chain.Extends s'.chain)
    (hst : s.store.Grows s'.store)
    (hm : s'.memory.cursor.lastContiguousSlot = s.memory.cursor.lastContiguousSlot)
    (hcur : ∀ cur ∈ s'.store.cursor, cur ∈ s.store.cursor ∨ cur = s.memory.cursor) :
    Holds o J s' where
  memory := hm ▸ h.memory.grows hc hst
  stored cur h' := by
    rcases hcur cur h' with h' | rfl
    · exact (h.stored cur h').grows hc hst
    · exact h.memory.grows hc hst
  fact := hJ _ _ _ _ hc hst h.fact

theorem kept_grows (hJ : Stable J) : Grows (Kept o J) := fun s _ bs h ht =>
  (h ht).grows hJ (Chain.extends_grow s.chain bs) (.refl _) rfl fun _ h => .inl h

/-- The watermark in memory moves to `a`. -/
theorem Holds.move (h : Holds o J s) (hshows : Shows o [] a s.chain s.store) {c : Cursor}
    (hc : c.lastContiguousSlot = a) :
    Holds o J { s with memory := { s.memory with cursor := c } } where
  memory := by
    show Upto o s.chain s.store c.lastContiguousSlot
    rw [hc]
    exact h.memory.move hshows.below fun b hb hf _ hle =>
      (hshows.full b hb hf hle).resolve_left List.not_mem_nil
  stored := h.stored
  fact := h.fact

/-- The head of the list is at or below the watermark. -/
theorem Covers.skip {c : Chain} {st : Store} {last : Slot} (h : Covers o (a :: l) c st)
    (hup : Upto o c st last) (hle : a ≤ last) : Covers o l c st where
  sorted := (List.pairwise_cons.mp h.sorted).2
  shows a' ha' := by
    have hs := h.shows a' (List.mem_cons_of_mem _ ha')
    refine ⟨hs.below, fun b hb hf hb' => ?_⟩
    rcases hs.full b hb hf hb' with hin | hd
    · rcases List.mem_cons.mp hin with heq | hin
      · exact .inr (hup.done b hb hf (heq ▸ hle))
      · exact .inl hin
    · exact .inr hd

/-- The head of the list is done. -/
theorem Covers.done {c : Chain} {st : Store} (h : Covers o (a :: l) c st)
    (hd : SlotDone a c st) : Shows o [] a c st ∧ Covers o l c st := by
  have hcons := List.pairwise_cons.mp h.sorted
  refine ⟨⟨hd.below, fun b hb hf hle => .inr ?_⟩, hcons.2, fun a' ha' => ?_⟩
  · rcases (h.shows a (List.mem_cons_self ..)).full b hb hf hle with hin | hdone
    · rcases List.mem_cons.mp hin with heq | hin
      · exact hd.done b hb heq
      · exact hd.done b hb (le_antisymm hle (hcons.1 _ hin))
    · exact hdone
  · have hs := h.shows a' (List.mem_cons_of_mem _ ha')
    refine ⟨hs.below, fun b hb hf hb' => ?_⟩
    rcases hs.full b hb hf hb' with hin | hdone
    · rcases List.mem_cons.mp hin with heq | hin
      · exact .inr (hd.done b hb heq)
      · exact .inl hin
    · exact .inr hdone

/-- The slots above the watermark. -/
theorem Covers.above {c : Chain} {st : Store} {last : Slot} (h : Covers o l c st)
    (hup : Upto o c st last) : Covers o (l.filter fun a => last < a) c st where
  sorted := h.sorted.filter _
  shows a ha := by
    have hs := h.shows a (List.mem_of_mem_filter ha)
    refine ⟨hs.below, fun b hb hf hle => ?_⟩
    rcases hs.full b hb hf hle with hin | hd
    · by_cases hlast : last < b.slot
      · exact .inl (List.mem_filter.mpr ⟨hin, by simpa using hlast⟩)
      · exact .inr (hup.done b hb hf (not_lt.mp hlast))
    · exact .inr hd

end Stability

section Pieces

variable {o : Options} {J J' : Chain → Store → Prop} {l : List Slot}

theorem setHalted_sound (hJ : Stable J) {b : Bool} {E : Sys → Prop} :
    Prog.Sound (Kept o J) (setHalted b) (fun _ => Kept o J) E :=
  Prog.Sound.modify fun _ h ht => (h ht).grows hJ (.refl _) (.refl _) rfl fun _ h => .inl h

/-- The fields of the cursor other than the watermark. -/
theorem setCursor_sound (hJ : Stable J) {f : Cursor → Cursor} {E : Sys → Prop}
    (hf : ∀ c, (f c).lastContiguousSlot = c.lastContiguousSlot) :
    Prog.Sound (Kept o J) (setCursor f) (fun _ => Kept o J) E :=
  Prog.Sound.modify fun _ h ht => (h ht).grows hJ (.refl _) (.refl _) (hf _) fun _ h => .inl h

theorem persistCursor_sound (hJ : Stable J) :
    Prog.Sound (Kept o J) persistCursor (fun _ => Kept o J) (Kept o J) := by
  unfold persistCursor
  refine (call_sound (kept_grows hJ)).bind fun _ => Prog.Sound.modify fun s h ht => ?_
  refine (h ht).grows hJ (.refl _) ⟨fun _ h => h, fun _ h => h⟩ rfl fun cur h => .inr ?_
  simpa using h.symm

/-- A refusal, and what it makes true. -/
theorem insertIngestRefusal_sound (hJ : Stable J) {slot : Option Slot}
    (hnew : ∀ c st, (∀ a ∈ slot, a ∈ st.refused) → J c st → J' c st) :
    Prog.Sound (Kept o J) (insertIngestRefusal slot) (fun _ => Kept o J') (Kept o J) := by
  unfold insertIngestRefusal
  refine (call_sound (kept_grows hJ)).bind fun _ => Prog.Sound.modify fun s h ht => ?_
  have hs : s.store.Grows { s.store with refused := slot.toList ++ s.store.refused } :=
    ⟨fun _ h => h, fun _ h => List.mem_append_right _ h⟩
  have hold : Holds o J { s with store :=
      { s.store with refused := slot.toList ++ s.store.refused } } :=
    (h ht).grows hJ (.refl _) hs rfl fun _ h => .inl h
  have hin : ∀ a ∈ slot, a ∈ slot.toList ++ s.store.refused := fun a ha =>
    List.mem_append_left _ (Option.mem_toList.mpr ha)
  exact { hold with fact := hnew _ _ hin hold.fact }

theorem writeTransaction_sound (hJ : Stable J) {r : Signature}
    (hnew : ∀ c st, r ∈ st.written → J c st → J' c st) :
    Prog.Sound (Kept o J) (writeTransaction r) (fun _ => Kept o J') (Kept o J) := by
  unfold writeTransaction
  refine (call_sound (kept_grows hJ)).bind fun _ => Prog.Sound.modify fun s h ht => ?_
  have hs : s.store.Grows { s.store with written := r :: s.store.written } :=
    ⟨fun _ h => List.mem_cons_of_mem _ h, fun _ h => h⟩
  have hold : Holds o J { s with store := { s.store with written := r :: s.store.written } } :=
    (h ht).grows hJ (.refl _) hs rfl fun _ h => .inl h
  exact { hold with fact := hnew _ _ (List.mem_cons_self ..) hold.fact }

theorem recordIncident_sound (hJ : Stable J) {incident : CatchupIncident} {slot : Option Slot} :
    Prog.Sound (Kept o J) (recordIncident incident slot) (fun _ => Kept o J) (Kept o J) := by
  unfold recordIncident
  refine (setCursor_sound hJ (f := fun c => { c with catchupIncident := some incident })
    fun _ => rfl).bind fun _ => ?_
  refine Prog.Sound.ite (fun _ => ?_) fun _ => persistCursor_sound hJ
  refine (setHalted_sound hJ).bind fun _ => ?_
  exact (insertIngestRefusal_sound hJ fun _ _ _ h => h).bind fun _ => persistCursor_sound hJ

/-- **The transactions of a block**, by induction on those that are left. -/
theorem writeTransactions_sound (hJ : Stable J) {a : Slot} (txs : List (List ProgramId))
    (index : ℕ) : Prog.Sound (Kept o (Both J (Written a index))) (writeTransactions a index txs)
      (fun _ => Kept o (Both J (Written a (index + txs.length)))) (Kept o J) := by
  induction txs generalizing index with
  | nil => exact Prog.Sound.pure fun _ h => h
  | cons tx rest ih =>
    have hnew : ∀ c st, (⟨a, index⟩ : Signature) ∈ st.written → Both J (Written a index) c st →
        Both J (Written a (index + 1)) c st := by
      rintro c st hr ⟨hfact, hwritten⟩
      refine ⟨hfact, fun i hi => ?_⟩
      rcases Nat.lt_succ_iff_lt_or_eq.mp hi with hi | rfl
      · exact hwritten i hi
      · exact hr
    have hone := (writeTransaction_sound (o := o) (hJ.both Written.stable) hnew).errors
      fun _ h => h.left
    refine hone.bind fun _ => (ih (index + 1)).post fun _ s h => ?_
    rw [List.length_cons, show index + (rest.length + 1) = index + 1 + rest.length by omega]
    exact h

/-- What the node answers is the block of the slot. -/
theorem getBlock_sound (hJ : Stable J) {a : Slot} (hbelow : ∀ c st, J c st → a ≤ c.tip) :
    Prog.Sound (Kept o J) (getBlock a) (fun r s => match r with
      | none => Kept o J s
      | some b => b.slot = a ∧ Kept o (Both J (IsBlock b)) s) (Kept o J) := by
  unfold getBlock
  refine (call_sound (kept_grows hJ)).bind fun t => ?_
  refine Prog.Sound.bind (Q := fun r s => Kept o J s ∧ r = s) (Prog.Sound.get fun s h => ⟨h, rfl⟩)
    fun r => Prog.Sound.pure ?_
  rintro s ⟨h, rfl⟩
  by_cases hm : t.blockMissing = true
  · simp only [hm, if_true]
    exact h
  simp only [hm, Bool.false_eq_true, if_false]
  cases hf : r.chain.blocks.find? fun b => decide (b.slot = a) with
  | none => exact h
  | some b =>
    have hb := List.mem_of_find?_eq_some hf
    have hslot : b.slot = a := by simpa using List.find?_some hf
    refine ⟨hslot, fun ht => ⟨(h ht).memory, (h ht).stored, (h ht).fact, ?_, fun b' hb' he => ?_⟩⟩
    · exact hslot ▸ hbelow _ _ (h ht).fact
    · exact Chain.block_unique hb' hb he

theorem advance_sound (hJ : Stable J) {a : Slot} :
    Prog.Sound (Kept o (Both (Both J (Covers o (a :: l))) (SlotDone a))) (advance a)
      (fun _ => Kept o (Both J (Covers o l))) (Kept o J) := by
  unfold advance
  have hJ' := hJ.both (Covers.stable (o := o) (l := l))
  refine Prog.Sound.bind (Q := fun _ => Kept o (Both J (Covers o l))) ?_ fun _ =>
    (persistCursor_sound hJ').errors fun _ h => h.left
  refine Prog.Sound.modify fun s h ht => ?_
  obtain ⟨⟨hfact, hcov⟩, hdone⟩ := (h ht).fact
  obtain ⟨hshows, hrest⟩ := hcov.done hdone
  have hmove := (h ht).move hshows (c := { s.memory.cursor with
    lastContiguousSlot := a, catchupIncident := none }) rfl
  exact { hmove with fact := ⟨hfact, hrest⟩ }

/-- **One slot**: whatever becomes of its block, the watermark may move to it. -/
theorem ingestDiscoveredSlot_sound (hJ : Stable J) {a : Slot} :
    Prog.Sound (Kept o (Both J (Covers o (a :: l)))) (ingestDiscoveredSlot a)
      (fun _ => Kept o (Both J (Covers o l))) (Kept o J) := by
  unfold ingestDiscoveredSlot
  have hJ' := hJ.both (Covers.stable (o := o) (l := a :: l))
  have hbelow : ∀ c st, Both J (Covers o (a :: l)) c st → a ≤ c.tip :=
    fun c st h => (h.2.shows a (List.mem_cons_self ..)).below
  refine ((getBlock_sound hJ' hbelow).errors fun _ h => h.left).bind fun r => ?_
  have hadv := advance_sound (o := o) (l := l) hJ (a := a)
  cases r with
  | none =>
    refine ((insertIngestRefusal_sound hJ' fun c st hr h => ?_).errors
      fun _ h => h.left).bind fun _ => hadv
    exact ⟨h, hbelow c st h, fun b _ he => .inl (he ▸ hr a rfl)⟩
  | some b =>
    refine Prog.Sound.given (fun _ h => h.1) ?_
    rintro rfl
    have hw := (writeTransactions_sound (o := o) (a := b.slot)
      (hJ'.both (IsBlock.stable (b := b))) b.transactions 0).errors fun _ h => h.left.left
    refine Prog.Sound.bind (hw.imp (fun s h => ?_) fun _ s h => ?_) fun _ => hadv
    · exact h.2.imp fun _ _ h => ⟨h, fun i hi => absurd hi (Nat.not_lt_zero i)⟩
    · refine h.imp fun c st hf => ⟨hf.1.1, hf.1.2.below, fun b' hb' he => .inr ?_⟩
      obtain rfl := hf.1.2.only b' hb' he
      rw [Nat.zero_add] at hf
      exact hf.2

/-- **The slots of a list**, by induction on it. -/
theorem processSlots_sound (hJ : Stable J) (firstAvailable : Slot) (l : List Slot) :
    Prog.Sound (Kept o (Both J (Covers o l))) (processSlots firstAvailable l)
      (fun _ => Kept o J) (Kept o J) := by
  induction l with
  | nil =>
    refine Prog.Sound.bind (Q := fun _ => Kept o J) (Prog.Sound.get fun s h => h.left) fun r => ?_
    exact Prog.Sound.pure fun _ h => h
  | cons a rest ih =>
    refine Prog.Sound.bind (Q := fun r s => Kept o (Both J (Covers o (a :: rest))) s ∧ r = s)
      (Prog.Sound.get fun s h => ⟨h, rfl⟩) fun r => ?_
    refine Prog.Sound.ite (fun _ => Prog.Sound.pure fun s h => h.1.left) fun _ => ?_
    refine Prog.Sound.ite (fun _ => ?_) fun _ => Prog.Sound.ite (fun hle => ?_) fun _ => ?_
    · exact ((recordIncident_sound hJ).pre fun s h => h.1.left).bind fun _ =>
        Prog.Sound.pure fun s h => h
    · refine ih.pre ?_
      rintro s ⟨h, rfl⟩ ht
      have hs := h ht
      exact { hs with fact := ⟨hs.fact.1, hs.fact.2.skip hs.memory hle⟩ }
    · refine Prog.Sound.bind (Q := fun r => match r with
        | .error _ => Kept o J
        | .ok _ => Kept o (Both J (Covers o rest)))
        (((ingestDiscoveredSlot_sound hJ).pre fun s h => h.1).attempt fun _ _ h => h) fun r => ?_
      cases r with
      | error e => exact (recordIncident_sound hJ).bind fun _ => Prog.Sound.pure fun s h => h
      | ok _ => exact ih

theorem processSlotList_sound (hJ : Stable J) {head : Slot} :
    Prog.Sound (Kept o (Both J (Covers o l))) (processSlotList o l head)
      (fun _ => Kept o J) (Kept o J) := by
  unfold processSlotList
  have hJ' := hJ.both (Covers.stable (o := o) (l := l))
  refine Prog.Sound.bind (Q := fun _ => Kept o (Both J (Covers o l)))
    (Prog.Sound.get fun s h => h) fun s => ?_
  cases (if s.memory.cursor.historicalBackfill then none
    else pendingSlotsBeyondWindow o s.memory.cursor.lastContiguousSlot head l) with
  | some oldest =>
    exact ((recordIncident_sound hJ).pre fun _ h => h.left).bind fun _ =>
      Prog.Sound.pure fun _ h => h
  | none =>
    refine Prog.Sound.bind (Q := fun _ => Kept o (Both J (Covers o l)))
      (((getFirstAvailableBlock_sound (kept_grows hJ')).attempt fun _ _ h => h).errors
        fun _ h => h.left) fun r => ?_
    cases r with
    | error e =>
      exact ((recordIncident_sound hJ).pre fun _ h => h.left).bind fun _ =>
        Prog.Sound.pure fun _ h => h
    | ok firstAvailable => exact processSlots_sound hJ firstAvailable l

end Pieces

/-! ## §3. A steady discovery has no holes. -/

section Discoveries

variable {o : Options} {J : Chain → Store → Prop} {afterSlot : Option Slot} {s₀ s : Sys}
  {d : Discovery} {a : Slot}

/-- A slot that the chain has by now, below one that a program shows, is shown. -/
theorem Sights.steady {ds : List (List Sighting)} {slots : List Slot} {snaps : List Sighting}
    (hs : Sights s₀ ds o.followedPrograms afterSlot slots snaps s)
    (h : Steady o.followedPrograms snaps) {q q' : Sighting} (hq : q ∈ snaps) (hq' : q' ∈ snaps)
    {x : Slot} (hx : x ∈ s.chain.slotsOf q.1.programId) (hd : q.1.deploySlot ≤ x)
    (ha : a ∈ q'.2.slotsOf q'.1.programId) (hd' : q'.1.deploySlot ≤ a) (hle : x ≤ a) :
    ∃ r ∈ snaps, x ∈ r.2.slotsOf r.1.programId ∧ r.1.deploySlot ≤ x := by
  have htip : a ≤ q'.2.tip := by
    obtain ⟨r, hr, rfl⟩ := List.mem_map.mp ha
    exact Chain.rows_le_tip hr
  -- `q'` was asked on a chain that has the slot
  have hx' : x ∈ q'.2.slotsOf q.1.programId := by
    obtain ⟨r, hr, rfl⟩ := List.mem_map.mp hx
    exact List.mem_map_of_mem ((hs.between q' hq').2.rows_of_le hr (hle.trans htip))
  obtain ⟨i, hi, rfl⟩ := List.getElem_of_mem hq
  obtain ⟨j, hj, rfl⟩ := List.getElem_of_mem hq'
  rcases lt_trichotomy i j with hij | rfl | hij
  · exact List.pairwise_iff_getElem.mp (h hs.programs) i j hi hj hij x hx' hd a ha hd' hle
  · exact ⟨_, hq, hx', hd⟩
  · obtain ⟨r, hr, rfl⟩ := List.mem_map.mp hx'
    exact ⟨_, hq, List.mem_map_of_mem
      ((List.pairwise_iff_getElem.mp hs.inOrder j i hj hi hij).rows hr), hd⟩

/-- What the chain has of each program up to `a` is shown, or at or below the watermark. -/
theorem Sights.shows {ds : List (List Sighting)} {slots : List Slot} {snaps : List Sighting}
    (hs : Sights s₀ ds o.followedPrograms afterSlot slots snaps s)
    (hafter : ∀ last ∈ afterSlot, Upto o s.chain s.store last) (hbelow : a ≤ s.chain.tip)
    (hfull : ∀ q ∈ snaps, ∀ x ∈ s.chain.slotsOf q.1.programId, q.1.deploySlot ≤ x → x ≤ a →
      ∃ r ∈ snaps, x ∈ r.2.slotsOf r.1.programId ∧ r.1.deploySlot ≤ x) :
    Shows o slots a s.chain s.store where
  below := hbelow
  full b hb hf hle := by
    obtain ⟨p, hp, hcalls, hd⟩ := hf
    by_cases hpast : past afterSlot b.slot = true
    · left
      rw [← hs.programs] at hp
      obtain ⟨q, hq, rfl⟩ := List.mem_map.mp hp
      have hin := Chain.mem_slotsOf.mpr ⟨b, hb, rfl, hcalls⟩
      obtain ⟨r, hr, hx, hd⟩ := hfull q hq b.slot hin hd hle
      exact (hs.mem _).mpr ⟨r, hr, hx, hd, hpast⟩
    · right
      cases afterSlot with
      | none => exact absurd rfl hpast
      | some last =>
        have hlast : b.slot ≤ last := by simpa [past] using hpast
        exact (hafter last rfl).done b hb ⟨p, hp, hcalls, hd⟩ hlast

/-- Up to the head that was read before it, a discovery shows all there is. -/
theorem Discovered.shows_head (h : Discovered s₀ o.followedPrograms afterSlot d s)
    (hafter : ∀ last ∈ afterSlot, Upto o s.chain s.store last) (hhead : a ≤ s₀.chain.tip) :
    Shows o d.slots a s.chain s.store := by
  obtain ⟨snaps, hs⟩ := h.sights
  refine hs.shows hafter (hhead.trans hs.chain.1) fun q hq x hx hd hle => ?_
  obtain ⟨hstart, hend⟩ := hs.between q hq
  obtain ⟨r, hr, rfl⟩ := List.mem_map.mp hx
  have htip : r.slot ≤ q.2.tip := hle.trans (hhead.trans hstart.1)
  exact ⟨q, hq, List.mem_map_of_mem (hend.rows_of_le hr htip), hd⟩

/-- **A steady discovery has no holes** below its last slot. -/
theorem Discovered.covers (h : Discovered s₀ o.followedPrograms afterSlot d s)
    (ht : Trusted o s) (hafter : ∀ last ∈ afterSlot, Upto o s.chain s.store last) :
    Covers o d.slots s.chain s.store where
  sorted := h.sorted
  shows a ha := by
    obtain ⟨snaps, hs⟩ := h.sights
    obtain ⟨q', hq', ha, hd', -⟩ := (hs.mem a).mp ha
    have hbelow : a ≤ s.chain.tip := by
      obtain ⟨r, hr, rfl⟩ := List.mem_map.mp ha
      exact (Chain.rows_le_tip hr).trans (hs.between q' hq').2.1
    have hsteady := ht snaps (hs.asked ▸ List.mem_cons_self ..)
    exact hs.shows hafter hbelow fun q hq x hx hd hle =>
      hs.steady hsteady hq hq' hx hd ha hd' hle

/-- Nothing but the discovery itself is added to what is trusted. -/
theorem Trusted.before {ds : List Sighting} (h : Trusted o s) (ha : s.asked = ds :: s₀.asked) :
    Trusted o s₀ := fun snaps hin => h snaps (ha ▸ List.mem_cons_of_mem _ hin)

/-- A discovery that is left leaves what held. -/
theorem Kept.frame (h : Kept o J s₀) (hJ : Stable J) (hf : Frame s₀ s₀.asked s) : Kept o J s := by
  intro ht
  obtain ⟨hc, hs, hm, ds, ha⟩ := hf
  refine (h (ht.before ha)).grows hJ hc (hs ▸ .refl _) (by rw [hm]) fun cur hcur => ?_
  rw [hs] at hcur
  exact .inl hcur

/-- What a discovery adds to what held. -/
theorem Kept.discovered (h : Kept o J s₀) (hJ : Stable J) {head : Slot}
    (hhead : ∀ c st, J c st → head ≤ c.tip)
    (hafter : ∀ last ∈ afterSlot, last = s₀.memory.cursor.lastContiguousSlot)
    (hd : Discovered s₀ o.followedPrograms afterSlot d s) :
    Kept o (Both (Both J (Shows o d.slots head)) (Covers o d.slots)) s := by
  intro ht
  obtain ⟨snaps, hs⟩ := hd.sights
  have hbefore := h (ht.before hs.asked)
  have hkept := h.frame hJ hs.frame ht
  have hafter : ∀ last ∈ afterSlot, Upto o s.chain s.store last := by
    intro last hl
    rw [hafter last hl, ← congrArg (·.cursor.lastContiguousSlot) hs.memory]
    exact hkept.memory
  refine ⟨hkept.memory, hkept.stored, ⟨hkept.fact, ?_⟩, hd.covers ht hafter⟩
  exact hd.shows_head hafter (hhead _ _ hbefore.fact)

/-- What is kept once a discovery has been tried, whether or not it was complete. -/
def Tried {ε : Type} (o : Options) (J : Chain → Store → Prop) (head : Slot) :
    Except ε (Option Discovery) → Sys → Prop
  | .ok (some d) => Kept o (Both (Both J (Shows o d.slots head)) (Covers o d.slots))
  | _ => Kept o J

theorem discoverOrIncident_sound (hJ : Stable J) {head : Slot}
    (hhead : ∀ c st, J c st → head ≤ c.tip) : Prog.Sound
      (fun s => Kept o J s ∧ ∀ last ∈ afterSlot, last = s.memory.cursor.lastContiguousSlot)
      (discoverOrIncident o afterSlot)
      (fun r => match r with
        | none => Kept o J
        | some d => Kept o (Both (Both J (Shows o d.slots head)) (Covers o d.slots)))
      (Kept o J) := by
  unfold discoverOrIncident
  refine Prog.Sound.each fun s₀ ⟨h₀, hafter⟩ => ?_
  refine Prog.Sound.bind (Q := Tried o J head) (Prog.Sound.attempt ?_ fun _ _ h => h) fun r => ?_
  · have hdisc : Prog.Sound (fun s => s = s₀) (discoverIngestSlots o.followedPrograms afterSlot)
        _ _ := discover_sound o.followedPrograms
    refine (hdisc.errors fun s h => h₀.frame hJ h).post fun r s h => ?_
    cases r with
    | none => exact h₀.frame hJ h
    | some d => exact h₀.discovered hJ hhead hafter h
  · rcases r with e | _ | d
    · exact (recordIncident_sound hJ).bind fun _ => Prog.Sound.pure fun _ h => h
    · exact (recordIncident_sound hJ).bind fun _ => Prog.Sound.pure fun _ h => h
    · exact Prog.Sound.pure fun _ h => h

theorem discoverAll_sound (hJ : Stable J) {head : Slot} (hhead : ∀ c st, J c st → head ≤ c.tip) :
    Prog.Sound (Kept o J) (discoverAll o)
      (fun r => match r with
        | none => Kept o J
        | some d => Kept o (Both (Both J (Shows o d.slots head)) (Covers o d.slots)))
      (Kept o J) := by
  unfold discoverAll
  refine ((discoverOrIncident_sound hJ hhead).pre fun s h => ⟨h, by simp⟩).bind fun r => ?_
  cases r with
  | none => exact Prog.Sound.pure fun _ h => h
  | some d =>
    refine Prog.Sound.bind (Q := fun _ =>
      Kept o (Both (Both J (Shows o d.slots head)) (Covers o d.slots)))
      (Prog.Sound.get fun _ h => h) fun s => ?_
    refine Prog.Sound.ite (fun _ => ?_) fun _ => Prog.Sound.pure fun _ h => h
    exact ((recordIncident_sound hJ).pre fun _ h => h.left.left).bind fun _ =>
      Prog.Sound.pure fun _ h => h

theorem unprocessed_sound {E : Sys → Prop} :
    Prog.Sound (Kept o (Both J (Covers o d.slots))) (unprocessed d)
      (fun l => Kept o (Both J (Covers o l))) E := by
  unfold unprocessed
  refine Prog.Sound.bind (Q := fun r s => Kept o (Both J (Covers o d.slots)) s ∧ r = s)
    (Prog.Sound.get fun s h => ⟨h, rfl⟩) fun r => Prog.Sound.pure ?_
  rintro s ⟨h, rfl⟩ ht
  have hs := h ht
  exact { hs with fact := ⟨hs.fact.1, hs.fact.2.above hs.memory⟩ }

end Discoveries

/-! ## §4. The service. -/

section Rounds

variable {o : Options} {J : Chain → Store → Prop} {head : Slot}

theorem processExtras_sound (hJ : Stable J) (hhead : ∀ c st, J c st → head ≤ c.tip)
    {extras : List Slot} :
    Prog.Sound (Kept o (Both J (Covers o extras))) (processExtras o head extras)
      (fun _ => Kept o J) (Kept o J) := by
  unfold processExtras
  refine Prog.Sound.ite (fun _ => Prog.Sound.pure fun _ h => h.left) fun _ => ?_
  refine (processSlotList_sound hJ).bind fun ok => ?_
  refine Prog.Sound.ite (fun _ => ?_) fun _ => Prog.Sound.pure fun _ h => h
  refine (discoverAll_sound hJ hhead).bind fun r => ?_
  cases r with
  | none => exact Prog.Sound.pure fun _ h => h
  | some again =>
    refine Prog.Sound.bind (unprocessed_sound (J := Both J (Shows o again.slots head)))
      fun still => ?_
    cases still with
    | nil => exact Prog.Sound.pure fun _ h => h.left.left
    | cons slot rest =>
      exact ((recordIncident_sound hJ).pre fun _ h => h.left.left).bind fun _ =>
        Prog.Sound.pure fun _ h => h

theorem startupRetained_sound (hJ : Stable J) :
    Prog.Sound (Kept o J) (startupRetained o head) (fun _ => Kept o J) (Kept o J) := by
  unfold startupRetained
  refine Prog.Sound.bind (Q := fun _ => Kept o J)
    ((getFirstAvailableBlock_sound (kept_grows hJ)).attempt fun _ _ h => h) fun r => ?_
  cases r with
  | error e => exact (recordIncident_sound hJ).bind fun _ => Prog.Sound.pure fun _ h => h
  | ok firstAvailable =>
    refine Prog.Sound.ite (fun _ => ?_) fun _ => Prog.Sound.pure fun _ h => h
    exact (recordIncident_sound hJ).bind fun _ => Prog.Sound.throw fun _ h => h

/-- The bootstrap that found nothing moves to the head that was read first. -/
theorem completeCatchUp_sound (hJ : Stable J) {nothing : Bool}
    (hnothing : nothing = true → ∀ c st, J c st → Shows o [] head c st) :
    Prog.Sound (Kept o J) (completeCatchUp o head nothing) (fun _ => Kept o J) (Kept o J) := by
  unfold completeCatchUp
  refine Prog.Sound.bind (Q := fun _ => Kept o J) (Prog.Sound.modify fun s h ht => ?_) fun _ =>
    persistCursor_sound hJ
  have hs := h ht
  by_cases hb : s.memory.cursor.historicalBackfill = true
  · have hlast := hs.memory.max (Upto.bootstrap (Int.sub_one_lt_of_le (le_refl o.startSlot)))
    refine { hs with memory := ?_ }
    simp only [hb, if_true]
    by_cases hn : nothing = true
    · have hshows := hnothing hn _ _ hs.fact
      rw [if_pos hn]
      exact hlast.max (hs.memory.move hshows.below fun b hb hf _ hle =>
        (hshows.full b hb hf hle).resolve_left List.not_mem_nil)
    · rw [if_neg hn]
      exact hlast
  · refine { hs with memory := ?_ }
    simp only [hb]
    exact hs.memory

/-- At or below the tip. -/
def AtMostTip (a : Slot) (c : Chain) (_ : Store) : Prop := a ≤ c.tip

theorem AtMostTip.stable {a : Slot} : Stable (AtMostTip a) := fun _ _ _ _ hc _ h => h.trans hc.1

theorem head_sound (hJ : Stable J) : Prog.Sound (Kept o J) (Prog.attempt classified getSlot)
    (fun r => match r with
      | .error _ => Kept o J
      | .ok head => Kept o (Both J (AtMostTip head))) (Kept o J) := by
  refine Prog.Sound.attempt ((getSlot_sound (kept_grows hJ)).post fun head s h ht => ?_)
    fun _ _ h => h
  have hs := h.1 ht
  exact { hs with fact := ⟨hs.fact, h.2.le⟩ }

theorem catchUpToHead_sound (hJ : Stable J) :
    Prog.Sound (Kept o J) (catchUpToHead o) (fun _ => Kept o J) (Kept o J) := by
  unfold catchUpToHead
  refine (setHalted_sound hJ).bind fun _ => ?_
  refine (setCursor_sound hJ (f := fun c => { c with
    catchupIncident := c.catchupIncident.filter fun i =>
      i ≠ .startupRetentionUnavailable ∧ isRetriableCatchupIncident i = false })
    fun _ => rfl).bind fun _ => (head_sound hJ).bind fun r => ?_
  cases r with
  | error e => exact recordIncident_sound hJ
  | ok head =>
    -- the head stays at or below the tip for the rest of the catch-up
    have hJh := hJ.both (AtMostTip.stable (a := head))
    have hhead : ∀ c st, Both J (AtMostTip head) c st → head ≤ c.tip := fun _ _ h => h.2
    refine ((startupRetained_sound hJh).errors fun _ h => h.left).bind fun retained => ?_
    refine Prog.Sound.ite (fun _ => ?_) fun _ => Prog.Sound.pure fun _ h => h.left
    refine ((discoverAll_sound hJh hhead).errors fun _ h => h.left).bind fun r => ?_
    cases r with
    | none => exact Prog.Sound.pure fun _ h => h.left
    | some primary =>
      have hJp := hJh.both (Shows.stable (o := o) (l := primary.slots) (a := head))
      refine ((processSlotList_sound hJp).errors fun _ h => h.left.left).bind fun ok => ?_
      refine Prog.Sound.ite (fun _ => ?_) fun _ => Prog.Sound.pure fun _ h => h.left.left
      refine ((discoverAll_sound hJp fun c st h => hhead c st h.1).errors
        fun _ h => h.left.left).bind fun r => ?_
      cases r with
      | none => exact Prog.Sound.pure fun _ h => h.left.left
      | some verify =>
        refine Prog.Sound.bind (unprocessed_sound (J := Both (Both (Both J (AtMostTip head))
          (Shows o primary.slots head)) (Shows o verify.slots head))) fun extras => ?_
        refine ((processExtras_sound hJp fun c st h => hhead c st h.1).imp
          (fun _ h => h.imp fun _ _ h => ⟨h.1.1, h.2⟩) fun _ _ h => h).errors
          (fun _ h => h.left.left) |>.bind fun ok => ?_
        refine Prog.Sound.ite (fun _ => ?_) fun _ => Prog.Sound.pure fun _ h => h.left.left
        refine ((completeCatchUp_sound hJp fun hn c st h => ?_).errors
          fun _ h => h.left.left).post fun _ _ h => h.left.left
        have hnil : primary.slots = [] := (of_decide_eq_true hn).1
        exact hnil ▸ h.2

theorem clearRetriableIncident_sound (hJ : Stable J) :
    Prog.Sound (Kept o J) clearRetriableIncident (fun _ => Kept o J) (Kept o J) := by
  unfold clearRetriableIncident
  refine Prog.Sound.bind (Q := fun _ => Kept o J) (Prog.Sound.get fun _ h => h) fun s => ?_
  refine Prog.Sound.ite (fun _ => ?_) fun _ => Prog.Sound.pure fun _ h => h
  exact (setCursor_sound hJ (f := fun c => { c with catchupIncident := none })
    fun _ => rfl).bind fun _ => persistCursor_sound hJ

theorem followOnce_sound (hJ : Stable J) :
    Prog.Sound (Kept o J) (followOnce o) (fun _ => Kept o J) (Kept o J) := by
  unfold followOnce
  refine Prog.Sound.bind (Q := fun _ => Kept o J) (Prog.Sound.get fun _ h => h) fun s => ?_
  refine Prog.Sound.ite (fun _ => Prog.Sound.pure fun _ h => h) fun _ =>
    (head_sound hJ).bind fun r => ?_
  cases r with
  | error e => exact recordIncident_sound hJ
  | ok head =>
    have hJh := hJ.both (AtMostTip.stable (a := head))
    refine Prog.Sound.bind (Q := fun r s => Kept o (Both J (AtMostTip head)) s ∧ r = s)
      (Prog.Sound.get fun s h => ⟨h, rfl⟩) fun r => ?_
    refine (((discoverOrIncident_sound hJh fun _ _ h => h.2).pre fun s h => ⟨h.1, fun last hl => ?_⟩
      ).errors fun _ h => h.left).bind fun d => ?_
    · obtain rfl : r.memory.cursor.lastContiguousSlot = last := by simpa using hl
      rw [h.2]
    cases d with
    | none => exact Prog.Sound.pure fun _ h => h.left
    | some d =>
      have hJd := (hJh.both (Shows.stable (o := o) (l := d.slots) (a := head)))
      refine ((clearRetriableIncident_sound (hJd.both Covers.stable)).errors
        fun _ h => h.left.left.left).bind fun _ => ?_
      refine Prog.Sound.bind (unprocessed_sound (J := Both (Both J (AtMostTip head))
        (Shows o d.slots head))) fun pending => ?_
      refine ((processSlotList_sound hJd).errors fun _ h => h.left.left).bind fun _ =>
        Prog.Sound.pure fun _ h => h.left.left

theorem initCursor_sound (hJ : Stable J) :
    Prog.Sound (Kept o J) initCursor (fun _ => Kept o J) (Kept o J) := by
  unfold initCursor
  refine (call_sound (kept_grows hJ)).bind fun _ => ?_
  refine Prog.Sound.bind (Q := fun r s => Kept o J s ∧ r = s) (Prog.Sound.get fun s h => ⟨h, rfl⟩)
    fun r => ?_
  cases hc : r.store.cursor with
  | none => exact (persistCursor_sound hJ).pre fun _ h => h.1
  | some existing =>
    refine Prog.Sound.bind (Q := fun _ => Kept o J) (Prog.Sound.modify ?_) fun _ => ?_
    · rintro s ⟨h, rfl⟩ ht
      have hs := h ht
      exact { hs with memory := hs.stored existing hc }
    · cases existing.catchupIncident with
      | none => exact Prog.Sound.pure fun _ h => h
      | some incident =>
        exact Prog.Sound.ite (fun _ => setHalted_sound hJ) fun _ => Prog.Sound.pure fun _ h => h

end Rounds

/-- What is true of the service between two actions. -/
structure Service.Sound (o : Options) (s : Service) : Prop where
  stored : ∀ cur ∈ s.store.cursor, Upto o s.chain s.store cur.lastContiguousSlot
  memory : ∀ m ∈ s.process, Upto o s.chain s.store m.cursor.lastContiguousSlot

def Anything (_ : Chain) (_ : Store) : Prop := True

theorem Anything.stable : Stable Anything := fun _ _ _ _ _ _ _ => trivial

section Service

variable {o : Options} {s s' s₀ : Service} {a : Action} {as : List Action}

theorem main_sound : Prog.Sound (Kept o Anything) (main o) (fun _ => Kept o Anything)
    (Kept o Anything) :=
  (initCursor_sound Anything.stable).bind fun _ => catchUpToHead_sound Anything.stable

theorem poll_sound : Prog.Sound (Kept o Anything) (poll o) (fun _ => Kept o Anything)
    (Kept o Anything) := by
  unfold poll
  refine Prog.Sound.bind (Q := fun _ => Kept o Anything) (Prog.Sound.get fun _ h => h) fun s => ?_
  exact Prog.Sound.ite (fun _ => catchUpToHead_sound Anything.stable) fun _ =>
    followOnce_sound Anything.stable

/-- What work leaves, whatever it ends with. -/
theorem Service.sound_of {keeps : Bool} {x : Work Unit} {t : Sys}
    (hx : Prog.Sound (Kept o Anything) x (fun _ => Kept o Anything) (Kept o Anything))
    (ht : Kept o Anything t)
    (hsteady : ∀ snaps ∈ (Service.of keeps (x t)).asked, Steady o.followedPrograms snaps) :
    (Service.of keeps (x t)).Sound o := by
  have h := hx t ht
  rcases hr : x t with ⟨r, t'⟩
  rw [hr] at h hsteady
  have hkept : Holds o Anything t' := by
    cases r with
    | ok _ => exact h hsteady
    | error _ => exact h hsteady
  refine ⟨hkept.stored, fun m hm => ?_⟩
  have hmem : m = t'.memory := by
    rcases r with (f | _) | _
    · cases keeps with
      | false => simp [Service.of] at hm
      | true => simpa [Service.of] using hm.symm
    · simp [Service.of] at hm
    · simpa [Service.of] using hm.symm
  exact hmem ▸ hkept.memory

/-- **One action**, if its discoveries are steady. -/
theorem Service.Sound.step (h : s.Sound o) (hstep : step o s a = .ok s')
    (hsteady : ∀ snaps ∈ s'.asked, Steady o.followedPrograms snaps) : s'.Sound o := by
  cases a with
  | appear blocks =>
    obtain rfl := Except.ok.inj hstep
    have hgrown := Chain.extends_grow s.chain blocks
    exact ⟨fun cur hc => (h.stored cur hc).grows hgrown (.refl _),
      fun m hm => (h.memory m hm).grows hgrown (.refl _)⟩
  | start ticks =>
    obtain rfl := Except.ok.inj hstep
    exact Service.sound_of main_sound
      (fun _ => ⟨.bootstrap (Int.sub_one_lt_of_le (le_refl o.startSlot)), h.stored, trivial⟩)
      hsteady
  | round ticks =>
    cases hp : s.process with
    | none => simp [Ingest.step, hp] at hstep
    | some m =>
      simp only [Ingest.step, hp] at hstep
      obtain rfl := Except.ok.inj hstep
      exact Service.sound_of poll_sound (fun _ => ⟨h.memory m hp, h.stored, trivial⟩) hsteady

/-- Every discovery of the action is steady. -/
def steadyStep (o : Options) (s : Service) (a : Action) : Prop :=
  ∀ s', step o s a = .ok s' → ∀ snaps ∈ s'.asked, Steady o.followedPrograms snaps

instance : Decidable (steadyStep o s a) :=
  match h : step o s a with
  | .error _ => isTrue fun _ h' => nomatch h.symm.trans h'
  | .ok t => decidable_of_iff (∀ snaps ∈ t.asked, Steady o.followedPrograms snaps)
      ⟨fun ht _ h' => Except.ok.inj (h.symm.trans h') ▸ ht, fun ht => ht t h⟩

/-- Nothing has been ingested. -/
def Service.fresh (c : Chain) : Service := ⟨c, ⟨[], [], none⟩, none, []⟩

/-- Every slot at or below the stored watermark with a transaction of a followed program, from
    its deployment on, is ingested or refused. -/
def NothingLost (o : Options) (s : Service) : Prop :=
  ∀ cur ∈ s.store.cursor, ∀ b ∈ s.chain.blocks, Followed o b →
    b.slot ≤ cur.lastContiguousSlot → Done s.store b

/-- **No slot is lost** in a run whose discoveries are steady, whatever appears between two
    calls, whichever calls fail and whenever the process is started or dies. -/
theorem no_slot_lost (o : Options) (c : Chain) (as : List Action)
    (hr : run (step o) (.fresh c) as = .ok s)
    (hsteady : Along (step o) (steadyStep o) (.fresh c) as) : NothingLost o s := by
  have hinit : (Service.fresh c).Sound o := ⟨by simp [Service.fresh], by simp [Service.fresh]⟩
  have hs := run_invariant_along (fun s a s' h hok hstep => h.step hstep (hok s' hstep))
    hinit hsteady hr
  exact fun cur hc => (hs.stored cur hc).done

end Service

def twoPrograms : Options := ⟨5, 1000, [⟨1, 5⟩, ⟨2, 5⟩], by decide⟩

def emptyChain : Chain := ⟨4, [], .nil, by simp⟩

/-- A quiet start, and a round in which both slots appear after `n` calls. -/
def twoSlots (n : ℕ) : List Action := [
  .start (List.replicate 20 .quiet),
  .round (List.replicate n .quiet ++ { Tick.quiet with grown := [⟨10, [[1]]⟩, ⟨20, [[2]]⟩] } ::
    List.replicate 8 .quiet)]

/-- The slots appear before the first program is asked. -/
theorem no_slot_lost_early :
    NothingLost twoPrograms (finalState (step twoPrograms) (.fresh emptyChain) (twoSlots 1)) :=
  no_slot_lost twoPrograms emptyChain (twoSlots 1) (run_finalState (by decide +kernel))
    (by decide +kernel)

/-- **A slot is lost.**  Slot 10 appears for the first program after it was asked, and slot 20
    for the second before it is: the watermark passes 10. -/
theorem slot_lost : ∃ s, run (step twoPrograms) (.fresh emptyChain) (twoSlots 2) = .ok s ∧
    ¬ NothingLost twoPrograms s := by
  refine ⟨_, run_finalState (by decide +kernel), fun hnone => ?_⟩
  have hdone := hnone ⟨20, false, none⟩ (by decide +kernel) ⟨10, [[1]]⟩ (by decide +kernel)
    ⟨⟨1, 5⟩, by decide, ⟨[1], by decide, by decide⟩, by decide⟩ (by decide)
  rcases hdone with h | h
  · revert h
    decide +kernel
  · exact absurd (h 0 (by decide)) (by decide +kernel)

end Kargain.Ingest
