/-
  Kargain.Ingest.SlotDiscovery — which slots the ingest has to fetch.

  ingest-slot-discovery.ts asks for the signatures of one followed program
  after the other, newest first and page by page, and returns the slots it
  saw.  The chain grows in between: every call the ingest makes is one
  `Tick`, which says what appears before the call is answered and whether
  the call fails.  `Sys` is the chain, the store of raw rows, the memory
  of the process and the ticks to come; a process with no tick left dies.

  `asked` is no part of the code: it notes, discovery by discovery, on
  which chain the first page of a program was answered.

  Main result: `discover_sound`, what a discovery returns is what those
  chains show.
-/
import Mathlib
import Kargain.Base.Programs

namespace Kargain.Ingest

/-! ## §1. The confirmed chain. -/

abbrev Slot := ℤ

abbrev ProgramId := ℕ

/-- A signature names a transaction, and so does its place. -/
structure Signature where
  slot : Slot
  index : ℕ
  deriving Repr, DecidableEq

/-- A block, with the programs each of its transactions calls. -/
structure Block where
  slot : Slot
  transactions : List (List ProgramId)
  deriving Repr, DecidableEq

/-- The blocks of the chain, newest first. -/
structure Chain where
  tip : Slot
  blocks : List Block
  sorted : blocks.Pairwise fun b b' => b'.slot < b.slot
  below : ∀ b ∈ blocks, b.slot ≤ tip

namespace Chain

/-- A block appears at the tip, or not at all. -/
def extend (c : Chain) (b : Block) : Chain :=
  if h : c.tip < b.slot then
    { tip := b.slot
      blocks := b :: c.blocks
      sorted := List.pairwise_cons.mpr
        ⟨fun b' hb' => lt_of_le_of_lt (c.below b' hb') h, c.sorted⟩
      below := by
        intro b' hb'
        rcases List.mem_cons.mp hb' with rfl | hb'
        · exact le_refl _
        · exact le_of_lt (lt_of_le_of_lt (c.below b' hb') h) }
  else c

def grow (c : Chain) (bs : List Block) : Chain := bs.foldl extend c

end Chain

/-- The transactions of a block that call `p`, newest first. -/
def Block.rows (p : ProgramId) (b : Block) : List Signature :=
  ((b.transactions.zipIdx.filter fun x => p ∈ x.1).map fun x => ⟨b.slot, x.2⟩).reverse

def Block.Calls (b : Block) (p : ProgramId) : Prop := ∃ x ∈ b.transactions, p ∈ x

/-- The transactions that call `p`, newest first. -/
def Chain.rows (c : Chain) (p : ProgramId) : List Signature := c.blocks.flatMap (Block.rows p)

/-- Before in the chain. -/
def Signature.Older (r r' : Signature) : Prop :=
  r.slot < r'.slot ∨ r.slot = r'.slot ∧ r.index < r'.index

instance (r r' : Signature) : Decidable (r.Older r') := inferInstanceAs (Decidable (_ ∨ _))

theorem Signature.Older.slot_le {r r' : Signature} (h : r.Older r') : r.slot ≤ r'.slot := by
  rcases h with h | ⟨h, -⟩
  · exact h.le
  · exact h.le

/-! ## §2. The calls of the ingest. -/

inductive Failure where
  | budgetExhausted
  | unreachable
  | other
  deriving Repr, DecidableEq

/-- How a piece of work ends early: a failed call, or the end of the process. -/
inductive Stop where
  | failed (f : Failure)
  | died
  deriving Repr, DecidableEq

/-- One call: what appears before it is answered, whether it fails, and what the node says of
    its oldest block and of a block that is asked for. -/
structure Tick where
  grown : List Block
  failure : Option Failure
  firstAvailableBlock : Slot
  blockMissing : Bool

def Tick.quiet : Tick := ⟨[], none, 0, false⟩

inductive CatchupIncident where
  | catchupWindowExceeded
  | sequenceGap
  | startupRetentionUnavailable
  | discoveryIncomplete
  | bootstrapRangeNotEnumerated
  | rpcBudgetExhausted
  | rpcUnreachable
  deriving Repr, DecidableEq

/-- The row of the cursor table, and the fields of `IngestLoopState` it is written from. -/
structure Cursor where
  lastContiguousSlot : Slot
  historicalBackfill : Bool
  catchupIncident : Option CatchupIncident
  deriving Repr, DecidableEq

/-- The raw store: the transactions written, the slots refused by name and the cursor. -/
structure Store where
  written : List Signature
  refused : List Slot
  cursor : Option Cursor
  deriving Repr, DecidableEq

structure Memory where
  cursor : Cursor
  halted : Bool
  deriving Repr, DecidableEq

structure FollowedProgram where
  programId : ProgramId
  deploySlot : Slot
  deriving Repr, DecidableEq

/-- A program was asked for, and the chain its first page was answered from. -/
abbrev Sighting := FollowedProgram × Chain

structure Sys where
  ticks : List Tick
  chain : Chain
  asked : List (List Sighting)
  store : Store
  memory : Memory

abbrev Work := Prog Sys Stop

/-- Make a call. -/
def call : Work Tick := fun s =>
  match s.ticks with
  | [] => (.error .died, s)
  | t :: ts =>
    let s := { s with ticks := ts, chain := s.chain.grow t.grown }
    match t.failure with
    | none => (.ok t, s)
    | some f => (.error (.failed f), s)

def pageLimit : ℕ := 1000

/-- The rows of `p`, older than `before` where that is given. -/
def rowsBefore (c : Chain) (p : ProgramId) : Option Signature → List Signature
  | none => c.rows p
  | some r => (c.rows p).filter fun r' => r'.Older r

def getSlot : Work Slot := do
  let _ ← call
  let s ← Prog.get
  pure s.chain.tip

def getFirstAvailableBlock : Work Slot := do
  let t ← call
  pure t.firstAvailableBlock

def getSignaturesForAddress (p : ProgramId) (before : Option Signature) :
    Work (List Signature) := do
  let _ ← call
  let s ← Prog.get
  pure ((rowsBefore s.chain p before).take pageLimit)

/-- The block of a slot, unless the node misses it. -/
def getBlock (slot : Slot) : Work (Option Block) := do
  let t ← call
  let s ← Prog.get
  pure (if t.blockMissing then none else s.chain.blocks.find? fun b => b.slot = slot)

/-! ## §3. Discovery. -/

def Stop.isOther : Stop → Bool
  | .failed .other => true
  | _ => false

/-- Is `slot` past the watermark, if there is one? -/
def past (afterSlot : Option Slot) (slot : Slot) : Bool :=
  match afterSlot with
  | none => true
  | some a => a < slot

/-- Note that the first page of `p` was answered. -/
def noteAsked (p : FollowedProgram) (before : Option Signature) : Work Unit :=
  Prog.modify fun s =>
    match before, s.asked with
    | none, d :: ds => { s with asked := (d ++ [(p, s.chain)]) :: ds }
    | _, _ => s

/-- The slots of a page that are added to the set. -/
def pageSlots (p : FollowedProgram) (afterSlot : Option Slot) (page : List Signature) :
    List Slot :=
  (page.filter fun r => ¬ r.slot < p.deploySlot ∧ past afterSlot r.slot).map (·.slot)

/-- The `while` of one program.  Every round takes a tick, so `fuel` never runs out before the
    ticks do. -/
def pageProgram (p : FollowedProgram) (afterSlot : Option Slot) :
    ℕ → Option Signature → List Slot → Bool → Work (Option (List Slot × Bool))
  | 0, _, _, _ => Prog.throw .died
  | fuel + 1, before, slotSet, reached => do
    let r ← Prog.attempt Stop.isOther (getSignaturesForAddress p.programId before)
    match r with
    | .error _ => pure none
    | .ok page => do
      noteAsked p before
      match page.getLast? with
      | none => pure (some (slotSet, true))
      | some oldest =>
        let slotSet := slotSet ++ pageSlots p afterSlot page
        let reached := reached || page.any fun r => r.slot < p.deploySlot
        if oldest.slot < p.deploySlot ∨ page.length < pageLimit then pure (some (slotSet, true))
        else if afterSlot ≠ none ∧ past afterSlot oldest.slot = false then
          pure (some (slotSet, reached))
        else pageProgram p afterSlot fuel (some oldest) slotSet reached

structure Discovery where
  slots : List Slot
  reachedEveryProgramFloor : Bool
  deriving Repr, DecidableEq

/-- The programs one after another; `none` is an incomplete pagination. -/
def discoverPrograms (afterSlot : Option Slot) :
    List FollowedProgram → List Slot → Bool → Work (Option Discovery)
  | [], slotSet, floors =>
    pure (some ⟨slotSet.dedup.insertionSort (· ≤ ·), floors⟩)
  | p :: ps, slotSet, floors => do
    let s ← Prog.get
    let r ← pageProgram p afterSlot (s.ticks.length + 1) none slotSet false
    match r with
    | none => pure none
    | some (slotSet, reached) => discoverPrograms afterSlot ps slotSet (floors && reached)

def discoverIngestSlots (programs : List FollowedProgram) (afterSlot : Option Slot) :
    Work (Option Discovery) := do
  Prog.modify fun s => { s with asked := [] :: s.asked }
  discoverPrograms afterSlot programs [] true

/-! ## §4. The chain under growth. -/

/-- `d` is `c` with blocks on top. -/
def Chain.Extends (c d : Chain) : Prop :=
  c.tip ≤ d.tip ∧ ∃ new, d.blocks = new ++ c.blocks ∧ ∀ b ∈ new, c.tip < b.slot

namespace Chain

variable {c d e : Chain} {p : ProgramId} {r r' : Signature} {b : Block}

theorem Extends.refl (c : Chain) : c.Extends c := ⟨le_refl _, [], rfl, by simp⟩

theorem Extends.trans (h : c.Extends d) (k : d.Extends e) : c.Extends e := by
  obtain ⟨ht, new, hb, hnew⟩ := h
  obtain ⟨ht', new', hb', hnew'⟩ := k
  refine ⟨ht.trans ht', new' ++ new, by rw [hb', hb, List.append_assoc], fun b hm => ?_⟩
  rcases List.mem_append.mp hm with hm | hm
  · exact lt_of_le_of_lt ht (hnew' b hm)
  · exact hnew b hm

theorem extends_extend (c : Chain) (b : Block) : c.Extends (c.extend b) := by
  unfold extend
  split
  · rename_i h
    exact ⟨le_of_lt h, [b], rfl, by simpa using h⟩
  · exact .refl c

theorem extends_grow (c : Chain) (bs : List Block) : c.Extends (c.grow bs) := by
  induction bs generalizing c with
  | nil => exact .refl c
  | cons b bs ih => exact (extends_extend c b).trans (ih (c.extend b))

/-- A block that was there stays; a block that is new is above the tip. -/
theorem Extends.mem (h : c.Extends d) (hb : b ∈ c.blocks) : b ∈ d.blocks := by
  obtain ⟨-, new, hd, -⟩ := h
  rw [hd]
  exact List.mem_append_right _ hb

theorem Extends.mem_of_le (h : c.Extends d) (hb : b ∈ d.blocks) (hle : b.slot ≤ c.tip) :
    b ∈ c.blocks := by
  obtain ⟨-, new, hd, hnew⟩ := h
  rw [hd] at hb
  rcases List.mem_append.mp hb with hb | hb
  · exact absurd (hnew b hb) (not_lt.mpr hle)
  · exact hb

theorem mem_rows : r ∈ c.rows p ↔ ∃ b ∈ c.blocks, r ∈ b.rows p := List.mem_flatMap

theorem slot_of_mem_blockRows (h : r ∈ b.rows p) : r.slot = b.slot := by
  simp only [Block.rows, List.mem_reverse, List.mem_map] at h
  obtain ⟨x, -, rfl⟩ := h
  rfl

theorem rows_le_tip (h : r ∈ c.rows p) : r.slot ≤ c.tip := by
  obtain ⟨b, hb, hr⟩ := mem_rows.mp h
  rw [slot_of_mem_blockRows hr]
  exact c.below b hb

theorem Extends.rows (h : c.Extends d) (hr : r ∈ c.rows p) : r ∈ d.rows p := by
  obtain ⟨b, hb, hr⟩ := mem_rows.mp hr
  exact mem_rows.mpr ⟨b, h.mem hb, hr⟩

theorem Extends.rows_of_le (h : c.Extends d) (hr : r ∈ d.rows p) (hle : r.slot ≤ c.tip) :
    r ∈ c.rows p := by
  obtain ⟨b, hb, hr⟩ := mem_rows.mp hr
  rw [slot_of_mem_blockRows hr] at hle
  exact mem_rows.mpr ⟨b, h.mem_of_le hb hle, hr⟩

/-- The slots in which `p` is called. -/
def slotsOf (c : Chain) (p : ProgramId) : List Slot := (c.rows p).map (·.slot)

theorem mem_slotsOf {a : Slot} : a ∈ c.slotsOf p ↔ ∃ b ∈ c.blocks, b.slot = a ∧ b.Calls p := by
  simp only [slotsOf, List.mem_map, mem_rows]
  constructor
  · rintro ⟨r, ⟨b, hb, hr⟩, rfl⟩
    refine ⟨b, hb, (slot_of_mem_blockRows hr).symm, ?_⟩
    simp only [Block.rows, List.mem_reverse, List.mem_map, List.mem_filter,
      decide_eq_true_eq] at hr
    obtain ⟨x, ⟨hx, hp⟩, -⟩ := hr
    exact ⟨x.1, List.mem_of_getElem? (List.mk_mem_zipIdx_iff_getElem?.mp hx), hp⟩
  · rintro ⟨b, hb, rfl, l, hl, hp⟩
    obtain ⟨i, hi⟩ := List.mem_iff_getElem?.mp hl
    refine ⟨⟨b.slot, i⟩, ⟨b, hb, ?_⟩, rfl⟩
    simp only [Block.rows, List.mem_reverse, List.mem_map, List.mem_filter, decide_eq_true_eq]
    exact ⟨(l, i), ⟨List.mk_mem_zipIdx_iff_getElem?.mpr hi, hp⟩, rfl⟩

end Chain

/-! ### Rows are sorted -/

theorem zipIdx_sorted {α : Type} (l : List α) (n : ℕ) :
    (l.zipIdx n).Pairwise fun x y => x.2 < y.2 := by
  induction l generalizing n with
  | nil => exact .nil
  | cons a l ih =>
    rw [List.zipIdx_cons, List.pairwise_cons]
    refine ⟨fun y hy => ?_, ih (n + 1)⟩
    have := List.le_snd_of_mem_zipIdx hy
    omega

theorem Block.rows_sorted (b : Block) (p : ProgramId) :
    (b.rows p).Pairwise fun r r' => r'.Older r := by
  rw [Block.rows, List.pairwise_reverse, List.pairwise_map]
  exact ((zipIdx_sorted b.transactions 0).filter _).imp fun h => .inr ⟨rfl, h⟩

theorem Chain.rows_sorted (c : Chain) (p : ProgramId) :
    (c.rows p).Pairwise fun r r' => r'.Older r := by
  rw [Chain.rows, List.pairwise_flatMap]
  refine ⟨fun b _ => b.rows_sorted p, c.sorted.imp fun h r hr r' hr' => .inl ?_⟩
  rw [slot_of_mem_blockRows hr, slot_of_mem_blockRows hr']
  exact h

/-! ## §5. One program. -/

section Page

variable {c d : Chain} {p : ProgramId} {before : Option Signature} {r oldest : Signature}

theorem rowsBefore_sorted : (rowsBefore d p before).Pairwise fun r r' => r'.Older r := by
  cases before with
  | none => exact d.rows_sorted p
  | some r => exact (d.rows_sorted p).filter _

/-- What is not on a page is older than its last row. -/
theorem older_of_not_mem_take {l : List Signature} {n : ℕ}
    (hl : l.Pairwise fun r r' => r'.Older r) (ho : (l.take n).getLast? = some oldest)
    (hr : r ∈ l) : r ∈ l.take n ∨ r.Older oldest := by
  rw [← List.take_append_drop n l] at hl hr
  rcases List.mem_append.mp hr with hr | hr
  · exact .inl hr
  · exact .inr ((List.pairwise_append.mp hl).2.2 oldest (List.mem_of_getLast? ho) r hr)

end Page

/-- What `p` shows on the chain `c`: slots from its deployment on and past the watermark. -/
def SeenBy (afterSlot : Option Slot) (p : FollowedProgram) (c : Chain) (a : Slot) : Prop :=
  a ∈ c.slotsOf p.programId ∧ p.deploySlot ≤ a ∧ past afterSlot a = true

/-- The pages of `p` so far, all of rows of `c`: what they do not show is older than `before`. -/
structure Paging (afterSlot : Option Slot) (p : FollowedProgram) (c : Chain) (slotSet₀ : List Slot)
    (before : Option Signature) (slotSet : List Slot) : Prop where
  row : ∀ r ∈ before, r ∈ c.rows p.programId
  sound : ∀ a ∈ slotSet, a ∈ slotSet₀ ∨ SeenBy afterSlot p c a
  keeps : ∀ a ∈ slotSet₀, a ∈ slotSet
  rest : ∀ r ∈ c.rows p.programId, p.deploySlot ≤ r.slot → past afterSlot r.slot = true →
    (∀ r' ∈ before, r.Older r') ∨ r.slot ∈ slotSet

section Paging

variable {afterSlot : Option Slot} {p : FollowedProgram} {c d : Chain}
  {slotSet₀ slotSet : List Slot} {before : Option Signature} {oldest : Signature}

theorem mem_pageSlots {page : List Signature} {a : Slot} :
    a ∈ pageSlots p afterSlot page ↔
      ∃ r ∈ page, r.slot = a ∧ p.deploySlot ≤ a ∧ past afterSlot a = true := by
  simp only [pageSlots, List.mem_map, List.mem_filter, decide_eq_true_eq, not_lt]
  constructor
  · rintro ⟨r, ⟨hr, hd, hp⟩, rfl⟩
    exact ⟨r, hr, rfl, hd, hp⟩
  · rintro ⟨r, hr, rfl, hd, hp⟩
    exact ⟨r, ⟨hr, hd, hp⟩, rfl⟩

/-- The rows of `c` that are left are on the node's list, and the list has no others. -/
theorem Paging.mem_rowsBefore (h : Paging afterSlot p c slotSet₀ before slotSet)
    (hext : c.Extends d) (hfirst : before = none → c = d) {r : Signature} :
    r ∈ rowsBefore d p.programId before ↔
      r ∈ c.rows p.programId ∧ ∀ r' ∈ before, r.Older r' := by
  cases before with
  | none =>
    rw [hfirst rfl]
    simp [rowsBefore]
  | some b =>
    simp only [rowsBefore, List.mem_filter, decide_eq_true_eq, Option.mem_some_iff, forall_eq']
    refine and_congr_left fun ho => ⟨fun hr => ?_, hext.rows⟩
    have hb := Chain.rows_le_tip (h.row b rfl)
    refine hext.rows_of_le hr ?_
    rcases ho with ho | ⟨ho, -⟩
    · exact (le_of_lt ho).trans hb
    · exact ho ▸ hb

/-- One more page. -/
theorem Paging.next (h : Paging afterSlot p c slotSet₀ before slotSet) (hext : c.Extends d)
    (hfirst : before = none → c = d)
    (ho : ((rowsBefore d p.programId before).take pageLimit).getLast? = some oldest) :
    Paging afterSlot p c slotSet₀ (some oldest)
      (slotSet ++ pageSlots p afterSlot ((rowsBefore d p.programId before).take pageLimit)) := by
  have hpage : ∀ r ∈ (rowsBefore d p.programId before).take pageLimit, r ∈ c.rows p.programId :=
    fun r hr => ((h.mem_rowsBefore hext hfirst).mp (List.mem_of_mem_take hr)).1
  refine ⟨fun r hr => ?_, fun a ha => ?_, fun a ha => ?_, fun r hr hd hp => ?_⟩
  · obtain rfl : oldest = r := by simpa using hr
    exact hpage _ (List.mem_of_getLast? ho)
  · rcases List.mem_append.mp ha with ha | ha
    · exact h.sound a ha
    · obtain ⟨r, hr, rfl, hd, hp⟩ := mem_pageSlots.mp ha
      exact .inr ⟨List.mem_map_of_mem (hpage r hr), hd, hp⟩
  · exact List.mem_append_left _ (h.keeps a ha)
  · rcases h.rest r hr hd hp with hold | hs
    · have hlist := (h.mem_rowsBefore hext hfirst).mpr ⟨hr, hold⟩
      rcases older_of_not_mem_take rowsBefore_sorted ho hlist with hr | hr
      · exact .inr (List.mem_append_right _ (mem_pageSlots.mpr ⟨r, hr, rfl, hd, hp⟩))
      · refine .inl fun r' hr' => ?_
        obtain rfl : oldest = r' := by simpa using hr'
        exact hr
    · exact .inr (List.mem_append_left _ hs)

/-- The pages show all there is: nothing that counts is older than the last row. -/
theorem Paging.complete (h : Paging afterSlot p c slotSet₀ before slotSet)
    (hend : ∀ r ∈ c.rows p.programId, p.deploySlot ≤ r.slot → past afterSlot r.slot = true →
      ¬ ∀ r' ∈ before, r.Older r') (a : Slot) :
    a ∈ slotSet ↔ a ∈ slotSet₀ ∨ SeenBy afterSlot p c a := by
  refine ⟨h.sound a, ?_⟩
  rintro (ha | ⟨ha, hd, hp⟩)
  · exact h.keeps a ha
  · obtain ⟨r, hr, rfl⟩ := List.mem_map.mp ha
    exact (h.rest r hr hd hp).resolve_left (hend r hr hd hp)

/-- A short page is the last. -/
theorem Paging.complete_short (h : Paging afterSlot p c slotSet₀ before slotSet)
    (hext : c.Extends d) (hfirst : before = none → c = d)
    (ho : ((rowsBefore d p.programId before).take pageLimit).getLast? = some oldest)
    (hshort : ((rowsBefore d p.programId before).take pageLimit).length < pageLimit) (a : Slot) :
    a ∈ slotSet ++ pageSlots p afterSlot ((rowsBefore d p.programId before).take pageLimit) ↔
      a ∈ slotSet₀ ∨ SeenBy afterSlot p c a := by
  have hnext := h.next hext hfirst ho
  refine ⟨hnext.sound a, ?_⟩
  rintro (ha | ⟨ha, hd, hp⟩)
  · exact hnext.keeps a ha
  · obtain ⟨r, hr, rfl⟩ := List.mem_map.mp ha
    rcases h.rest r hr hd hp with hold | hs
    · have hlist := (h.mem_rowsBefore hext hfirst).mpr ⟨hr, hold⟩
      rw [List.length_take] at hshort
      rw [List.take_of_length_le (by omega)]
      exact List.mem_append_right _ (mem_pageSlots.mpr ⟨r, hlist, rfl, hd, hp⟩)
    · exact List.mem_append_left _ hs

end Paging

/-! ## §6. A discovery. -/

/-- While a discovery is under way only the chain and the note of it change. -/
structure Frame (s₀ : Sys) (ds : List (List Sighting)) (s : Sys) : Prop where
  chain : s₀.chain.Extends s.chain
  store : s.store = s₀.store
  memory : s.memory = s₀.memory
  asked : ∃ d, s.asked = d :: ds

/-- `p` has been asked, on the chain `c`, and its slots are in the set. -/
structure Shown (s₀ : Sys) (d : List Sighting) (ds : List (List Sighting)) (p : FollowedProgram)
    (afterSlot : Option Slot) (slotSet₀ slotSet : List Slot) (c : Chain) (s : Sys) : Prop where
  start : s₀.chain.Extends c
  chain : c.Extends s.chain
  store : s.store = s₀.store
  memory : s.memory = s₀.memory
  asked : s.asked = (d ++ [(p, c)]) :: ds
  mem : ∀ a, a ∈ slotSet ↔ a ∈ slotSet₀ ∨ SeenBy afterSlot p c a

/-- Before the first page of `p`, or between two pages. -/
inductive AtPage (s₀ : Sys) (d : List Sighting) (ds : List (List Sighting)) (p : FollowedProgram)
    (afterSlot : Option Slot) (slotSet₀ : List Slot) :
    Option Signature → List Slot → Sys → Prop where
  | fresh {s : Sys} (hc : s₀.chain.Extends s.chain) (hs : s.store = s₀.store)
      (hm : s.memory = s₀.memory) (ha : s.asked = d :: ds) :
      AtPage s₀ d ds p afterSlot slotSet₀ none slotSet₀ s
  | between {r : Signature} {slotSet : List Slot} {c : Chain} {s : Sys}
      (hc₀ : s₀.chain.Extends c) (hc : c.Extends s.chain) (hs : s.store = s₀.store)
      (hm : s.memory = s₀.memory) (ha : s.asked = (d ++ [(p, c)]) :: ds)
      (hp : Paging afterSlot p c slotSet₀ (some r) slotSet) :
      AtPage s₀ d ds p afterSlot slotSet₀ (some r) slotSet s

/-- Growth of the chain does not disturb it. -/
def Grows (I : Sys → Prop) : Prop :=
  ∀ (s : Sys) (ts : List Tick) (bs : List Block), I s →
    I { s with ticks := ts, chain := s.chain.grow bs }

section Specs

variable {I : Sys → Prop} {s₀ : Sys} {d : List Sighting} {ds : List (List Sighting)}
  {p : FollowedProgram} {afterSlot : Option Slot} {slotSet₀ slotSet : List Slot}
  {before : Option Signature}

theorem call_sound (hI : Grows I) : Prog.Sound I call (fun _ => I) I := by
  intro s hs
  cases ht : s.ticks with
  | nil =>
    simp only [call, ht]
    exact hs
  | cons t ts =>
    have hgrown := hI s ts t.grown hs
    cases hf : t.failure <;> simp only [call, ht, hf] <;> exact hgrown

theorem getSlot_sound (hI : Grows I) :
    Prog.Sound I getSlot (fun head s => I s ∧ head = s.chain.tip) I :=
  (call_sound hI).bind fun _ => Prog.Sound.bind (Prog.Sound.get (Q := fun a s => I s ∧ a = s)
    fun _ hs => ⟨hs, rfl⟩) fun _ => Prog.Sound.pure fun _ hs => ⟨hs.1, hs.2 ▸ rfl⟩

theorem getFirstAvailableBlock_sound (hI : Grows I) :
    Prog.Sound I getFirstAvailableBlock (fun _ => I) I :=
  (call_sound hI).bind fun _ => Prog.Sound.pure fun _ hs => hs

theorem getSignatures_sound (hI : Grows I) {id : ProgramId} :
    Prog.Sound I (getSignaturesForAddress id before)
      (fun page s => I s ∧ page = (rowsBefore s.chain id before).take pageLimit) I :=
  (call_sound hI).bind fun _ => Prog.Sound.bind (Prog.Sound.get (Q := fun a s => I s ∧ a = s)
    fun _ hs => ⟨hs, rfl⟩) fun _ => Prog.Sound.pure fun _ hs => ⟨hs.1, hs.2 ▸ rfl⟩

theorem AtPage.grows : Grows (AtPage s₀ d ds p afterSlot slotSet₀ before slotSet) := by
  intro s ts bs h
  have hext := Chain.extends_grow s.chain bs
  cases h with
  | fresh hc hs hm ha => exact .fresh (hc.trans hext) hs hm ha
  | between hc₀ hc hs hm ha hp => exact .between hc₀ (hc.trans hext) hs hm ha hp

theorem AtPage.frame {s : Sys} (h : AtPage s₀ d ds p afterSlot slotSet₀ before slotSet s) :
    Frame s₀ ds s := by
  cases h with
  | fresh hc hs hm ha => exact ⟨hc, hs, hm, _, ha⟩
  | between hc₀ hc hs hm ha hp => exact ⟨hc₀.trans hc, hs, hm, _, ha⟩

/-- The first page of a program is a page of the chain it is answered from. -/
theorem Paging.start {c : Chain} : Paging afterSlot p c slotSet₀ none slotSet₀ where
  row r hr := by cases hr
  sound a ha := .inl ha
  keeps a ha := ha
  rest r _ _ _ := .inl fun r' hr' => by cases hr'

/-- After the note, on the chain `c` of the first page. -/
structure AfterNote (s₀ : Sys) (d : List Sighting) (ds : List (List Sighting))
    (p : FollowedProgram) (afterSlot : Option Slot) (slotSet₀ : List Slot)
    (before : Option Signature) (slotSet : List Slot) (page : List Signature) (s : Sys) :
    Prop where
  frame : s.store = s₀.store ∧ s.memory = s₀.memory
  page : page = (rowsBefore s.chain p.programId before).take pageLimit
  noted : ∃ c, s₀.chain.Extends c ∧ c.Extends s.chain ∧ (before = none → c = s.chain) ∧
    s.asked = (d ++ [(p, c)]) :: ds ∧ Paging afterSlot p c slotSet₀ before slotSet

theorem noteAsked_sound {page : List Signature} : Prog.Sound
    (fun s => AtPage s₀ d ds p afterSlot slotSet₀ before slotSet s ∧
      page = (rowsBefore s.chain p.programId before).take pageLimit)
    (noteAsked p before)
    (fun _ s => AfterNote s₀ d ds p afterSlot slotSet₀ before slotSet page s) (Frame s₀ ds) := by
  refine Prog.Sound.modify ?_
  rintro s ⟨h, rfl⟩
  cases h with
  | fresh hc hs hm ha =>
    simp only [ha]
    exact ⟨⟨hs, hm⟩, rfl, s.chain, hc, .refl _, fun _ => rfl, rfl, .start⟩
  | between hc₀ hc hs hm ha hp =>
    exact ⟨⟨hs, hm⟩, rfl, _, hc₀, hc, (fun e => by cases e), ha, hp⟩

/-- **The pages of one program**, by induction on the fuel. -/
theorem pageProgram_sound (fuel : ℕ) (before : Option Signature) (slotSet : List Slot)
    (reached : Bool) : Prog.Sound (AtPage s₀ d ds p afterSlot slotSet₀ before slotSet)
      (pageProgram p afterSlot fuel before slotSet reached)
      (fun r s => match r with
        | none => Frame s₀ ds s
        | some (slots, _) => ∃ c, Shown s₀ d ds p afterSlot slotSet₀ slots c s) (Frame s₀ ds) := by
  induction fuel generalizing before slotSet reached with
  | zero => exact Prog.Sound.throw fun _ h => h.frame
  | succ fuel ih =>
    have hgrows : Grows (AtPage s₀ d ds p afterSlot slotSet₀ before slotSet) := AtPage.grows
    have hcall : Prog.Sound _ (getSignaturesForAddress p.programId before) _ (Frame s₀ ds) :=
      (getSignatures_sound hgrows).errors fun _ h => h.frame
    refine Prog.Sound.bind (Q := fun r s => match r with
      | .error _ => Frame s₀ ds s
      | .ok page => AtPage s₀ d ds p afterSlot slotSet₀ before slotSet s ∧
          page = (rowsBefore s.chain p.programId before).take pageLimit)
      (hcall.attempt fun _ _ h => h) ?_
    rintro (e | page)
    · exact Prog.Sound.pure fun _ h => h
    refine noteAsked_sound.bind fun _ => ?_
    -- what the page makes of the set, on the chain `c` of the first page
    cases ho : page.getLast? with
    | none =>
      refine Prog.Sound.pure fun s h => ?_
      obtain ⟨⟨hs, hm⟩, hpage, c, hc₀, hc, hfirst, ha, hp⟩ := h
      refine ⟨c, hc₀, hc, hs, hm, ha, hp.complete fun r hr _ _ hold => ?_⟩
      have hlist := (hp.mem_rowsBefore hc hfirst).mpr ⟨hr, hold⟩
      rw [List.getLast?_eq_none_iff, hpage, List.take_eq_nil_iff] at ho
      rcases ho with ho | ho
      · cases ho
      · rw [ho] at hlist
        cases hlist
    | some oldest =>
      have hnext : ∀ s, AfterNote s₀ d ds p afterSlot slotSet₀ before slotSet page s →
          ∃ c, s₀.chain.Extends c ∧ c.Extends s.chain ∧ s.asked = (d ++ [(p, c)]) :: ds ∧
            Paging afterSlot p c slotSet₀ (some oldest) (slotSet ++ pageSlots p afterSlot page) := by
        intro s h
        obtain ⟨-, rfl, c, hc₀, hc, hfirst, ha, hp⟩ := h
        exact ⟨c, hc₀, hc, ha, hp.next hc hfirst ho⟩
      refine Prog.Sound.ite (fun hend => ?_) fun _ => Prog.Sound.ite (fun hend => ?_) fun _ => ?_
      · refine Prog.Sound.pure fun s h => ?_
        obtain ⟨c, hc₀, hc, ha, hp⟩ := hnext s h
        refine ⟨c, hc₀, hc, h.frame.1, h.frame.2, ha, ?_⟩
        rcases hend with hend | hend
        · -- the rest is from before the deployment
          refine hp.complete fun r _ hd _ hold => ?_
          have hle := (hold oldest rfl).slot_le
          exact absurd (hd.trans hle) (not_le_of_gt hend)
        · obtain ⟨-, rfl, c', -, hc', hfirst, ha', hp'⟩ := h
          obtain rfl : c' = c := by
            have := ha'.symm.trans ha
            simpa using this
          exact hp'.complete_short hc' hfirst ho hend
      · refine Prog.Sound.pure fun s h => ?_
        obtain ⟨c, hc₀, hc, ha, hp⟩ := hnext s h
        refine ⟨c, hc₀, hc, h.frame.1, h.frame.2, ha, hp.complete fun r _ _ hpast hold => ?_⟩
        -- the rest is at or below the watermark
        have hle := (hold oldest rfl).slot_le
        obtain ⟨-, hold'⟩ := hend
        cases afterSlot with
        | none => cases hold'
        | some a =>
          simp only [past, decide_eq_true_eq, decide_eq_false_iff_not] at hpast hold'
          exact hold' (hpast.trans_le hle)
      · refine (ih (some oldest) (slotSet ++ pageSlots p afterSlot page) _).pre fun s h => ?_
        obtain ⟨c, hc₀, hc, ha, hp⟩ := hnext s h
        exact .between hc₀ hc h.frame.1 h.frame.2 ha hp

/-- The programs `done` have been asked one after another, and `slotSet` is what they showed. -/
structure Sights (s₀ : Sys) (ds : List (List Sighting)) (done : List FollowedProgram)
    (afterSlot : Option Slot) (slotSet : List Slot) (d : List Sighting) (s : Sys) : Prop where
  chain : s₀.chain.Extends s.chain
  store : s.store = s₀.store
  memory : s.memory = s₀.memory
  asked : s.asked = d :: ds
  programs : d.map (·.1) = done
  between : ∀ q ∈ d, s₀.chain.Extends q.2 ∧ q.2.Extends s.chain
  inOrder : d.Pairwise fun q q' => q.2.Extends q'.2
  mem : ∀ a, a ∈ slotSet ↔ ∃ q ∈ d, SeenBy afterSlot q.1 q.2 a

theorem Sights.frame {done : List FollowedProgram} {s : Sys}
    (h : Sights s₀ ds done afterSlot slotSet d s) : Frame s₀ ds s :=
  ⟨h.chain, h.store, h.memory, d, h.asked⟩

/-- One more program. -/
theorem Sights.shown {done : List FollowedProgram} {s s' : Sys} {c : Chain} {slots : List Slot}
    (h : Sights s₀ ds done afterSlot slotSet d s)
    (hp : Shown s d ds p afterSlot slotSet slots c s') :
    Sights s₀ ds (done ++ [p]) afterSlot slots (d ++ [(p, c)]) s' where
  chain := h.chain.trans (hp.start.trans hp.chain)
  store := hp.store.trans h.store
  memory := hp.memory.trans h.memory
  asked := hp.asked
  programs := by rw [List.map_append, h.programs, List.map_singleton]
  between q hq := by
    rcases List.mem_append.mp hq with hq | hq
    · exact ⟨(h.between q hq).1, (h.between q hq).2.trans (hp.start.trans hp.chain)⟩
    · obtain rfl : q = (p, c) := by simpa using hq
      exact ⟨h.chain.trans hp.start, hp.chain⟩
  inOrder := by
    refine List.pairwise_append.mpr ⟨h.inOrder, List.pairwise_singleton _ _, fun q hq q' hq' => ?_⟩
    obtain rfl : q' = (p, c) := by simpa using hq'
    exact (h.between q hq).2.trans hp.start
  mem a := by
    rw [hp.mem, h.mem]
    simp only [List.mem_append, List.mem_singleton, or_and_right, exists_or, exists_eq_left]

theorem Sights.start {s : Sys} (h : s₀ = { s with asked := ds }) (ha : s.asked = [] :: ds) :
    Sights s₀ ds [] afterSlot [] [] s where
  chain := h ▸ .refl _
  store := by rw [h]
  memory := by rw [h]
  asked := ha
  programs := rfl
  between q hq := nomatch hq
  inOrder := .nil
  mem a := by simp

/-- What a discovery found. -/
structure Discovered (s₀ : Sys) (programs : List FollowedProgram) (afterSlot : Option Slot)
    (d : Discovery) (s : Sys) : Prop where
  sorted : d.slots.Pairwise (· ≤ ·)
  sights : ∃ snaps, Sights s₀ s₀.asked programs afterSlot d.slots snaps s

/-- **The programs one after another**, by induction on those that are left. -/
theorem discoverPrograms_sound (programs : List FollowedProgram) (floors : Bool)
    {done : List FollowedProgram} : Prog.Sound
      (fun s => ∃ d, Sights s₀ ds done afterSlot slotSet d s)
      (discoverPrograms afterSlot programs slotSet floors)
      (fun r s => match r with
        | none => Frame s₀ ds s
        | some r => r.slots.Pairwise (· ≤ ·) ∧
          ∃ d, Sights s₀ ds (done ++ programs) afterSlot r.slots d s)
      (Frame s₀ ds) := by
  induction programs generalizing done slotSet floors with
  | nil =>
    refine Prog.Sound.pure fun s hs => ⟨List.pairwise_insertionSort _ _, ?_⟩
    obtain ⟨d, hd⟩ := hs
    have hmem : ∀ a, a ∈ slotSet.dedup.insertionSort (· ≤ ·) ↔ a ∈ slotSet := fun a => by
      rw [(List.perm_insertionSort _ _).mem_iff, List.mem_dedup]
    rw [List.append_nil]
    exact ⟨d, { hd with mem := fun a => (hmem a).trans (hd.mem a) }⟩
  | cons p ps ih =>
    refine Prog.Sound.each fun s₁ hs₁ => ?_
    obtain ⟨d, hd⟩ := hs₁
    have hframe : ∀ s, Frame s₁ ds s → Frame s₀ ds s := fun s h =>
      ⟨hd.chain.trans h.chain, h.store.trans hd.store, h.memory.trans hd.memory, h.asked⟩
    refine Prog.Sound.bind (Q := fun a s => s = s₁ ∧ a = s₁)
      (Prog.Sound.get fun s hs => ⟨hs, hs⟩) fun a => ?_
    have hpage : Prog.Sound (AtPage s₁ d ds p afterSlot slotSet none slotSet)
        (pageProgram p afterSlot (a.ticks.length + 1) none slotSet false) _ _ :=
      pageProgram_sound (a.ticks.length + 1) none slotSet false
    refine Prog.Sound.bind ((hpage.pre ?_).errors hframe) fun r => ?_
    · rintro s ⟨rfl, -⟩
      exact .fresh (.refl _) rfl rfl hd.asked
    cases r with
    | none => exact Prog.Sound.pure fun s hs => hframe s hs
    | some r =>
      have hrest : Prog.Sound (fun s => ∃ d, Sights s₀ ds (done ++ [p]) afterSlot r.1 d s)
          (discoverPrograms afterSlot ps r.1 (floors && r.2)) _ _ := ih (floors && r.2)
      refine (hrest.pre fun s hs => ?_).post fun r s hs => ?_
      · obtain ⟨c, hc⟩ := hs
        exact ⟨_, hd.shown hc⟩
      · rwa [List.append_assoc] at hs

/-- **A discovery** shows, of each program, what the chain had of it when it was asked: the
    programs one after another, on a chain that grows. -/
theorem discover_sound (programs : List FollowedProgram) : Prog.Sound (fun s => s = s₀)
    (discoverIngestSlots programs afterSlot)
    (fun r s => match r with
      | none => Frame s₀ s₀.asked s
      | some d => Discovered s₀ programs afterSlot d s) (Frame s₀ s₀.asked) := by
  refine Prog.Sound.bind (Q := fun _ s => ∃ d, Sights s₀ s₀.asked [] afterSlot [] d s)
    (Prog.Sound.modify ?_) fun _ => ?_
  · rintro s rfl
    exact ⟨[], .start rfl rfl⟩
  · refine (discoverPrograms_sound programs true).post fun r s hs => ?_
    cases r with
    | none => exact hs
    | some d => exact ⟨hs.1, hs.2⟩

end Specs

end Kargain.Ingest
