/-
  Kargain.Base.Keyed — one value for each key, in the order the keys came.

  A map that keeps its keys in the order they were first set, filled from
  a list by a rule that picks one of two values (`collect`).  When the rule
  picks the better of the two in a preorder, the map holds the best value of
  each key (`mem_collect`), and where no two values of a key are equally good
  the order of the list does not change what it holds (`collect_perm`).

  Sorting by a key forgets the order as well (`sortBy_perm`), and a partial
  function that is mapped over two lists that differ in their order fails
  on both or on neither (`mapM_perm`).
-/
import Mathlib

namespace Kargain.Keyed

variable {α β κ : Type}

/-! ## §1. Maps. -/

section Maps

variable [DecidableEq κ]

/-- `k ↦ x`, in the place of `k` if it has one and at the end otherwise. -/
def put (k : κ) (x : α) : List (κ × α) → List (κ × α)
  | [] => [(k, x)]
  | (k', y) :: m => if k' = k then (k', x) :: m else (k', y) :: put k x m

def get (k : κ) : List (κ × α) → Option α
  | [] => none
  | (k', y) :: m => if k' = k then some y else get k m

/-- The keys of a map are distinct. -/
def Keys (m : List (κ × α)) : Prop := (m.map Prod.fst).Nodup

theorem get_eq_some {m : List (κ × α)} (hm : Keys m) {k : κ} {y : α} :
    get k m = some y ↔ (k, y) ∈ m := by
  induction m with
  | nil => simp [get]
  | cons p m ih =>
    obtain ⟨k', z⟩ := p
    unfold Keys at hm
    simp only [List.map_cons, List.nodup_cons] at hm
    unfold get
    split
    · next heq =>
      subst heq
      have hout : (k', y) ∉ m := fun h => hm.1 (List.mem_map.mpr ⟨_, h, rfl⟩)
      simp [hout, eq_comm]
    · next hne => simp [ih hm.2, Ne.symm hne]

theorem get_eq_none {m : List (κ × α)} {k : κ} : get k m = none ↔ ∀ y, (k, y) ∉ m := by
  induction m with
  | nil => simp [get]
  | cons p m ih =>
    obtain ⟨k', z⟩ := p
    unfold get
    split
    · next heq =>
      subst heq
      simp only [reduceCtorEq, false_iff, not_forall, not_not]
      exact ⟨z, by simp⟩
    · next hne => simp [ih, Ne.symm hne]

/-- A key stands once. -/
theorem key_inj {m : List (κ × α)} (hm : Keys m) {p q : κ × α} (hp : p ∈ m) (hq : q ∈ m)
    (h : p.1 = q.1) : p = q := by
  have hget := (get_eq_some hm).mpr (show (p.1, p.2) ∈ m from hp)
  have hget' := (get_eq_some hm).mpr (show (q.1, q.2) ∈ m from hq)
  rw [h, hget'] at hget
  exact Prod.ext h (Option.some.inj hget).symm

theorem mem_put {m : List (κ × α)} (hm : Keys m) {k k' : κ} {x y : α} :
    (k', y) ∈ put k x m ↔ (k' = k ∧ y = x) ∨ (k' ≠ k ∧ (k', y) ∈ m) := by
  induction m with
  | nil => simp [put]
  | cons p m ih =>
    obtain ⟨l, z⟩ := p
    unfold Keys at hm
    simp only [List.map_cons, List.nodup_cons] at hm
    unfold put
    split
    · next heq =>
      subst heq
      have hout : ∀ w, (l, w) ∉ m := fun w h => hm.1 (List.mem_map.mpr ⟨_, h, rfl⟩)
      by_cases hk : k' = l
      · subst hk
        simp [hout]
      · simp [hk]
    · next hne =>
      rw [List.mem_cons, ih hm.2, List.mem_cons]
      by_cases hk : k' = k
      · subst hk
        simp [Ne.symm hne]
      · simp [hk]

theorem keys_put {m : List (κ × α)} (hm : Keys m) (k : κ) (x : α) : Keys (put k x m) := by
  induction m with
  | nil => simp [put, Keys]
  | cons p m ih =>
    obtain ⟨l, z⟩ := p
    have hm' := hm
    unfold Keys at hm
    simp only [List.map_cons, List.nodup_cons] at hm
    unfold put
    split
    · exact hm'
    · next hne =>
      unfold Keys
      simp only [List.map_cons, List.nodup_cons]
      refine ⟨fun hin => ?_, ih hm.2⟩
      obtain ⟨⟨l', w⟩, hw, rfl⟩ := List.mem_map.mp hin
      rcases (mem_put hm.2).mp hw with ⟨heq, _⟩ | ⟨_, hold⟩
      · exact hne heq
      · exact hm.1 (List.mem_map.mpr ⟨_, hold, rfl⟩)

end Maps

/-! ## §2. One value for each key. -/

section Collect

variable [DecidableEq κ] (key : α → κ) (pick : α → α → α)

/-- The map after `x`: where its key has a value, the rule picks one of the two. -/
def note (m : List (κ × α)) (x : α) : List (κ × α) :=
  put (key x) (match get (key x) m with | some y => pick x y | none => x) m

def collect (xs : List α) : List (κ × α) := xs.foldl (note key pick) []

/-- `pick` returns one of its arguments, and the better of the two. -/
structure Picks (better : α → α → Prop) : Prop where
  one : ∀ x y, pick x y = x ∨ pick x y = y
  left : ∀ x y, better (pick x y) x
  right : ∀ x y, better (pick x y) y
  self : ∀ x, better x x
  chain : ∀ {x y z}, better x y → better y z → better x z

/-- What a map that was filled from `xs` holds. -/
structure Best (better : α → α → Prop) (xs : List α) (m : List (κ × α)) : Prop where
  keys : Keys m
  sound : ∀ k e, (k, e) ∈ m → e ∈ xs ∧ key e = k ∧ ∀ x ∈ xs, key x = k → better e x
  full : ∀ x ∈ xs, ∃ e, (key x, e) ∈ m

variable {key pick} {better : α → α → Prop}

theorem Best.note (hp : Picks pick better) {xs : List α} {m : List (κ × α)}
    (h : Best key better xs m) (x : α) : Best key better (xs ++ [x]) (note key pick m x) where
  keys := keys_put h.keys _ _
  sound := by
    intro k e hin
    rcases (mem_put h.keys).mp hin with ⟨rfl, rfl⟩ | ⟨hk, hold⟩
    · cases hget : get (key x) m with
      | none =>
        -- the first value of its key
        have hnone := get_eq_none.mp hget
        refine ⟨by simp, rfl, fun z hz hkey => ?_⟩
        rcases List.mem_append.mp hz with hz | hz
        · obtain ⟨e, he⟩ := h.full z hz
          exact absurd (hkey ▸ he) (hnone e)
        · rw [List.mem_singleton.mp hz]
          exact hp.self x
      | some y =>
        obtain ⟨hy, hkey, hbest⟩ := h.sound _ _ ((get_eq_some h.keys).mp hget)
        refine ⟨?_, ?_, fun z hz hz' => ?_⟩
        · rcases hp.one x y with heq | heq <;> simp [heq, hy]
        · rcases hp.one x y with heq | heq <;> simp [heq, hkey]
        · rcases List.mem_append.mp hz with hz | hz
          · exact hp.chain (hp.right x y) (hbest z hz hz')
          · rw [List.mem_singleton.mp hz]
            exact hp.left x y
    · obtain ⟨he, hkey, hbest⟩ := h.sound k e hold
      refine ⟨List.mem_append_left _ he, hkey, fun z hz hz' => ?_⟩
      rcases List.mem_append.mp hz with hz | hz
      · exact hbest z hz hz'
      · rw [List.mem_singleton.mp hz] at hz'
        exact absurd hz'.symm hk
  full := by
    intro z hz
    by_cases hkey : key z = key x
    · exact ⟨_, (mem_put h.keys).mpr (.inl ⟨hkey, rfl⟩)⟩
    · rcases List.mem_append.mp hz with hz | hz
      · obtain ⟨e, he⟩ := h.full z hz
        exact ⟨e, (mem_put h.keys).mpr (.inr ⟨hkey, he⟩)⟩
      · exact absurd (by rw [List.mem_singleton.mp hz]) hkey

/-- **The map holds the best value of each key.** -/
theorem best_collect (key : α → κ) (hp : Picks pick better) (xs : List α) :
    Best key better xs (collect key pick xs) := by
  have hrun : ∀ (ys xs : List α) (m : List (κ × α)), Best key better xs m →
      Best key better (xs ++ ys) (ys.foldl (note key pick) m) := by
    intro ys
    induction ys with
    | nil => exact fun xs m h => by simpa using h
    | cons y ys ih =>
      intro xs m h
      have hstep := ih (xs ++ [y]) (note key pick m y) (h.note hp y)
      simpa using hstep
  exact hrun xs [] [] ⟨by simp [Keys], by simp, by simp⟩

/-- A key has one value. -/
theorem value_inj (hp : Picks pick better) {xs : List α} {e e' : α}
    (he : e ∈ (collect key pick xs).map Prod.snd) (he' : e' ∈ (collect key pick xs).map Prod.snd)
    (h : key e = key e') : e = e' := by
  have hbest := best_collect key hp xs
  obtain ⟨p, hin, rfl⟩ := List.mem_map.mp he
  obtain ⟨q, hin', rfl⟩ := List.mem_map.mp he'
  have hkey := (hbest.sound p.1 p.2 hin).2.1
  have hkey' := (hbest.sound q.1 q.2 hin').2.1
  rw [key_inj hbest.keys hin hin' (hkey.symm.trans (h.trans hkey'))]

/-- No two values of one key are equally good. -/
def Strict (key : α → κ) (better : α → α → Prop) (xs : List α) : Prop :=
  ∀ x ∈ xs, ∀ y ∈ xs, key x = key y → better x y → better y x → x = y

theorem mem_collect (hp : Picks pick better) {xs : List α} (hs : Strict key better xs)
    {k : κ} {e : α} : (k, e) ∈ collect key pick xs ↔
      e ∈ xs ∧ key e = k ∧ ∀ x ∈ xs, key x = k → better e x := by
  have hbest := best_collect key hp xs
  refine ⟨hbest.sound k e, fun ⟨he, hkey, hall⟩ => ?_⟩
  obtain ⟨e', he'⟩ := hbest.full e he
  obtain ⟨hin, hkey', hall'⟩ := hbest.sound _ _ he'
  rw [hkey] at he' hkey' hall'
  have heq : e = e' := hs e he e' hin (hkey.trans hkey'.symm) (hall e' hin hkey') (hall' e he hkey)
  exact heq ▸ he'

/-- **The order of the list does not matter.** -/
theorem collect_perm (hp : Picks pick better) {xs ys : List α} (hs : Strict key better xs)
    (h : xs.Perm ys) : (collect key pick xs).Perm (collect key pick ys) := by
  have hnodup : ∀ zs : List α, (collect key pick zs).Nodup :=
    fun zs => List.Nodup.of_map _ (best_collect key hp zs).keys
  have hs' : Strict key better ys := by
    intro x hx y hy
    exact hs x (h.mem_iff.mpr hx) y (h.mem_iff.mpr hy)
  rw [List.perm_ext_iff_of_nodup (hnodup xs) (hnodup ys)]
  intro p
  rw [mem_collect (k := p.1) (e := p.2) hp hs, mem_collect (k := p.1) (e := p.2) hp hs']
  simp only [h.mem_iff]

end Collect

/-! ## §3. Sets and sorted lists. -/

section Sets

variable [DecidableEq α]

/-- The members of a list, each once. -/
def distinct (xs : List α) : List α := (collect id (fun x _ => x) xs).map Prod.snd

omit [DecidableEq α] in
theorem picks_first : Picks (fun x _ : α => x) (fun _ _ => True) where
  one := fun _ _ => .inl rfl
  left := fun _ _ => trivial
  right := fun _ _ => trivial
  self := fun _ => trivial
  chain := fun _ _ => trivial

omit [DecidableEq α] in
theorem strict_id (xs : List α) : Strict id (fun _ _ : α => True) xs :=
  fun _ _ _ _ h _ _ => h

theorem mem_distinct {xs : List α} {x : α} : x ∈ distinct xs ↔ x ∈ xs := by
  unfold distinct
  rw [List.mem_map]
  constructor
  · rintro ⟨⟨k, e⟩, hin, rfl⟩
    exact ((mem_collect picks_first (strict_id xs)).mp hin).1
  · intro hx
    exact ⟨(x, x), (mem_collect picks_first (strict_id xs)).mpr ⟨hx, rfl, fun _ _ _ => trivial⟩, rfl⟩

theorem distinct_perm {xs ys : List α} (h : xs.Perm ys) : (distinct xs).Perm (distinct ys) :=
  (collect_perm picks_first (strict_id xs) h).map _

theorem nodup_distinct (xs : List α) : (distinct xs).Nodup := by
  have hbest := best_collect id picks_first xs
  have heq : distinct xs = (collect id (fun x _ => x) xs).map Prod.fst := by
    unfold distinct
    refine List.map_congr_left fun p hp => ?_
    exact (hbest.sound p.1 p.2 hp).2.1
  exact heq ▸ hbest.keys

end Sets

section Sorted

variable {ι : Type} [LinearOrder ι]

/-- The list in the order of its keys; the sort is stable. -/
def sortBy (key : α → ι) (xs : List α) : List α := xs.insertionSort fun x y => key x ≤ key y

theorem sortBy_perm_self (key : α → ι) (xs : List α) : (sortBy key xs).Perm xs :=
  List.perm_insertionSort _ xs

theorem mem_sortBy {key : α → ι} {xs : List α} {x : α} : x ∈ sortBy key xs ↔ x ∈ xs :=
  (sortBy_perm_self key xs).mem_iff

theorem sortBy_pairwise (key : α → ι) (xs : List α) :
    (sortBy key xs).Pairwise fun x y => key x ≤ key y := by
  have htotal : Std.Total fun x y : α => key x ≤ key y := ⟨fun x y => le_total (key x) (key y)⟩
  have htrans : IsTrans α fun x y => key x ≤ key y := ⟨fun _ _ _ => le_trans⟩
  exact List.pairwise_insertionSort _ xs

/-- **Sorting forgets the order** of a list whose keys are distinct. -/
theorem sortBy_perm {key : α → ι} {xs ys : List α} (hkey : ∀ x ∈ xs, ∀ y ∈ xs, key x = key y → x = y)
    (h : xs.Perm ys) : sortBy key xs = sortBy key ys := by
  have hperm : (sortBy key xs).Perm (sortBy key ys) :=
    ((sortBy_perm_self key xs).trans h).trans (sortBy_perm_self key ys).symm
  refine hperm.eq_of_pairwise ?_ (sortBy_pairwise key xs) (sortBy_pairwise key ys)
  intro x y hx hy hxy hyx
  exact hkey x (mem_sortBy.mp hx) y (h.mem_iff.mpr (mem_sortBy.mp hy)) (le_antisymm hxy hyx)

end Sorted

section Stable

variable {le early : α → α → Prop} [DecidableRel le]

theorem pairwise_orderedInsert (htotal : ∀ a b, le a b ∨ le b a)
    (htrans : ∀ a b c, le a b → le b c → le a c) {x : α} {l : List α}
    (hx : ∀ y ∈ l, early x y) (hl : l.Pairwise fun a b => le a b ∧ (le b a → early a b)) :
    (l.orderedInsert le x).Pairwise fun a b => le a b ∧ (le b a → early a b) := by
  induction l with
  | nil => simp
  | cons y l ih =>
    have hy := List.pairwise_cons.mp hl
    unfold List.orderedInsert
    split
    · next hle =>
      refine List.pairwise_cons.mpr ⟨fun z hz => ⟨?_, fun _ => hx z hz⟩, hl⟩
      rcases List.mem_cons.mp hz with heq | hmem
      · rw [heq]
        exact hle
      · exact htrans x y z hle (hy.1 z hmem).1
    · next hnot =>
      refine List.pairwise_cons.mpr ⟨fun z hz => ?_,
        ih (fun z hz => hx z (List.mem_cons_of_mem y hz)) hy.2⟩
      rcases (List.mem_orderedInsert le).mp hz with heq | hmem
      · rw [heq]
        exact ⟨(htotal x y).resolve_left hnot, fun hle => absurd hle hnot⟩
      · exact hy.1 z hmem

/-- **The sort is stable**: where the order does not tell two elements apart, they stay as they were. -/
theorem pairwise_insertionSort_stable (htotal : ∀ a b, le a b ∨ le b a)
    (htrans : ∀ a b c, le a b → le b c → le a c) {l : List α} (h : l.Pairwise early) :
    (l.insertionSort le).Pairwise fun a b => le a b ∧ (le b a → early a b) := by
  induction l with
  | nil => simp
  | cons x l ih =>
    have hx := List.pairwise_cons.mp h
    show (List.orderedInsert le x (l.insertionSort le)).Pairwise _
    exact pairwise_orderedInsert htotal htrans
      (fun y hy => hx.1 y ((List.mem_insertionSort le).mp hy)) (ih hx.2)

end Stable

/-! ## §4. One file for each key. -/

section Files

variable [DecidableEq κ] (key : α → κ) (add : β → α → β) (empty : β)

/-- `x` goes into the file of its key. -/
def file (m : List (κ × β)) (x : α) : List (κ × β) :=
  put (key x) (add ((get (key x) m).getD empty) x) m

def files (xs : List α) : List (κ × β) := xs.foldl (file key add empty) []

/-- What the files of `xs` hold. -/
structure Filed (xs : List α) (m : List (κ × β)) : Prop where
  keys : Keys m
  mem : ∀ k b, (k, b) ∈ m ↔ (∃ x ∈ xs, key x = k) ∧
    b = (xs.filter fun x => key x = k).foldl add empty

variable {key add empty}

theorem Filed.file {xs : List α} {m : List (κ × β)} (h : Filed key add empty xs m) (x : α) :
    Filed key add empty (xs ++ [x]) (file key add empty m x) := by
  have hheld : (get (key x) m).getD empty = (xs.filter fun y => key y = key x).foldl add empty := by
    cases hget : get (key x) m with
    | some b => exact ((h.mem _ _).mp ((get_eq_some h.keys).mp hget)).2
    | none =>
      have hnil : (xs.filter fun y => key y = key x) = [] := by
        refine List.filter_eq_nil_iff.mpr fun y hy => ?_
        simp only [decide_eq_true_eq]
        intro heq
        exact get_eq_none.mp hget _ ((h.mem _ _).mpr ⟨⟨y, hy, heq⟩, rfl⟩)
      rw [hnil]
      rfl
  refine ⟨keys_put h.keys _ _, fun k b => ?_⟩
  unfold Keyed.file
  rw [mem_put h.keys, hheld]
  by_cases hk : k = key x
  · subst hk
    simp
  · have hne : key x ≠ k := fun heq => hk heq.symm
    simp [hk, hne, h.mem]

theorem files_filed (xs : List α) : Filed key add empty xs (files key add empty xs) := by
  have hall : ∀ (ys zs : List α) (m : List (κ × β)), Filed key add empty zs m →
      Filed key add empty (zs ++ ys) (ys.foldl (Keyed.file key add empty) m) := by
    intro ys
    induction ys with
    | nil =>
      intro zs m h
      simpa using h
    | cons y ys ih =>
      intro zs m h
      have hstep := ih (zs ++ [y]) _ (h.file y)
      simpa using hstep
  exact hall xs [] [] ⟨by simp [Keys], by simp⟩

theorem mem_files {xs : List α} {k : κ} {b : β} :
    (k, b) ∈ files key add empty xs ↔
      (∃ x ∈ xs, key x = k) ∧ b = (xs.filter fun x => key x = k).foldl add empty :=
  (files_filed xs).mem k b

theorem files_keys (xs : List α) : Keys (files key add empty xs) := (files_filed xs).keys

theorem foldl_snoc (xs held : List α) :
    xs.foldl (fun list x => list ++ [x]) held = held ++ xs := by
  induction xs generalizing held with
  | nil => simp
  | cons x xs ih => simp [ih]

end Files

/-! ## §5. Partial functions. -/

/-- Two results that are both absent, or two lists that differ in their order. -/
def Alike : Option (List α) → Option (List α) → Prop
  | some xs, some ys => xs.Perm ys
  | none, none => True
  | _, _ => False

theorem mapM_perm (f : α → Option β) {xs ys : List α} (h : xs.Perm ys) :
    Alike (xs.mapM f) (ys.mapM f) := by
  induction h with
  | nil => simp [Alike]
  | cons x h ih =>
    rename_i l₁ l₂
    cases hx : f x <;> cases h₁ : l₁.mapM f <;> cases h₂ : l₂.mapM f <;>
      simp_all [Alike, List.mapM_cons]
  | swap x y l =>
    cases hx : f x <;> cases hy : f y <;> cases hl : l.mapM f <;>
      simp_all [Alike, List.mapM_cons, List.Perm.swap]
  | trans h h' ih ih' =>
    rename_i l₁ l₂ l₃
    cases h₁ : l₁.mapM f <;> cases h₂ : l₂.mapM f <;> cases h₃ : l₃.mapM f <;>
      simp_all [Alike]
    exact ih.trans ih'

theorem Alike.cases {o o' : Option (List α)} (h : Alike o o') :
    (o = none ∧ o' = none) ∨ ∃ xs ys, o = some xs ∧ o' = some ys ∧ xs.Perm ys := by
  cases o <;> cases o' <;> simp_all [Alike]

theorem mapM_congr {f g : α → Option β} {xs : List α} (h : ∀ x ∈ xs, f x = g x) :
    xs.mapM f = xs.mapM g := by
  induction xs with
  | nil => rfl
  | cons x xs ih =>
    rw [List.mapM_cons, List.mapM_cons, h x (by simp), ih fun y hy => h y (by simp [hy])]

theorem mem_mapM {f : α → Option β} {xs : List α} {ys : List β} (h : xs.mapM f = some ys) {y : β} :
    y ∈ ys ↔ ∃ x ∈ xs, f x = some y := by
  induction xs generalizing ys with
  | nil =>
    rw [List.mapM_nil] at h
    cases h
    simp
  | cons x xs ih =>
    rw [List.mapM_cons] at h
    cases hx : f x with
    | none => simp [hx] at h
    | some z =>
      cases hl : xs.mapM f with
      | none => simp [hx, hl] at h
      | some zs =>
        simp only [hx, hl, Option.bind_eq_bind, Option.bind_some, Option.pure_def,
          Option.some.injEq] at h
        subst h
        rw [List.mem_cons, ih hl]
        constructor
        · rintro (rfl | ⟨x', hin, hy⟩)
          · exact ⟨x, by simp, hx⟩
          · exact ⟨x', by simp [hin], hy⟩
        · intro ⟨x', hin, hy⟩
          rcases List.mem_cons.mp hin with rfl | hin
          · exact .inl (Option.some.inj (hy.symm.trans hx))
          · exact .inr ⟨x', hin, hy⟩

theorem some_of_mapM {f : α → Option β} {xs : List α} {ys : List β} (h : xs.mapM f = some ys) {x : α}
    (hx : x ∈ xs) : ∃ y, f x = some y := by
  induction xs generalizing ys with
  | nil => simp at hx
  | cons a xs ih =>
    rw [List.mapM_cons] at h
    cases ha : f a with
    | none => simp [ha] at h
    | some z =>
      cases hl : xs.mapM f with
      | none => simp [ha, hl] at h
      | some zs =>
        rcases List.mem_cons.mp hx with rfl | hx
        · exact ⟨z, ha⟩
        · exact ih hl hx

theorem flatten_alike {f g : α → Option (List β)} {xs : List α} (h : ∀ x ∈ xs, Alike (f x) (g x)) :
    Alike ((xs.mapM f).map List.flatten) ((xs.mapM g).map List.flatten) := by
  induction xs with
  | nil => simp [Alike]
  | cons x xs ih =>
    have htail := ih fun y hy => h y (by simp [hy])
    rw [List.mapM_cons, List.mapM_cons]
    rcases (h x (by simp)).cases with ⟨hf, hg⟩ | ⟨ys, zs, hf, hg, hperm⟩
    · simp [hf, hg, Alike]
    · rw [hf, hg]
      cases hl : xs.mapM f <;> cases hr : xs.mapM g <;> simp [hl, hr, Alike] at htail ⊢
      exact hperm.append htail

/-! ## §5. Parts of a list. -/

section Parts

variable [DecidableEq α]

end Parts

end Kargain.Keyed
