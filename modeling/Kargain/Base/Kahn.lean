/-
  Kargain.Base.Kahn — sorting a finite graph by counting what is still open.

  The vertices below `n` that no arrow enters go on a queue; a vertex that
  leaves the queue is listed and its arrows are struck, and a vertex whose
  last arrow was struck joins the queue.

  Main results: the loop lists every vertex exactly when the arrows have no
  cycle (`length_sort_iff`), each arrow then goes forward in the list
  (`sort_forward`), and of the values that the listed vertices carry the one
  that every other valued vertex leads to is the last (`lastValue_eq`).
-/
import Mathlib

namespace Kargain.Kahn

open Relation

/-! ## §1. The loop. -/

/-- The heads of the arrows out of `v`, in the order of the list. -/
def targets (edges : List (ℕ × ℕ)) (v : ℕ) : List ℕ :=
  (edges.filter fun e => e.1 = v).map Prod.snd

structure Walk where
  queue : List ℕ
  inDegree : ℕ → ℤ
  order : List ℕ

/-- One arrow into `m` is struck. -/
def strike (w : Walk) (m : ℕ) : Walk :=
  let d := w.inDegree m - 1
  { w with
    inDegree := Function.update w.inDegree m d
    queue := if d = 0 then w.queue ++ [m] else w.queue }

/-- `v` leaves the front of the queue. -/
def visit (edges : List (ℕ × ℕ)) (w : Walk) (v : ℕ) (rest : List ℕ) : Walk :=
  (targets edges v).foldl strike { w with queue := rest, order := w.order ++ [v] }

def run (edges : List (ℕ × ℕ)) : ℕ → Walk → Walk
  | 0, w => w
  | fuel + 1, w =>
    match w.queue with
    | [] => w
    | v :: rest => run edges fuel (visit edges w v rest)

/-- The number of arrows into `m`. -/
def arrivals (edges : List (ℕ × ℕ)) (m : ℕ) : ℕ := edges.countP fun e => e.2 = m

def start (n : ℕ) (edges : List (ℕ × ℕ)) : Walk where
  queue := (List.range n).filter fun v => arrivals edges v = 0
  inDegree := fun m => arrivals edges m
  order := []

def sort (n : ℕ) (edges : List (ℕ × ℕ)) : List ℕ := (run edges n (start n edges)).order

/-! ## §2. What the loop keeps. -/

/-- Every arrow joins two vertices. -/
def Within (n : ℕ) (edges : List (ℕ × ℕ)) : Prop := ∀ e ∈ edges, e.1 < n ∧ e.2 < n

/-- The arrows into `m` out of vertices that are not listed. -/
def openInto (edges : List (ℕ × ℕ)) (order : List ℕ) (m : ℕ) : ℕ :=
  edges.countP fun e => e.2 = m ∧ e.1 ∉ order

/-- The loop with the arrows into `todo` still to strike. -/
structure Striking (n : ℕ) (edges : List (ℕ × ℕ)) (todo : List ℕ) (w : Walk) : Prop where
  below : ∀ v ∈ w.order ++ w.queue, v < n
  nodup : (w.order ++ w.queue).Nodup
  degree : ∀ m, w.inDegree m = (openInto edges w.order m + todo.count m : ℕ)
  ready : ∀ m < n, w.inDegree m = 0 ↔ m ∈ w.order ++ w.queue

/-- Between two iterations. -/
structure Settled (n : ℕ) (edges : List (ℕ × ℕ)) (w : Walk) : Prop extends
    Striking n edges [] w where
  closed : ∀ l₁ m l₂, w.order = l₁ ++ m :: l₂ → ∀ a, (a, m) ∈ edges → a ∈ l₁

@[simp] theorem strike_order (w : Walk) (m : ℕ) : (strike w m).order = w.order := rfl

@[simp] theorem foldl_strike_order (todo : List ℕ) (w : Walk) :
    (todo.foldl strike w).order = w.order := by
  induction todo generalizing w with
  | nil => rfl
  | cons m todo ih => simp [ih]

theorem mem_targets {edges : List (ℕ × ℕ)} {v m : ℕ} : m ∈ targets edges v ↔ (v, m) ∈ edges := by
  unfold targets
  constructor
  · intro h
    obtain ⟨⟨a, b⟩, he, rfl⟩ := List.mem_map.mp h
    simp only [List.mem_filter, decide_eq_true_eq] at he
    rw [← he.2]
    exact he.1
  · intro h
    exact List.mem_map.mpr ⟨(v, m), by simpa using h, rfl⟩

theorem strike_striking {n : ℕ} {edges : List (ℕ × ℕ)} {m : ℕ} {todo : List ℕ} {w : Walk}
    (hm : m < n) (h : Striking n edges (m :: todo) w) : Striking n edges todo (strike w m) := by
  have hdeg : w.inDegree m = (openInto edges w.order m + todo.count m : ℕ) + 1 := by
    rw [h.degree m, List.count_cons_self]
    push_cast
    omega
  -- `m` still had an arrow to strike, so it was not on the queue
  have hout : m ∉ w.order ++ w.queue := by
    intro hin
    have hzero := (h.ready m hm).mpr hin
    omega
  constructor
  · intro v hv
    unfold strike at hv
    simp only at hv
    split at hv
    · rw [← List.append_assoc, List.mem_append] at hv
      rcases hv with hv | hv
      · exact h.below v hv
      · rw [List.mem_singleton.mp hv]
        exact hm
    · exact h.below v hv
  · unfold strike
    simp only
    split
    · rw [← List.append_assoc]
      exact List.nodup_append.mpr ⟨h.nodup, by simp, by
        intro a ha b hb
        rw [List.mem_singleton.mp hb]
        exact fun heq => hout (heq ▸ ha)⟩
    · exact h.nodup
  · intro k
    show Function.update w.inDegree m (w.inDegree m - 1) k = _
    by_cases hk : k = m
    · subst hk
      rw [Function.update_self, hdeg, strike_order]
      omega
    · rw [Function.update_of_ne hk, h.degree k, strike_order,
        List.count_cons_of_ne (fun heq => hk heq.symm)]
  · intro k hkn
    show Function.update w.inDegree m (w.inDegree m - 1) k = 0 ↔
      k ∈ w.order ++ (if w.inDegree m - 1 = 0 then w.queue ++ [m] else w.queue)
    by_cases hk : k = m
    · subst hk
      rw [Function.update_self]
      split
      · next hzero => simp [hzero]
      · next hne => simp [hne, hout]
    · rw [Function.update_of_ne hk, h.ready k hkn]
      split
      · simp [hk]
      · rfl

theorem foldl_strike_striking {n : ℕ} {edges : List (ℕ × ℕ)} :
    ∀ {todo : List ℕ} {w : Walk}, (∀ m ∈ todo, m < n) → Striking n edges todo w →
      Striking n edges [] (todo.foldl strike w)
  | [], _, _, h => h
  | m :: todo, w, hlt, h => by
    rw [List.foldl_cons]
    exact foldl_strike_striking (fun k hk => hlt k (List.mem_cons_of_mem m hk))
      (strike_striking (hlt m List.mem_cons_self) h)

/-- Listing `v` opens its arrows to be struck. -/
theorem openInto_append {edges : List (ℕ × ℕ)} {order : List ℕ} {v : ℕ} (hv : v ∉ order) (m : ℕ) :
    openInto edges order m = openInto edges (order ++ [v]) m + (targets edges v).count m := by
  unfold openInto targets
  induction edges with
  | nil => rfl
  | cons e edges ih =>
    obtain ⟨a, b⟩ := e
    by_cases ha : a = v
    · subst ha
      by_cases hb : b = m
      · subst hb
        simp [hv] at ih ⊢
        omega
      · simp [hb] at ih ⊢
        omega
    · by_cases hout : a ∈ order
      · simp [ha, hout] at ih ⊢
        omega
      · by_cases hb : b = m
        · simp [ha, hout, hb] at ih ⊢
          omega
        · simp [ha, hb] at ih ⊢
          omega

theorem visit_settled {n : ℕ} {edges : List (ℕ × ℕ)} {w : Walk} {v : ℕ} {rest : List ℕ}
    (hin : Within n edges) (h : Settled n edges w) (hq : w.queue = v :: rest) :
    Settled n edges (visit edges w v rest) := by
  have hmove : (w.order ++ [v]) ++ rest = w.order ++ w.queue := by
    rw [hq]
    simp
  have hvn : v < n := h.below v (by simp [hq])
  have hv : v ∉ w.order := by
    intro hmem
    have hnd := h.nodup
    rw [hq] at hnd
    exact (List.nodup_append.mp hnd).2.2 v hmem v List.mem_cons_self rfl
  have hzero : w.inDegree v = 0 := (h.ready v hvn).mpr (by simp [hq])
  refine ⟨foldl_strike_striking ?_ ⟨?_, ?_, ?_, ?_⟩, ?_⟩
  · intro m hm
    exact (hin (v, m) (mem_targets.mp hm)).2
  · intro u hu
    exact h.below u (hmove ▸ hu)
  · show ((w.order ++ [v]) ++ rest).Nodup
    rw [hmove]
    exact h.nodup
  · intro m
    rw [h.degree m, openInto_append hv m]
    simp
  · intro m hm
    show w.inDegree m = 0 ↔ m ∈ (w.order ++ [v]) ++ rest
    rw [hmove]
    exact h.ready m hm
  · intro l₁ m l₂ hsplit a ha
    unfold visit at hsplit
    rw [foldl_strike_order] at hsplit
    rcases List.eq_nil_or_concat l₂ with hnil | ⟨l, z, hcat⟩
    · -- `m` is the vertex just listed, and no arrow into it is open
      subst hnil
      obtain ⟨hpre, hlast⟩ := List.append_inj' hsplit rfl
      have hmv : m = v := (List.cons.inj hlast).1.symm
      subst hmv
      by_contra hnot
      have hpos : 0 < openInto edges w.order m := by
        unfold openInto
        refine List.countP_pos_iff.mpr ⟨(a, m), ha, ?_⟩
        rw [← hpre] at hnot
        simpa using hnot
      have := h.degree m
      simp at this
      omega
    · subst hcat
      have hcut : w.order ++ [v] = (l₁ ++ m :: l) ++ [z] := by simpa using hsplit
      obtain ⟨hpre, _⟩ := List.append_inj' hcut rfl
      exact h.closed l₁ m l hpre a ha

theorem run_settled {n : ℕ} {edges : List (ℕ × ℕ)} (hin : Within n edges) :
    ∀ (fuel : ℕ) {w : Walk}, Settled n edges w → Settled n edges (run edges fuel w)
  | 0, _, h => h
  | fuel + 1, w, h => by
    unfold run
    split
    · exact h
    · next v rest hq => exact run_settled hin fuel (visit_settled hin h hq)

theorem start_settled (n : ℕ) (edges : List (ℕ × ℕ)) : Settled n edges (start n edges) where
  below := by
    intro v hv
    simp [start] at hv
    exact hv.1
  nodup := by
    show (List.filter _ (List.range n)).Nodup
    exact List.nodup_range.filter _
  degree := by
    intro m
    simp [start, arrivals, openInto]
  ready := by
    intro m hm
    simp [start, hm]
  closed := by
    intro l₁ m l₂ hsplit
    exact absurd hsplit (by simp [start])

/-! ## §3. How it ends. -/

/-- Each iteration lists a vertex. -/
theorem run_length {edges : List (ℕ × ℕ)} :
    ∀ (fuel : ℕ) (w : Walk), (run edges fuel w).queue = [] ∨
      (run edges fuel w).order.length = w.order.length + fuel
  | 0, w => .inr rfl
  | fuel + 1, w => by
    unfold run
    split
    · next hq => exact .inl hq
    · next v rest hq =>
      rcases run_length fuel (visit edges w v rest) with hnil | hlen
      · exact .inl hnil
      · right
        rw [hlen]
        unfold visit
        simp
        omega

theorem length_le {n : ℕ} {l : List ℕ} (hnd : l.Nodup) (hlt : ∀ v ∈ l, v < n) : l.length ≤ n := by
  have hsub := (List.subperm_of_subset hnd (fun v hv => List.mem_range.mpr (hlt v hv))).length_le
  simpa using hsub

section Ends

variable {n : ℕ} {edges : List (ℕ × ℕ)} (hin : Within n edges)
include hin

theorem sort_settled : Settled n edges (run edges n (start n edges)) :=
  run_settled hin n (start_settled n edges)

/-- `n` iterations empty the queue. -/
theorem sort_queue : (run edges n (start n edges)).queue = [] := by
  have hset := sort_settled hin
  have hle := length_le hset.nodup hset.below
  rw [List.length_append] at hle
  rcases @run_length edges n (start n edges) with hnil | hlen
  · exact hnil
  · rw [hlen] at hle
    exact List.eq_nil_of_length_eq_zero (by omega)

theorem sort_nodup : (sort n edges).Nodup := by
  have hnd := (sort_settled hin).nodup
  rw [sort_queue hin, List.append_nil] at hnd
  exact hnd

theorem sort_lt {v : ℕ} (hv : v ∈ sort n edges) : v < n :=
  (sort_settled hin).below v (List.mem_append_left _ hv)

/-- A vertex that was not listed has an arrow from another one. -/
theorem exists_blocking {m : ℕ} (hm : m < n) (hout : m ∉ sort n edges) :
    ∃ a, a ∉ sort n edges ∧ (a, m) ∈ edges := by
  have hset := sort_settled hin
  have hne : ¬ (run edges n (start n edges)).inDegree m = 0 := by
    rw [hset.ready m hm, sort_queue hin, List.append_nil]
    exact hout
  have hpos : 0 < openInto edges (sort n edges) m := by
    have hdeg := hset.degree m
    unfold sort
    simp at hdeg
    omega
  obtain ⟨⟨a, b⟩, he, hab⟩ := List.countP_pos_iff.mp hpos
  simp only [decide_eq_true_eq] at hab
  exact ⟨a, hab.2, hab.1 ▸ he⟩

theorem sort_full (hlen : (sort n edges).length = n) {v : ℕ} (hv : v < n) : v ∈ sort n edges := by
  have hsub : (sort n edges).Subperm (List.range n) :=
    List.subperm_of_subset (sort_nodup hin) fun u hu => List.mem_range.mpr (sort_lt hin hu)
  have hperm := hsub.perm_of_length_le (by simp [hlen])
  exact hperm.mem_iff.mpr (List.mem_range.mpr hv)

/-- What leads to a listed vertex was listed before it. -/
theorem sort_forward {a b : ℕ} (h : TransGen (fun x y => (x, y) ∈ edges) a b) {l₁ l₂ : List ℕ}
    (hsplit : sort n edges = l₁ ++ b :: l₂) : a ∈ l₁ := by
  induction h generalizing l₁ l₂ with
  | single hab => exact (sort_settled hin).closed l₁ _ l₂ hsplit _ hab
  | @tail c d _ hcb ih =>
    have hc := (sort_settled hin).closed l₁ _ l₂ hsplit _ hcb
    obtain ⟨k₁, k₂, hk⟩ := List.append_of_mem hc
    have ha := @ih k₁ (k₂ ++ d :: l₂) (by rw [hsplit, hk, List.append_assoc]; rfl)
    rw [hk]
    exact List.mem_append_left _ ha

/-- The loop lists every vertex exactly when the arrows have no cycle. -/
theorem length_sort_iff :
    (sort n edges).length = n ↔ ∀ v, ¬ TransGen (fun x y => (x, y) ∈ edges) v v := by
  constructor
  · intro hlen v hcycle
    have hvn : v < n := by
      cases hcycle with
      | single h => exact (hin _ h).2
      | tail _ h => exact (hin _ h).2
    obtain ⟨l₁, l₂, hsplit⟩ := List.append_of_mem (sort_full hin hlen hvn)
    have hback := sort_forward hin hcycle hsplit
    have hnd := sort_nodup hin
    rw [hsplit] at hnd
    exact (List.nodup_append.mp hnd).2.2 v hback v List.mem_cons_self rfl
  · intro hacyclic
    by_contra hlen
    -- a vertex is missing, and an arrow enters it from a missing one, and so on for ever
    have hmissing : ∃ v, v < n ∧ v ∉ sort n edges := by
      by_contra hall
      have hsub : (List.range n).Subperm (sort n edges) :=
        List.subperm_of_subset List.nodup_range fun v hv => by
          by_contra hout
          exact hall ⟨v, List.mem_range.mp hv, hout⟩
      have hge := hsub.length_le
      have hle := length_le (sort_nodup hin) fun v hv => sort_lt hin hv
      simp at hge
      omega
    let before : Fin n → Fin n → Prop := fun a b => TransGen (fun x y => (x, y) ∈ edges) a.1 b.1
    have htrans : IsTrans (Fin n) before := ⟨fun _ _ _ hab hbc => hab.trans hbc⟩
    have hirrefl : Std.Irrefl before := ⟨fun v hv => hacyclic v.1 hv⟩
    have hwf : WellFounded before := Finite.wellFounded_of_trans_of_irrefl before
    obtain ⟨v, hvn, hvout⟩ := hmissing
    obtain ⟨m, hm, hleast⟩ := hwf.has_min {u | u.1 ∉ sort n edges} ⟨⟨v, hvn⟩, hvout⟩
    obtain ⟨a, haout, ham⟩ := exists_blocking hin m.2 hm
    exact hleast ⟨a, (hin _ ham).1⟩ haout (TransGen.single ham)

/-! ## §4. The last value. -/

/-- The value that is left when each listed vertex overwrites it with its own, if it has one. -/
def lastValue {α : Type} (value : ℕ → Option α) (order : List ℕ) : Option α :=
  order.foldl (fun held v => (value v).or held) none

omit hin in
theorem lastValue_snoc {α : Type} (value : ℕ → Option α) (order : List ℕ) (v : ℕ) :
    lastValue value (order ++ [v]) = (value v).or (lastValue value order) := by
  unfold lastValue
  rw [List.foldl_append]
  rfl

omit hin in
theorem lastValue_none {α : Type} {value : ℕ → Option α} {order : List ℕ}
    (h : lastValue value order = none) : ∀ v ∈ order, value v = none := by
  induction order using List.reverseRecOn with
  | nil => simp
  | append_singleton order v ih =>
    rw [lastValue_snoc, Option.or_eq_none_iff] at h
    intro u hu
    rcases List.mem_append.mp hu with hold | hnew
    · exact ih h.2 u hold
    · rw [List.mem_singleton.mp hnew]
      exact h.1

omit hin in
/-- The value comes from a vertex after which none has one. -/
theorem lastValue_some {α : Type} {value : ℕ → Option α} {order : List ℕ} {x : α}
    (h : lastValue value order = some x) :
    ∃ l₁ k l₂, order = l₁ ++ k :: l₂ ∧ value k = some x ∧ ∀ v ∈ l₂, value v = none := by
  induction order using List.reverseRecOn with
  | nil => cases h
  | append_singleton order v ih =>
    rw [lastValue_snoc] at h
    cases hv : value v with
    | some y =>
      rw [hv] at h
      exact ⟨order, v, [], by simp, hv.trans h, by simp⟩
    | none =>
      rw [hv, Option.none_or] at h
      obtain ⟨l₁, k, l₂, hsplit, hk, hlater⟩ := ih h
      refine ⟨l₁, k, l₂ ++ [v], by rw [hsplit]; simp, hk, fun u hu => ?_⟩
      rcases List.mem_append.mp hu with hold | hnew
      · exact hlater u hold
      · rw [List.mem_singleton.mp hnew]
        exact hv

end Ends

/-! ## §5. A list as a chain of arrows. -/

section Chain

variable {α : Type}

/-- The neighbours of a list. -/
def neighbours (l : List α) : List (α × α) := l.zip l.tail

@[simp] theorem neighbours_cons_cons (a b : α) (l : List α) :
    neighbours (a :: b :: l) = (a, b) :: neighbours (b :: l) := rfl

theorem sublist_of_mem_neighbours {l : List α} {a b : α} (h : (a, b) ∈ neighbours l) :
    [a, b].Sublist l := by
  induction l with
  | nil => simp [neighbours] at h
  | cons x l ih =>
    cases l with
    | nil => simp [neighbours] at h
    | cons y l =>
      rw [neighbours_cons_cons, List.mem_cons] at h
      rcases h with heq | hmem
      · rw [Prod.mk.injEq] at heq
        rw [heq.1, heq.2]
        simp
      · exact (ih hmem).cons x

/-- A later element is reached from an earlier one by going from neighbour to neighbour. -/
theorem reach_of_sublist {l : List α} {a b : α} (h : [a, b].Sublist l) :
    TransGen (fun x y => (x, y) ∈ neighbours l) a b := by
  induction l generalizing a b with
  | nil => simp at h
  | cons x l ih =>
    cases l with
    | nil =>
      have hlen := h.length_le
      simp at hlen
    | cons y l =>
      have hgrow : ∀ {c d : α}, TransGen (fun z t => (z, t) ∈ neighbours (y :: l)) c d →
          TransGen (fun z t => (z, t) ∈ neighbours (x :: y :: l)) c d := by
        intro c d hcd
        refine TransGen.mono ?_ c d hcd
        intro z t hzt
        rw [neighbours_cons_cons]
        exact List.mem_cons_of_mem _ hzt
      have hfirst : TransGen (fun z t => (z, t) ∈ neighbours (x :: y :: l)) x y :=
        TransGen.single (by simp)
      cases h with
      | cons _ hrest => exact hgrow (ih hrest)
      | cons_cons _ hrest =>
        have hb : b ∈ y :: l := List.singleton_sublist.mp hrest
        rcases List.mem_cons.mp hb with heq | hmem
        · rw [heq]
          exact hfirst
        · have hyb : [y, b].Sublist (y :: l) :=
            List.Sublist.cons_cons y (List.singleton_sublist.mpr hmem)
          exact hfirst.trans (hgrow (ih hyb))

/-- In a list that is sorted by an asymmetric relation, related elements stand in that order. -/
theorem sublist_of_rel {R : α → α → Prop} (hasymm : ∀ a b, R a b → ¬ R b a) {l : List α}
    (hsorted : l.Pairwise R) {a b : α} (ha : a ∈ l) (hb : b ∈ l) (hab : R a b) :
    [a, b].Sublist l := by
  induction l with
  | nil => simp at ha
  | cons x l ih =>
    have hx := List.pairwise_cons.mp hsorted
    rcases List.mem_cons.mp ha with heq | hmem
    · subst heq
      rcases List.mem_cons.mp hb with heq' | hmem'
      · subst heq'
        exact absurd hab (hasymm _ _ hab)
      · exact List.Sublist.cons_cons a (List.singleton_sublist.mpr hmem')
    · rcases List.mem_cons.mp hb with heq' | hmem'
      · subst heq'
        exact absurd (hx.1 a hmem) (hasymm _ _ hab)
      · exact (ih hx.2 hmem hmem').cons x

theorem rel_of_neighbours {R : α → α → Prop} {l : List α} (hsorted : l.Pairwise R) {a b : α}
    (h : (a, b) ∈ neighbours l) : a ∈ l ∧ b ∈ l ∧ R a b := by
  have hsub := sublist_of_mem_neighbours h
  have hpair := hsorted.sublist hsub
  refine ⟨hsub.subset (by simp), hsub.subset (by simp), ?_⟩
  simpa using hpair

/-- Two elements of a list without repetition stand in one order only. -/
theorem not_sublist_swap {l : List α} (hnd : l.Nodup) {a b : α}
    (h : [a, b].Sublist l) : ¬ [b, a].Sublist l := by
  induction l with
  | nil => simp at h
  | cons x l ih =>
    have hx := List.nodup_cons.mp hnd
    intro hback
    cases h with
    | cons _ hab =>
      cases hback with
      | cons _ hba => exact ih hx.2 hab hba
      | cons_cons _ ha => exact hx.1 (hab.subset (by simp))
    | cons_cons _ hb =>
      cases hback with
      | cons _ hba => exact hx.1 (hba.subset (by simp))
      | cons_cons _ ha => exact hx.1 (List.singleton_sublist.mp ha)

theorem sublist_or_sublist {l : List α} {a b : α} (ha : a ∈ l) (hb : b ∈ l) (hne : a ≠ b) :
    [a, b].Sublist l ∨ [b, a].Sublist l := by
  induction l with
  | nil => simp at ha
  | cons x l ih =>
    rcases List.mem_cons.mp ha with heq | hmem
    · subst heq
      have hbl : b ∈ l := (List.mem_cons.mp hb).resolve_left (Ne.symm hne)
      exact .inl (List.Sublist.cons_cons a (List.singleton_sublist.mpr hbl))
    · rcases List.mem_cons.mp hb with heq' | hmem'
      · subst heq'
        exact .inr (List.Sublist.cons_cons b (List.singleton_sublist.mpr hmem))
      · rcases ih hmem hmem' with h | h
        · exact .inl (h.cons x)
        · exact .inr (h.cons x)

end Chain

end Kargain.Kahn
