/-
  Kargain.Base.Dialogue — work that asks the outside.

  A `Dialogue` is a piece of work that puts one request after another and
  goes on with the reply to each.  The outside is a state that replies to
  requests and in which things happen of themselves; the work may be
  given up between any two requests.  `Dialogue.step` is the transition
  system of that: one label for a reply, one for a happening, one for a
  beginning and one for a giving up.

  `Safe` is what the work has to be shown for an invariant of the outside
  to hold at every moment; the rules of `Holds`, and of `Goes` for work
  that may throw, follow the text of the work.  `Fair` is the condition
  on the steps under which it is shown.

  Nothing in this file names a service.
-/
import Mathlib
import Kargain.Base.Runs

namespace Kargain

/-- Work that puts requests of kind `Q`, the reply to `q` being of type `R q`. -/
inductive Dialogue (Q : Type) (R : Q → Type) (α : Type) : Type
  | done (a : α)
  | ask (q : Q) (next : R q → Dialogue Q R α)

namespace Dialogue

variable {Q : Type} {R : Q → Type} {α β : Type}

def bind : Dialogue Q R α → (α → Dialogue Q R β) → Dialogue Q R β
  | .done a, f => f a
  | .ask q next, f => .ask q fun r => bind (next r) f

instance : Monad (Dialogue Q R) where
  pure := .done
  bind := bind

/-- One request. -/
def request (q : Q) : Dialogue Q R (R q) := .ask q .done

end Dialogue

/-- The outside of some work: what it becomes by a reply, and by what happens of
    itself.  `none` is what it cannot do. -/
structure Outside (σ ε Q : Type) (R : Q → Type) where
  answer : σ → (q : Q) → R q → Option σ
  happen : σ → ε → Option σ

/-- The outside, and the work under way. -/
structure Node (σ Q : Type) (R : Q → Type) (α : Type) where
  world : σ
  work : Option (Dialogue Q R α)

inductive Turn (κ ε Q : Type) (R : Q → Type) : Type
  | begins (c : κ)
  | replies (q : Q) (r : R q)
  | happens (e : ε)
  | givesUp

/-- The steps that may be taken, as a condition on each. -/
structure Fair (σ κ ε Q : Type) (R : Q → Type) where
  begins : σ → κ → Prop
  replies : σ → (q : Q) → R q → Prop
  happens : σ → ε → Prop

/-- A turn the condition allows. -/
def Fair.allows {σ κ ε Q : Type} {R : Q → Type} {α : Type} (F : Fair σ κ ε Q R)
    (s : Node σ Q R α) : Turn κ ε Q R → Prop
  | .begins c => F.begins s.world c
  | .replies q r => F.replies s.world q r
  | .happens e => F.happens s.world e
  | .givesUp => True

namespace Dialogue

variable {σ κ ε Q : Type} {R : Q → Type} {α β : Type}

/-- One step: `enter` is what a beginning does to the outside, `body` the work begun. -/
def step [DecidableEq Q] (O : Outside σ ε Q R) (enter : σ → κ → σ) (body : κ → Dialogue Q R α)
    (s : Node σ Q R α) : Turn κ ε Q R → Except Unit (Node σ Q R α)
  | .begins c =>
    match s.work with
    | some (.ask _ _) => .error ()
    | _ => .ok ⟨enter s.world c, some (body c)⟩
  | .replies q r =>
    match s.work with
    | some (.ask q' next) =>
      if h : q = q' then
        match O.answer s.world q r with
        | some w => .ok ⟨w, some (next (h ▸ r))⟩
        | none => .error ()
      else .error ()
    | _ => .error ()
  | .happens e =>
    match O.happen s.world e with
    | some w => .ok { s with world := w }
    | none => .error ()
  | .givesUp => .ok { s with work := none }

section Steps

variable [DecidableEq Q] {O : Outside σ ε Q R} {enter : σ → κ → σ} {body : κ → Dialogue Q R α}
  {s s' : Node σ Q R α}

theorem step_begins {c : κ} (h : step O enter body s (.begins c) = .ok s') :
    s' = ⟨enter s.world c, some (body c)⟩ := by
  simp only [step] at h
  split at h
  · cases h
  · cases h
    rfl

theorem step_replies {q : Q} {r : R q} (h : step O enter body s (.replies q r) = .ok s') :
    ∃ next w, s.work = some (.ask q next) ∧ O.answer s.world q r = some w ∧
      s' = ⟨w, some (next r)⟩ := by
  simp only [step] at h
  split at h
  · rename_i q' next hask
    split at h
    · rename_i hq
      subst hq
      split at h
      · rename_i w hw
        cases h
        exact ⟨next, w, hask, hw, rfl⟩
      · cases h
    · cases h
  · cases h

theorem step_happens {e : ε} (h : step O enter body s (.happens e) = .ok s') :
    ∃ w, O.happen s.world e = some w ∧ s' = { s with world := w } := by
  simp only [step] at h
  split at h
  · rename_i w hw
    cases h
    exact ⟨w, hw, rfl⟩
  · cases h

end Steps

section Rules

variable (O : Outside σ ε Q R) (F : Fair σ κ ε Q R) (Inv : σ → Prop)

/-- One thing happens outside, and the condition allows it. -/
def Drifts (w u : σ) : Prop := ∃ e, F.happens w e ∧ O.happen w e = some u

/-- What holds of the outside while a request waits for its reply. -/
def Stable (P : σ → Prop) : Prop := ∀ w u, Inv w → Drifts O F w u → P w → P u

/-- Whatever the replies and happenings, `Inv` holds after each of them, and `Post` at the end. -/
def Safe : Dialogue Q R α → (α → σ → Prop) → σ → Prop
  | .done a, Post => Post a
  | .ask q next, Post => fun w => ∀ u, Relation.ReflTransGen (Drifts O F) w u → ∀ r v,
      F.replies u q r → O.answer u q r = some v → Inv v ∧ Safe (next r) Post v

/-- From an outside with `Inv` and `P`, the work `d` is safe and ends with `Post`. -/
def Holds (P : σ → Prop) (d : Dialogue Q R α) (Post : α → σ → Prop) : Prop :=
  ∀ w, Inv w → P w → Safe O F Inv d (fun a u => Inv u ∧ Post a u) w

variable {O F Inv}

theorem Stable.and {P P' : σ → Prop} (h : Stable O F Inv P) (h' : Stable O F Inv P') :
    Stable O F Inv (fun w => P w ∧ P' w) :=
  fun w u hi hd hp => ⟨h w u hi hd hp.1, h' w u hi hd hp.2⟩

theorem Stable.const {p : Prop} : Stable O F Inv (fun _ => p) := fun _ _ _ _ hp => hp

theorem Safe.mono {d : Dialogue Q R α} {Post Post' : α → σ → Prop}
    (himp : ∀ a w, Post a w → Post' a w) {w : σ} (h : Safe O F Inv d Post w) :
    Safe O F Inv d Post' w := by
  induction d generalizing w with
  | done a => exact himp a w h
  | ask q next ih =>
    intro u hu r v hf ha
    obtain ⟨hi, hs⟩ := h u hu r v hf ha
    exact ⟨hi, ih r hs⟩

theorem Safe.bind {d : Dialogue Q R α} {f : α → Dialogue Q R β} {Post : β → σ → Prop} {w : σ}
    (h : Safe O F Inv d (fun a u => Safe O F Inv (f a) Post u) w) :
    Safe O F Inv (d >>= f) Post w := by
  induction d generalizing w with
  | done a => exact h
  | ask q next ih =>
    intro u hu r v hf ha
    obtain ⟨hi, hs⟩ := h u hu r v hf ha
    exact ⟨hi, ih r hs⟩

/-- A happening keeps the work that waits safe. -/
theorem Safe.drift {d : Dialogue Q R α} {w u : σ} (hd : Drifts O F w u)
    (h : Safe O F Inv d (fun _ _ => True) w) : Safe O F Inv d (fun _ _ => True) u := by
  cases d with
  | done a => trivial
  | ask q next =>
    intro v hv
    exact h v (Relation.ReflTransGen.head hd hv)

theorem Holds.pure {P : σ → Prop} {a : α} {Post : α → σ → Prop} (h : ∀ w, P w → Post a w) :
    Holds O F Inv P (Pure.pure a) Post := fun w hi hp => ⟨hi, h w hp⟩

theorem Holds.bind {P : σ → Prop} {d : Dialogue Q R α} {f : α → Dialogue Q R β}
    {M : α → σ → Prop} {Post : β → σ → Prop} (hd : Holds O F Inv P d M)
    (hf : ∀ a, Holds O F Inv (M a) (f a) Post) : Holds O F Inv P (d >>= f) Post := by
  intro w hi hp
  apply Safe.bind
  exact Safe.mono (fun a u h => hf a u h.1 h.2) (hd w hi hp)

theorem Holds.imp {P P' : σ → Prop} {d : Dialogue Q R α} {Post Post' : α → σ → Prop}
    (hd : Holds O F Inv P d Post) (hpre : ∀ w, P' w → P w) (hpost : ∀ a w, Post a w → Post' a w) :
    Holds O F Inv P' d Post' :=
  fun w hi hp => Safe.mono (fun a u h => ⟨h.1, hpost a u h.2⟩) (hd w hi (hpre w hp))

theorem Holds.pre {P P' : σ → Prop} {d : Dialogue Q R α} {Post : α → σ → Prop}
    (hd : Holds O F Inv P d Post) (hpre : ∀ w, P' w → P w) : Holds O F Inv P' d Post :=
  hd.imp hpre fun _ _ h => h

/-- What is known beforehand may be used in the proof. -/
theorem Holds.given {P : σ → Prop} {p : Prop} {d : Dialogue Q R α} {Post : α → σ → Prop}
    (hp : ∀ w, P w → p) (hd : p → Holds O F Inv P d Post) : Holds O F Inv P d Post :=
  fun w hi hw => hd (hp w hw) w hi hw

theorem Holds.ite {P : σ → Prop} {c : Prop} [Decidable c] {d e : Dialogue Q R α}
    {Post : α → σ → Prop} (hd : c → Holds O F Inv P d Post) (he : ¬ c → Holds O F Inv P e Post) :
    Holds O F Inv P (if c then d else e) Post := by
  split
  · rename_i hc
    exact hd hc
  · rename_i hc
    exact he hc

/-- The rule for one request: `P` outlives what happens while it waits. -/
theorem Holds.request {P : σ → Prop} {q : Q} {Post : R q → σ → Prop}
    (hinv : Stable O F Inv Inv) (hstable : Stable O F Inv P)
    (h : ∀ w r v, Inv w → P w → F.replies w q r → O.answer w q r = some v → Inv v ∧ Post r v) :
    Holds O F Inv P (Dialogue.request q) Post := by
  intro w hi hp u hu
  have hkept : Inv u ∧ P u := by
    induction hu with
    | refl => exact ⟨hi, hp⟩
    | tail _ hd ih => exact ⟨hinv _ _ ih.1 hd ih.1, hstable _ _ ih.1 hd ih.2⟩
  intro r v hf ha
  obtain ⟨hv, hpost⟩ := h u r v hkept.1 hkept.2 hf ha
  exact ⟨hv, hv, hpost⟩

section Throwing

variable {τ : Type} {P P' : σ → Prop} {x : ExceptT τ (Dialogue Q R) α}
  {f : α → ExceptT τ (Dialogue Q R) β} {Post M : α → σ → Prop} {Last : β → σ → Prop}
  {E E' : τ → σ → Prop}

variable (O F Inv) in
/-- The rule for work that may throw: it ends with a value and `Post`, or throws with `E`. -/
def Goes (P : σ → Prop) (x : ExceptT τ (Dialogue Q R) α) (Post : α → σ → Prop)
    (E : τ → σ → Prop) : Prop :=
  Holds O F Inv P x.run fun r w =>
    match r with
    | .ok a => Post a w
    | .error e => E e w

theorem Goes.pure {a : α} (h : ∀ w, P w → Post a w) :
    Goes O F Inv P (Pure.pure a : ExceptT τ (Dialogue Q R) α) Post E :=
  fun w hi hp => ⟨hi, h w hp⟩

theorem Goes.throw {e : τ} (h : ∀ w, P w → E e w) :
    Goes O F Inv P (MonadExcept.throw e : ExceptT τ (Dialogue Q R) α) Post E :=
  fun w hi hp => ⟨hi, h w hp⟩

theorem Goes.bind (hx : Goes O F Inv P x M E) (hf : ∀ a, Goes O F Inv (M a) (f a) Last E) :
    Goes O F Inv P (x >>= f) Last E := by
  apply Holds.bind hx
  intro r
  cases r with
  | ok a => exact hf a
  | error e =>
    apply Holds.pure
    intro w h
    exact h

theorem Goes.tryCatch {g : τ → ExceptT τ (Dialogue Q R) α} (hx : Goes O F Inv P x Post E)
    (hg : ∀ e, Goes O F Inv (E e) (g e) Post E') :
    Goes O F Inv P (MonadExcept.tryCatch x g) Post E' := by
  apply Holds.bind hx
  intro r
  cases r with
  | ok a =>
    apply Holds.pure
    intro w h
    exact h
  | error e => exact hg e

/-- One request, or other work that cannot throw by itself, read as work that may. -/
theorem Goes.mk {d : Dialogue Q R (Except τ α)} (hd : Holds O F Inv P d fun r w =>
    match r with
    | .ok a => Post a w
    | .error e => E e w) : Goes O F Inv P (ExceptT.mk d) Post E := hd

theorem Goes.lift {d : Dialogue Q R α} (hd : Holds O F Inv P d Post) :
    Goes O F Inv P (ExceptT.lift d) Post E := by
  apply Holds.bind hd
  intro a
  apply Holds.pure
  intro w h
  exact h

/-- A value that is there already, or an error. -/
theorem Goes.ofExcept {r : Except τ α} (hE : ∀ e w, P w → E e w) :
    Goes O F Inv P (ExceptT.mk (Pure.pure r) : ExceptT τ (Dialogue Q R) α)
      (fun a w => r = .ok a ∧ P w) E := by
  apply Holds.pure
  intro w hp
  cases r with
  | ok a => exact ⟨rfl, hp⟩
  | error e => exact hE e w hp

theorem Goes.imp (hx : Goes O F Inv P x M E) (hpre : ∀ w, P' w → P w)
    (hpost : ∀ a w, M a w → Post a w) (herr : ∀ e w, E e w → E' e w) :
    Goes O F Inv P' x Post E' := by
  apply Holds.imp hx hpre
  intro r w h
  cases r with
  | ok a => exact hpost a w h
  | error e => exact herr e w h

theorem Goes.pre (hx : Goes O F Inv P x Post E) (hpre : ∀ w, P' w → P w) :
    Goes O F Inv P' x Post E := Holds.pre hx hpre

theorem Goes.given {p : Prop} (hp : ∀ w, P w → p) (hx : p → Goes O F Inv P x Post E) :
    Goes O F Inv P x Post E := Holds.given hp hx

theorem Goes.ite {c : Prop} [Decidable c] {y : ExceptT τ (Dialogue Q R) α}
    (hx : c → Goes O F Inv P x Post E) (hy : ¬ c → Goes O F Inv P y Post E) :
    Goes O F Inv P (if c then x else y) Post E := by
  split
  · rename_i hc
    exact hx hc
  · rename_i hc
    exact hy hc

end Throwing

variable [DecidableEq Q] {enter : σ → κ → σ} {body : κ → Dialogue Q R α}

/-- What every node of a run meets. -/
def NodeInv (O : Outside σ ε Q R) (F : Fair σ κ ε Q R) (Inv : σ → Prop) (s : Node σ Q R α) : Prop :=
  Inv s.world ∧ ∀ d, s.work = some d → Safe O F Inv d (fun _ _ => True) s.world

theorem NodeInv.step {Entered : σ → Prop} (hinv : Stable O F Inv Inv)
    (hbegins : ∀ w c, Inv w → F.begins w c → Inv (enter w c) ∧ Entered (enter w c))
    (hbody : ∀ c, Holds O F Inv Entered (body c) (fun _ _ => True))
    {s s' : Node σ Q R α} {a : Turn κ ε Q R} (hs : NodeInv O F Inv s) (hfair : F.allows s a)
    (h : step O enter body s a = .ok s') : NodeInv O F Inv s' := by
  obtain ⟨hi, hwork⟩ := hs
  cases a with
  | begins c =>
    rw [step_begins h]
    obtain ⟨hin, hentered⟩ := hbegins _ c hi hfair
    refine ⟨hin, ?_⟩
    intro d hd
    obtain rfl : body c = d := by simpa using hd
    exact Safe.mono (fun _ _ _ => trivial) (hbody c _ hin hentered)
  | replies q r =>
    obtain ⟨next, w, hask, hw, rfl⟩ := step_replies h
    obtain ⟨hiw, hrest⟩ := hwork _ hask s.world .refl r w hfair hw
    refine ⟨hiw, ?_⟩
    intro d hd
    obtain rfl : next r = d := by simpa using hd
    exact hrest
  | happens e =>
    obtain ⟨w, hw, rfl⟩ := step_happens h
    have hd : Drifts O F s.world w := ⟨e, hfair, hw⟩
    refine ⟨hinv _ _ hi hd hi, ?_⟩
    intro d hwd
    exact (hwork d hwd).drift hd
  | givesUp =>
    cases h
    refine ⟨hi, ?_⟩
    intro d hd
    cases hd

/-- **The rule for runs.**  An invariant that outlives happenings and beginnings, and that the
    work keeps, holds after every run whose turns are allowed. -/
theorem run_safe {Entered : σ → Prop} (hinv : Stable O F Inv Inv)
    (hbegins : ∀ w c, Inv w → F.begins w c → Inv (enter w c) ∧ Entered (enter w c))
    (hbody : ∀ c, Holds O F Inv Entered (body c) (fun _ _ => True))
    {s s' : Node σ Q R α} {as : List (Turn κ ε Q R)} (h0 : Inv s.world) (hidle : s.work = none)
    (hok : Along (step O enter body) F.allows s as) (hr : run (step O enter body) s as = .ok s') :
    Inv s'.world := by
  have hstart : NodeInv O F Inv s := by
    refine ⟨h0, ?_⟩
    intro d hd
    rw [hidle] at hd
    cases hd
  have hend : NodeInv O F Inv s' := run_invariant_along
    (fun _ _ _ hs hf h => NodeInv.step hinv hbegins hbody hs hf h) hstart hok hr
  exact hend.1

end Rules

/-! ### An outside that has one reply to each request -/

section Eval

variable (reply : σ → (q : Q) → R q × σ)

/-- The work done, each request answered by `reply`. -/
def eval : Dialogue Q R α → σ → α × σ
  | .done a, w => (a, w)
  | .ask q next, w => eval (next (reply w q).1) (reply w q).2

theorem eval_bind (d : Dialogue Q R α) (f : α → Dialogue Q R β) (w : σ) :
    eval reply (d >>= f) w = eval reply (f (eval reply d w).1) (eval reply d w).2 := by
  induction d generalizing w with
  | done a => rfl
  | ask q next ih => exact ih _ _

variable {τ : Type}

/-- Work that may throw, done. -/
def evalT (x : ExceptT τ (Dialogue Q R) α) (w : σ) : Except τ α × σ := eval reply x.run w

@[simp] theorem evalT_pure (a : α) (w : σ) :
    evalT reply (Pure.pure a : ExceptT τ (Dialogue Q R) α) w = (.ok a, w) := rfl

/-- Work that goes well goes on. -/
theorem evalT_bind_ok {x : ExceptT τ (Dialogue Q R) α} {f : α → ExceptT τ (Dialogue Q R) β} {a : α}
    {w u : σ} (h : evalT reply x w = (.ok a, u)) : evalT reply (x >>= f) w = evalT reply (f a) u := by
  show eval reply (x.run >>= _) w = _
  rw [eval_bind]
  have h : eval reply x.run w = (.ok a, u) := h
  rw [h]
  rfl

theorem evalT_tryCatch_ok {x : ExceptT τ (Dialogue Q R) α} {g : τ → ExceptT τ (Dialogue Q R) α}
    {a : α} {w u : σ} (h : evalT reply x w = (.ok a, u)) :
    evalT reply (MonadExcept.tryCatch x g) w = (.ok a, u) := by
  show eval reply (x.run >>= _) w = _
  rw [eval_bind]
  have h : eval reply x.run w = (.ok a, u) := h
  rw [h]
  rfl

theorem evalT_mk (r : Except τ α) (w : σ) :
    evalT reply (ExceptT.mk (Pure.pure r) : ExceptT τ (Dialogue Q R) α) w = (r, w) := rfl

end Eval

end Dialogue

end Kargain
