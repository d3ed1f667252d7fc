/-
  Kargain.Base.Panics — functions that return, refuse, or panic.

  A Rust function of type `Result<T, E>` has three outcomes: a value, an
  error of `E`, and a panic, which nobody catches.  An index outside a
  slice panics under every build profile; an addition that does not fit
  panics where overflow is checked and wraps where it is not.

  `Safe` is "no panic"; its lemmas follow the shape of a function.
  Nothing in this file names a program.
-/
import Mathlib
import Kargain.Base.Revert

namespace Kargain.Panics

/-! ## §1. Outcomes. -/

inductive Fault (ε : Type)
  | panicked
  | refused (e : ε)
deriving DecidableEq

abbrev Eval (ε α : Type) := Except (Fault ε) α

variable {ε α β : Type}

/-- Returns or refuses. -/
def Safe (x : Eval ε α) : Prop := x ≠ .error .panicked

theorem safe_ok (a : α) : Safe (.ok a : Eval ε α) := by
  intro h
  cases h

theorem safe_pure (a : α) : Safe (pure a : Eval ε α) := safe_ok a

theorem safe_refused (e : ε) : Safe (.error (.refused e) : Eval ε α) := by
  intro h
  cases h

theorem Safe.bind {x : Eval ε α} {f : α → Eval ε β} (hx : Safe x)
    (hf : ∀ a, x = .ok a → Safe (f a)) : Safe (x >>= f) := by
  cases x with
  | ok a => exact hf a rfl
  | error e =>
    intro h
    apply hx
    cases h
    rfl

theorem safe_revertIf {c : Prop} [Decidable c] {e : ε} :
    Safe (revertIf c (.refused e) : Eval ε Unit) := by
  unfold revertIf
  split
  · exact safe_refused e
  · exact safe_ok ()

theorem safe_orRevert {o : Option α} {e : ε} : Safe (orRevert o (.refused e) : Eval ε α) := by
  cases o with
  | some a => exact safe_ok a
  | none => exact safe_refused e

theorem safe_ite {c : Prop} [Decidable c] {x y : Eval ε α} (hx : c → Safe x) (hy : ¬ c → Safe y) :
    Safe (if c then x else y) := by
  split
  · rename_i h
    exact hx h
  · rename_i h
    exact hy h

/-! ## §2. Slices. -/

/-- `data[i..j]`. -/
def slice (data : List α) (i j : ℕ) : Eval ε (List α) :=
  if i ≤ j ∧ j ≤ data.length then .ok ((data.drop i).take (j - i)) else .error .panicked

theorem slice_ok {data part : List α} {i j : ℕ} :
    (slice data i j : Eval ε _) = .ok part ↔
      (i ≤ j ∧ j ≤ data.length) ∧ (data.drop i).take (j - i) = part := by
  unfold slice
  split <;> simp [*]

theorem slice_eq {data : List α} {i j : ℕ} (hij : i ≤ j) (hj : j ≤ data.length) :
    (slice data i j : Eval ε _) = .ok ((data.drop i).take (j - i)) :=
  if_pos ⟨hij, hj⟩

theorem slice_panics {data : List α} {i j : ℕ} (h : j < i) :
    (slice data i j : Eval ε (List α)) = .error .panicked :=
  if_neg fun hc => absurd hc.1 (Nat.not_le.mpr h)

theorem length_of_slice {data part : List α} {i j : ℕ}
    (h : (slice data i j : Eval ε _) = .ok part) : part.length = j - i := by
  obtain ⟨⟨hij, hj⟩, rfl⟩ := slice_ok.mp h
  rw [List.length_take, List.length_drop]
  omega

/-! ## §3. Machine integers. -/

/-- How a crate was built: does an addition that does not fit panic? -/
structure Profile where
  overflowChecks : Bool

/-- `a + b` on `usize`, which has 64 bits. -/
def addUsize (b : Profile) (m n : ℕ) : Eval ε ℕ :=
  if m + n < 2 ^ 64 then .ok (m + n)
  else if b.overflowChecks = true then .error .panicked
  else .ok ((m + n) % 2 ^ 64)

theorem addUsize_fits {b : Profile} {m n : ℕ} (h : m + n < 2 ^ 64) :
    (addUsize b m n : Eval ε ℕ) = .ok (m + n) := if_pos h

/-- `usize::checked_add`. -/
def checkedAddUsize (m n : ℕ) : Option ℕ := if m + n < 2 ^ 64 then some (m + n) else none

/-- `a * b` on `u128`. -/
def mulU128 (b : Profile) (m n : ℕ) : Eval ε ℕ :=
  if m * n < 2 ^ 128 then .ok (m * n)
  else if b.overflowChecks = true then .error .panicked
  else .ok (m * n % 2 ^ 128)

theorem mulU128_fits {b : Profile} {m n : ℕ} (h : m * n < 2 ^ 128) :
    (mulU128 b m n : Eval ε ℕ) = .ok (m * n) := if_pos h

/-- `a / b`. -/
def divide (m n : ℕ) : Eval ε ℕ := if n = 0 then .error .panicked else .ok (m / n)

theorem divide_eq {m n : ℕ} (h : n ≠ 0) : (divide m n : Eval ε ℕ) = .ok (m / n) := if_neg h

/-- `-a` on `i32`. -/
def negI32 (b : Profile) (m : ℤ) : Eval ε ℤ :=
  if m ≠ -2 ^ 31 then .ok (-m)
  else if b.overflowChecks = true then .error .panicked
  else .ok m

theorem negI32_eq {b : Profile} {m : ℤ} (h : m ≠ -2 ^ 31) : (negI32 b m : Eval ε ℤ) = .ok (-m) :=
  if_pos h

/-- A number read as signed, of `w` bits. -/
def signed (w n : ℕ) : ℤ := if n < 2 ^ (w - 1) then n else n - 2 ^ w

theorem ok_bind (a : α) (f : α → Eval ε β) : ((.ok a : Eval ε α) >>= f) = f a := rfl

end Kargain.Panics
