/-
  Kargain.Base.Radix — a number moved from one base to another, digit by digit.

  `mulAdd b m carry ds` is the inner loop of every such program: the digits
  of a number in base `b`, least significant first, times `m` plus `carry`.
  The outer loop feeds it the digits of the other base.  `toBase_ofBase`:
  a list of digits that starts with none of its zeros survives the way
  there and back.
-/
import Mathlib

namespace Kargain.Radix

/-! ## §1. One digit. -/

/-- The digits of `m` times a number, plus `carry`; what is carried out of the last digit is
    written out behind it. -/
def mulAdd (b m : ℕ) : ℕ → List ℕ → List ℕ
  | carry, [] => Nat.digits b carry
  | carry, d :: ds => (carry + m * d) % b :: mulAdd b m ((carry + m * d) / b) ds

theorem mulAdd_digits {b m : ℕ} (hb : 1 < b) (hm : 0 < m) (n carry : ℕ) :
    mulAdd b m carry (Nat.digits b n) = Nat.digits b (m * n + carry) := by
  induction n using Nat.strong_induction_on generalizing carry with
  | _ n ih =>
    by_cases hn : n = 0
    · subst hn
      simp [mulAdd]
    · have hpos : 0 < n := Nat.pos_of_ne_zero hn
      have hsplit : m * n + carry = b * (m * (n / b)) + (carry + m * (n % b)) := by
        conv_lhs => rw [← Nat.div_add_mod n b]
        ring
      have hlow : (m * n + carry) % b = (carry + m * (n % b)) % b := by
        rw [hsplit, Nat.mul_add_mod]
      have hhigh : (m * n + carry) / b = m * (n / b) + (carry + m * (n % b)) / b := by
        rw [hsplit, Nat.mul_add_div (by omega)]
      have htotal : 0 < m * n + carry := Nat.add_pos_left (Nat.mul_pos hm hpos) carry
      rw [Nat.digits_def' hb hpos, mulAdd, ih _ (Nat.div_lt_self hpos hb),
        Nat.digits_def' hb htotal, hlow, hhigh]

/-! ## §2. All digits. -/

/-- The value of digits in base `m`, most significant first. -/
def value (m : ℕ) (ds : List ℕ) : ℕ := ds.foldl (fun n d => m * n + d) 0

/-- The digits in base `b`, least significant first, of digits in base `m`, most significant
    first. -/
def toBase (b m : ℕ) (ds : List ℕ) : List ℕ :=
  ds.foldl (fun digits d => mulAdd b m d digits) []

theorem toBase_eq {b m : ℕ} (hb : 1 < b) (hm : 0 < m) (ds : List ℕ) :
    toBase b m ds = Nat.digits b (value m ds) := by
  have hrun : ∀ (l : List ℕ) (n : ℕ),
      l.foldl (fun digits d => mulAdd b m d digits) (Nat.digits b n) =
        Nat.digits b (l.foldl (fun n d => m * n + d) n) := by
    intro l
    induction l with
    | nil => intro n; rfl
    | cons d l ih =>
      intro n
      rw [List.foldl_cons, List.foldl_cons, mulAdd_digits hb hm]
      exact ih _
  have h := hrun ds 0
  rwa [Nat.digits_zero] at h

theorem value_eq (m : ℕ) (ds : List ℕ) : value m ds = Nat.ofDigits m ds.reverse := by
  rw [Nat.ofDigits_eq_foldr, List.foldr_reverse, value]
  congr 1
  funext n d
  rw [Nat.add_comm]
  simp

theorem value_lt {m : ℕ} {ds : List ℕ} (hm : 1 < m) (h : ∀ d ∈ ds, d < m) :
    value m ds < m ^ ds.length := by
  rw [value_eq]
  have hlt : Nat.ofDigits m ds.reverse < m ^ ds.reverse.length :=
    Nat.ofDigits_lt_base_pow_length hm (fun d hd => h d (List.mem_reverse.mp hd))
  rwa [List.length_reverse] at hlt

theorem value_reverse_digits (m n : ℕ) : value m (Nat.digits m n).reverse = n := by
  rw [value_eq, List.reverse_reverse, Nat.ofDigits_digits]

/-- **There and back**: digits whose first is not zero. -/
theorem toBase_ofBase {b m : ℕ} {ds : List ℕ} (hb : 1 < b) (hm : 1 < m)
    (hlt : ∀ d ∈ ds, d < m) (hhead : ∀ d ∈ ds.head?, d ≠ 0) :
    toBase m b (toBase b m ds).reverse = ds.reverse := by
  have hlast : ∀ h : ds.reverse ≠ [], ds.reverse.getLast h ≠ 0 := by
    intro h
    cases ds with
    | nil => simp at h
    | cons d ds => simpa using hhead d (by simp)
  rw [toBase_eq hm (by omega), toBase_eq hb (by omega), value_reverse_digits, value_eq]
  exact Nat.digits_ofDigits m hm ds.reverse (fun d hd => hlt d (List.mem_reverse.mp hd)) hlast

theorem toBase_lt {b m : ℕ} (hb : 1 < b) (hm : 0 < m) (ds : List ℕ) : ∀ d ∈ toBase b m ds, d < b := by
  rw [toBase_eq hb hm]
  intro d hd
  exact Nat.digits_lt_base hb hd

/-- No more digits than the value needs. -/
theorem length_toBase_le {b m : ℕ} {ds : List ℕ} (hb : 1 < b) (hm : 1 < m) (hlt : ∀ d ∈ ds, d < m) :
    (toBase b m ds).length ≤ Nat.clog b (m ^ ds.length) := by
  rw [toBase_eq hb (by omega), Nat.digits_length_le_iff hb]
  calc value m ds < m ^ ds.length := value_lt hm hlt
    _ ≤ b ^ Nat.clog b (m ^ ds.length) := Nat.le_pow_clog hb _

/-- What is written starts with no zero. -/
theorem toBase_head {b m : ℕ} (hb : 1 < b) (hm : 0 < m) (ds : List ℕ) :
    ∀ d ∈ (toBase b m ds).reverse.head?, d ≠ 0 := by
  rw [toBase_eq hb hm]
  intro d hd
  by_cases hz : value m ds = 0
  · simp [hz] at hd
  · have hne : Nat.digits b (value m ds) ≠ [] := Nat.digits_ne_nil_iff_ne_zero.mpr hz
    rw [List.head?_reverse, List.getLast?_eq_some_getLast hne, Option.mem_some_iff] at hd
    rw [← hd]
    exact Nat.getLast_digit_ne_zero b hz

end Kargain.Radix
