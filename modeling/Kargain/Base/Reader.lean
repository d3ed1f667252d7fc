/-
  Kargain.Base.Reader — reading values at an offset of an array of bytes.

  A reader is given the bytes and an offset; it gives a value and the
  offset behind it, or refuses.  It is `Exact` for a way of writing the
  values if it reads a value exactly where the value is written.  Of an
  exact reader: what was read is what is written there, what is written
  can be read, and a truncated array is refused.
-/
import Mathlib

namespace Kargain.Reader

variable {ε α : Type}

/-! ## §1. Little-endian numbers. -/

/-- The `w` bytes of `n`, least significant first; what does not fit is dropped. -/
def leBytes : ℕ → ℕ → List UInt8
  | 0, _ => []
  | w + 1, n => UInt8.ofNat n :: leBytes w (n / 256)

def leNat : List UInt8 → ℕ
  | [] => 0
  | b :: bs => b.toNat + 256 * leNat bs

@[simp] theorem length_leBytes (w n : ℕ) : (leBytes w n).length = w := by
  induction w generalizing n with
  | zero => rfl
  | succ w ih => simp [leBytes, ih]

theorem leNat_lt (l : List UInt8) : leNat l < 256 ^ l.length := by
  induction l with
  | nil => simp [leNat]
  | cons b bs ih =>
    have hb : b.toNat < 256 := b.toNat_lt
    rw [leNat, List.length_cons, Nat.pow_succ]
    omega

theorem leNat_leBytes {w n : ℕ} (h : n < 256 ^ w) : leNat (leBytes w n) = n := by
  induction w generalizing n with
  | zero =>
    rw [Nat.pow_zero] at h
    simp [leBytes, leNat, Nat.lt_one_iff.mp h]
  | succ w ih =>
    have hrest : n / 256 < 256 ^ w := by
      rw [Nat.pow_succ] at h
      omega
    have hb : (UInt8.ofNat n).toNat = n % 256 := by simp
    rw [leBytes, leNat, ih hrest, hb]
    omega

theorem leBytes_leNat (l : List UInt8) : leBytes l.length (leNat l) = l := by
  induction l with
  | nil => rfl
  | cons b bs ih =>
    have hb : b.toNat < 256 := b.toNat_lt
    have hlow : UInt8.ofNat (b.toNat + 256 * leNat bs) = b := by
      apply UInt8.toNat_inj.mp
      rw [UInt8.toNat_ofNat']
      omega
    have hhigh : (b.toNat + 256 * leNat bs) / 256 = leNat bs := by omega
    rw [List.length_cons, leBytes, leNat, hlow, hhigh, ih]

/-! ## §2. What is written at an offset. -/

/-- The bytes from `o` up to `o + n`. -/
def bytesAt (d : List UInt8) (o n : ℕ) : List UInt8 := (d.drop o).take n

/-- `l` is written at the offset `o`. -/
def Written (d : List UInt8) (o : ℕ) (l : List UInt8) : Prop := l <+: d.drop o

theorem Written.fits {d l : List UInt8} {o : ℕ} (h : Written d o l) (ho : o ≤ d.length) :
    o + l.length ≤ d.length := by
  have hle := h.length_le
  rw [List.length_drop] at hle
  omega

theorem length_bytesAt {d : List UInt8} {o n : ℕ} (h : o + n ≤ d.length) :
    (bytesAt d o n).length = n := by
  rw [bytesAt, List.length_take, List.length_drop]
  omega

theorem written_bytesAt (d : List UInt8) (o n : ℕ) : Written d o (bytesAt d o n) :=
  List.take_prefix n (d.drop o)

theorem Written.bytesAt {d l : List UInt8} {o : ℕ} (h : Written d o l) :
    bytesAt d o l.length = l :=
  (List.prefix_iff_eq_take.mp h).symm

theorem written_nil (d : List UInt8) (o : ℕ) : Written d o [] := List.nil_prefix

theorem written_append {d l m : List UInt8} {o : ℕ} :
    Written d o (l ++ m) ↔ Written d o l ∧ Written d (o + l.length) m := by
  unfold Written
  rw [← List.drop_drop]
  constructor
  · intro h
    have hl : l <+: d.drop o := (List.prefix_append l m).trans h
    refine ⟨hl, ?_⟩
    obtain ⟨t, ht⟩ := h
    rw [← ht, List.append_assoc, List.drop_left]
    exact List.prefix_append m t
  · rintro ⟨⟨s, hs⟩, hm⟩
    rw [← hs, List.drop_left] at hm
    obtain ⟨t, ht⟩ := hm
    exact ⟨t, by rw [← hs, ← ht, List.append_assoc]⟩

/-- What is written in the first bytes of an array is written in the array. -/
theorem Written.of_take {d l : List UInt8} {o n : ℕ} (h : Written (d.take n) o l) :
    Written d o l := by
  unfold Written at h ⊢
  rw [List.drop_take] at h
  exact h.trans (List.take_prefix _ _)

/-! ## §3. Exact readers. -/

abbrev Read (ε α : Type) := List UInt8 → ℕ → Except ε (α × ℕ)

/-- `r` reads `v` exactly where a fine `v` is written. -/
def Exact (r : Read ε α) (Fine : α → Prop) (print : α → List UInt8) : Prop :=
  ∀ (d : List UInt8) (o : ℕ), o ≤ d.length → ∀ (v : α) (o' : ℕ),
    r d o = .ok (v, o') ↔ Fine v ∧ Written d o (print v) ∧ o' = o + (print v).length

variable {r : Read ε α} {Fine : α → Prop} {print : α → List UInt8}

theorem Exact.next_le (h : Exact r Fine print) {d : List UInt8} {o o' : ℕ} {v : α}
    (ho : o ≤ d.length) (hr : r d o = .ok (v, o')) : o' ≤ d.length := by
  obtain ⟨-, hw, hnext⟩ := (h d o ho v o').mp hr
  have := hw.fits ho
  omega

/-- What was read from the start is the bytes consumed. -/
theorem Exact.printed (h : Exact r Fine print) {d : List UInt8} {n : ℕ} {v : α}
    (hr : r d 0 = .ok (v, n)) : print v = d.take n := by
  obtain ⟨-, hw, hnext⟩ := (h d 0 (Nat.zero_le _) v n).mp hr
  rw [hnext, Nat.zero_add]
  exact List.prefix_iff_eq_take.mp hw

/-- What is written can be read. -/
theorem Exact.read (h : Exact r Fine print) {v : α} (hv : Fine v) :
    r (print v) 0 = .ok (v, (print v).length) := by
  refine (h (print v) 0 (Nat.zero_le _) v _).mpr ⟨hv, ?_, by omega⟩
  exact List.prefix_rfl

/-- **A truncated array is refused.** -/
theorem Exact.truncated (h : Exact r Fine print) {d : List UInt8} {n m : ℕ} {v : α}
    (hr : r d 0 = .ok (v, n)) (hm : m < n) (w : α) (n' : ℕ) : r (d.take m) 0 ≠ .ok (w, n') := by
  intro hw
  have hle : n' ≤ m := by
    have := h.next_le (Nat.zero_le _) hw
    rw [List.length_take] at this
    omega
  obtain ⟨hfine, hwritten, hnext⟩ := (h (d.take m) 0 (Nat.zero_le _) w n').mp hw
  -- what the shorter array gives is already written in the longer one
  have hr' : r d 0 = .ok (w, n') :=
    (h d 0 (Nat.zero_le _) w n').mpr ⟨hfine, hwritten.of_take, hnext⟩
  rw [hr] at hr'
  injection hr' with hpair
  injection hpair with _ hn
  omega

end Kargain.Reader
