/-
  Kargain.Base.Abi — words, and one string in ABI coding.

  A word is 32 bytes, most significant first.  `abiEncodeString` is
  `abi.encode(string)`: the offset of the string, its length, its bytes
  and zeros up to a whole word.  A decoder is told how much data it asks
  for and how it reads a word; whatever it makes of shorter data and of
  larger words, it reads back what was encoded.

  Nothing in this file names a contract.
-/
import Mathlib

namespace Kargain.Abi

/-! ## §1. Words. -/

/-- The `w` bytes of `n`, most significant first; what does not fit is dropped. -/
def toBytes : ℕ → ℕ → List UInt8
  | 0, _ => []
  | w + 1, n => toBytes w (n / 256) ++ [UInt8.ofNat n]

def ofBytes (l : List UInt8) : ℕ := l.foldl (fun n b => 256 * n + b.toNat) 0

abbrev word (n : ℕ) : List UInt8 := toBytes 32 n

@[simp] theorem length_toBytes (w n : ℕ) : (toBytes w n).length = w := by
  induction w generalizing n with
  | zero => rfl
  | succ w ih => simp [toBytes, ih]

theorem ofBytes_concat (l : List UInt8) (b : UInt8) :
    ofBytes (l ++ [b]) = 256 * ofBytes l + b.toNat := by
  simp [ofBytes]

theorem ofBytes_toBytes (w n : ℕ) : ofBytes (toBytes w n) = n % 256 ^ w := by
  induction w generalizing n with
  | zero => simp [toBytes, ofBytes, Nat.mod_one]
  | succ w ih =>
    have hb : (UInt8.ofNat n).toNat = n % 256 := by simp
    rw [toBytes, ofBytes_concat, ih, hb, pow_succ', Nat.mod_mul]
    omega

theorem ofBytes_word {n : ℕ} (h : n < 2 ^ 256) : ofBytes (word n) = n := by
  rw [ofBytes_toBytes]
  exact Nat.mod_eq_of_lt (Nat.lt_of_lt_of_eq h (by norm_num))

/-- The last `w` bytes of a longer number. -/
theorem drop_toBytes (w v n : ℕ) : (toBytes (w + v) n).drop w = toBytes v n := by
  induction v generalizing n with
  | zero => simp [toBytes, List.drop_eq_nil_of_le]
  | succ v ih =>
    rw [← Nat.add_assoc, toBytes, toBytes, List.drop_append_of_le_length (by simp), ih]

theorem ofBytes_append (l m : List UInt8) :
    ofBytes (l ++ m) = ofBytes l * 256 ^ m.length + ofBytes m := by
  induction m using List.reverseRecOn with
  | nil => simp [ofBytes]
  | append_singleton m b ih =>
    rw [← List.append_assoc, ofBytes_concat, ih, ofBytes_concat, List.length_append,
      List.length_singleton, pow_succ]
    ring

theorem ofBytes_lt (l : List UInt8) : ofBytes l < 256 ^ l.length := by
  induction l using List.reverseRecOn with
  | nil => simp [ofBytes]
  | append_singleton l b ih =>
    have hb : b.toNat < 256 := b.toNat_lt
    rw [ofBytes_concat, List.length_append, List.length_singleton, pow_succ]
    omega

/-- The last bytes of a number are its remainder. -/
theorem ofBytes_drop (l : List UInt8) (n : ℕ) :
    ofBytes (l.drop n) = ofBytes l % 256 ^ (l.length - n) := by
  have hsplit : ofBytes l = ofBytes (l.take n) * 256 ^ (l.length - n) + ofBytes (l.drop n) := by
    conv_lhs => rw [← List.take_append_drop n l]
    rw [ofBytes_append, List.length_drop]
  have hlt : ofBytes (l.drop n) < 256 ^ (l.length - n) := by
    have h := ofBytes_lt (l.drop n)
    rwa [List.length_drop] at h
  rw [hsplit, Nat.mul_comm, Nat.mul_add_mod, Nat.mod_eq_of_lt hlt]

/-! ## §2. Strings. -/

def padding (n : ℕ) : ℕ := (32 - n % 32) % 32

def abiEncodeString (s : List UInt8) : List UInt8 :=
  word 32 ++ (word s.length ++ (s ++ List.replicate (padding s.length) 0))

/-- Read the string at the offset in the first word of at least `n` bytes; `readWord` reads 32
    bytes. -/
def abiDecodeString (n : ℕ) (readWord : List UInt8 → Option ℕ) (data : List UInt8) :
    Option (List UInt8) := do
  if data.length < n then none
  else
    let offset ← readWord (data.take 32)
    if data.length < offset + 32 then none
    else
      let len ← readWord ((data.drop offset).take 32)
      if data.length < offset + 32 + len then none
      else some ((data.drop (offset + 32)).take len)

/-- **What is encoded is read back**, by every decoder that can read its length. -/
theorem abiDecodeString_encode {n : ℕ} {readWord : List UInt8 → Option ℕ} {s : List UInt8} (hn : n ≤ 64)
    (h₃₂ : readWord (word 32) = some 32) (hlen : readWord (word s.length) = some s.length) :
    abiDecodeString n readWord (abiEncodeString s) = some s := by
  have hl : (abiEncodeString s).length = 64 + s.length + padding s.length := by
    simp [abiEncodeString]
    omega
  have hhead : (abiEncodeString s).take 32 = word 32 := by
    unfold abiEncodeString
    exact List.take_left' (by simp)
  have htail : (abiEncodeString s).drop 32 =
      word s.length ++ (s ++ List.replicate (padding s.length) 0) := by
    unfold abiEncodeString
    exact List.drop_left' (by simp)
  have hlength : ((abiEncodeString s).drop 32).take 32 = word s.length := by
    rw [htail]
    exact List.take_left' (by simp)
  have hbytes : ((abiEncodeString s).drop (32 + 32)).take s.length = s := by
    rw [← List.drop_drop, htail, List.drop_left' (by simp), List.take_left' rfl]
  unfold abiDecodeString
  rw [if_neg (by omega), hhead, h₃₂]
  simp only [Option.bind_eq_bind, Option.bind_some]
  rw [if_neg (by omega), hlength, hlen]
  simp only [Option.bind_some]
  rw [if_neg (by omega), hbytes]

end Kargain.Abi
