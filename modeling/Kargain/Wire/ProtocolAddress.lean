/-
  Kargain.Wire.ProtocolAddress — lib/web3/protocol-address.ts, the SVM side.

  A Solana address is 32 bytes, shown in base58.  `base58Encode` and
  `base58Decode` move the digits as the two loops of the source do, the
  leading zeros counted apart; `decodeBase58To32` is the way back through
  the hex text of a bytes32.

  Main results: `base58Decode_encode`, and `decodeBase58To32_encode`: an
  address shown is read back.
-/
import Mathlib
import Kargain.Base.Radix

namespace Kargain.ProtocolAddress

open Kargain.Radix

/-- The characters of a JavaScript string. -/
abbrev Text := List Char

/-! ## §1. base58. -/

/-- `BASE58_ALPHABET`. -/
def base58Alphabet : Text :=
  "123456789ABCDEFGHJKLMNPQRSTUVWXYZabcdefghijkmnopqrstuvwxyz".toList

def base58Char (digit : ℕ) : Char := base58Alphabet.getD digit '1'

/-- `BASE58_MAP`, `none` for its -1. -/
def base58Map (c : Char) : Option ℕ :=
  if c ∈ base58Alphabet then some (base58Alphabet.idxOf c) else none

/-- The array of digits is long enough (`base58Encode_fits`). -/
def base58Encode (bytes : List UInt8) : Text :=
  let zeros := (bytes.takeWhile (· = 0)).length
  let digits := toBase 58 256 ((bytes.drop zeros).map UInt8.toNat)
  List.replicate zeros '1' ++ digits.reverse.map base58Char

/-- `Math.ceil((length * Math.log(58)) / Math.log(256))`. -/
def decodedSize (length : ℕ) : ℕ := Nat.clog 256 (58 ^ length)

def base58Decode (encoded : Text) : Option (List UInt8) := do
  if encoded.length = 0 then none
  else
    let ones := (encoded.takeWhile (· = '1')).length
    let digits ← (encoded.drop ones).mapM base58Map
    let bytes := toBase 256 58 digits
    if decodedSize encoded.length < bytes.length then none
    else some (List.replicate ones 0 ++ bytes.reverse.map UInt8.ofNat)

theorem base58Map_char {d : ℕ} (h : d < 58) : base58Map (base58Char d) = some d := by
  have hall : ∀ d < 58, base58Map (base58Char d) = some d := by decide
  exact hall d h

theorem base58Char_eq_one {d : ℕ} (h : d < 58) : base58Char d = '1' ↔ d = 0 := by
  have hall : ∀ d < 58, base58Char d = '1' ↔ d = 0 := by decide
  exact hall d h

theorem mapM_base58Map {ds : List ℕ} (h : ∀ d ∈ ds, d < 58) :
    (ds.map base58Char).mapM base58Map = some ds := by
  induction ds with
  | nil => rfl
  | cons d ds ih =>
    have hd : base58Map (base58Char d) = some d := base58Map_char (h d (by simp))
    rw [List.map_cons, List.mapM_cons, hd, ih (fun e he => h e (by simp [he]))]
    rfl

/-- The digits written fit the array of `Math.ceil((length * log 256) / log 58) + 1`. -/
theorem base58Encode_fits (bytes : List UInt8) (zeros : ℕ) :
    (toBase 58 256 ((bytes.drop zeros).map UInt8.toNat)).length ≤
      Nat.clog 58 (256 ^ bytes.length) + 1 := by
  have hlt : ∀ d ∈ (bytes.drop zeros).map UInt8.toNat, d < 256 := by
    intro d hd
    obtain ⟨b, -, rfl⟩ := List.mem_map.mp hd
    exact b.toNat_lt
  have h := length_toBase_le (b := 58) (by omega) (by omega) hlt
  have hmono : Nat.clog 58 (256 ^ ((bytes.drop zeros).map UInt8.toNat).length) ≤
      Nat.clog 58 (256 ^ bytes.length) := by
    refine Nat.clog_mono_right 58 (Nat.pow_le_pow_right (by omega) ?_)
    simp
  omega

/-- A list begins with its leading `a`s, and what follows begins with another. -/
theorem takeWhile_replicate_append {α : Type} [DecidableEq α] {a : α} {n : ℕ} {l : List α}
    (h : ∀ x ∈ l.head?, x ≠ a) :
    (List.replicate n a ++ l).takeWhile (· = a) = List.replicate n a := by
  induction n with
  | zero =>
    cases l with
    | nil => rfl
    | cons x l =>
      have hx : x ≠ a := h x (by simp)
      simp [hx]
  | succ n ih => simp [List.replicate_succ, ih]

theorem eq_replicate_append_drop (bytes : List UInt8) :
    bytes = List.replicate (bytes.takeWhile (· = 0)).length 0 ++
      bytes.drop (bytes.takeWhile (· = 0)).length := by
  induction bytes with
  | nil => rfl
  | cons b bs ih =>
    by_cases hb : b = 0
    · subst hb
      simpa [List.replicate_succ] using ih
    · simp [hb]

theorem head_drop_takeWhile (bytes : List UInt8) :
    ∀ b ∈ (bytes.drop (bytes.takeWhile (· = 0)).length).head?, b ≠ 0 := by
  induction bytes with
  | nil => simp
  | cons b bs ih =>
    by_cases hb : b = 0
    · subst hb
      simpa using ih
    · simp [hb]

/-- **What is shown in base58 is read back**, leading zeros and all. -/
theorem base58Decode_encode {bytes : List UInt8} (hne : bytes ≠ []) :
    base58Decode (base58Encode bytes) = some bytes := by
  set zeros := (bytes.takeWhile (· = 0)).length with hzeros
  set rest := (bytes.drop zeros).map UInt8.toNat with hrest
  set digits := toBase 58 256 rest with hdigits
  have hlt : ∀ d ∈ rest, d < 256 := by
    intro d hd
    obtain ⟨b, -, rfl⟩ := List.mem_map.mp hd
    exact b.toNat_lt
  have hdigit : ∀ d ∈ digits.reverse, d < 58 := by
    intro d hd
    exact toBase_lt (by omega) (by omega) rest d (List.mem_reverse.mp hd)
  have hhead : ∀ c ∈ (digits.reverse.map base58Char).head?, c ≠ '1' := by
    intro c hc
    rw [List.head?_map, Option.mem_def, Option.map_eq_some_iff] at hc
    obtain ⟨d, hd, rfl⟩ := hc
    have hlt58 : d < 58 := hdigit d (List.mem_of_mem_head? hd)
    rw [Ne, base58Char_eq_one hlt58]
    exact toBase_head (by omega) (by omega) rest d hd
  have hones : ((base58Encode bytes).takeWhile (· = '1')).length = zeros := by
    show ((List.replicate zeros '1' ++ digits.reverse.map base58Char).takeWhile (· = '1')).length = _
    rw [takeWhile_replicate_append hhead, List.length_replicate]
  have hdrop : (base58Encode bytes).drop zeros = digits.reverse.map base58Char := by
    show (List.replicate zeros '1' ++ digits.reverse.map base58Char).drop zeros = _
    exact List.drop_left' (List.length_replicate ..)
  -- the digits give the bytes back, since they start with none of the zeros
  have hback : toBase 256 58 digits.reverse = rest.reverse := by
    refine toBase_ofBase (by omega) (by omega) hlt ?_
    intro d hd
    rw [hrest, List.head?_map, Option.mem_def, Option.map_eq_some_iff] at hd
    obtain ⟨b, hb, rfl⟩ := hd
    intro hz
    exact head_drop_takeWhile bytes b hb (UInt8.toNat_inj.mp hz)
  have hsize : (toBase 256 58 digits.reverse).length ≤ decodedSize (base58Encode bytes).length := by
    refine (length_toBase_le (by omega) (by omega) hdigit).trans ?_
    refine Nat.clog_mono_right 256 (Nat.pow_le_pow_right (by omega) ?_)
    simp [base58Encode, ← hzeros, ← hrest, ← hdigits]
  have hlen : (base58Encode bytes).length ≠ 0 := by
    intro h0
    have hz : zeros = 0 := by
      simp only [base58Encode, ← hzeros, List.length_append, List.length_replicate] at h0
      omega
    have hd : digits = [] := by
      simp only [base58Encode, ← hzeros, ← hrest, ← hdigits, List.length_append, List.length_map,
        List.length_reverse] at h0
      exact List.eq_nil_of_length_eq_zero (by omega)
    rw [hd] at hback
    have hnil : rest = [] := by simpa [toBase] using hback.symm
    rw [hrest, hz] at hnil
    simp at hnil
    exact hne hnil
  have hbytes : rest.map UInt8.ofNat = bytes.drop zeros := by
    rw [hrest, List.map_map]
    have hid : UInt8.ofNat ∘ UInt8.toNat = id := by
      funext b
      exact UInt8.ofNat_toNat
    rw [hid, List.map_id]
  simp only [base58Decode, if_neg hlen, hones, hdrop, mapM_base58Map hdigit, Option.bind_eq_bind,
    Option.bind_some, if_neg (Nat.not_lt.mpr hsize)]
  rw [hback, List.reverse_reverse, hbytes, ← eq_replicate_append_drop]

/-! ## §2. Trimming and hex. -/

/-- The characters `String.prototype.trim` removes. -/
def jsWhiteSpace (c : Char) : Bool :=
  let n := c.toNat
  (9 ≤ n ∧ n ≤ 13) ∨ n = 0x20 ∨ n = 0xa0 ∨ n = 0x1680 ∨ (0x2000 ≤ n ∧ n ≤ 0x200a) ∨ n = 0x2028 ∨
    n = 0x2029 ∨ n = 0x202f ∨ n = 0x205f ∨ n = 0x3000 ∨ n = 0xfeff

def trim (t : Text) : Text :=
  ((t.dropWhile jsWhiteSpace).reverse.dropWhile jsWhiteSpace).reverse

theorem trim_eq_self {t : Text} (h : ∀ c ∈ t, jsWhiteSpace c = false) : trim t = t := by
  have hkeep : ∀ l : Text, (∀ c ∈ l, jsWhiteSpace c = false) → l.dropWhile jsWhiteSpace = l := by
    intro l hl
    cases l with
    | nil => rfl
    | cons c l => simp [hl c (by simp)]
  rw [trim, hkeep t h, hkeep t.reverse (fun c hc => h c (List.mem_reverse.mp hc)), List.reverse_reverse]

def hexDigits : Text := "0123456789abcdef".toList

/-- `byte.toString(16).padStart(2, "0")`. -/
def hexOfByte (b : UInt8) : Text :=
  [hexDigits.getD (b.toNat / 16) '0', hexDigits.getD (b.toNat % 16) '0']

def hexValue (c : Char) : Option ℕ :=
  if c.toLower ∈ hexDigits then some (hexDigits.idxOf c.toLower) else none

def hexFold (digits : Text) : ℕ := digits.foldl (fun n c => 16 * n + (hexValue c).getD 0) 0

/-- A sign in front: whether it is a minus, and the rest. -/
def skipSign : Text → Bool × Text
  | '-' :: rest => (true, rest)
  | '+' :: rest => (false, rest)
  | t => (false, t)

def skipHexMark : Text → Text
  | '0' :: 'x' :: rest => rest
  | '0' :: 'X' :: rest => rest
  | t => t

/-- `Number.parseInt(text, 16)`, `none` for `NaN`: blanks, a sign and `0x` are skipped, and what
    follows the digits is ignored. -/
def parseInt16 (text : Text) : Option ℤ :=
  let (negative, t) := skipSign (text.dropWhile jsWhiteSpace)
  let digits := (skipHexMark t).takeWhile fun c => (hexValue c).isSome
  if digits = [] then none
  else some (if negative then -(hexFold digits : ℤ) else hexFold digits)

/-- `Number.parseInt` of two characters in base 16, as a `Uint8Array` keeps it: leading space and
    one sign are allowed, what follows the digits is ignored, no number is 0. -/
def parseHexPair (a b : Char) : UInt8 :=
  match hexValue a, hexValue b with
  | some x, some y => UInt8.ofNat (16 * x + y)
  | some x, none => UInt8.ofNat x
  | none, some y =>
    if jsWhiteSpace a ∨ a = '+' then UInt8.ofNat y
    else if a = '-' then UInt8.ofNat (256 - y)
    else 0
  | none, none => 0

def hexPairs : Text → List UInt8
  | a :: b :: rest => parseHexPair a b :: hexPairs rest
  | _ => []

def hexToBytes (hex : Text) : Except String (List UInt8) :=
  if hex.length % 2 ≠ 0 then .error ("odd_hex_len:" ++ toString hex.length)
  else .ok (hexPairs hex)

theorem parseHexPair_hexOfByte (b : UInt8) :
    parseHexPair (hexDigits.getD (b.toNat / 16) '0') (hexDigits.getD (b.toNat % 16) '0') = b := by
  have hall : ∀ n < 256, parseHexPair (hexDigits.getD (n / 16) '0') (hexDigits.getD (n % 16) '0') =
      UInt8.ofNat n := by decide +kernel
  rw [hall b.toNat b.toNat_lt]
  exact UInt8.ofNat_toNat

theorem hexToBytes_hexOfByte (bytes : List UInt8) :
    hexToBytes (bytes.flatMap hexOfByte) = .ok bytes := by
  have hlen : (bytes.flatMap hexOfByte).length = 2 * bytes.length := by
    induction bytes with
    | nil => rfl
    | cons b bs ih =>
      simp only [List.flatMap_cons, List.length_append, ih, hexOfByte, List.length_cons,
        List.length_nil]
      omega
  have hpairs : hexPairs (bytes.flatMap hexOfByte) = bytes := by
    clear hlen
    induction bytes with
    | nil => rfl
    | cons b bs ih =>
      have hcons : (b :: bs).flatMap hexOfByte =
          hexDigits.getD (b.toNat / 16) '0' :: hexDigits.getD (b.toNat % 16) '0' ::
            bs.flatMap hexOfByte := rfl
      rw [hcons, hexPairs, ih, parseHexPair_hexOfByte]
  rw [hexToBytes, if_neg (by omega), hpairs]

/-! ## §3. Addresses. -/

/-- `encodeSvmPubkeyBytes`. -/
def encodeSvmPubkeyBytes (bytes : List UInt8) : Except String Text :=
  if bytes.length ≠ 32 then .error ("SVM pubkey must be 32 bytes, got " ++ toString bytes.length)
  else .ok (base58Encode bytes)

/-- `protocolAddressToBytes32` for the VM `svm`. -/
def protocolAddressToBytes32 (address : Text) : Option Text := do
  let decoded ← base58Decode (trim address)
  if decoded.length ≠ 32 then none
  else some (['0', 'x'] ++ decoded.flatMap hexOfByte)

def svmPubkeyToBytes32 (base58Pubkey : Text) : Except String Text :=
  match protocolAddressToBytes32 base58Pubkey with
  | none => .error ("Invalid Solana pubkey for bytes32 peer: " ++ String.ofList base58Pubkey)
  | some out => .ok out

/-- lib/svm/decode-account-state.ts `decodeBase58To32`. -/
def decodeBase58To32 (base58 : Text) : Except String (List UInt8) := do
  let hex ← svmPubkeyToBytes32 base58
  hexToBytes (hex.drop 2)

theorem base58Encode_noSpace (bytes : List UInt8) :
    ∀ c ∈ base58Encode bytes, jsWhiteSpace c = false := by
  have hall : ∀ d < 58, jsWhiteSpace (base58Char d) = false := by decide
  intro c hc
  rcases List.mem_append.mp hc with hone | hdigit
  · rw [List.eq_of_mem_replicate hone]
    decide
  · obtain ⟨d, hd, rfl⟩ := List.mem_map.mp hdigit
    exact hall d (toBase_lt (by omega) (by omega) _ d (List.mem_reverse.mp hd))

/-- **An address shown is read back.** -/
theorem decodeBase58To32_encode {bytes : List UInt8} (h : bytes.length = 32) :
    decodeBase58To32 (base58Encode bytes) = .ok bytes := by
  have hne : bytes ≠ [] := by
    intro hnil
    rw [hnil] at h
    cases h
  have hpeer : protocolAddressToBytes32 (base58Encode bytes) =
      some (['0', 'x'] ++ bytes.flatMap hexOfByte) := by
    simp [protocolAddressToBytes32, trim_eq_self (base58Encode_noSpace bytes),
      base58Decode_encode hne, h]
  have hhex : svmPubkeyToBytes32 (base58Encode bytes) =
      .ok (['0', 'x'] ++ bytes.flatMap hexOfByte) := by
    simp [svmPubkeyToBytes32, hpeer]
  unfold decodeBase58To32
  rw [hhex]
  exact hexToBytes_hexOfByte bytes

theorem encodeSvmPubkeyBytes_ok {bytes : List UInt8} (h : bytes.length = 32) :
    encodeSvmPubkeyBytes bytes = .ok (base58Encode bytes) := by
  rw [encodeSvmPubkeyBytes, if_neg (by omega)]

theorem length_of_encodeSvmPubkeyBytes {bytes : List UInt8} {t : Text}
    (h : encodeSvmPubkeyBytes bytes = .ok t) : bytes.length = 32 ∧ t = base58Encode bytes := by
  unfold encodeSvmPubkeyBytes at h
  split at h
  · cases h
  · rename_i hlen
    injection h with ht
    exact ⟨Decidable.not_not.mp hlen, ht.symm⟩

end Kargain.ProtocolAddress
