/-
  Kargain.Wire.Decoding — crates/kargain-onft-codec on any bytes.

  `decode` and `decode_abi_string` as the crate computes them, slice by
  slice: a slice outside the data panics, an addition that does not fit
  panics or wraps as the crate was built, and `u64_be` reads the last 8
  bytes of a word.  `abiDecode` is `abi.decode(data, (string))`.

  Main results: `decode` never panics, and `reads_alike_iff`: for which
  bytes `decode_abi_string` neither panics nor differs from Solidity.
-/
import Kargain.Base.Panics
import Kargain.Deliverability

namespace Kargain.Wire

open Kargain.Panics Kargain.Abi

/-! ## §1. The crate. -/

inductive CodecError
  | tooShort
  | composeRequired
  | composeUndecodable
  | invalidAbiString
deriving DecidableEq

/-- A Rust slice is at most `isize::MAX` bytes long. -/
structure Bytes where
  bytes : List UInt8
  fits : bytes.length < 2 ^ 63

structure OnftMessage where
  sendTo : List UInt8
  tokenId : List UInt8
  /-- with the 32 bytes of composeFrom -/
  compose : Option (List UInt8)
deriving DecidableEq

def sendToOffset : ℕ := 32
def tokenIdOffset : ℕ := 64
def senderBytes : ℕ := 32

def decode (message : List UInt8) : Eval CodecError OnftMessage := do
  revertIf (message.length < tokenIdOffset) (.refused .tooShort)
  let sendTo ← slice message 0 sendToOffset
  let tokenId ← slice message sendToOffset tokenIdOffset
  if tokenIdOffset < message.length then
    let compose ← slice message tokenIdOffset message.length
    pure ⟨sendTo, tokenId, some compose⟩
  else pure ⟨sendTo, tokenId, none⟩

/-- `u64_be`. -/
def u64Be (word : List UInt8) : Eval CodecError ℕ := do
  let buf ← slice word 24 32
  pure (ofBytes buf)

/-- `decode_abi_string`. -/
def decodeAbiString (b : Profile) (data : List UInt8) : Eval CodecError Svm.Text := do
  revertIf (data.length < 64) (.refused .invalidAbiString)
  let head ← slice data 0 32
  let offset ← u64Be head
  let start ← addUsize b offset 32
  revertIf (data.length < start) (.refused .invalidAbiString)
  let lengthWord ← slice data offset start
  let len ← u64Be lengthWord
  let stop ← orRevert (checkedAddUsize start len) (.refused .invalidAbiString)
  revertIf (data.length < stop) (.refused .invalidAbiString)
  let contents ← slice data start stop
  orRevert (Svm.fromUtf8 contents) (.refused .invalidAbiString)

/-! ## §2. Solidity. -/

/-- `abi.decode(data, (string))`: nothing asked of words but that they fit 64 bits, nor of the
    contents but that they are there. -/
def abiDecode (data : List UInt8) : Option (List UInt8) :=
  abiDecodeString 32 Evm.Bridge.abiSize data

/-! ## §3. Words in data. -/

/-- The word at `i`. -/
def wordAt (data : List UInt8) (i : ℕ) : ℕ := ofBytes ((data.drop i).take 32)

/-- `len` bytes past the length word at `offset`. -/
def contents (data : List UInt8) (offset len : ℕ) : List UInt8 :=
  (data.drop (offset + 32)).take len

theorem u64Be_slice {data word : List UInt8} {i : ℕ}
    (h : (slice data i (i + 32) : Eval CodecError _) = .ok word) :
    u64Be word = .ok (wordAt data i % 2 ^ 64) := by
  have hl : word.length = 32 := by
    have h' := length_of_slice h
    omega
  have hw : word = (data.drop i).take 32 := by
    have h' := (slice_ok.mp h).2
    rw [← h']
    congr 1
    omega
  have hlow : ofBytes (word.drop 24) = wordAt data i % 2 ^ 64 := by
    rw [ofBytes_drop, hl, hw]
    rfl
  have hbuf : (slice word 24 32 : Eval CodecError _) = .ok (word.drop 24) := by
    rw [slice_eq (by omega) (by omega), List.take_of_length_le]
    rw [List.length_drop]
    omega
  unfold u64Be
  rw [hbuf]
  show Except.ok (ofBytes (word.drop 24)) = _
  rw [hlow]

/-- **`decode` returns or refuses**, whatever the bytes. -/
theorem decode_safe (message : List UInt8) : Safe (decode message) := by
  unfold decode
  refine safe_revertIf.bind fun _ hlen => ?_
  have hlen : ¬ message.length < tokenIdOffset := revertIf_ok.mp hlen
  unfold tokenIdOffset sendToOffset at *
  rw [slice_eq (by omega) (by omega), slice_eq (by omega) (by omega)]
  show Safe (if _ then _ else _)
  refine safe_ite (fun hlong => ?_) fun _ => safe_pure _
  rw [slice_eq (by omega) (by omega)]
  exact safe_pure _

/-! ## §4. What each side reads. -/

/-- An offset within 32 of the end of `usize` panics under every profile: where the addition
    wraps, the slice is the wrong way round. -/
theorem decodeAbiString_panics (b : Profile) (data : Bytes) (hlen : 64 ≤ data.bytes.length)
    (ho : 2 ^ 64 ≤ wordAt data.bytes 0 % 2 ^ 64 + 32) :
    decodeAbiString b data.bytes = .error .panicked := by
  have hfits := data.fits
  have hlt : wordAt data.bytes 0 % 2 ^ 64 < 2 ^ 64 := Nat.mod_lt _ (by norm_num)
  have hhead : (slice data.bytes 0 32 : Eval CodecError _) = .ok ((data.bytes.drop 0).take 32) :=
    slice_eq (by omega) (by omega)
  have hshort : (revertIf (data.bytes.length < 64) (.refused .invalidAbiString) :
      Eval CodecError Unit) = .ok () := if_neg (by omega)
  unfold decodeAbiString
  rw [hshort, hhead]
  show (u64Be _ >>= _) = _
  rw [u64Be_slice hhead]
  generalize wordAt data.bytes 0 % 2 ^ 64 = offset at ho hlt
  show (addUsize b offset 32 >>= _) = _
  unfold addUsize
  rw [if_neg (by omega)]
  by_cases hb : b.overflowChecks = true
  · rw [if_pos hb]
    rfl
  · rw [if_neg hb]
    have hwrap : (offset + 32) % 2 ^ 64 = offset + 32 - 2 ^ 64 := by omega
    have hin : (revertIf (data.bytes.length < (offset + 32) % 2 ^ 64) (.refused .invalidAbiString) :
        Eval CodecError Unit) = .ok () := if_neg (by omega)
    show (revertIf _ _ >>= _) = _
    rw [hin]
    show (slice _ _ _ >>= _) = _
    rw [slice_panics (by omega)]
    rfl

/-- Where the offset is not that large, the crate reads what the low halves of the two words
    name. -/
theorem decodeAbiString_eq (b : Profile) {data : List UInt8} {offset len : ℕ}
    (hlen : 64 ≤ data.length) (hfits : data.length < 2 ^ 64) (ho : wordAt data 0 % 2 ^ 64 = offset)
    (hl : wordAt data offset % 2 ^ 64 = len) (hfit : offset + 32 < 2 ^ 64) :
    decodeAbiString b data =
      if offset + 32 + len ≤ data.length then
        orRevert (Svm.fromUtf8 (contents data offset len)) (.refused .invalidAbiString)
      else .error (.refused .invalidAbiString) := by
  have hhead : (slice data 0 32 : Eval CodecError _) = .ok ((data.drop 0).take 32) :=
    slice_eq (by omega) (by omega)
  have hshort : (revertIf (data.length < 64) (.refused .invalidAbiString) : Eval CodecError Unit) =
      .ok () := if_neg (by omega)
  unfold decodeAbiString
  rw [hshort, hhead]
  show (u64Be _ >>= _) = _
  rw [u64Be_slice hhead, ho]
  show (addUsize b offset 32 >>= _) = _
  rw [addUsize_fits hfit]
  show (revertIf _ _ >>= _) = _
  by_cases hin : data.length < offset + 32
  · rw [if_neg (by omega)]
    unfold revertIf
    rw [if_pos hin]
    rfl
  have hword : (slice data offset (offset + 32) : Eval CodecError _) =
      .ok ((data.drop offset).take (offset + 32 - offset)) := slice_eq (by omega) (by omega)
  have hin' : (revertIf (data.length < offset + 32) (.refused .invalidAbiString) :
      Eval CodecError Unit) = .ok () := if_neg hin
  rw [hin', hword]
  show (u64Be _ >>= _) = _
  rw [u64Be_slice hword, hl]
  show (orRevert (checkedAddUsize (offset + 32) len) _ >>= _) = _
  by_cases hstop : offset + 32 + len ≤ data.length
  · have hadd : checkedAddUsize (offset + 32) len = some (offset + 32 + len) := if_pos (by omega)
    rw [hadd, if_pos hstop]
    show (revertIf (data.length < offset + 32 + len) _ >>= _) = _
    have hin₂ : (revertIf (data.length < offset + 32 + len) (.refused .invalidAbiString) :
        Eval CodecError Unit) = .ok () := if_neg (by omega)
    rw [hin₂]
    show (slice _ _ _ >>= _) = _
    rw [slice_eq (by omega) hstop, Nat.add_sub_cancel_left]
    rfl
  · rw [if_neg hstop]
    -- the sum does not fit a `usize`, or it fits and is past the end
    unfold checkedAddUsize
    split
    · show (revertIf (data.length < offset + 32 + len) _ >>= _) = _
      unfold revertIf
      rw [if_pos (by omega)]
      rfl
    · rfl

theorem decodeAbiString_reads (b : Profile) {data : Bytes} (hlen : 64 ≤ data.bytes.length)
    (hfit : wordAt data.bytes 0 % 2 ^ 64 + 32 < 2 ^ 64) :
    Safe (decodeAbiString b data.bytes) ∧ ∀ t, decodeAbiString b data.bytes = .ok t ↔
      wordAt data.bytes 0 % 2 ^ 64 + 32 +
          wordAt data.bytes (wordAt data.bytes 0 % 2 ^ 64) % 2 ^ 64 ≤ data.bytes.length ∧
        Svm.fromUtf8 (contents data.bytes (wordAt data.bytes 0 % 2 ^ 64)
          (wordAt data.bytes (wordAt data.bytes 0 % 2 ^ 64) % 2 ^ 64)) = some t := by
  rw [decodeAbiString_eq b hlen (Nat.lt_trans data.fits (by norm_num)) rfl rfl hfit]
  split
  · rename_i hend
    exact ⟨safe_orRevert, fun t => by rw [orRevert_ok]; exact (and_iff_right hend).symm⟩
  · rename_i hend
    refine ⟨safe_refused _, fun t => ⟨fun h => ?_, fun h => absurd h.1 hend⟩⟩
    cases h

/-- What Solidity reads: the two words in full. -/
theorem abiDecode_eq_some {data s : List UInt8} : abiDecode data = some s ↔
    32 ≤ data.length ∧ wordAt data 0 < 2 ^ 64 ∧ wordAt data (wordAt data 0) < 2 ^ 64 ∧
      wordAt data 0 + 32 + wordAt data (wordAt data 0) ≤ data.length ∧
      contents data (wordAt data 0) (wordAt data (wordAt data 0)) = s := by
  have hsize : ∀ w n, Evm.Bridge.abiSize w = some n ↔ ofBytes w < 2 ^ 64 ∧ ofBytes w = n := by
    intro w n
    unfold Evm.Bridge.abiSize
    by_cases h : ofBytes w < 2 ^ 64
    · rw [if_pos h, Option.some.injEq]
      exact ⟨fun e => ⟨h, e⟩, And.right⟩
    · rw [if_neg h]
      exact ⟨nofun, fun e => absurd e.1 h⟩
  have hhead : ofBytes (data.take 32) = wordAt data 0 := rfl
  unfold abiDecode abiDecodeString
  by_cases h32 : data.length < 32
  · rw [if_pos h32]
    constructor
    · intro h
      cases h
    · intro h
      omega
  rw [if_neg h32]
  simp only [Option.bind_eq_bind, Option.bind_eq_some_iff, hsize, hhead]
  constructor
  · rintro ⟨o, ⟨ho, rfl⟩, h⟩
    split at h
    · cases h
    simp only [Option.bind_eq_some_iff, hsize] at h
    obtain ⟨l, ⟨hl, rfl⟩, h⟩ := h
    split at h
    · cases h
    rename_i hend
    refine ⟨by omega, ho, hl, ?_, Option.some.inj h⟩
    unfold wordAt at hend ⊢
    omega
  · rintro ⟨_, ho, hl, hend, hs⟩
    refine ⟨_, ⟨ho, rfl⟩, ?_⟩
    rw [if_neg (by omega)]
    simp only [Option.bind_eq_some_iff, hsize]
    refine ⟨_, ⟨hl, rfl⟩, ?_⟩
    rw [if_neg (by unfold wordAt at hend ⊢; omega)]
    exact congrArg some hs

/-- UTF-8 that decodes is the coding of its text. -/
theorem fromUtf8_eq_some {s : List UInt8} {t : Svm.Text} :
    Svm.fromUtf8 s = some t ↔ s = t.bytes := by
  constructor
  · intro h
    obtain ⟨a, ha, rfl⟩ := Option.map_eq_some_iff.mp h
    have hsome : s.toByteArray.utf8Decode?.isSome := by
      rw [ha]
      rfl
    have hget : s.toByteArray.utf8Decode?.get hsome = a := Option.get_of_eq_some hsome ha
    have hcode : a.toList.utf8Encode = s.toByteArray := by
      rw [← hget]
      exact ByteArray.utf8Encode_get_utf8Decode?
    have hbytes : (Svm.Text.bytes a.toList).toByteArray = s.toByteArray := hcode
    have hdata := congrArg (fun x : ByteArray => x.data.toList) hbytes
    simpa using hdata.symm
  · rintro rfl
    exact Svm.fromUtf8_bytes t

/-! ## §5. Where they agree. -/

/-- Both words and the contents they name lie in the data, and the contents are text. -/
def NamesText (data : List UInt8) (offset len : ℕ) : Prop :=
  offset + 32 + len ≤ data.length ∧ (Svm.fromUtf8 (contents data offset len)).isSome

/-- The crate asks for 64 bytes, where one word can be offset and length at once; it adds 32 to
    the offset before it looks where that is; and it drops the high 24 bytes of both words. -/
def ReadAlike (data : List UInt8) : Prop :=
  if data.length < 64 then
    ¬ (32 ≤ data.length ∧ NamesText data (wordAt data 0) (wordAt data (wordAt data 0)))
  else
    let offset := wordAt data 0 % 2 ^ 64
    offset + 32 < 2 ^ 64 ∧ (NamesText data offset (wordAt data offset % 2 ^ 64) →
      wordAt data 0 < 2 ^ 64 ∧ wordAt data offset < 2 ^ 64)

/-- Data under 64 bytes is refused. -/
theorem decodeAbiString_short (b : Profile) {data : List UInt8} (h : data.length < 64) :
    decodeAbiString b data = .error (.refused .invalidAbiString) := by
  unfold decodeAbiString revertIf
  rw [if_pos h]
  rfl

theorem abiDecode_text {data : List UInt8} : (∃ t : Svm.Text, abiDecode data = some t.bytes) ↔
    32 ≤ data.length ∧ wordAt data 0 < 2 ^ 64 ∧ wordAt data (wordAt data 0) < 2 ^ 64 ∧
      NamesText data (wordAt data 0) (wordAt data (wordAt data 0)) := by
  simp only [abiDecode_eq_some, NamesText, Option.isSome_iff_exists, fromUtf8_eq_some]
  constructor
  · rintro ⟨t, h32, ho, hl, hend, hs⟩
    exact ⟨h32, ho, hl, hend, t, hs⟩
  · rintro ⟨h32, ho, hl, hend, t, hs⟩
    exact ⟨t, h32, ho, hl, hend, hs⟩

/-- **Where decoding is total and exact.**  The crate neither panics nor differs from Solidity on
    exactly these bytes. -/
theorem reads_alike_iff (b : Profile) (data : Bytes) :
    (Safe (decode data.bytes) ∧ Safe (decodeAbiString b data.bytes) ∧
        ∀ t, decodeAbiString b data.bytes = .ok t ↔ abiDecode data.bytes = some t.bytes) ↔
      ReadAlike data.bytes := by
  have hfits := data.fits
  have hsafe := decode_safe data.bytes
  by_cases hshort : data.bytes.length < 64
  · have hrefused := decodeAbiString_short b hshort
    have hnone : ∀ t, decodeAbiString b data.bytes ≠ .ok t := by
      intro t h
      rw [hrefused] at h
      cases h
    -- words that name a place in so little data are small
    have hsmall : NamesText data.bytes (wordAt data.bytes 0)
        (wordAt data.bytes (wordAt data.bytes 0)) →
        wordAt data.bytes 0 < 2 ^ 64 ∧ wordAt data.bytes (wordAt data.bytes 0) < 2 ^ 64 := by
      intro h
      have hend := h.1
      constructor <;> omega
    unfold ReadAlike
    rw [if_pos hshort]
    constructor
    · rintro ⟨-, -, hexact⟩ ⟨h32, hnames⟩
      obtain ⟨ho, hl⟩ := hsmall hnames
      obtain ⟨t, ht⟩ := abiDecode_text.mpr ⟨h32, ho, hl, hnames⟩
      exact hnone t ((hexact t).mpr ht)
    · intro h
      refine ⟨hsafe, ?_, fun t => ⟨fun ht => absurd ht (hnone t), fun ht => ?_⟩⟩
      · rw [hrefused]
        exact safe_refused _
      · obtain ⟨h32, -, -, hnames⟩ := abiDecode_text.mp ⟨t, ht⟩
        exact absurd ⟨h32, hnames⟩ h
  · unfold ReadAlike
    rw [if_neg hshort]
    show _ ↔ _ ∧ _
    by_cases hfit : wordAt data.bytes 0 % 2 ^ 64 + 32 < 2 ^ 64
    · obtain ⟨hsafe', hreads⟩ := decodeAbiString_reads b (Nat.not_lt.mp hshort) hfit
      constructor
      · rintro ⟨-, -, hexact⟩
        refine ⟨hfit, ?_⟩
        rintro ⟨hend, htext⟩
        obtain ⟨t, ht⟩ := Option.isSome_iff_exists.mp htext
        have hsol := (hexact t).mp ((hreads t).mpr ⟨hend, ht⟩)
        obtain ⟨-, ho, hl, -⟩ := abiDecode_eq_some.mp hsol
        rw [Nat.mod_eq_of_lt ho]
        exact ⟨ho, hl⟩
      · rintro ⟨-, hwords⟩
        refine ⟨hsafe, hsafe', fun t => ?_⟩
        rw [hreads t, abiDecode_eq_some]
        constructor
        · rintro ⟨hend, htext⟩
          obtain ⟨ho, hl⟩ := hwords ⟨hend, Option.isSome_iff_exists.mpr ⟨t, htext⟩⟩
          rw [Nat.mod_eq_of_lt ho] at hl hend htext
          rw [Nat.mod_eq_of_lt hl] at hend htext
          exact ⟨by omega, ho, hl, hend, fromUtf8_eq_some.mp htext⟩
        · rintro ⟨-, ho, hl, hend, htext⟩
          rw [Nat.mod_eq_of_lt ho, Nat.mod_eq_of_lt hl]
          exact ⟨hend, fromUtf8_eq_some.mpr htext⟩
    · have hpanic := decodeAbiString_panics b data (Nat.not_lt.mp hshort) (Nat.not_lt.mp hfit)
      constructor
      · rintro ⟨-, h, -⟩
        exact absurd hpanic h
      · rintro ⟨h, -⟩
        exact absurd h hfit

/-! ## §6. What the gateway's model reads. -/

/-- The gateway's model has no panics; it accepts what the crate accepts. -/
theorem gateway_reads (b : Profile) (data : Bytes) (t : Svm.Text) :
    Svm.decodeAbiString data.bytes = some t ↔ decodeAbiString b data.bytes = .ok t := by
  have hfits := data.fits
  by_cases hshort : data.bytes.length < 64
  · rw [decodeAbiString_short b hshort]
    unfold Svm.decodeAbiString abiDecodeString
    rw [if_pos hshort]
    exact ⟨nofun, nofun⟩
  have hlow : ∀ i, i + 32 ≤ data.bytes.length →
      ofBytes (((data.bytes.drop i).take 32).drop 24) = wordAt data.bytes i % 2 ^ 64 := by
    intro i hi
    have hl : ((data.bytes.drop i).take 32).length = 32 := by
      rw [List.length_take, List.length_drop]
      omega
    rw [ofBytes_drop, hl]
    rfl
  have hhead : Svm.u64Be (data.bytes.take 32) = some (wordAt data.bytes 0 % 2 ^ 64) :=
    congrArg some (hlow 0 (by omega))
  generalize ho : wordAt data.bytes 0 % 2 ^ 64 = offset at hhead
  unfold Svm.decodeAbiString abiDecodeString
  rw [if_neg hshort, hhead]
  show ((if _ then _ else _ : Option (List UInt8)) >>= _) = _ ↔ _
  by_cases hin : data.bytes.length < offset + 32
  · rw [if_pos hin]
    refine ⟨nofun, fun h => ?_⟩
    by_cases hfit : offset + 32 < 2 ^ 64
    · rw [← ho] at hfit hin
      have hend := ((decodeAbiString_reads b (Nat.not_lt.mp hshort) hfit).2 t).mp h
      omega
    · have hwrap : 2 ^ 64 ≤ wordAt data.bytes 0 % 2 ^ 64 + 32 := by
        rw [ho]
        exact Nat.not_lt.mp hfit
      rw [decodeAbiString_panics b data (Nat.not_lt.mp hshort) hwrap] at h
      cases h
  · have hlen : Svm.u64Be ((data.bytes.drop offset).take 32) =
        some (wordAt data.bytes offset % 2 ^ 64) := congrArg some (hlow offset (by omega))
    have hfit : wordAt data.bytes 0 % 2 ^ 64 + 32 < 2 ^ 64 := by
      rw [ho]
      omega
    rw [if_neg hin, hlen, (decodeAbiString_reads b (Nat.not_lt.mp hshort) hfit).2 t, ho]
    show ((if _ then _ else _ : Option (List UInt8)) >>= _) = _ ↔ _
    by_cases hend : data.bytes.length < offset + 32 + wordAt data.bytes offset % 2 ^ 64
    · rw [if_pos hend]
      exact ⟨nofun, fun h => absurd h.1 (Nat.not_le.mpr hend)⟩
    · rw [if_neg hend]
      exact (and_iff_right (Nat.not_lt.mp hend)).symm

/-- 64 bytes of ones panic, whether overflow is checked or not; and an offset word of 2^64 + 32
    is read as 32, where Solidity refuses it. -/
theorem offset_unguarded :
    ¬ Safe (decodeAbiString ⟨true⟩ (List.replicate 64 255)) ∧
      ¬ Safe (decodeAbiString ⟨false⟩ (List.replicate 64 255)) ∧
      decodeAbiString ⟨true⟩ (word (2 ^ 64 + 32) ++ word 0) = .ok [] ∧
      abiDecode (word (2 ^ 64 + 32) ++ word 0) = none := by
  have hpanic : ∀ b, decodeAbiString b (List.replicate 64 255) = .error .panicked := by
    intro b
    exact decodeAbiString_panics b ⟨List.replicate 64 255, by decide⟩ (by decide) (by decide)
  refine ⟨fun h => h (hpanic _), fun h => h (hpanic _), ?_, ?_⟩
  · decide +kernel
  · decide +kernel

end Kargain.Wire
