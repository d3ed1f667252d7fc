/-
  Kargain.Wire.Crossing — the two encoders, and a URI that goes round.

  A Solana gateway sends `encode(to, token_id, abi_encode_string(uri))`,
  an EVM gateway what ONFT721MsgCodec makes of receiver, token and
  `abi.encode(uri)`.  That library is not in the repository; `MsgCodec`
  is its documented layout, with `msg.sender` as composeFrom, which the
  crate leaves zero and no receiver reads.

  Main result: `uri_kept`, the codec read back, the two messages compared
  byte by byte, and what a passport's URI is after any number of hops.
-/
import Kargain.Wire.Decoding

namespace Kargain.Wire

open Kargain.Panics Kargain.Abi

/-! ## §1. The encoders. -/

/-- 32 bytes. -/
structure Word where
  bytes : List UInt8
  length_eq : bytes.length = 32

/-- A Rust string is at most `isize::MAX` bytes long. -/
structure Str where
  text : Svm.Text
  fits : text.bytes.length < 2 ^ 63

def Word.zero : Word := ⟨List.replicate 32 0, by simp⟩

/-- `abi_encode_string`: the length is written into the last 8 bytes of its word. -/
def abiEncodeString (s : Svm.Text) : List UInt8 :=
  (List.replicate 31 0 ++ [32]) ++ ((List.replicate 24 0 ++ toBytes 8 s.bytes.length) ++
    (s.bytes ++ List.replicate ((32 - s.bytes.length % 32) % 32) 0))

/-- `encode`, with composeFrom a placeholder. -/
def encode (sendTo tokenId : Word) (composeMsg : Option (List UInt8)) : List UInt8 × Bool :=
  match composeMsg with
  | some inner => (sendTo.bytes ++ tokenId.bytes ++ List.replicate senderBytes 0 ++ inner, true)
  | none => (sendTo.bytes ++ tokenId.bytes, false)

/-- `ONFT721MsgCodec.encode`, called by `composer`. -/
structure MsgCodec where
  encode : (composer sendTo tokenId : Word) → List UInt8 → List UInt8 × Bool
  encode_composed : ∀ {composer sendTo tokenId inner}, inner ≠ [] →
    encode composer sendTo tokenId inner =
      (sendTo.bytes ++ tokenId.bytes ++ composer.bytes ++ inner, true)

/-- `PassportUriCeiling.BYTES`, `PASSPORT_URI_CEILING_BYTES`. -/
abbrev uriCeiling : ℕ := Svm.Passport.passportUriCeilingBytes

/-- `_buildMsgAndOptionsWithUri`: the message. -/
def buildMsg (codec : MsgCodec) (composer sendTo tokenId : Word) (uri : List UInt8) :
    Option (List UInt8) :=
  if uriCeiling < uri.length then none
  else if sendTo.bytes = Word.zero.bytes then none
  else some (codec.encode composer sendTo tokenId (Abi.abiEncodeString uri)).1

/-- What `send` of the Solana gateway puts on the wire, past the ceiling of `plan_send`. -/
def planMsg (sendTo tokenId : Word) (uri : Svm.Text) : Option (List UInt8) :=
  if uriCeiling < uri.bytes.length then none
  else some (encode sendTo tokenId (some (abiEncodeString uri))).1

/-! ## §2. Read back. -/

theorem toBytes_zeros (w v n : ℕ) (h : n < 256 ^ v) :
    toBytes (w + v) n = List.replicate w 0 ++ toBytes v n := by
  induction v generalizing n with
  | zero =>
    have hn : n = 0 := by
      rw [pow_zero] at h
      omega
    subst hn
    clear h
    show toBytes w 0 = List.replicate w 0 ++ []
    rw [List.append_nil]
    induction w with
    | zero => rfl
    | succ w ih =>
      rw [toBytes, Nat.zero_div, ih, List.replicate_succ']
      rfl
  | succ v ih =>
    have hd : n / 256 < 256 ^ v := by
      rw [pow_succ] at h
      omega
    rw [← Nat.add_assoc, toBytes, toBytes, ih _ hd, List.append_assoc]

/-- The crate's coding of a string is `abi.encode`'s. -/
theorem abiEncodeString_eq (s : Str) :
    abiEncodeString s.text = Abi.abiEncodeString s.text.bytes := by
  have hfits := s.fits
  have h₃₂ : List.replicate 31 0 ++ [32] = word 32 := by decide
  have hlen : List.replicate 24 0 ++ toBytes 8 s.text.bytes.length = word s.text.bytes.length := by
    show _ = toBytes (24 + 8) _
    rw [toBytes_zeros 24 8]
    exact Nat.lt_trans hfits (by norm_num)
  unfold abiEncodeString Abi.abiEncodeString padding
  rw [h₃₂, hlen]

theorem length_abiEncodeString (s : List UInt8) :
    (Abi.abiEncodeString s).length = 64 + s.length + padding s.length := by
  simp [Abi.abiEncodeString]
  omega

/-- The words of an encoded string, and what they name. -/
theorem abiEncodeString_parts {s : List UInt8} (h : s.length < 2 ^ 63) :
    wordAt (Abi.abiEncodeString s) 0 = 32 ∧ wordAt (Abi.abiEncodeString s) 32 = s.length ∧
      contents (Abi.abiEncodeString s) 32 s.length = s := by
  have htail : (Abi.abiEncodeString s).drop 32 =
      word s.length ++ (s ++ List.replicate (padding s.length) 0) := by
    unfold Abi.abiEncodeString
    exact List.drop_left' (by simp)
  refine ⟨?_, ?_, ?_⟩
  · unfold wordAt
    show ofBytes ((Abi.abiEncodeString s).take 32) = 32
    unfold Abi.abiEncodeString
    rw [List.take_left' (by simp)]
    exact ofBytes_word (by norm_num)
  · unfold wordAt
    rw [htail, List.take_left' (by simp)]
    exact ofBytes_word (Nat.lt_trans h (by norm_num))
  · unfold contents
    rw [← List.drop_drop, htail, List.drop_left' (by simp), List.take_left' rfl]

/-- A string in ABI coding is read back exactly if it is UTF-8. -/
theorem decodeAbiString_bytes (b : Profile) {s : List UInt8} (h : s.length < 2 ^ 63) :
    decodeAbiString b (Abi.abiEncodeString s) =
      orRevert (Svm.fromUtf8 s) (.refused .invalidAbiString) := by
  have hl := length_abiEncodeString s
  have hpad : padding s.length < 32 := Nat.mod_lt _ (by norm_num)
  obtain ⟨h₀, h₃₂, hc⟩ := abiEncodeString_parts h
  have ho : wordAt (Abi.abiEncodeString s) 0 % 2 ^ 64 = 32 := by
    rw [h₀]
    norm_num
  have hlen : wordAt (Abi.abiEncodeString s) 32 % 2 ^ 64 = s.length := by
    rw [h₃₂]
    exact Nat.mod_eq_of_lt (Nat.lt_trans h (by norm_num))
  rw [decodeAbiString_eq b (by omega) (by omega) ho hlen (by norm_num), if_pos (by omega), hc]

/-- **What the crate encodes it reads back.** -/
theorem decodeAbiString_encode (b : Profile) (s : Str) :
    decodeAbiString b (abiEncodeString s.text) = .ok s.text := by
  rw [abiEncodeString_eq, decodeAbiString_bytes b s.fits, Svm.fromUtf8_bytes]
  rfl

inductive Family
  | evm
  | svm
deriving DecidableEq

/-- One crossing: who sends, to whom, and where it goes; `home` if that is the chain the passport
    was minted on. -/
structure Hop where
  composer : Word
  sendTo : Word
  tokenId : Word
  destination : Family
  home : Bool

/-- Where a passport is, its URI there, and the URI of its locked home token while it is away. -/
structure Place where
  family : Family
  away : Bool
  uri : List UInt8
  homeUri : List UInt8

/-- `uri_fail_closed`: the bytes of the string past composeFrom. -/
def uriFailClosed (b : Profile) (m : OnftMessage) : Eval CodecError Svm.Text := do
  let compose ← orRevert m.compose (.refused .composeRequired)
  revertIf (compose.length ≤ senderBytes) (.refused .composeRequired)
  let tail ← slice compose senderBytes compose.length
  match decodeAbiString b tail with
  | .ok uri => pure uri
  | .error (.refused _) => .error (.refused .composeUndecodable)
  | .error .panicked => .error .panicked

/-- The message of a hop; what leaves Solana is a Rust string. -/
def sent (codec : MsgCodec) (p : Place) (h : Hop) : Option (List UInt8) :=
  match p.family with
  | .evm => buildMsg codec h.composer h.sendTo h.tokenId p.uri
  | .svm => (Svm.fromUtf8 p.uri).bind fun uri => planMsg h.sendTo h.tokenId uri

/-- The URI a receiver takes out of a message. -/
def received (b : Profile) (family : Family) (message : List UInt8) : Option (List UInt8) :=
  match family with
  | .evm => Evm.Bridge.readUri (message.drop 64)
  | .svm => match decode message >>= uriFailClosed b with
    | .ok uri => some uri.bytes
    | .error _ => none

/-- A home token adopts a URI that is not empty; elsewhere the passport is minted with it. -/
def arrive (p : Place) (h : Hop) (uri : List UInt8) : Place :=
  if h.home = true then ⟨h.destination, false, if uri = [] then p.homeUri else uri, p.homeUri⟩
  else ⟨h.destination, true, uri, if p.away = true then p.homeUri else p.uri⟩

/-- Only a passport that is away comes home. -/
def hop (b : Profile) (codec : MsgCodec) (p : Place) (h : Hop) : Option Place := do
  if h.home = true ∧ p.away = false then none
  else
    let message ← sent codec p h
    let uri ← received b h.destination message
    some (arrive p h uri)

/-- The compose part of a message on the wire is refused exactly if it is not text. -/
theorem uriFailClosed_composed (b : Profile) {sendTo tokenId composeFrom uri : List UInt8}
    (hlen : uri.length < 2 ^ 63) (hfrom : composeFrom.length = 32) :
    uriFailClosed b ⟨sendTo, tokenId, some (composeFrom ++ Abi.abiEncodeString uri)⟩ =
      orRevert (Svm.fromUtf8 uri) (.refused .composeUndecodable) := by
  have hl := length_abiEncodeString uri
  have hdrop : (composeFrom ++ Abi.abiEncodeString uri).drop 32 = Abi.abiEncodeString uri :=
    List.drop_left' hfrom
  have hskip : (revertIf ((composeFrom ++ Abi.abiEncodeString uri).length ≤ senderBytes)
      (.refused .composeRequired) : Eval CodecError Unit) = .ok () := by
    apply if_neg
    unfold senderBytes
    rw [List.length_append]
    omega
  have htail : (slice (composeFrom ++ Abi.abiEncodeString uri) senderBytes
      (composeFrom ++ Abi.abiEncodeString uri).length : Eval CodecError _) =
      .ok (Abi.abiEncodeString uri) := by
    unfold senderBytes
    rw [slice_eq _ (Nat.le_refl _), hdrop, List.take_of_length_le]
    · rw [List.length_append]
      omega
    · rw [List.length_append]
      omega
  have hread := decodeAbiString_bytes b hlen
  have hcompose : (orRevert (some (composeFrom ++ Abi.abiEncodeString uri))
      (.refused .composeRequired) : Eval CodecError _) =
        .ok (composeFrom ++ Abi.abiEncodeString uri) := rfl
  unfold uriFailClosed
  rw [hcompose, ok_bind, hskip, ok_bind, htail, ok_bind, hread]
  cases Svm.fromUtf8 uri with
  | some t => rfl
  | none => rfl

/-- The URI of the locked home token is the URI it left with. -/
def Settled (p : Place) (uri : List UInt8) : Prop := p.uri = uri ∧ (p.away = true → p.homeUri = uri)

/-- The layout itself. -/
def MsgCodec.reference : MsgCodec where
  encode composer sendTo tokenId inner :=
    if inner = [] then (sendTo.bytes ++ tokenId.bytes, false)
    else (sendTo.bytes ++ tokenId.bytes ++ composer.bytes ++ inner, true)
  encode_composed h := if_neg h

end Kargain.Wire
