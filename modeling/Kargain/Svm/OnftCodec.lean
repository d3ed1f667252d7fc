/-
  Kargain.Svm.OnftCodec — crates/kargain-onft-codec, and what a message asks for.

  A message is the receiver, the token id and, past byte 64, a compose
  part: 32 bytes nobody reads, then the URI in ABI coding.  A message
  without a compose part, or with one that is no UTF-8 string, is refused
  (`uriFailClosed`).  `planSend` and `planReceive` are send_receive.rs.
-/
import Kargain.Base.Abi
import Kargain.Svm.Passport

namespace Kargain.Svm

open Kargain.Accounts Kargain.Abi

/-! ## §1. UTF-8. -/

/-- `str::as_bytes`. -/
def Text.bytes (s : Text) : List UInt8 := s.flatMap String.utf8EncodeChar

/-- `String::from_utf8`. -/
def fromUtf8 (b : List UInt8) : Option Text := b.toByteArray.utf8Decode?.map Array.toList

theorem fromUtf8_bytes (s : Text) : fromUtf8 s.bytes = some s := by
  have h : s.bytes.toByteArray = s.utf8Encode := rfl
  rw [fromUtf8, h, List.utf8Decode?_utf8Encode]
  rfl

theorem Text.length_bytes (s : Text) : s.bytes.length = s.byteLen := by
  simp [Text.bytes, Text.byteLen, List.length_flatMap]

/-! ## §2. Messages. -/

structure OnftMessage where
  sendTo : ℕ
  tokenId : TokenId
  /-- the compose part, with the 32 bytes of its sender -/
  compose : Option (List UInt8)
deriving DecidableEq

/-- `u64_be` of a word: its last 8 bytes. -/
def u64Be (w : List UInt8) : Option ℕ := some (ofBytes (w.drop 24))

/-- `decode_abi_string`. -/
def decodeAbiString (data : List UInt8) : Option Text := do
  let b ← abiDecodeString 64 u64Be data
  fromUtf8 b

def encode (sendTo : ℕ) (t : TokenId) (inner : Option (List UInt8)) : List UInt8 :=
  word sendTo ++ (word t ++ match inner with
    | some c => List.replicate 32 0 ++ c
    | none => [])

/-- `decode`: the compose part is there if there is a byte past 64. -/
def decode (message : List UInt8) : Except Error OnftMessage := do
  revertIf (message.length < 64) (.custom .composeUndecodable)
  let compose := if 64 < message.length then some (message.drop 64) else none
  pure ⟨ofBytes (message.take 32), ofBytes ((message.drop 32).take 32), compose⟩

/-- `uri_fail_closed`. -/
def uriFailClosed (m : OnftMessage) : Except Error Text := do
  let compose ← orRevert m.compose (.custom .composeRequired)
  revertIf (compose.length ≤ 32) (.custom .composeRequired)
  orRevert (decodeAbiString (compose.drop 32)) (.custom .composeUndecodable)

theorem u64Be_word {n : ℕ} (h : n < 2 ^ 64) : u64Be (word n) = some n := by
  have hd : (word n).drop 24 = toBytes 8 n := drop_toBytes 24 8 n
  have hlt : n < 256 ^ 8 := Nat.lt_of_lt_of_eq h (by norm_num)
  rw [u64Be, hd, ofBytes_toBytes, Nat.mod_eq_of_lt hlt]

/-- A string in ABI coding is read back exactly if it is UTF-8. -/
theorem decodeAbiString_encode {b : List UInt8} (h : b.length < 2 ^ 64) :
    decodeAbiString (abiEncodeString b) = fromUtf8 b := by
  unfold decodeAbiString
  rw [abiDecodeString_encode (Nat.le_refl _) (u64Be_word (by norm_num)) (u64Be_word h)]
  rfl

/-- The message both gateways send: receiver, token, a sender, and the URI's bytes. -/
def composed (sendTo : ℕ) (t : TokenId) (composeFrom : ℕ) (uri : List UInt8) : List UInt8 :=
  word sendTo ++ (word t ++ (word composeFrom ++ abiEncodeString uri))

/-- The three parts of a composed message. -/
theorem composed_parts (sendTo t composeFrom : ℕ) (uri : List UInt8) :
    (composed sendTo t composeFrom uri).take 32 = word sendTo ∧
      ((composed sendTo t composeFrom uri).drop 32).take 32 = word t ∧
      (composed sendTo t composeFrom uri).drop 64 = word composeFrom ++ abiEncodeString uri := by
  have hrest : (composed sendTo t composeFrom uri).drop 32 =
      word t ++ (word composeFrom ++ abiEncodeString uri) := by
    unfold composed
    exact List.drop_left' (by simp)
  refine ⟨?_, ?_, ?_⟩
  · unfold composed
    exact List.take_left' (by simp)
  · rw [hrest]
    exact List.take_left' (by simp)
  · show (composed sendTo t composeFrom uri).drop (32 + 32) = _
    rw [← List.drop_drop, hrest, List.drop_left' (by simp)]

/-- **What a composed message is read as.** -/
theorem decode_composed {sendTo t composeFrom : ℕ} {uri : List UInt8} (hs : sendTo < 2 ^ 256)
    (ht : t < 2 ^ 256) : decode (composed sendTo t composeFrom uri) =
      .ok ⟨sendTo, t, some (word composeFrom ++ abiEncodeString uri)⟩ := by
  have hl : (composed sendTo t composeFrom uri).length = 96 + (abiEncodeString uri).length := by
    simp [composed]
    omega
  obtain ⟨hto, hid, hcompose⟩ := composed_parts sendTo t composeFrom uri
  simp only [decode, bind_ok, revertIf_ok, pure_ok, exists_const]
  refine ⟨by omega, ?_⟩
  rw [hto, hid, ofBytes_word hs, ofBytes_word ht, if_pos (by omega), hcompose]

theorem uriFailClosed_eq {m : OnftMessage} {c : List UInt8} (hc : m.compose = some c)
    (hl : 32 < c.length) : uriFailClosed m =
      orRevert (decodeAbiString (c.drop 32)) (.custom .composeUndecodable) := by
  have hread : (orRevert m.compose (.custom .composeRequired) : Except Error _) = .ok c := by
    rw [hc]
    rfl
  have hlong : (revertIf (c.length ≤ 32) (.custom .composeRequired) : Except Error _) = .ok () :=
    if_neg (Nat.not_le.mpr hl)
  unfold uriFailClosed
  rw [hread]
  show (revertIf (c.length ≤ 32) _ >>= fun _ => _) = _
  rw [hlong]
  rfl

theorem uriFailClosed_composed {sendTo t composeFrom : ℕ} {uri : List UInt8}
    (hu : uri.length < 2 ^ 64) :
    uriFailClosed ⟨sendTo, t, some (word composeFrom ++ abiEncodeString uri)⟩ =
      orRevert (fromUtf8 uri) (.custom .composeUndecodable) := by
  have hdrop : (word composeFrom ++ abiEncodeString uri).drop 32 = abiEncodeString uri :=
    List.drop_left' (by simp)
  have hlen : 32 < (word composeFrom ++ abiEncodeString uri).length := by
    simp [abiEncodeString]
  rw [uriFailClosed_eq rfl hlen, hdrop, decodeAbiString_encode hu]

/-! ## §3. Plans. -/

namespace Gateway

/-- `plan_send`: the ceiling, then permission, then the owner of a representation. -/
def planSend (uri : Text) (isHome may ownerOk : Bool) : Except Error Unit := do
  revertIf (Passport.passportUriCeilingBytes < uri.byteLen) (.custom .uriExceedsBridgeCeiling)
  require (may = true) (.custom .leaveChainRefused)
  revertIf (isHome = false ∧ ownerOk = false) (.custom .notRepresentationOwner)

inductive ReceiveKind
  | mintForeign
  | unlockHome
deriving DecidableEq

/-- `plan_receive`: receiver, token, URI, and what is to be done. -/
def planReceive (message : List UInt8) (localNamespace : ℕ) :
    Except Error (OnftMessage × Text × ReceiveKind) := do
  let m ← decode message
  let uri ← uriFailClosed m
  pure (m, uri, if Passport.isHomeToken m.tokenId localNamespace = true then .unlockHome
    else .mintForeign)

end Gateway

end Kargain.Svm
