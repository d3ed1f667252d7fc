/-
  Kargain.Wire.OnftParity — lib/web3/bridge/onft-msg-codec.ts against the crate.

  Both sides cut a message into receiver, token id and compose part, and
  read the URI past the 32 bytes of composeFrom.  The crate computes in
  `usize` and takes strict UTF-8; the TypeScript side computes in doubles
  and decodes with a `TextDecoder`, which puts U+FFFD for what is no
  UTF-8 and drops a byte order mark.

  Main result: `parity_iff`, for which messages the two give the same
  receiver, token id and URI, or the same named refusal.
-/
import Kargain.Wire.Crossing

namespace Kargain.Wire

def CodecError.name : CodecError → String
  | tooShort => "TooShort"
  | composeRequired => "ComposeRequired"
  | composeUndecodable => "ComposeUndecodable"
  | invalidAbiString => "InvalidAbiString"

namespace Parity

open Kargain.Panics Kargain.Abi

/-! ## §1. The crate. -/

/-- What a message is to the crate: receiver, token id and URI. -/
def received (b : Profile) (message : List UInt8) :
    Eval CodecError (List UInt8 × List UInt8 × Svm.Text) := do
  let m ← decode message
  let uri ← uriFailClosed b m
  pure (m.sendTo, m.tokenId, uri)

/-! ## §2. Numbers and text in TypeScript. -/

namespace Ts

/-- The double nearest to a natural number, ties to even: 53 binary digits are kept. -/
def toNumber (n : ℕ) : ℕ :=
  if n < 2 ^ 53 then n
  else
    let unit := 2 ^ (n.log2 - 52)
    let low := n % unit
    let up := unit < 2 * low ∨ (2 * low = unit ∧ n / unit % 2 = 1)
    (n / unit + if up then 1 else 0) * unit

theorem toNumber_large {n : ℕ} (h : 2 ^ 53 ≤ n) : 2 ^ 53 ≤ toNumber n := by
  have hlog : 53 ≤ n.log2 := (Nat.le_log2 (by omega)).mpr h
  have hn : 2 ^ n.log2 ≤ n := (Nat.le_log2 (by omega)).mp le_rfl
  have hpos : 0 < 2 ^ (n.log2 - 52) := Nat.pow_pos (by norm_num)
  have hunit : 2 ≤ 2 ^ (n.log2 - 52) := Nat.le_self_pow (by omega) 2
  have hq : 2 ^ 52 ≤ n / 2 ^ (n.log2 - 52) := by
    rw [Nat.le_div_iff_mul_le hpos, ← Nat.pow_add]
    rw [show 52 + (n.log2 - 52) = n.log2 by omega]
    exact hn
  unfold toNumber
  rw [if_neg (by omega)]
  calc 2 ^ 53 = 2 ^ 52 * 2 := by norm_num
    _ ≤ (n / 2 ^ (n.log2 - 52) + _) * 2 ^ (n.log2 - 52) :=
      Nat.mul_le_mul (Nat.le_add_right_of_le hq) hunit

/-- `a + b` of two numbers. -/
def add (a b : ℕ) : ℕ := toNumber (a + b)

/-- A bound under 2^53 does not see the rounding. -/
theorem lt_toNumber {bound n : ℕ} (h : bound < 2 ^ 53) : bound < toNumber n ↔ bound < n := by
  by_cases hn : n < 2 ^ 53
  · rw [toNumber, if_pos hn]
  · have hlarge := toNumber_large (Nat.not_lt.mp hn)
    constructor <;> intro _ <;> omega

theorem lt_add {bound m n : ℕ} (h : bound < 2 ^ 53) :
    bound < add m (toNumber n) ↔ bound < m + n := by
  unfold add
  rw [lt_toNumber h]
  by_cases hn : n < 2 ^ 53
  · rw [toNumber, if_pos hn]
  · have hlarge := toNumber_large (Nat.not_lt.mp hn)
    constructor <;> intro _ <;> omega

/-- How many bytes a sequence that starts with `b` has after it, and between which bounds the next
    of them lies. -/
def expects (b : UInt8) : ℕ × ℕ × ℕ :=
  let n := b.toNat
  if 0xC2 ≤ n ∧ n ≤ 0xDF then (1, 0x80, 0xBF)
  else if n = 0xE0 then (2, 0xA0, 0xBF)
  else if n = 0xED then (2, 0x80, 0x9F)
  else if 0xE1 ≤ n ∧ n ≤ 0xEF then (2, 0x80, 0xBF)
  else if n = 0xF0 then (3, 0x90, 0xBF)
  else if n = 0xF4 then (3, 0x80, 0x8F)
  else if 0xF1 ≤ n ∧ n ≤ 0xF3 then (3, 0x80, 0xBF)
  else (0, 0x80, 0xBF)

/-- How many of the bytes continue the sequence. -/
def continues : ℕ → ℕ → ℕ → List UInt8 → ℕ
  | 0, _, _, _ => 0
  | _, _, _, [] => 0
  | n + 1, lower, upper, x :: xs =>
    if lower ≤ x.toNat ∧ x.toNat ≤ upper then 1 + continues n 0x80 0xBF xs else 0

/-- The bytes one U+FFFD stands for. -/
def malformed : List UInt8 → ℕ
  | [] => 0
  | b :: rest =>
    let (needed, lower, upper) := expects b
    1 + continues needed lower upper rest

/-- The decoder's loop: a character where there is one, and U+FFFD elsewhere. -/
def decodeLoop : ℕ → List UInt8 → Svm.Text
  | 0, _ => []
  | _, [] => []
  | n + 1, data =>
    match data.toByteArray.utf8DecodeChar? 0 with
    | some c => c :: decodeLoop n (data.drop c.utf8Size)
    | none => '\uFFFD' :: decodeLoop n (data.drop (malformed data))

def byteOrderMark : List UInt8 := [0xEF, 0xBB, 0xBF]

/-- `new TextDecoder().decode`: no error is fatal, and a byte order mark is dropped. -/
def textDecode (data : List UInt8) : Svm.Text :=
  if byteOrderMark <+: data then decodeLoop data.length (data.drop 3)
  else decodeLoop data.length data

theorem utf8DecodeChar_bytes (c : Char) (s : Svm.Text) :
    (Svm.Text.bytes (c :: s)).toByteArray.utf8DecodeChar? 0 = some c := by
  have hsplit : (Svm.Text.bytes (c :: s)).toByteArray =
      (String.utf8EncodeChar c).toByteArray ++ (Svm.Text.bytes s).toByteArray := by
    rw [← List.toByteArray_append]
    rfl
  rw [hsplit]
  exact ByteArray.utf8DecodeChar?_utf8EncodeChar_append

/-- UTF-8 is read as its text. -/
theorem decodeLoop_bytes (s : Svm.Text) {n : ℕ} (h : s.bytes.length ≤ n) :
    decodeLoop n s.bytes = s := by
  induction s generalizing n with
  | nil => cases n <;> rfl
  | cons c s ih =>
    have hsize : (String.utf8EncodeChar c).length = c.utf8Size := String.length_utf8EncodeChar c
    have hpos := c.utf8Size_pos
    have hbytes : Svm.Text.bytes (c :: s) = String.utf8EncodeChar c ++ Svm.Text.bytes s := rfl
    have hlen : (Svm.Text.bytes (c :: s)).length = c.utf8Size + (Svm.Text.bytes s).length := by
      rw [hbytes, List.length_append, hsize]
    have hdrop : (Svm.Text.bytes (c :: s)).drop c.utf8Size = Svm.Text.bytes s := by
      rw [hbytes]
      exact List.drop_left' hsize
    have hfirst := utf8DecodeChar_bytes c s
    cases n with
    | zero => omega
    | succ n =>
      cases hdata : Svm.Text.bytes (c :: s) with
      | nil =>
        rw [hdata] at hlen
        simp only [List.length_nil] at hlen
        omega
      | cons b rest =>
        rw [hdata] at hfirst hdrop
        simp only [decodeLoop, hfirst, hdrop]
        rw [ih (by omega)]

/-! ## §3. The TypeScript codec. -/

/-- `u64Be`. -/
def u64Be (word : List UInt8) : ℕ := ofBytes ((word.drop 24).take 8)

/-- `decodeAbiString`: `subarray` clips at the end of the data. -/
def decodeAbiString (data : List UInt8) : Except String Svm.Text := do
  revertIf (data.length < 64) "InvalidAbiString"
  let offset := toNumber (u64Be (data.take 32))
  revertIf (data.length < add offset 32) "InvalidAbiString"
  let len := toNumber (u64Be ((data.drop offset).take (add offset 32 - offset)))
  let start := add offset 32
  let stop := add start len
  revertIf (data.length < stop) "InvalidAbiString"
  pure (textDecode ((data.drop start).take (stop - start)))

/-- `decodeOnftMessage`. -/
def decodeOnftMessage (message : List UInt8) : Except String OnftMessage := do
  revertIf (message.length < tokenIdOffset) "TooShort"
  pure {
    sendTo := message.take sendToOffset
    tokenId := (message.drop sendToOffset).take (tokenIdOffset - sendToOffset)
    compose := if tokenIdOffset < message.length then some (message.drop tokenIdOffset) else none }

/-- `uriFailClosed`: whatever `decodeAbiString` throws is `ComposeUndecodable`. -/
def uriFailClosed (decoded : OnftMessage) : Except String Svm.Text := do
  let compose ← orRevert decoded.compose "ComposeRequired"
  revertIf (compose.length ≤ senderBytes) "ComposeRequired"
  match decodeAbiString (compose.drop senderBytes) with
  | .ok uri => .ok uri
  | .error _ => .error "ComposeUndecodable"

def received (message : List UInt8) : Except String (List UInt8 × List UInt8 × Svm.Text) := do
  let m ← decodeOnftMessage message
  let uri ← uriFailClosed m
  pure (m.sendTo, m.tokenId, uri)

end Ts

/-! ## §4. What each reads. -/

/-- A `Uint8Array` is shorter than 2^53. -/
structure Message where
  bytes : List UInt8
  fits : bytes.length < 2 ^ 53

theorem low_word {data : List UInt8} {i : ℕ} (h : i + 32 ≤ data.length) :
    Ts.u64Be ((data.drop i).take 32) = wordAt data i % 2 ^ 64 := by
  have hlen : ((data.drop i).take 32).length = 32 := by
    rw [List.length_take, List.length_drop]
    omega
  unfold Ts.u64Be
  rw [List.take_of_length_le (by rw [List.length_drop]; omega), ofBytes_drop, hlen]
  rfl

/-- The string the words name, where it lies in the data. -/
theorem Ts.decodeAbiString_eq {data : List UInt8} (hlen : 64 ≤ data.length)
    (hfits : data.length < 2 ^ 53) {offset len : ℕ} (ho : wordAt data 0 % 2 ^ 64 = offset)
    (hl : wordAt data offset % 2 ^ 64 = len) : Ts.decodeAbiString data =
      if offset + 32 + len ≤ data.length then .ok (Ts.textDecode (contents data offset len))
      else .error "InvalidAbiString" := by
  have hhead : Ts.u64Be (data.take 32) = offset := by
    rw [← ho]
    exact low_word (i := 0) (by omega)
  have hshort : (revertIf (data.length < 64) "InvalidAbiString" : Except String Unit) = .ok () :=
    if_neg (by omega)
  have hplus : data.length < Ts.add (Ts.toNumber offset) 32 ↔ data.length < offset + 32 := by
    have hcomm : Ts.add (Ts.toNumber offset) 32 = Ts.add 32 (Ts.toNumber offset) := by
      unfold Ts.add
      rw [Nat.add_comm]
    rw [hcomm, Ts.lt_add hfits, Nat.add_comm]
  unfold Ts.decodeAbiString
  rw [hshort, hhead]
  show (revertIf (data.length < Ts.add (Ts.toNumber offset) 32) _ >>= _) = _
  by_cases hin : data.length < offset + 32
  · rw [if_neg (by omega)]
    unfold revertIf
    rw [if_pos (hplus.mpr hin)]
    rfl
  · have hpass : (revertIf (data.length < Ts.add (Ts.toNumber offset) 32) "InvalidAbiString" :
        Except String Unit) = .ok () := if_neg fun h => hin (hplus.mp h)
    -- what is in bounds is exact
    have hexact : Ts.toNumber offset = offset := if_pos (by omega)
    have hsum : Ts.add offset 32 = offset + 32 := if_pos (by omega)
    rw [hpass, hexact, hsum]
    show (revertIf (data.length < Ts.add (offset + 32)
      (Ts.toNumber (Ts.u64Be ((data.drop offset).take (offset + 32 - offset))))) _ >>= _) = _
    rw [Nat.add_sub_cancel_left, low_word (by omega), hl]
    unfold revertIf
    by_cases hstop : data.length < offset + 32 + len
    · rw [if_pos ((Ts.lt_add hfits).mpr hstop), if_neg (by omega)]
      rfl
    · have hlenExact : Ts.toNumber len = len := if_pos (by omega)
      have hstopExact : Ts.add (offset + 32) len = offset + 32 + len := if_pos (by omega)
      rw [if_neg (fun h => hstop ((Ts.lt_add hfits).mp h)), if_pos (by omega), hlenExact, hstopExact]
      show Except.ok (Ts.textDecode ((data.drop (offset + 32)).take (offset + 32 + len - (offset + 32)))) = _
      rw [Nat.add_sub_cancel_left]
      rfl

/-- The two decoders read these bytes as the same text. -/
def PlainText (s : List UInt8) : Prop :=
  (Svm.fromUtf8 s).isSome ∧ ¬ Ts.byteOrderMark <+: s

theorem textDecode_iff {s : List UInt8} : Svm.fromUtf8 s = some (Ts.textDecode s) ↔ PlainText s := by
  unfold PlainText
  constructor
  · intro h
    refine ⟨by rw [h]; rfl, fun hbom => ?_⟩
    obtain ⟨rest, hrest⟩ := hbom
    have htext := fromUtf8_eq_some.mp h
    -- strict decoding keeps the mark as the first character
    cases htail : Ts.textDecode s with
    | nil =>
      rw [htail] at htext
      rw [← hrest] at htext
      cases htext
    | cons c t =>
      rw [htail] at htext
      have hmark : s = Svm.Text.bytes ['\uFEFF'] ++ rest := hrest.symm
      have hc : c = '\uFEFF' := by
        have hleft := Ts.utf8DecodeChar_bytes c t
        have hright : s.toByteArray.utf8DecodeChar? 0 = some '\uFEFF' := by
          rw [hmark, List.toByteArray_append]
          exact ByteArray.utf8DecodeChar?_utf8EncodeChar_append (c := '\uFEFF')
        rw [← htext, hright] at hleft
        exact (Option.some.inj hleft).symm
      have hrestText : rest = Svm.Text.bytes t := by
        rw [hc, hmark] at htext
        exact List.append_cancel_left (show Svm.Text.bytes ['\uFEFF'] ++ rest =
          Svm.Text.bytes ['\uFEFF'] ++ Svm.Text.bytes t from htext)
      have hdrop : s.drop 3 = Svm.Text.bytes t := by
        rw [← hrest, ← hrestText]
        rfl
      have hdec : Ts.textDecode s = t := by
        unfold Ts.textDecode
        rw [if_pos ⟨rest, hrest⟩, hdrop]
        refine Ts.decodeLoop_bytes t ?_
        rw [← hrestText, ← hrest]
        simp
      rw [hdec] at htail
      exact absurd htail (List.ne_cons_self)
  · rintro ⟨hsome, hbom⟩
    obtain ⟨t, ht⟩ := Option.isSome_iff_exists.mp hsome
    have hbytes := fromUtf8_eq_some.mp ht
    have hdec : Ts.textDecode s = t := by
      unfold Ts.textDecode
      rw [if_neg hbom, hbytes]
      exact Ts.decodeLoop_bytes t (Nat.le_refl _)
    rw [hdec]
    exact ht

/-! ## §5. Where they agree. -/

/-- The same receiver, token id and URI, or the same named refusal. -/
def Agree (b : Profile) (message : List UInt8) : Prop :=
  (∀ parts, Ts.received message = .ok parts ↔ received b message = .ok parts) ∧
    ∀ name, Ts.received message = .error name ↔
      ∃ e, received b message = .error (.refused e) ∧ e.name = name

/-- The offset is not within 32 of 2^64, and the bytes the words name, where they are there, are
    UTF-8 without a byte order mark. -/
def Readable (message : List UInt8) : Prop :=
  let data := message.drop 96
  64 ≤ data.length →
    let offset := wordAt data 0 % 2 ^ 64
    let len := wordAt data offset % 2 ^ 64
    offset + 32 < 2 ^ 64 ∧
      (offset + 32 + len ≤ data.length → PlainText (contents data offset len))

section Received

variable {message : List UInt8}

theorem cut {b : Profile} (h : 64 ≤ message.length) :
    let m : OnftMessage := ⟨message.take 32, (message.drop 32).take 32,
      if 64 < message.length then some (message.drop 64) else none⟩
    Ts.decodeOnftMessage message = .ok m ∧ decode message = .ok m ∧
      Ts.received message = (Ts.uriFailClosed m).map (fun uri => (m.sendTo, m.tokenId, uri)) ∧
      received b message = (uriFailClosed b m).map fun uri => (m.sendTo, m.tokenId, uri) := by
  have hts : Ts.decodeOnftMessage message = .ok ⟨message.take 32, (message.drop 32).take 32,
      if 64 < message.length then some (message.drop 64) else none⟩ := by
    unfold Ts.decodeOnftMessage revertIf
    rw [if_neg (by unfold tokenIdOffset; omega)]
    rfl
  have hrust : decode message = .ok ⟨message.take 32, (message.drop 32).take 32,
      if 64 < message.length then some (message.drop 64) else none⟩ := by
    unfold decode revertIf tokenIdOffset sendToOffset
    rw [if_neg (by omega), slice_eq (by omega) (by omega), slice_eq (by omega) (by omega)]
    show (if _ then _ else _) = _
    by_cases hlong : 64 < message.length
    · rw [if_pos hlong, slice_eq (by omega) (by omega), if_pos hlong]
      have hrest : (message.drop 64).take (message.length - 64) = message.drop 64 :=
        List.take_of_length_le (by rw [List.length_drop])
      rw [hrest]
      rfl
    · rw [if_neg hlong, if_neg hlong]
      rfl
  refine ⟨hts, hrust, ?_, ?_⟩
  · unfold Ts.received
    rw [hts]
    show (Ts.uriFailClosed _ >>= _) = _
    cases Ts.uriFailClosed _ <;> rfl
  · unfold received
    rw [hrust]
    show (uriFailClosed b _ >>= _) = _
    cases uriFailClosed b _ <;> rfl

/-- Under 64 bytes. -/
theorem received_short {b : Profile} (h : message.length < 64) :
    Ts.received message = .error "TooShort" ∧
      received b message = .error (.refused .tooShort) := by
  constructor
  · unfold Ts.received Ts.decodeOnftMessage revertIf tokenIdOffset
    rw [if_pos h]
    rfl
  · unfold received decode revertIf tokenIdOffset
    rw [if_pos h]
    rfl

/-- Without a URI. -/
theorem received_bare {b : Profile} (h : 64 ≤ message.length) (h' : message.length ≤ 96) :
    Ts.received message = .error "ComposeRequired" ∧
      received b message = .error (.refused .composeRequired) := by
  obtain ⟨-, -, hts, hrust⟩ := cut (b := b) h
  rw [hts, hrust]
  by_cases hlong : 64 < message.length
  · have hlen : message.length ≤ senderBytes + 64 := by
      unfold senderBytes
      omega
    simp [if_pos hlong, Ts.uriFailClosed, uriFailClosed, orRevert, revertIf, hlen, bind,
      Except.bind, Except.map]
  · simp [if_neg hlong, Ts.uriFailClosed, uriFailClosed, orRevert, bind, Except.bind, Except.map]

/-- With one. -/
theorem received_composed {b : Profile} (h : 96 < message.length) :
    Ts.received message = (match Ts.decodeAbiString (message.drop 96) with
      | .ok uri => .ok (message.take 32, (message.drop 32).take 32, uri)
      | .error _ => .error "ComposeUndecodable") ∧
    received b message = match decodeAbiString b (message.drop 96) with
      | .ok uri => .ok (message.take 32, (message.drop 32).take 32, uri)
      | .error .panicked => .error .panicked
      | .error (.refused _) => .error (.refused .composeUndecodable) := by
  obtain ⟨-, -, hts, hrust⟩ := cut (b := b) (by omega : 64 ≤ message.length)
  have hlong : 64 < message.length := by omega
  have hlen : ¬ (message.drop 64).length ≤ senderBytes := by
    rw [List.length_drop]
    unfold senderBytes
    omega
  have hinner : (message.drop 64).drop senderBytes = message.drop 96 := List.drop_drop
  have hslice : (slice (message.drop 64) senderBytes (message.drop 64).length :
      Eval CodecError _) = .ok (message.drop 96) := by
    rw [slice_eq (by omega) (Nat.le_refl _), hinner, List.take_of_length_le]
    rw [← hinner, List.length_drop]
  rw [hts, hrust]
  constructor
  · simp only [if_pos hlong, Ts.uriFailClosed, orRevert, revertIf, if_neg hlen, bind, Except.bind,
      hinner]
    cases Ts.decodeAbiString (message.drop 96) <;> rfl
  · simp only [if_pos hlong, uriFailClosed, orRevert, revertIf, if_neg hlen, bind, Except.bind,
      hslice]
    cases decodeAbiString b (message.drop 96) with
    | ok uri => rfl
    | error e => cases e <;> rfl

end Received

theorem agree_refused {b : Profile} {message : List UInt8} {e : CodecError}
    (hts : Ts.received message = .error e.name) (hrust : received b message = .error (.refused e)) :
    Agree b message := by
  refine ⟨fun parts => by rw [hts, hrust]; simp, fun name => ?_⟩
  rw [hts, hrust]
  simp

/-- **When the two codecs agree** on a message: exactly when it is readable. -/
theorem parity_iff (b : Profile) (message : Message) : Agree b message.bytes ↔ Readable message.bytes := by
  obtain ⟨m, hfits⟩ := message
  show Agree b m ↔ Readable m
  by_cases hshort : m.length < 64
  · obtain ⟨hts, hrust⟩ := received_short (b := b) hshort
    refine iff_of_true (agree_refused (e := .tooShort) hts hrust) fun hlen => ?_
    rw [List.length_drop] at hlen
    omega
  by_cases hbare : m.length ≤ 96
  · obtain ⟨hts, hrust⟩ := received_bare (b := b) (by omega) hbare
    refine iff_of_true (agree_refused (e := .composeRequired) hts hrust) fun hlen => ?_
    rw [List.length_drop] at hlen
    omega
  obtain ⟨hts, hrust⟩ := received_composed (b := b) (by omega : 96 < m.length)
  have hdata : (m.drop 96).length < 2 ^ 53 := by
    rw [List.length_drop]
    omega
  by_cases hlen : (m.drop 96).length < 64
  · have hts' : Ts.decodeAbiString (m.drop 96) = .error "InvalidAbiString" := by
      unfold Ts.decodeAbiString revertIf
      rw [if_pos hlen]
      rfl
    rw [hts'] at hts
    rw [decodeAbiString_short b hlen] at hrust
    exact iff_of_true (agree_refused (e := .composeUndecodable) hts hrust) fun h => by omega
  have htsEq := Ts.decodeAbiString_eq (Nat.not_lt.mp hlen) hdata rfl rfl
  unfold Readable
  show _ ↔ (64 ≤ (m.drop 96).length → _ ∧ _)
  rw [forall_prop_of_true (Nat.not_lt.mp hlen)]
  generalize ho : wordAt (m.drop 96) 0 % 2 ^ 64 = offset at *
  generalize hl : wordAt (m.drop 96) offset % 2 ^ 64 = len at *
  by_cases hfit : offset + 32 < 2 ^ 64
  · have hrustEq := decodeAbiString_eq b (Nat.not_lt.mp hlen) (by omega) ho hl hfit
    by_cases hin : offset + 32 + len ≤ (m.drop 96).length
    · rw [if_pos hin] at htsEq hrustEq
      rw [htsEq] at hts
      rw [hrustEq] at hrust
      have hcond : (offset + 32 < 2 ^ 64 ∧ (offset + 32 + len ≤ (m.drop 96).length →
          PlainText (contents (m.drop 96) offset len))) ↔
          PlainText (contents (m.drop 96) offset len) := by
        constructor
        · exact fun h => h.2 hin
        · exact fun h => ⟨hfit, fun _ => h⟩
      rw [hcond, ← textDecode_iff]
      cases htext : Svm.fromUtf8 (contents (m.drop 96) offset len) with
      | none =>
        rw [htext] at hrust
        refine iff_of_false (fun hagree => ?_) (by simp)
        have hboth := (hagree.1 _).mp hts
        rw [hrust] at hboth
        cases hboth
      | some t =>
        rw [htext] at hrust
        constructor
        · intro hagree
          have hboth := (hagree.1 _).mp hts
          rw [hrust] at hboth
          simp only [orRevert, Except.ok.injEq, Prod.mk.injEq, true_and] at hboth
          rw [hboth]
        · intro heq
          rw [Option.some.inj heq] at hrust
          refine ⟨fun parts => ?_, fun name => ?_⟩ <;> rw [hts, hrust] <;> simp [orRevert]
    · rw [if_neg hin] at htsEq hrustEq
      rw [htsEq] at hts
      rw [hrustEq] at hrust
      exact iff_of_true (agree_refused (e := .composeUndecodable) hts hrust)
        ⟨hfit, fun h => absurd h hin⟩
  · -- the crate panics
    have hpanic := decodeAbiString_panics b ⟨m.drop 96, by omega⟩ (Nat.not_lt.mp hlen) (by
      show 2 ^ 64 ≤ wordAt (m.drop 96) 0 % 2 ^ 64 + 32
      omega)
    have hpanic' : decodeAbiString b (m.drop 96) = .error .panicked := hpanic
    rw [hpanic'] at hrust
    rw [if_neg (by omega)] at htsEq
    rw [htsEq] at hts
    refine iff_of_false (fun hagree => ?_) fun h => hfit h.1
    obtain ⟨e, he, _⟩ := (hagree.2 _).mp hts
    rw [hrust] at he
    cases he

/-- One byte that starts no character: U+FFFD on one side, a refusal on the other. -/
def garbledMessage : List UInt8 :=
  List.replicate 96 0 ++ (word 32 ++ (word 1 ++ (0xFF :: List.replicate 31 0)))

theorem garbled_apart : ¬ ∀ (b : Profile) (message : Message), Agree b message.bytes := by
  intro h
  have hts : (Ts.received garbledMessage).toOption.isSome = true := by decide +kernel
  have hrust : (received ⟨false⟩ garbledMessage).toOption.isSome = false := by decide +kernel
  obtain ⟨parts, hparts⟩ := Option.isSome_iff_exists.mp hts
  have hok : Ts.received garbledMessage = .ok parts := by
    cases hr : Ts.received garbledMessage with
    | ok p =>
      rw [hr] at hparts
      rw [Option.some.inj hparts]
    | error e =>
      rw [hr] at hparts
      cases hparts
  have hboth := ((h ⟨false⟩ ⟨garbledMessage, by decide +kernel⟩).1 parts).mp hok
  have hboth' : received ⟨false⟩ garbledMessage = .ok parts := hboth
  rw [hboth'] at hrust
  cases hrust

end Parity

end Kargain.Wire
