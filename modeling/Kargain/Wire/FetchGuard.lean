/-
  Kargain.Wire.FetchGuard — lib/lightning: what a Lightning address makes
  the server connect to.

  `parseLud16` takes a domain that `isAllowedHostname` lets through, and
  the URL made of it is fetched through a lookup that refuses addresses
  (`createPinnedLookup`).  Where the host of the URL is an address
  already nothing is looked up.  A URL parser takes one to four numbers,
  decimal, octal or hexadecimal, for an IPv4 address; the guard knows
  four decimal ones.

  `isForbiddenIp` reads an address by its text.  `Spelling` is what an
  address may be written as.

  Main result: `guard_iff`, for which Lightning addresses and answers of
  the resolver nothing is connected to that is forbidden.
-/
import Mathlib
import Kargain.Base.Separated
import Kargain.Wire.ProtocolAddress

namespace Kargain.FetchGuard

open Kargain.Separated
open Kargain.ProtocolAddress (Text trim jsWhiteSpace hexValue hexDigits hexFold skipSign skipHexMark
  parseInt16 trim_eq_self)

/-! ## §1. Host names. -/

/-- `toLowerCase`, for what is compared with ASCII afterwards: besides the capitals only the
    Kelvin sign becomes a letter of ASCII. -/
def lowerChar (c : Char) : Char := if c = '\u212a' then 'k' else c.toLower

def toLowerCase (t : Text) : Text := t.map lowerChar

def isDigits (t : Text) : Bool := t ≠ [] ∧ t.all Char.isDigit

/-- `IPV4_PATTERN`. -/
def ipv4Pattern (host : Text) : Bool :=
  (host.splitOn '.').length = 4 ∧
    (host.splitOn '.').all fun part => isDigits part ∧ part.length ≤ 3

def blockedTlds : List Text := [".local".toList, ".internal".toList, ".onion".toList]

def hasBlockedTld (hostname : Text) : Bool :=
  blockedTlds.any fun tld => tld.isSuffixOf (toLowerCase hostname)

def isLabelChar (c : Char) : Bool := ('a' ≤ c ∧ c ≤ 'z') ∨ c.isDigit ∨ c = '-'

def isAllowedHostname (hostname : Text) : Bool :=
  let host := toLowerCase (trim hostname)
  let labels := host.splitOn '.'
  if host = [] ∨ 253 < host.length then false
  else if host = "localhost".toList then false
  else if '[' ∈ host ∨ ':' ∈ host then false
  else if ipv4Pattern host then false
  else if hasBlockedTld host then false
  else if ".".toList.isSuffixOf host then false
  else if '.' ∉ host then false
  else if labels.any fun label => label.length = 0 ∨ 63 < label.length then false
  else labels.all fun label =>
    label.all isLabelChar ∧ ¬ "-".toList.isPrefixOf label ∧ ¬ "-".toList.isSuffixOf label

def isLocalChar (c : Char) : Bool := ('a' ≤ c ∧ c ≤ 'z') ∨ c.isDigit ∨ c = '-' ∨ c = '_' ∨ c = '.'

/-- `parseLud16`: the parts before and after the last `@`. -/
def parseLud16 (value : Text) : Option (Text × Text) :=
  let trimmed := toLowerCase (trim value)
  let domain := (trimmed.reverse.takeWhile (· ≠ '@')).reverse
  let name := ((trimmed.reverse.dropWhile (· ≠ '@')).drop 1).reverse
  if '@' ∉ trimmed ∨ name = [] ∨ domain = [] then none
  else if ¬ name.all isLocalChar then none
  else if ¬ isAllowedHostname domain then none
  else some (name, domain)

/-! ## §2. What a URL parser makes of a domain. -/

/-- A number of an IPv4 address: hexadecimal after `0x`, octal after another leading zero. -/
def ipv4Number (part : Text) : Option ℕ :=
  match part with
  | '0' :: 'x' :: digits =>
    if digits.all fun c => (hexValue c).isSome then
      some (hexFold digits : ℕ)
    else none
  | '0' :: d :: digits =>
    if (d :: digits).all fun c => '0' ≤ c ∧ c ≤ '7' then
      some ((d :: digits).foldl (fun n c => 8 * n + (hexValue c).getD 0) 0)
    else none
  | _ =>
    if isDigits part then some (part.foldl (fun n c => 10 * n + (hexValue c).getD 0) 0) else none

/-- The last part tells that the host is an address, or none at all. -/
def endsInNumber (parts : List Text) : Bool :=
  match parts.getLast? with
  | some last => isDigits last ∨ (ipv4Number last).isSome
  | none => false

/-- The first numbers are bytes; the last is the rest of the address. -/
def ipv4Value : ℕ → List ℕ → Option ℕ
  | _, [] => none
  | left, [last] => if last < 256 ^ left then some last else none
  | left, n :: ns =>
    if n ≤ 255 then (ipv4Value (left - 1) ns).map fun rest => n * 256 ^ (left - 1) + rest else none

def ipv4Parser (parts : List Text) : Option ℕ :=
  if 4 < parts.length then none
  else do
    let numbers ← parts.mapM ipv4Number
    ipv4Value 4 numbers

inductive Host
  | ipv4 (address : ℕ)
  | domain (name : Text)
deriving DecidableEq

/-- The parser drops tabs and line ends, and U+FEFF; another blank it refuses. -/
def dropped (c : Char) : Bool := c = '\t' ∨ c = '\n' ∨ c = '\r' ∨ c = '\ufeff'

/-- The host of `https://${domain}/…`, for what `isAllowedHostname` lets through: blanks around
    small letters, digits, hyphens and dots.  `punycode` tells whether a label that starts with
    `xn--` is one. -/
def urlHost (punycode : Text → Bool) (domain : Text) : Option Host :=
  let ascii := domain.filter fun c => ¬ dropped c
  let parts := ascii.splitOn '.'
  if ascii.any jsWhiteSpace then none
  else if ¬ parts.all fun part => ¬ "xn--".toList.isPrefixOf part ∨ punycode part then none
  else if endsInNumber parts then (ipv4Parser parts).map Host.ipv4
  else some (.domain ascii)

/-- `lud16WellKnownUrl` is fetched: its host. -/
def lud16Host (punycode : Text → Bool) (value : Text) : Option Host :=
  match parseLud16 value with
  | none => none
  | some (_, domain) => urlHost punycode domain

/-! ## §3. Addresses. -/

/-- Networks, and how many bits of them count. -/
def forbiddenIpv4Ranges : List (ℕ × ℕ) :=
  [(0x00000000, 8), (0x0a000000, 8), (0x64400000, 10), (0x7f000000, 8), (0xa9fe0000, 16),
    (0xac100000, 12), (0xc0000000, 24), (0xc0000200, 24), (0xc0a80000, 16), (0xc6120000, 15),
    (0xc6336400, 24), (0xcb007100, 24), (0xe0000000, 4), (0xf0000000, 4), (0xffffffff, 32)]

def forbiddenIpv6Ranges : List (ℕ × ℕ) :=
  [(0, 128), (1, 128), (0xfc000000000000000000000000000000, 7),
    (0xfe800000000000000000000000000000, 10), (0xff000000000000000000000000000000, 8)]

def ipv4Mask : ℕ := 0xffffffff

def ipv4PrefixMask (bits : ℕ) : ℕ :=
  if bits = 0 then 0
  else if 32 ≤ bits then ipv4Mask
  else (ipv4Mask <<< (32 - bits)) &&& ipv4Mask

def ipv6PrefixMask (bits : ℕ) : ℕ :=
  if bits = 0 then 0
  else if 128 ≤ bits then 2 ^ 128 - 1
  else (2 ^ 128 - 1) <<< (128 - bits)

def inPrefixV4 (value network bits : ℕ) : Bool :=
  value &&& ipv4PrefixMask bits = network &&& ipv4PrefixMask bits

def inPrefixV6 (value network bits : ℕ) : Bool :=
  value &&& ipv6PrefixMask bits = network &&& ipv6PrefixMask bits

def isForbiddenIpv4Value (value : ℕ) : Bool :=
  forbiddenIpv4Ranges.any fun range => inPrefixV4 value range.1 range.2

def isForbiddenIpv6Value (value : ℕ) : Bool :=
  forbiddenIpv6Ranges.any fun range => inPrefixV6 value range.1 range.2

/-- `Number` of decimal digits. -/
def decimal (t : Text) : ℕ := t.foldl (fun n c => 10 * n + (hexValue c).getD 0) 0

def parseOctet (part : Text) : Option ℕ :=
  if ¬ (isDigits part ∧ part.length ≤ 3) then none
  else if 255 < decimal part then none
  else some (decimal part)

def parseIpv4Octets (address : Text) : Option (List ℕ) :=
  let parts := (trim address).splitOn '.'
  if parts.length ≠ 4 then none else parts.mapM parseOctet

def ipv4ToBigInt (address : Text) : Option ℕ :=
  match parseIpv4Octets address with
  | some [a, b, c, d] => some ((a <<< 24) ||| (b <<< 16) ||| (c <<< 8) ||| d)
  | _ => none

def isHextet (part : Text) : Bool :=
  part ≠ [] ∧ part.length ≤ 4 ∧ part.all fun c => c.isDigit ∨ ('a' ≤ c ∧ c ≤ 'f')

def expandIpv6Hextets (address : Text) : Option (List Text) :=
  let trimmed := toLowerCase (trim address)
  let withoutZone := trimmed.takeWhile (· ≠ '%')
  let pieces := splitPair ':' withoutZone
  let doubleColonCount := pieces.length - 1
  let parts (t : Text) : List Text := if t = [] then [] else (t.splitOn ':').filter (· ≠ [])
  let headParts := parts (pieces.getD 0 [])
  let tailParts := parts (pieces.getD 1 [])
  if trimmed = [] ∨ withoutZone = [] then none
  else if 1 < doubleColonCount then none
  else if 8 < headParts.length + tailParts.length then none
  else if doubleColonCount = 0 ∧ headParts.length + tailParts.length ≠ 8 then none
  else
    let missing := 8 - headParts.length - tailParts.length
    let hextets := headParts ++ List.replicate missing "0".toList ++ tailParts
    if hextets.all isHextet then some hextets else none

def ipv6ToBigInt (address : Text) : Option ℕ :=
  (expandIpv6Hextets address).map fun hextets =>
    hextets.foldl (fun value part => (value <<< 16) + ((parseInt16 part).getD 0).toNat) 0

def decimalText (n : ℕ) : Text := Nat.toDigits 10 n

def dottedText (octets : List ℕ) : Text := joined '.' (octets.map decimalText)

def mappedPrefix : Text := "::ffff:".toList

def embeddedIpv4FromMappedV6 (address : Text) : Option Text :=
  let trimmed := toLowerCase (trim address)
  if ¬ mappedPrefix.isPrefixOf trimmed then none
  else
    let suffix := trimmed.drop mappedPrefix.length
    if ':' ∈ suffix then
      match suffix.splitOn ':' with
      | [first, second] =>
        match parseInt16 first, parseInt16 second with
        | some high, some low =>
          if high < 0 ∨ 0xffff < high ∨ low < 0 ∨ 0xffff < low then none
          else
            let high := high.toNat
            let low := low.toNat
            some (dottedText [(high >>> 8) &&& 0xff, high &&& 0xff, (low >>> 8) &&& 0xff, low &&& 0xff])
        | _, _ => none
      | _ => none
    else if (parseIpv4Octets suffix).isSome then some suffix
    else none

inductive Family
  | four
  | six
deriving DecidableEq

/-- What cannot be read is forbidden. -/
def isForbiddenIp (address : Text) (family : Family) : Bool :=
  match family with
  | .four =>
    match ipv4ToBigInt address with
    | none => true
    | some value => isForbiddenIpv4Value value
  | .six =>
    match embeddedIpv4FromMappedV6 address with
    | some mappedIpv4 =>
      match ipv4ToBigInt mappedIpv4 with
      | none => true
      | some mappedValue => isForbiddenIpv4Value mappedValue
    | none =>
      match ipv6ToBigInt address with
      | none => true
      | some value => isForbiddenIpv6Value value

/-! ## §4. How an address is written. -/

/-- One to four hexadecimal digits. -/
structure Hextet where
  digits : Text
  valid : isHextet digits = true

def Hextet.value (h : Hextet) : ℕ := hexFold h.digits

/-- Four bytes, written in decimal. -/
structure Quad where
  a : Fin 256
  b : Fin 256
  c : Fin 256
  d : Fin 256

def Quad.octets (q : Quad) : List ℕ := [q.a, q.b, q.c, q.d]

def Quad.text (q : Quad) : Text := dottedText q.octets

def Quad.value (q : Quad) : ℕ := q.a * 2 ^ 24 + q.b * 2 ^ 16 + q.c * 2 ^ 8 + q.d

def isZoneChar (c : Char) : Bool := c.isAlphanum ∨ c = '-' ∨ c = '.' ∨ c = '_' ∨ c = '~'

/-- Groups, the groups behind `::` if there is one, an IPv4 address in place of the last two
    groups, and a zone. -/
structure Spelling6 where
  head : List Hextet
  tail : Option (List Hextet)
  dotted : Option Quad
  zone : Option Text
  complete : match tail with
    | none => head.length + (if dotted.isSome then 2 else 0) = 8
    | some tail => head.length + tail.length + (if dotted.isSome then 2 else 0) ≤ 7
  zonePlain : ∀ z ∈ zone, z.all isZoneChar = true

def Spelling6.dottedPart (s : Spelling6) : List Text := s.dotted.toList.map Quad.text

def Spelling6.body (s : Spelling6) : Text :=
  match s.tail with
  | none => joined ':' (s.head.map Hextet.digits ++ s.dottedPart)
  | some tail =>
    joined ':' (s.head.map Hextet.digits) ++ ':' :: ':' ::
      joined ':' (tail.map Hextet.digits ++ s.dottedPart)

def Spelling6.zoneText (s : Spelling6) : Text :=
  match s.zone with
  | none => []
  | some zone => '%' :: zone

/-- In small letters. -/
def Spelling6.text (s : Spelling6) : Text := s.body ++ s.zoneText

/-- The groups `::` stands for. -/
def Spelling6.missing (s : Spelling6) : ℕ :=
  8 - s.head.length - (s.tail.getD []).length - (if s.dotted.isSome then 2 else 0)

def Spelling6.groups (s : Spelling6) : List ℕ :=
  s.head.map Hextet.value ++ List.replicate s.missing 0 ++ (s.tail.getD []).map Hextet.value ++
    s.dotted.toList.flatMap fun q => [(q.a : ℕ) * 256 + q.b, (q.c : ℕ) * 256 + q.d]

def groupValue (groups : List ℕ) : ℕ := groups.foldl (fun value g => value * 2 ^ 16 + g) 0

/-- The 128 bits. -/
def Spelling6.value (s : Spelling6) : ℕ := groupValue s.groups

inductive Spelling
  | v4 (q : Quad)
  | v6 (s : Spelling6)

/-- An IPv4 address within IPv6. -/
def mapped (value : ℕ) : Prop := value / 2 ^ 32 = 0xffff

instance (value : ℕ) : Decidable (mapped value) := inferInstanceAs (Decidable (_ = _))

/-- What the address is, however it is written. -/
def Spelling.forbidden : Spelling → Bool
  | v4 q => isForbiddenIpv4Value q.value
  | v6 s =>
    if mapped s.value then isForbiddenIpv4Value (s.value % 2 ^ 32) else isForbiddenIpv6Value s.value

def Spelling.family : Spelling → Family
  | v4 _ => .four
  | v6 _ => .six

/-- The text writes the address, in any case and between blanks. -/
def Spelling.Writes (spelling : Spelling) (text : Text) : Prop :=
  match spelling with
  | v4 q => trim text = q.text
  | v6 s => toLowerCase (trim text) = s.text

/-! ## §5. Texts read back. -/

/-- What stands in a group is one of sixteen characters. -/
theorem hex_char {c : Char} (h : c.isDigit = true ∨ ('a' ≤ c ∧ c ≤ 'f')) : c ∈ hexDigits := by
  have hlt : c.toNat < 128 := by
    rcases h with h | ⟨-, h⟩
    · simp only [Char.isDigit, Bool.and_eq_true, decide_eq_true_eq] at h
      have h9 := UInt32.le_iff_toNat_le.mp h.2
      change c.toNat ≤ 57 at h9
      omega
    · have hf := UInt32.le_iff_toNat_le.mp (show c.val ≤ 'f'.val from h)
      change c.toNat ≤ 102 at hf
      omega
  have hall : ∀ n < 128, ((Char.ofNat n).isDigit = true ∨ ('a' ≤ Char.ofNat n ∧ Char.ofNat n ≤ 'f')) →
      hexDigits.contains (Char.ofNat n) = true := by decide +kernel
  have hin := hall c.toNat hlt
  rw [Char.ofNat_toNat] at hin
  exact List.contains_iff_mem.mp (hin h)

theorem hexDigits_plain {c : Char} (h : c ∈ hexDigits) :
    (hexValue c).isSome = true ∧ c ≠ ':' ∧ c ≠ '%' ∧ c ≠ '.' ∧ jsWhiteSpace c = false ∧ c ≠ '-' ∧ c ≠ '+' ∧
      c ≠ 'x' ∧ c ≠ 'X' := by
  have hall : hexDigits.all (fun c => (hexValue c).isSome = true ∧ c ≠ ':' ∧ c ≠ '%' ∧ c ≠ '.' ∧
      jsWhiteSpace c = false ∧ c ≠ '-' ∧ c ≠ '+' ∧ c ≠ 'x' ∧ c ≠ 'X') = true := by decide
  exact of_decide_eq_true (List.all_eq_true.mp hall c h)

theorem isHextet_iff {t : Text} : isHextet t = true ↔
    t ≠ [] ∧ t.length ≤ 4 ∧ ∀ c ∈ t, c.isDigit = true ∨ ('a' ≤ c ∧ c ≤ 'f') := by
  unfold isHextet
  simp

theorem Hextet.hex (h : Hextet) : ∀ c ∈ h.digits, c ∈ hexDigits := fun c hc =>
  hex_char ((isHextet_iff.mp h.valid).2.2 c hc)

theorem Hextet.ne_nil (h : Hextet) : h.digits ≠ [] := (isHextet_iff.mp h.valid).1

/-- A group is read up to what follows it. -/
theorem parse_group {digits rest : Text} (hne : digits ≠ []) (hhex : ∀ c ∈ digits, c ∈ hexDigits)
    (hrest : ∀ c ∈ rest.head?, (hexValue c).isSome = false ∧ c ≠ 'x' ∧ c ≠ 'X') :
    parseInt16 (digits ++ rest) = some (hexFold digits : ℤ) := by
  obtain ⟨c, cs, rfl⟩ := List.exists_cons_of_ne_nil hne
  have hc := hexDigits_plain (hhex c (by simp))
  have htake : ((c :: cs) ++ rest).takeWhile (fun c => (hexValue c).isSome) = c :: cs := by
    rw [List.takeWhile_append_of_pos fun x hx => (hexDigits_plain (hhex x hx)).1]
    cases rest with
    | nil => simp
    | cons r rest => simp [(hrest r rfl).1]
  unfold parseInt16
  simp only [List.cons_append, List.dropWhile_cons, hc.2.2.2.2.1, Bool.false_eq_true, if_false]
  rw [List.cons_append] at htake
  -- Neither a sign nor `0x` stands in front.
  have hsign : skipSign (c :: (cs ++ rest)) = (false, c :: (cs ++ rest)) := by
    unfold skipSign
    split
    · next heq => exact absurd (List.cons.inj heq).1 hc.2.2.2.2.2.1
    · next heq => exact absurd (List.cons.inj heq).1 hc.2.2.2.2.2.2.1
    · rfl
  rw [hsign]
  simp only
  have hmark : skipHexMark (c :: (cs ++ rest)) = c :: (cs ++ rest) := by
    have hnext : ∀ y ∈ (cs ++ rest).head?, y ≠ 'x' ∧ y ≠ 'X' := by
      intro y hy
      cases cs with
      | nil => exact (hrest y hy).2
      | cons d ds =>
        have hd := hexDigits_plain (hhex d (by simp))
        rw [List.cons_append, List.head?_cons, Option.mem_some] at hy
        exact hy ▸ ⟨hd.2.2.2.2.2.2.2.1, hd.2.2.2.2.2.2.2.2⟩
    unfold skipHexMark
    split
    · next heq =>
      have htail := (List.cons.inj heq).2
      exact absurd rfl (hnext 'x' (by rw [htail]; rfl)).1
    · next heq =>
      have htail := (List.cons.inj heq).2
      exact absurd rfl (hnext 'X' (by rw [htail]; rfl)).2
    · rfl
  rw [hmark, htake]
  rfl

theorem decimalText_digits {n : ℕ} (h : n < 256) : decimalText n ≠ [] ∧
    (decimalText n).all Char.isDigit = true ∧ parseOctet (decimalText n) = some n := by
  have hall : ∀ n < 256, decimalText n ≠ [] ∧ (decimalText n).all Char.isDigit = true ∧
      parseOctet (decimalText n) = some n := by decide +kernel
  exact hall n h

theorem digit_plain {c : Char} (h : c.isDigit = true) : c ∈ hexDigits := hex_char (Or.inl h)

theorem dotted_chars {octets : List ℕ} (h : ∀ n ∈ octets, n < 256) :
    ∀ c ∈ dottedText octets, c.isDigit = true ∨ c = '.' := by
  intro c hc
  rcases mem_joined hc with rfl | ⟨part, hpart, hc⟩
  · exact Or.inr rfl
  · obtain ⟨n, hn, rfl⟩ := List.mem_map.mp hpart
    exact Or.inl (List.all_eq_true.mp (decimalText_digits (h n hn)).2.1 c hc)

theorem not_mem_digits {t : Text} {c : Char} (h : t.all Char.isDigit = true) (hc : c ∉ hexDigits) :
    c ∉ t := fun hin => hc (digit_plain (List.all_eq_true.mp h c hin))

theorem trim_dotted {octets : List ℕ} (h : ∀ n ∈ octets, n < 256) :
    trim (dottedText octets) = dottedText octets := by
  refine trim_eq_self fun x hx => ?_
  rcases dotted_chars h x hx with hdigit | rfl
  · exact (hexDigits_plain (digit_plain hdigit)).2.2.2.2.1
  · decide

theorem parse_dotted {a b c d : ℕ} (ha : a < 256) (hb : b < 256) (hc : c < 256) (hd : d < 256) :
    parseIpv4Octets (dottedText [a, b, c, d]) = some [a, b, c, d] := by
  have hsmall : ∀ n ∈ [a, b, c, d], n < 256 := by simp [ha, hb, hc, hd]
  have hsplit : (dottedText [a, b, c, d]).splitOn '.' = [a, b, c, d].map decimalText := by
    refine List.splitOn_intercalate '.' (fun part hpart => ?_) (by simp)
    obtain ⟨n, hn, rfl⟩ := List.mem_map.mp hpart
    exact not_mem_digits (decimalText_digits (hsmall n hn)).2.1 (by decide)
  unfold parseIpv4Octets
  simp only [trim_dotted hsmall, hsplit]
  simp [(decimalText_digits ha).2.2, (decimalText_digits hb).2.2, (decimalText_digits hc).2.2,
    (decimalText_digits hd).2.2]

theorem ipv4_dotted {a b c d : ℕ} (ha : a < 256) (hb : b < 256) (hc : c < 256) (hd : d < 256) :
    ipv4ToBigInt (dottedText [a, b, c, d]) = some (a * 2 ^ 24 + b * 2 ^ 16 + c * 2 ^ 8 + d) := by
  unfold ipv4ToBigInt
  rw [parse_dotted ha hb hc hd]
  simp only [Option.some.injEq]
  have h1 : a <<< 24 ||| b <<< 16 = (a * 2 ^ 8 + b) * 2 ^ 16 := by
    have h := Nat.two_pow_add_eq_or_of_lt (i := 24) (b := b * 2 ^ 16) (by omega) a
    rw [Nat.shiftLeft_eq, Nat.shiftLeft_eq, Nat.mul_comm a, ← h]
    omega
  have h2 : (a * 2 ^ 8 + b) * 2 ^ 16 ||| c <<< 8 = ((a * 2 ^ 8 + b) * 2 ^ 8 + c) * 2 ^ 8 := by
    have h := Nat.two_pow_add_eq_or_of_lt (i := 16) (b := c * 2 ^ 8) (by omega) (a * 2 ^ 8 + b)
    rw [Nat.shiftLeft_eq, Nat.mul_comm (a * 2 ^ 8 + b), ← h]
    omega
  have h3 : ((a * 2 ^ 8 + b) * 2 ^ 8 + c) * 2 ^ 8 ||| d =
      ((a * 2 ^ 8 + b) * 2 ^ 8 + c) * 2 ^ 8 + d := by
    have h := Nat.two_pow_add_eq_or_of_lt (i := 8) (b := d) (by omega) ((a * 2 ^ 8 + b) * 2 ^ 8 + c)
    rw [Nat.mul_comm, ← h]
  rw [h1, h2, h3]
  omega

/-! ## §6. Spellings read back. -/

/-- A part between colons: a group or a dotted address. -/
def Plain (part : Text) : Prop := part ≠ [] ∧ ':' ∉ part ∧ '%' ∉ part

theorem Hextet.plain (h : Hextet) : Plain h.digits :=
  ⟨h.ne_nil, fun hin => (hexDigits_plain (h.hex _ hin)).2.1 rfl,
    fun hin => (hexDigits_plain (h.hex _ hin)).2.2.1 rfl⟩

theorem Quad.small (q : Quad) : ∀ n ∈ q.octets, n < 256 := by
  unfold Quad.octets
  simp

theorem Quad.plain (q : Quad) : Plain q.text := by
  have hchars := dotted_chars q.small
  have hne : q.text ≠ [] := by
    intro hnil
    have hparse := parse_dotted q.a.isLt q.b.isLt q.c.isLt q.d.isLt
    have hempty : parseIpv4Octets [] = none := by decide
    rw [show dottedText [(q.a : ℕ), q.b, q.c, q.d] = [] from hnil, hempty] at hparse
    cases hparse
  refine ⟨hne, fun hin => ?_, fun hin => ?_⟩
  · rcases hchars _ hin with h | h
    · exact (hexDigits_plain (digit_plain h)).2.1 rfl
    · revert h
      decide
  · rcases hchars _ hin with h | h
    · exact (hexDigits_plain (digit_plain h)).2.2.1 rfl
    · revert h
      decide

theorem parts_plain (s : Spelling6) (groups : List Hextet) :
    ∀ part ∈ groups.map Hextet.digits ++ s.dottedPart, Plain part := by
  intro part hpart
  rcases List.mem_append.mp hpart with h | h
  · obtain ⟨g, -, rfl⟩ := List.mem_map.mp h
    exact g.plain
  · obtain ⟨q, -, rfl⟩ := List.mem_map.mp h
    exact q.plain

theorem groups_plain (groups : List Hextet) : ∀ part ∈ groups.map Hextet.digits, Plain part := by
  intro part hpart
  obtain ⟨g, -, rfl⟩ := List.mem_map.mp hpart
  exact g.plain

theorem zoneText_none {s : Spelling6} (h : s.zone = none) : s.zoneText = [] := by
  unfold Spelling6.zoneText
  rw [h]

theorem zone_plain (s : Spelling6) : ∀ c ∈ s.zoneText, c ≠ ':' := by
  intro c hc
  unfold Spelling6.zoneText at hc
  cases hz : s.zone with
  | none => simp [hz] at hc
  | some zone =>
    rw [hz] at hc
    rcases List.mem_cons.mp hc with rfl | hc
    · decide
    · have hchar := List.all_eq_true.mp (s.zonePlain zone hz) c hc
      rintro rfl
      revert hchar
      decide

theorem joined_percent {parts : List Text} (h : ∀ part ∈ parts, Plain part) :
    '%' ∉ joined ':' parts := by
  intro hin
  rcases mem_joined hin with h' | ⟨part, hpart, hc⟩
  · revert h'
    decide
  · exact (h part hpart).2.2 hc

theorem body_percent (s : Spelling6) : '%' ∉ s.body := by
  unfold Spelling6.body
  split
  · exact joined_percent (parts_plain s _)
  · intro hin
    rcases List.mem_append.mp hin with h | h
    · exact joined_percent (groups_plain _) h
    · rcases List.mem_cons.mp h with h | h
      · revert h
        decide
      · rcases List.mem_cons.mp h with h | h
        · revert h
          decide
        · exact joined_percent (parts_plain s _) h

/-- Before the zone. -/
theorem takeWhile_text (s : Spelling6) : s.text.takeWhile (· ≠ '%') = s.body := by
  have hbody : ∀ c ∈ s.body, decide (c ≠ '%') = true := by
    intro c hc
    rw [decide_eq_true_eq]
    rintro rfl
    exact body_percent s hc
  unfold Spelling6.text Spelling6.zoneText
  rw [List.takeWhile_append_of_pos hbody]
  cases s.zone <;> simp

theorem single_plain {parts : List Text} (h : ∀ part ∈ parts, Plain part) :
    Single ':' (joined ':' parts ++ [':']) := by
  by_cases hnil : parts = []
  · subst hnil
    exact List.isChain_singleton _
  · exact single_joined (fun part hpart => ⟨(h part hpart).1, (h part hpart).2.1⟩) hnil

theorem joined_singleton (part : Text) : joined ':' [part] = part :=
  List.intercalate_singleton

theorem joined_ne_nil {part : Text} {parts : List Text} (h : Plain part) :
    joined ':' (part :: parts) ≠ [] := by
  unfold joined
  cases parts with
  | nil =>
    rw [List.intercalate_singleton]
    exact h.1
  | cons q parts =>
    rw [List.intercalate_cons_cons]
    simp [h.1]

/-- Parts joined are told apart again. -/
theorem parts_joined {parts : List Text} (h : ∀ part ∈ parts, Plain part) :
    (if joined ':' parts = [] then [] else ((joined ':' parts).splitOn ':').filter (· ≠ [])) = parts := by
  cases parts with
  | nil => rfl
  | cons part parts =>
    rw [if_neg (joined_ne_nil (h part (by simp)))]
    unfold joined
    rw [List.splitOn_intercalate ':' (fun p hp => (h p hp).2.1) (by simp)]
    exact List.filter_eq_self.mpr fun p hp => by simpa using (h p hp).1

def zeroGroup : Hextet where
  digits := "0".toList
  valid := by decide

/-- Eight groups, where no dotted address stands for two. -/
def Spelling6.hextets (s : Spelling6) : List Hextet :=
  s.head ++ List.replicate s.missing zeroGroup ++ s.tail.getD []

theorem not_isHextet_quad (q : Quad) : isHextet q.text = false := by
  cases h : isHextet q.text with
  | false => rfl
  | true =>
    have hdot : '.' ∈ q.text := by
      show '.' ∈ joined '.' (q.octets.map decimalText)
      unfold joined Quad.octets
      simp only [List.map_cons, List.intercalate_cons_cons]
      simp
    have hchar := (isHextet_iff.mp h).2.2 '.' hdot
    revert hchar
    decide

theorem text_ne_nil (s : Spelling6) : s.body ≠ [] := by
  unfold Spelling6.body
  have hcomplete := s.complete
  split
  · next htail =>
    rw [htail] at hcomplete
    cases hhead : s.head with
    | nil =>
      rw [hhead] at hcomplete
      simp only [List.length_nil] at hcomplete
      split at hcomplete <;> omega
    | cons g groups => exact joined_ne_nil g.plain
  · simp

/-- **The expander** finds the groups of what has no dotted tail, and nothing in what has one. -/
theorem expand_eq {address : Text} {s : Spelling6} (h : toLowerCase (trim address) = s.text) :
    expandIpv6Hextets address =
      if s.dotted.isSome then none else some (s.hextets.map Hextet.digits) := by
  unfold expandIpv6Hextets
  simp only [h, takeWhile_text]
  have htext : s.text ≠ [] := by
    unfold Spelling6.text
    simp [text_ne_nil s]
  rw [if_neg (by simp [htext, text_ne_nil s])]
  have hcomplete := s.complete
  have hpart : s.dottedPart.length = if s.dotted.isSome then 1 else 0 := by
    unfold Spelling6.dottedPart
    cases s.dotted <;> rfl
  cases htail : s.tail with
  | none =>
    rw [htail] at hcomplete
    have hbody : s.body = joined ':' (s.head.map Hextet.digits ++ s.dottedPart) := by
      unfold Spelling6.body
      rw [htail]
    have hpieces : splitPair ':' s.body = [s.body] := by
      rw [hbody]
      exact splitPair_single (single_of_append (single_plain (parts_plain s s.head)))
    simp only [hpieces, List.length_singleton, Nat.sub_self, List.getD_cons_zero, List.getD_cons_succ,
      List.getD_nil, if_true]
    rw [hbody, parts_joined (parts_plain s s.head)]
    simp only [List.length_append, List.length_map, List.length_nil, Nat.add_zero, hpart]
    cases hdotted : s.dotted with
    | none =>
      rw [hdotted] at hcomplete hpart
      simp only [Option.isSome_none, Bool.false_eq_true, if_false, Nat.add_zero] at hcomplete hpart ⊢
      have hnone : s.dottedPart = [] := List.length_eq_zero_iff.mp hpart
      have hmissing : s.missing = 0 := by
        unfold Spelling6.missing
        rw [hcomplete]
        omega
      unfold Spelling6.hextets
      rw [hnone, htail, hmissing, hcomplete]
      simp only [List.append_nil, Option.getD_none, List.replicate_zero]
      have hall : (s.head.map Hextet.digits).all isHextet = true := by
        rw [List.all_map, List.all_eq_true]
        exact fun g _ => g.valid
      simp [hall]
    | some q =>
      rw [hdotted] at hcomplete
      simp only [Option.isSome_some, if_true] at hcomplete ⊢
      have hsix : s.head.length = 6 := by omega
      simp [hsix]
  | some tail =>
    rw [htail] at hcomplete
    have hbody : s.body = joined ':' (s.head.map Hextet.digits) ++ ':' :: ':' ::
        joined ':' (tail.map Hextet.digits ++ s.dottedPart) := by
      unfold Spelling6.body
      rw [htail]
    have hpieces : splitPair ':' s.body = [joined ':' (s.head.map Hextet.digits),
        joined ':' (tail.map Hextet.digits ++ s.dottedPart)] := by
      rw [hbody, splitPair_append (single_plain (groups_plain s.head)),
        splitPair_single (single_of_append (single_plain (parts_plain s tail)))]
    simp only [hpieces, List.length_cons, List.length_nil, List.getD_cons_zero, List.getD_cons_succ]
    rw [parts_joined (groups_plain s.head), parts_joined (parts_plain s tail)]
    simp only [List.length_append, List.length_map, hpart]
    cases hdotted : s.dotted with
    | none =>
      rw [hdotted] at hcomplete hpart
      simp only [Option.isSome_none, Bool.false_eq_true, if_false, Nat.add_zero] at hcomplete hpart ⊢
      have hnone : s.dottedPart = [] := List.length_eq_zero_iff.mp hpart
      have hmissing : 8 - s.head.length - tail.length = s.missing := by
        unfold Spelling6.missing
        rw [htail, hdotted]
        simp
      unfold Spelling6.hextets
      rw [hnone, htail, hmissing]
      have hle : ¬ 8 < s.head.length + tail.length := by omega
      have hall : (s.head.map Hextet.digits ++ List.replicate s.missing "0".toList ++
          tail.map Hextet.digits).all isHextet = true := by
        rw [List.all_eq_true]
        intro part hpart
        rcases List.mem_append.mp hpart with hpart | hpart
        · rcases List.mem_append.mp hpart with hpart | hpart
          · obtain ⟨g, -, rfl⟩ := List.mem_map.mp hpart
            exact g.valid
          · rw [List.eq_of_mem_replicate hpart]
            decide
        · obtain ⟨g, -, rfl⟩ := List.mem_map.mp hpart
          exact g.valid
      simp only [List.append_nil, hle, if_false]
      rw [if_neg (by omega), if_neg (by omega), if_pos hall]
      simp [zeroGroup]
    | some q =>
      rw [hdotted] at hcomplete
      have hq : s.dottedPart = [q.text] := by
        unfold Spelling6.dottedPart
        rw [hdotted]
        rfl
      simp only [Option.isSome_some, if_true] at hcomplete ⊢
      rw [hq]
      have hle : ¬ 8 < s.head.length + (tail.length + 1) := by omega
      simp [hle, not_isHextet_quad]

theorem hexValue_lt {c : Char} : (hexValue c).getD 0 < 16 := by
  unfold hexValue
  split
  · next h => exact List.idxOf_lt_length_of_mem h
  · exact Nat.zero_lt_succ _

theorem hexFold_lt (t : Text) : hexFold t < 16 ^ t.length := by
  induction t using List.reverseRecOn with
  | nil => decide
  | append_singleton t c ih =>
    have hfold : hexFold (t ++ [c]) = 16 * hexFold t + (hexValue c).getD 0 := by
      unfold hexFold
      rw [List.foldl_append]
      rfl
    have hc : (hexValue c).getD 0 < 16 := hexValue_lt
    rw [hfold, List.length_append, List.length_singleton, Nat.pow_succ]
    omega

theorem Hextet.value_lt (h : Hextet) : h.value < 2 ^ 16 := by
  have hlt := hexFold_lt h.digits
  have hlen := (isHextet_iff.mp h.valid).2.1
  have hpow : 16 ^ h.digits.length ≤ 16 ^ 4 := Nat.pow_le_pow_right (by omega) hlen
  unfold Hextet.value
  omega

theorem Hextet.parse (h : Hextet) : parseInt16 h.digits = some (h.value : ℤ) := by
  have hparse : parseInt16 (h.digits ++ []) = some (h.value : ℤ) := parse_group h.ne_nil h.hex (by simp)
  rwa [List.append_nil] at hparse

/-- **The number** of a spelling without a dotted tail. -/
theorem ipv6_eq {address : Text} {s : Spelling6} (h : toLowerCase (trim address) = s.text) :
    ipv6ToBigInt address = if s.dotted.isSome then none else some s.value := by
  unfold ipv6ToBigInt
  rw [expand_eq h]
  cases hdotted : s.dotted with
  | some q => rfl
  | none =>
    simp only [Option.isSome_none, Bool.false_eq_true, if_false, Option.map_some, Option.some.injEq]
    rw [List.foldl_map]
    have hgroups : s.groups = s.hextets.map Hextet.value := by
      unfold Spelling6.groups Spelling6.hextets
      rw [hdotted]
      simp [show zeroGroup.value = 0 by decide]
    unfold Spelling6.value groupValue
    rw [hgroups, List.foldl_map]
    refine congrArg (fun f => List.foldl f 0 s.hextets) (funext fun v => funext fun g => ?_)
    rw [g.parse, Nat.shiftLeft_eq]
    rfl

/-- What follows `::ffff:`, if that is how the spelling begins. -/
def Spelling6.afterPrefix (s : Spelling6) : Option (List Text) :=
  match s.head, s.tail with
  | [], some (first :: rest) =>
    if first.digits = "ffff".toList ∧ rest.map Hextet.digits ++ s.dottedPart ≠ [] then
      some (rest.map Hextet.digits ++ s.dottedPart)
    else none
  | _, _ => none

theorem joined_cons {part : Text} {parts : List Text} (h : parts ≠ []) :
    joined ':' (part :: parts) = part ++ ':' :: joined ':' parts := by
  cases parts with
  | nil => exact absurd rfl h
  | cons q parts =>
    unfold joined
    rw [List.intercalate_cons_cons, List.append_assoc]
    rfl

theorem joined_head (part : Text) (parts : List Text) : ∃ rest, joined ':' (part :: parts) = part ++ rest := by
  cases parts with
  | nil => exact ⟨[], by unfold joined; rw [List.intercalate_singleton, List.append_nil]⟩
  | cons q parts => exact ⟨_, joined_cons (by simp)⟩

/-- A text that begins with a group does not begin with a colon. -/
theorem not_prefix_group {part rest : Text} (h : Plain part) : mappedPrefix.isPrefixOf (part ++ rest) = false := by
  obtain ⟨c, cs, rfl⟩ := List.exists_cons_of_ne_nil h.1
  have hc : ':' ≠ c := fun hc => h.2.1 (by rw [hc]; simp)
  show List.isPrefixOf (':' :: _) (c :: _) = false
  simp [List.isPrefixOf, hc]

theorem cut_colon {a b x y : Text} (ha : ':' ∉ a) (hx : ':' ∉ x) (h : a ++ ':' :: b = x ++ ':' :: y) :
    a = x ∧ b = y := by
  have hcut : ∀ {t r : Text}, ':' ∉ t → (t ++ ':' :: r).takeWhile (· ≠ ':') = t := by
    intro t r ht
    have hpos : ∀ c ∈ t, decide (c ≠ ':') = true := by
      intro c hc
      rw [decide_eq_true_eq]
      rintro rfl
      exact ht hc
    rw [List.takeWhile_append_of_pos hpos]
    simp
  have hax : a = x := by rw [← hcut (r := b) ha, h, hcut hx]
  subst hax
  exact ⟨rfl, (List.cons.inj (List.append_cancel_left h)).2⟩

theorem isPrefixOf_false {t : Text} (h : ∀ rest, mappedPrefix ++ rest ≠ t) :
    mappedPrefix.isPrefixOf t = false := by
  cases hp : mappedPrefix.isPrefixOf t with
  | false => rfl
  | true =>
    obtain ⟨rest, hrest⟩ := List.isPrefixOf_iff_prefix.mp hp
    exact absurd hrest (h rest)

/-- **The prefix** of the mapped addresses, as text. -/
theorem afterPrefix_spec (s : Spelling6) :
    match s.afterPrefix with
    | none => mappedPrefix.isPrefixOf s.text = false
    | some parts => s.text = mappedPrefix ++ (joined ':' parts ++ s.zoneText) ∧ parts ≠ [] ∧
        ∀ part ∈ parts, Plain part := by
  have hcomplete := s.complete
  unfold Spelling6.afterPrefix Spelling6.text Spelling6.body
  cases hhead : s.head with
  | cons g groups =>
    simp only
    cases s.tail with
    | none =>
      simp only [List.map_cons, List.cons_append]
      obtain ⟨rest, hrest⟩ := joined_head g.digits (groups.map Hextet.digits ++ s.dottedPart)
      rw [hrest, List.append_assoc]
      exact not_prefix_group g.plain
    | some tail =>
      simp only [List.map_cons]
      obtain ⟨rest, hrest⟩ := joined_head g.digits (groups.map Hextet.digits)
      rw [hrest, List.append_assoc, List.append_assoc]
      exact not_prefix_group g.plain
  | nil =>
    cases htail : s.tail with
    | none =>
      rw [hhead, htail] at hcomplete
      simp only [List.length_nil] at hcomplete
      split at hcomplete <;> omega
    | some tail =>
      cases tail with
      | nil =>
        simp only [List.map_nil, List.nil_append]
        have hdigit : ∀ c ∈ (joined ':' s.dottedPart ++ s.zoneText).head?, c ≠ 'f' := by
          intro c hc
          unfold Spelling6.dottedPart at hc
          cases hdotted : s.dotted with
          | none =>
            rw [hdotted] at hc
            unfold Spelling6.zoneText at hc
            cases hzone : s.zone with
            | none => simp [hzone, joined] at hc
            | some zone =>
              have hpercent : c = '%' := by simpa [hzone, joined] using hc.symm
              rw [hpercent]
              decide
          | some q =>
            rw [hdotted] at hc
            have hin : c ∈ q.text := by
              obtain ⟨d, ds, hq⟩ := List.exists_cons_of_ne_nil q.plain.1
              have hjoined : joined ':' ((some q).toList.map Quad.text) = q.text :=
                joined_singleton q.text
              rw [hjoined, hq] at hc
              rw [hq]
              have hd : c = d := by simpa using hc.symm
              rw [hd]
              simp
            rintro rfl
            rcases dotted_chars q.small _ hin with h | h
            · revert h
              decide
            · revert h
              decide
        refine isPrefixOf_false fun rest hrest => ?_
        have hcut : 'f' :: 'f' :: 'f' :: 'f' :: ':' :: rest = joined ':' s.dottedPart ++ s.zoneText := by
          have htext : ':' :: ':' :: 'f' :: 'f' :: 'f' :: 'f' :: ':' :: rest =
              ':' :: ':' :: (joined ':' s.dottedPart ++ s.zoneText) := hrest
          exact (List.cons.inj (List.cons.inj htext).2).2
        exact hdigit 'f' (by rw [← hcut]; rfl) rfl
      | cons first rest =>
        simp only [List.map_nil, List.map_cons, List.cons_append]
        have hjoin : joined ':' ([] : List Text) = [] := rfl
        rw [hjoin, List.nil_append]
        by_cases hrest : rest.map Hextet.digits ++ s.dottedPart = []
        · rw [if_neg (fun h => h.2 hrest), hrest]
          refine isPrefixOf_false fun more hmore => ?_
          have htext : ':' :: ':' :: 'f' :: 'f' :: 'f' :: 'f' :: ':' :: more =
              ':' :: ':' :: (joined ':' [first.digits] ++ s.zoneText) := hmore
          have hcut := (List.cons.inj (List.cons.inj htext).2).2
          have hsingle := joined_singleton first.digits
          have hcolon : ':' ∈ first.digits ++ s.zoneText := by
            rw [← hsingle, ← hcut]
            simp
          rcases List.mem_append.mp hcolon with h | h
          · exact first.plain.2.1 h
          · exact zone_plain s _ h rfl
        · rw [joined_cons hrest]
          by_cases hfirst : first.digits = "ffff".toList
          · rw [if_pos ⟨hfirst, hrest⟩, hfirst]
            refine ⟨?_, hrest, parts_plain s rest⟩
            show ':' :: ':' :: (("ffff".toList ++ ':' :: joined ':' _) ++ s.zoneText) = _
            rw [List.append_assoc]
            rfl
          · rw [if_neg (fun h => hfirst h.1)]
            refine isPrefixOf_false fun more hmore => hfirst ?_
            have htext : ':' :: ':' :: ("ffff".toList ++ ':' :: more) =
                ':' :: ':' :: (first.digits ++ ':' :: (joined ':' (rest.map Hextet.digits ++ s.dottedPart)
                  ++ s.zoneText)) := by
              refine Eq.trans hmore ?_
              simp
            have hcut := (List.cons.inj (List.cons.inj htext).2).2
            exact (cut_colon (by decide) first.plain.2.1 hcut).1.symm

/-! ## §7. The embedded IPv4 address. -/

theorem mem_trim {t : Text} {c : Char} (h : c ∈ t) (hc : jsWhiteSpace c = false) : c ∈ trim t := by
  have hkeep : ∀ {l : Text}, c ∈ l → c ∈ l.dropWhile jsWhiteSpace := by
    intro l hl
    rw [← List.takeWhile_append_dropWhile (p := jsWhiteSpace) (l := l)] at hl
    rcases List.mem_append.mp hl with hl | hl
    · have hspace := List.mem_takeWhile_imp hl
      rw [hc] at hspace
      cases hspace
    · exact hl
  unfold trim
  exact List.mem_reverse.mpr (hkeep (List.mem_reverse.mpr (hkeep h)))

theorem mapM_some {α β : Type} {f : α → Option β} {l : List α} {r : List β} (h : l.mapM f = some r) :
    ∀ a ∈ l, (f a).isSome = true := by
  induction l generalizing r with
  | nil => simp
  | cons a l ih =>
    rw [List.mapM_cons] at h
    cases hf : f a with
    | none => simp [hf] at h
    | some b =>
      cases hl : l.mapM f with
      | none => simp [hf, hl] at h
      | some bs =>
        intro x hx
        rcases List.mem_cons.mp hx with rfl | hx
        · simp [hf]
        · exact ih hl x hx

theorem mapM_length {α β : Type} {f : α → Option β} {l : List α} {r : List β} (h : l.mapM f = some r) :
    r.length = l.length := by
  induction l generalizing r with
  | nil =>
    cases h
    rfl
  | cons a l ih =>
    rw [List.mapM_cons] at h
    cases hf : f a with
    | none => simp [hf] at h
    | some b =>
      cases hl : l.mapM f with
      | none => simp [hf, hl] at h
      | some bs =>
        have hr : b :: bs = r := by simpa [hf, hl] using h
        rw [← hr, List.length_cons, List.length_cons, ih hl]

/-- What contains a character that is neither digit nor dot is no IPv4 address. -/
theorem parse_percent {t : Text} (h : '%' ∈ t) : parseIpv4Octets t = none := by
  cases hparse : parseIpv4Octets t with
  | none => rfl
  | some octets =>
    exfalso
    have hin := mem_trim h (by decide)
    unfold parseIpv4Octets at hparse
    simp only at hparse
    split at hparse
    · cases hparse
    · have hjoin : joined '.' ((trim t).splitOn '.') = trim t := List.intercalate_splitOn '.'
      rw [← hjoin] at hin
      rcases mem_joined hin with hdot | ⟨part, hpart, hc⟩
      · revert hdot
        decide
      · have hsome := mapM_some hparse part hpart
        unfold parseOctet at hsome
        split at hsome
        · cases hsome
        · next hdigits =>
          have hall : isDigits part = true := by
            by_contra hno
            exact hdigits (fun hboth => hno hboth.1)
          unfold isDigits at hall
          rw [decide_eq_true_eq] at hall
          have hdigit := List.all_eq_true.mp hall.2 '%' hc
          revert hdigit
          decide

theorem parse_group_only (g : Hextet) : parseIpv4Octets g.digits = none := by
  have htrim : trim g.digits = g.digits :=
    trim_eq_self fun c hc => (hexDigits_plain (g.hex c hc)).2.2.2.2.1
  have hdot : '.' ∉ g.digits := fun hin => (hexDigits_plain (g.hex _ hin)).2.2.2.1 rfl
  unfold parseIpv4Octets
  simp [htrim, List.splitOn_eq_singleton hdot]

theorem embedded_none {address : Text} {s : Spelling6} (h : toLowerCase (trim address) = s.text)
    (hafter : s.afterPrefix = none) : embeddedIpv4FromMappedV6 address = none := by
  have hspec := afterPrefix_spec s
  rw [hafter] at hspec
  unfold embeddedIpv4FromMappedV6
  simp only [h]
  rw [if_pos (by simp [show mappedPrefix.isPrefixOf s.text = false from hspec])]

/-- What stands behind the prefix. -/
theorem embedded_some {address : Text} {s : Spelling6} (h : toLowerCase (trim address) = s.text)
    {parts : List Text} (hafter : s.afterPrefix = some parts) :
    embeddedIpv4FromMappedV6 address =
      match parts with
      | [part] =>
        if (parseIpv4Octets (part ++ s.zoneText)).isSome then some (part ++ s.zoneText) else none
      | [first, second] =>
        match parseInt16 first, parseInt16 (second ++ s.zoneText) with
        | some high, some low =>
          if high < 0 ∨ 0xffff < high ∨ low < 0 ∨ 0xffff < low then none
          else some (dottedText [(high.toNat >>> 8) &&& 0xff, high.toNat &&& 0xff,
            (low.toNat >>> 8) &&& 0xff, low.toNat &&& 0xff])
        | _, _ => none
      | _ => none := by
  have hspec := afterPrefix_spec s
  rw [hafter] at hspec
  obtain ⟨htext, hne, hplain⟩ := hspec
  have hzone : ':' ∉ s.zoneText := fun hin => zone_plain s _ hin rfl
  unfold embeddedIpv4FromMappedV6
  simp only [h]
  have hstart : mappedPrefix.isPrefixOf s.text = true := by
    rw [htext]
    exact List.isPrefixOf_iff_prefix.mpr (List.prefix_append _ _)
  have hdrop : s.text.drop mappedPrefix.length = joined ':' parts ++ s.zoneText := by
    rw [htext, List.drop_left]
  rw [if_neg (by simp [hstart]), hdrop]
  cases parts with
  | nil => exact absurd rfl hne
  | cons first parts =>
    have hfirst := hplain first (by simp)
    cases parts with
    | nil =>
      rw [joined_singleton, if_neg (by
        intro hin
        rcases List.mem_append.mp hin with hin | hin
        · exact hfirst.2.1 hin
        · exact hzone hin)]
    | cons second parts =>
      have hsecond := hplain second (by simp)
      rw [joined_cons (by simp), if_pos (by simp), List.append_assoc, List.cons_append,
        List.splitOn_append_cons_self_of_not_mem hfirst.2.1]
      cases parts with
      | nil =>
        have hno : ':' ∉ second ++ s.zoneText := by
          intro hin
          rcases List.mem_append.mp hin with hin | hin
          · exact hsecond.2.1 hin
          · exact hzone hin
        rw [joined_singleton, List.splitOn_eq_singleton hno]
      | cons third parts =>
        rw [joined_cons (by simp), List.append_assoc, List.cons_append,
          List.splitOn_append_cons_self_of_not_mem hsecond.2.1]
        cases hsplit : (joined ':' (third :: parts) ++ s.zoneText).splitOn ':' with
        | nil => exact absurd hsplit (List.splitOn_ne_nil _ _)
        | cons t ts => rfl

/-! ## §8. Judged by what it is. -/

theorem afterPrefix_some {s : Spelling6} {parts : List Text} (h : s.afterPrefix = some parts) :
    s.head = [] ∧ ∃ first rest, s.tail = some (first :: rest) ∧ first.value = 0xffff ∧
      parts = rest.map Hextet.digits ++ s.dottedPart := by
  unfold Spelling6.afterPrefix at h
  split at h
  · next first rest hhead htail =>
    split at h
    · next hfirst =>
      refine ⟨hhead, first, rest, htail, ?_, (Option.some.inj h).symm⟩
      unfold Hextet.value
      rw [hfirst.1]
      decide
    · cases h
  · cases h

theorem and_shifted {v m k : ℕ} (h : v < 2 ^ k) : v &&& (m <<< k) = 0 := by
  refine Nat.eq_of_testBit_eq fun i => ?_
  rw [Nat.testBit_and, Nat.testBit_shiftLeft, Nat.zero_testBit]
  by_cases hi : k ≤ i
  · rw [Nat.testBit_lt_two_pow (h.trans_le (Nat.pow_le_pow_right (by omega) hi)), Bool.false_and]
  · simp [hi]

/-- The forbidden networks of IPv6 leave the small numbers alone. -/
theorem small_allowed {v : ℕ} (hlow : 1 < v) (hhigh : v < 2 ^ 64) : isForbiddenIpv6Value v = false := by
  have hfull : v &&& (2 ^ 128 - 1) = v := by
    rw [Nat.and_two_pow_sub_one_eq_mod]
    exact Nat.mod_eq_of_lt (by omega)
  have hshift : ∀ bits, bits ≤ 64 → bits ≠ 0 → v &&& ipv6PrefixMask bits = 0 := by
    intro bits hbits hzero
    unfold ipv6PrefixMask
    rw [if_neg hzero, if_neg (by omega)]
    exact and_shifted (hhigh.trans_le (Nat.pow_le_pow_right (by omega) (by omega)))
  have hmask : ipv6PrefixMask 128 = 2 ^ 128 - 1 := by decide +kernel
  have hnet : 0xfc000000000000000000000000000000 &&& ipv6PrefixMask 7 ≠ 0 ∧
      0xfe800000000000000000000000000000 &&& ipv6PrefixMask 10 ≠ 0 ∧
      0xff000000000000000000000000000000 &&& ipv6PrefixMask 8 ≠ 0 ∧
      0 &&& ipv6PrefixMask 128 = 0 ∧ 1 &&& ipv6PrefixMask 128 = 1 := by decide +kernel
  obtain ⟨h7, h10, h8, h0, h1⟩ := hnet
  unfold isForbiddenIpv6Value forbiddenIpv6Ranges inPrefixV6
  simp only [List.any_cons, List.any_nil, Bool.or_false, Bool.or_eq_false_iff, decide_eq_false_iff_not]
  refine ⟨?_, ?_, ?_, ?_, ?_⟩
  · rw [hmask, hfull, ← hmask, h0]
    omega
  · rw [hmask, hfull, ← hmask, h1]
    omega
  · rw [hshift 7 (by omega) (by omega)]
    exact h7.symm
  · rw [hshift 10 (by omega) (by omega)]
    exact h10.symm
  · rw [hshift 8 (by omega) (by omega)]
    exact h8.symm

theorem mapped_allowed {v : ℕ} (h : mapped v) : isForbiddenIpv6Value v = false := by
  unfold mapped at h
  exact small_allowed (by omega) (by omega)

/-- The spellings that are judged by their address. -/
def Spelling6.WellJudged (s : Spelling6) : Prop :=
  match s.afterPrefix, s.dotted, s.zone with
  -- `::ffff:7f00:1`
  | some [_, _], none, _ => True
  -- `::ffff:127.0.0.1`
  | some [_], some _, none => True
  -- `::ffff:7f00:10.0.0.1`: the first byte is taken for hexadecimal, and the rest is left out.
  | some [group, _], some q, _ =>
    isForbiddenIpv4Value (hexFold group * 2 ^ 16 + hexFold (decimalText q.a)) = false
  -- A mapped address that is written in another way is judged as an IPv6 address.
  | _, none, _ => mapped s.value → isForbiddenIpv4Value (s.value % 2 ^ 32) = false
  -- Other dotted tails are not read.
  | _, some _, _ => (Spelling.v6 s).forbidden = true

theorem group_bytes {high low : ℕ} (hhigh : high < 2 ^ 16) (hlow : low < 2 ^ 16) :
    ipv4ToBigInt (dottedText [(high >>> 8) &&& 0xff, high &&& 0xff, (low >>> 8) &&& 0xff, low &&& 0xff]) =
      some (high * 2 ^ 16 + low) := by
  have hbyte : ∀ n : ℕ, n &&& 0xff = n % 2 ^ 8 := fun n => Nat.and_two_pow_sub_one_eq_mod n 8
  rw [hbyte, hbyte, hbyte, hbyte, Nat.shiftRight_eq_div_pow, Nat.shiftRight_eq_div_pow,
    ipv4_dotted (by omega) (by omega) (by omega) (by omega)]
  have hsum : high / 2 ^ 8 % 2 ^ 8 * 2 ^ 24 + high % 2 ^ 8 * 2 ^ 16 + low / 2 ^ 8 % 2 ^ 8 * 2 ^ 8 +
      low % 2 ^ 8 = high * 2 ^ 16 + low := by omega
  rw [hsum]

/-- Two groups behind the prefix, or what is taken for them. -/
theorem forbidden_pair {address first second : Text} {high low : ℕ}
    (hembedded : embeddedIpv4FromMappedV6 address =
      match parseInt16 first, parseInt16 second with
      | some high, some low =>
        if high < 0 ∨ 0xffff < high ∨ low < 0 ∨ 0xffff < low then none
        else some (dottedText [(high.toNat >>> 8) &&& 0xff, high.toNat &&& 0xff,
          (low.toNat >>> 8) &&& 0xff, low.toNat &&& 0xff])
      | _, _ => none)
    (hfirst : parseInt16 first = some (high : ℤ)) (hsecond : parseInt16 second = some (low : ℤ))
    (hhigh : high < 2 ^ 16) (hlow : low < 2 ^ 16) :
    isForbiddenIp address .six = isForbiddenIpv4Value (high * 2 ^ 16 + low) := by
  rw [hfirst, hsecond] at hembedded
  simp only at hembedded
  rw [if_neg (by omega), Int.toNat_natCast, Int.toNat_natCast] at hembedded
  unfold isForbiddenIp
  simp only [hembedded, group_bytes hhigh hlow]

theorem forbidden_unembedded {address : Text} {s : Spelling6} (h : toLowerCase (trim address) = s.text)
    (hembedded : embeddedIpv4FromMappedV6 address = none) :
    isForbiddenIp address .six = if s.dotted.isSome then true else isForbiddenIpv6Value s.value := by
  unfold isForbiddenIp
  simp only [hembedded, ipv6_eq h]
  cases s.dotted <;> rfl

/-- A zone is no part of a number. -/
theorem zone_head (s : Spelling6) :
    ∀ c ∈ s.zoneText.head?, (hexValue c).isSome = false ∧ c ≠ 'x' ∧ c ≠ 'X' := by
  intro c hc
  unfold Spelling6.zoneText at hc
  cases hz : s.zone with
  | none => simp [hz] at hc
  | some zone =>
    rw [hz] at hc
    have hpercent : c = '%' := by simpa using hc.symm
    rw [hpercent]
    decide

theorem unread_iff (s : Spelling6) :
    isForbiddenIpv6Value s.value = (Spelling.v6 s).forbidden ↔
      (mapped s.value → isForbiddenIpv4Value (s.value % 2 ^ 32) = false) := by
  unfold Spelling.forbidden
  by_cases hm : mapped s.value
  · simp only [hm, if_true, true_imp_iff]
    rw [mapped_allowed hm]
    exact eq_comm
  · simp [hm]

theorem groupValue_pair (a b : ℕ) : groupValue [0, 0, 0, 0, 0, 0xffff, a, b] =
    0xffff * 2 ^ 32 + (a * 2 ^ 16 + b) := by
  unfold groupValue
  simp only [List.foldl_cons, List.foldl_nil]
  omega

theorem groupValue_gap (r a b : ℕ) : groupValue [0, 0, 0, 0, 0xffff, r, a, b] =
    0xffff * 2 ^ 48 + (r * 2 ^ 32 + (a * 2 ^ 16 + b)) := by
  unfold groupValue
  simp only [List.foldl_cons, List.foldl_nil]
  omega

/-- The eight groups behind `::ffff:`. -/
theorem groups_after {s : Spelling6} {first : Hextet} {rest : List Hextet} (hhead : s.head = [])
    (htail : s.tail = some (first :: rest)) (hfirst : first.value = 0xffff) :
    s.groups = List.replicate (7 - rest.length - (if s.dotted.isSome then 2 else 0)) 0 ++
      0xffff :: (rest.map Hextet.value ++
        s.dotted.toList.flatMap fun q => [(q.a : ℕ) * 256 + q.b, (q.c : ℕ) * 256 + q.d]) := by
  have hmissing : s.missing = 7 - rest.length - (if s.dotted.isSome then 2 else 0) := by
    unfold Spelling6.missing
    rw [hhead, htail]
    simp only [List.length_nil, Option.getD_some, List.length_cons]
    omega
  unfold Spelling6.groups
  rw [hmissing, hhead, htail]
  simp [hfirst]

theorem judged_short {address : Text} {s : Spelling6} (h : toLowerCase (trim address) = s.text)
    {first : Hextet} {g1 g2 : Hextet} (hafter : s.afterPrefix = some [g1.digits, g2.digits])
    (hhead : s.head = []) (htail : s.tail = some [first, g1, g2]) (hfirst : first.value = 0xffff)
    (hdotted : s.dotted = none) :
    isForbiddenIp address .six = (Spelling.v6 s).forbidden := by
  have hparse : parseInt16 (g2.digits ++ s.zoneText) = some (g2.value : ℤ) :=
    parse_group g2.ne_nil g2.hex (zone_head s)
  rw [forbidden_pair (embedded_some h hafter) g1.parse hparse g1.value_lt g2.value_lt]
  have hvalue : s.value = 0xffff * 2 ^ 32 + (g1.value * 2 ^ 16 + g2.value) := by
    unfold Spelling6.value
    rw [groups_after hhead htail hfirst, hdotted]
    exact groupValue_pair _ _
  have h1 := g1.value_lt
  have h2 := g2.value_lt
  have hm : mapped s.value := by
    unfold mapped
    omega
  have hmod : s.value % 2 ^ 32 = g1.value * 2 ^ 16 + g2.value := by omega
  unfold Spelling.forbidden
  simp only
  rw [if_pos hm, hmod]

theorem judged_bare {address : Text} {s : Spelling6} (h : toLowerCase (trim address) = s.text)
    {first : Hextet} {q : Quad} (hafter : s.afterPrefix = some [q.text])
    (hhead : s.head = []) (htail : s.tail = some [first]) (hfirst : first.value = 0xffff)
    (hdotted : s.dotted = some q) (hzone : s.zone = none) :
    isForbiddenIp address .six = (Spelling.v6 s).forbidden := by
  have hzoneText := zoneText_none hzone
  have hparse : parseIpv4Octets q.text = some q.octets :=
    parse_dotted q.a.isLt q.b.isLt q.c.isLt q.d.isLt
  have hembedded := embedded_some h hafter
  simp only [hzoneText, List.append_nil, hparse, Option.isSome_some, if_true] at hembedded
  have hvalue : s.value = 0xffff * 2 ^ 32 +
      (((q.a : ℕ) * 256 + q.b) * 2 ^ 16 + ((q.c : ℕ) * 256 + q.d)) := by
    unfold Spelling6.value
    rw [groups_after hhead htail hfirst, hdotted]
    exact groupValue_pair _ _
  have ha := q.a.isLt
  have hb := q.b.isLt
  have hc := q.c.isLt
  have hd := q.d.isLt
  have hm : mapped s.value := by
    unfold mapped
    omega
  have hmod : s.value % 2 ^ 32 = (q.a : ℕ) * 2 ^ 24 + q.b * 2 ^ 16 + q.c * 2 ^ 8 + q.d := by omega
  unfold isForbiddenIp Spelling.forbidden
  simp only [hembedded]
  rw [show ipv4ToBigInt q.text = some ((q.a : ℕ) * 2 ^ 24 + q.b * 2 ^ 16 + q.c * 2 ^ 8 + q.d) from
    ipv4_dotted ha hb hc hd, if_pos hm, hmod]

theorem judged_gap {address : Text} {s : Spelling6} (h : toLowerCase (trim address) = s.text)
    {first g : Hextet} {q : Quad} (hafter : s.afterPrefix = some [g.digits, q.text])
    (hhead : s.head = []) (htail : s.tail = some [first, g]) (hfirst : first.value = 0xffff)
    (hdotted : s.dotted = some q) :
    isForbiddenIp address .six = isForbiddenIpv4Value (g.value * 2 ^ 16 + hexFold (decimalText q.a)) ∧
      (Spelling.v6 s).forbidden = false := by
  have ha := q.a.isLt
  have hb := q.b.isLt
  have hc := q.c.isLt
  have hd := q.d.isLt
  have hg := g.value_lt
  have hdigits := decimalText_digits ha
  have htext : q.text ++ s.zoneText = decimalText q.a ++ ('.' :: (joined '.'
      [decimalText q.b, decimalText q.c, decimalText q.d] ++ s.zoneText)) := by
    show joined '.' (decimalText q.a :: [decimalText q.b, decimalText q.c, decimalText q.d]) ++ _ = _
    unfold joined
    rw [List.intercalate_cons_cons, List.append_assoc, List.append_assoc]
    rfl
  have hparse : parseInt16 (q.text ++ s.zoneText) = some (hexFold (decimalText q.a) : ℤ) := by
    rw [htext]
    refine parse_group hdigits.1 (fun c hc => digit_plain (List.all_eq_true.mp hdigits.2.1 c hc)) ?_
    intro c hc
    have hdot : c = '.' := by simpa using hc.symm
    rw [hdot]
    decide
  have hlow : hexFold (decimalText q.a) < 2 ^ 16 := by
    have hall : ∀ n < 256, hexFold (decimalText n) < 2 ^ 16 := by decide +kernel
    exact hall _ ha
  refine ⟨forbidden_pair (embedded_some h hafter) g.parse hparse hg hlow, ?_⟩
  have hvalue : s.value = 0xffff * 2 ^ 48 + (g.value * 2 ^ 32 +
      (((q.a : ℕ) * 256 + q.b) * 2 ^ 16 + ((q.c : ℕ) * 256 + q.d))) := by
    unfold Spelling6.value
    rw [groups_after hhead htail hfirst, hdotted]
    exact groupValue_gap _ _ _
  have hm : ¬ mapped s.value := by
    unfold mapped
    omega
  unfold Spelling.forbidden
  simp only
  rw [if_neg hm]
  exact small_allowed (by omega) (by omega)

/-- **A spelling is judged by its address** exactly if it is well judged. -/
theorem judged_iff {address : Text} {s : Spelling6} (h : toLowerCase (trim address) = s.text) :
    isForbiddenIp address .six = (Spelling.v6 s).forbidden ↔ s.WellJudged := by
  unfold Spelling6.WellJudged
  cases hdotted : s.dotted with
  | none =>
    have hread : embeddedIpv4FromMappedV6 address = none →
        (isForbiddenIp address .six = (Spelling.v6 s).forbidden ↔
          (mapped s.value → isForbiddenIpv4Value (s.value % 2 ^ 32) = false)) := by
      intro hembedded
      rw [forbidden_unembedded h hembedded, hdotted]
      exact unread_iff s
    cases hafter : s.afterPrefix with
    | none => exact hread (embedded_none h hafter)
    | some parts =>
      obtain ⟨hhead, first, rest, htail, hfirst, hparts⟩ := afterPrefix_some hafter
      have hempty : s.dottedPart = [] := by
        unfold Spelling6.dottedPart
        rw [hdotted]
        rfl
      rw [hempty, List.append_nil] at hparts
      subst hparts
      have hembedded := embedded_some h hafter
      match rest with
      | [] => exact hread hembedded
      | [g] =>
        -- One group behind the prefix is not read as an IPv4 address.
        have hnone : parseIpv4Octets (g.digits ++ s.zoneText) = none := by
          cases hzone : s.zone with
          | none =>
            rw [zoneText_none hzone, List.append_nil]
            exact parse_group_only g
          | some zone =>
            refine parse_percent ?_
            unfold Spelling6.zoneText
            rw [hzone]
            simp
        refine hread (hembedded.trans ?_)
        show (if (parseIpv4Octets (g.digits ++ s.zoneText)).isSome then some (g.digits ++ s.zoneText)
          else none) = none
        rw [hnone]
        rfl
      | [g1, g2] =>
        have hshort := judged_short h hafter hhead htail hfirst hdotted
        exact iff_of_true hshort trivial
      | g1 :: g2 :: g3 :: more => exact hread hembedded
  | some q =>
    have hread : embeddedIpv4FromMappedV6 address = none →
        (isForbiddenIp address .six = (Spelling.v6 s).forbidden ↔ (Spelling.v6 s).forbidden = true) := by
      intro hembedded
      rw [forbidden_unembedded h hembedded, hdotted]
      exact eq_comm
    cases hafter : s.afterPrefix with
    | none => exact hread (embedded_none h hafter)
    | some parts =>
      obtain ⟨hhead, first, rest, htail, hfirst, hparts⟩ := afterPrefix_some hafter
      have hone : s.dottedPart = [q.text] := by
        unfold Spelling6.dottedPart
        rw [hdotted]
        rfl
      rw [hone] at hparts
      subst hparts
      have hembedded := embedded_some h hafter
      match rest with
      | [] =>
        cases hzone : s.zone with
        | none => exact iff_of_true (judged_bare h hafter hhead htail hfirst hdotted hzone) trivial
        | some zone =>
          have hnone : parseIpv4Octets (q.text ++ s.zoneText) = none := by
            refine parse_percent ?_
            unfold Spelling6.zoneText
            rw [hzone]
            simp
          refine hread (hembedded.trans ?_)
          show (if (parseIpv4Octets (q.text ++ s.zoneText)).isSome then some (q.text ++ s.zoneText)
            else none) = none
          rw [hnone]
          rfl
      | [g] =>
        obtain ⟨hcode, hspec⟩ := judged_gap h hafter hhead htail hfirst hdotted
        rw [hcode, hspec]
        exact Iff.rfl
      | g1 :: g2 :: more =>
        have hmany : embeddedIpv4FromMappedV6 address = none := by
          rw [hembedded]
          cases more <;> rfl
        cases more with
        | nil => exact hread hmany
        | cons g3 more => exact hread hmany

/-! ## §9. What is connected to. -/

/-- An answer of the resolver, and the address it writes. -/
structure ResolvedAddress where
  address : Text
  spelling : Spelling
  writes : spelling.Writes address

/-- `assertResolvedAddressesAllowed`. -/
def allowed (addresses : List ResolvedAddress) : Bool :=
  addresses ≠ [] ∧ addresses.all fun entry => ¬ isForbiddenIp entry.address entry.spelling.family

inductive Target
  | literal (address : ℕ)
  | resolved (entry : ResolvedAddress)

def Target.forbidden : Target → Bool
  | literal address => isForbiddenIpv4Value address
  | resolved entry => entry.spelling.forbidden

/-- What `guardedJsonFetch` of the address's URL may connect to: the host where it is an address,
    and otherwise what `createPinnedLookup` lets through of the resolver's answer. -/
def targets (punycode : Text → Bool) (value : Text) (resolver : List ResolvedAddress) : List Target :=
  match lud16Host punycode value with
  | none => []
  | some (.ipv4 address) => [.literal address]
  | some (.domain _) => if allowed resolver then resolver.map Target.resolved else []

/-- The host is looked up, each answer is judged by its address, and nothing forbidden is reached. -/
structure Guarded (punycode : Text → Bool) (value : Text) (resolver : List ResolvedAddress) : Prop where
  looked : ∀ address, lud16Host punycode value ≠ some (.ipv4 address)
  judged : ∀ entry ∈ resolver,
    isForbiddenIp entry.address entry.spelling.family = entry.spelling.forbidden
  reached : ∀ target ∈ targets punycode value resolver, target.forbidden = false

/-- The domain is a row of up to four numbers, the first ones bytes and the last the rest of 32
    bits, and the blanks before it are such as the URL parser drops. -/
def LegacyIpv4 (value : Text) : Prop :=
  ∃ name domain numbers, parseLud16 value = some (name, domain) ∧
    (∀ c ∈ domain, jsWhiteSpace c = true → dropped c = true) ∧
    ((domain.filter fun c => ¬ dropped c).splitOn '.').mapM ipv4Number = some numbers ∧
    numbers.length ≤ 4 ∧ (∀ n ∈ numbers.dropLast, n ≤ 255) ∧
    ∀ last ∈ numbers.getLast?, last < 256 ^ (5 - numbers.length)

theorem ipv4Value_iff (left : ℕ) {numbers : List ℕ} (hne : numbers ≠ []) (hlen : numbers.length ≤ left) :
    (ipv4Value left numbers).isSome = true ↔
      (∀ n ∈ numbers.dropLast, n ≤ 255) ∧
        ∀ last ∈ numbers.getLast?, last < 256 ^ (left + 1 - numbers.length) := by
  induction numbers generalizing left with
  | nil => exact absurd rfl hne
  | cons n numbers ih =>
    cases numbers with
    | nil =>
      unfold ipv4Value
      by_cases hlast : n < 256 ^ left <;> simp [hlast]
    | cons m more =>
      have hrest := ih (left - 1) (by simp) (by simp at hlen ⊢; omega)
      have hexp : left - 1 + 1 - (m :: more).length = left + 1 - (n :: m :: more).length := by
        simp only [List.length_cons] at hlen ⊢
        omega
      rw [hexp] at hrest
      unfold ipv4Value
      by_cases hn : n ≤ 255
      · rw [if_pos hn, Option.isSome_map, hrest]
        simp [hn]
      · rw [if_neg hn]
        simp [hn]

theorem number_start {part : Text} {n : ℕ} (h : ipv4Number part = some n) :
    "xn--".toList.isPrefixOf part = false := by
  cases part with
  | nil => rfl
  | cons c cs =>
    by_cases hc : c = 'x'
    · subst hc
      exfalso
      unfold ipv4Number at h
      simp [isDigits] at h
    · have hc' : ('x' == c) = false := by simpa using fun h => hc h.symm
      show List.isPrefixOf ('x' :: _) (c :: cs) = false
      simp [List.isPrefixOf, hc']

theorem mapM_getLast {α β : Type} {f : α → Option β} {l : List α} {r : List β} (h : l.mapM f = some r) :
    ∀ a ∈ l.getLast?, (f a).isSome = true := by
  intro a ha
  exact mapM_some h a (List.mem_of_getLast? ha)

/-- **The host is an address** exactly for the rows of numbers. -/
theorem literal_iff (punycode : Text → Bool) (value : Text) :
    (∃ address, lud16Host punycode value = some (.ipv4 address)) ↔ LegacyIpv4 value := by
  unfold lud16Host LegacyIpv4
  cases hparse : parseLud16 value with
  | none => simp
  | some parsed =>
    obtain ⟨name, domain⟩ := parsed
    simp only [Option.some.injEq, Prod.mk.injEq]
    unfold urlHost
    simp only
    generalize hparts : (domain.filter fun c => ¬ dropped c).splitOn '.' = parts
    have hne : parts ≠ [] := by
      rw [← hparts]
      exact List.splitOn_ne_nil _ _
    have hblank : ((domain.filter fun c => ¬ dropped c).any jsWhiteSpace = true) ↔
        ¬ ∀ c ∈ domain, jsWhiteSpace c = true → dropped c = true := by
      simp [and_comm]
    constructor
    · rintro ⟨address, h⟩
      split at h
      · cases h
      · next hclean =>
        split at h
        · cases h
        · split at h
          · rw [Option.map_eq_some_iff] at h
            obtain ⟨a, ha, -⟩ := h
            unfold ipv4Parser at ha
            split at ha
            · cases ha
            · next hlen =>
              rw [Option.bind_eq_bind, Option.bind_eq_some_iff] at ha
              obtain ⟨numbers, hnumbers, hvalue⟩ := ha
              have hlength : numbers.length = parts.length := mapM_length hnumbers
              have hnumbersNe : numbers ≠ [] := by
                intro hnil
                rw [hnil] at hlength
                exact hne (List.length_eq_zero_iff.mp hlength.symm)
              have hiff := (ipv4Value_iff 4 hnumbersNe (by omega)).mp (by rw [hvalue]; rfl)
              exact ⟨name, domain, numbers, ⟨rfl, rfl⟩, by_contra fun hno => hclean (hblank.mpr hno),
                by rw [hparts]; exact hnumbers, by omega, hiff⟩
          · cases h
    · rintro ⟨name', domain', numbers, ⟨rfl, rfl⟩, hclean, hnumbers, hlen, hbytes, hlast⟩
      rw [hparts] at hnumbers
      have hlength : numbers.length = parts.length := mapM_length hnumbers
      have hnumbersNe : numbers ≠ [] := by
        intro hnil
        rw [hnil] at hlength
        exact hne (List.length_eq_zero_iff.mp hlength.symm)
      have hsome := (ipv4Value_iff 4 hnumbersNe hlen).mpr ⟨hbytes, hlast⟩
      obtain ⟨address, haddress⟩ := Option.isSome_iff_exists.mp hsome
      refine ⟨address, ?_⟩
      have hplain : parts.all (fun part => ¬ "xn--".toList.isPrefixOf part ∨ punycode part) = true := by
        rw [List.all_eq_true]
        intro part hpart
        obtain ⟨n, hn⟩ := Option.isSome_iff_exists.mp (mapM_some hnumbers part hpart)
        exact decide_eq_true (Or.inl (by rw [number_start hn]; decide))
      have hends : endsInNumber parts = true := by
        unfold endsInNumber
        cases hget : parts.getLast? with
        | none => exact absurd (List.getLast?_eq_none_iff.mp hget) hne
        | some last => simp [mapM_getLast hnumbers last hget]
      rw [if_neg (fun hany => hblank.mp hany hclean), if_neg (not_not_intro hplain), if_pos hends]
      unfold ipv4Parser
      rw [if_neg (by omega)]
      simp [hnumbers, haddress]

/-- An IPv4 address is judged by its value. -/
theorem judged_v4 {address : Text} {q : Quad} (h : trim address = q.text) :
    isForbiddenIp address .four = isForbiddenIpv4Value q.value := by
  have hsame : ipv4ToBigInt address = ipv4ToBigInt q.text := by
    unfold ipv4ToBigInt parseIpv4Octets
    rw [h, show trim q.text = q.text from trim_dotted q.small]
  unfold isForbiddenIp
  simp only [hsame]
  rw [show ipv4ToBigInt q.text = some ((q.a : ℕ) * 2 ^ 24 + q.b * 2 ^ 16 + q.c * 2 ^ 8 + q.d) from
    ipv4_dotted q.a.isLt q.b.isLt q.c.isLt q.d.isLt]
  rfl

theorem entry_judged_iff (entry : ResolvedAddress) :
    isForbiddenIp entry.address entry.spelling.family = entry.spelling.forbidden ↔
      ∀ s, entry.spelling = .v6 s → s.WellJudged := by
  have hwrites := entry.writes
  cases hspelling : entry.spelling with
  | v4 q =>
    rw [hspelling] at hwrites
    refine iff_of_true (judged_v4 hwrites) fun s hs => ?_
    cases hs
  | v6 s =>
    rw [hspelling] at hwrites
    constructor
    · intro hjudged s' hs
      cases hs
      exact (judged_iff hwrites).mp hjudged
    · intro hwell
      exact (judged_iff hwrites).mpr (hwell s rfl)

/-- Where the host is looked up and every answer is judged by its address, nothing forbidden is
    reached. -/
theorem reached_of_judged {punycode : Text → Bool} {value : Text} {resolver : List ResolvedAddress}
    (hlooked : ∀ address, lud16Host punycode value ≠ some (.ipv4 address))
    (hjudged : ∀ entry ∈ resolver,
      isForbiddenIp entry.address entry.spelling.family = entry.spelling.forbidden) :
    ∀ target ∈ targets punycode value resolver, target.forbidden = false := by
  intro target htarget
  unfold targets at htarget
  split at htarget
  · cases htarget
  · next address hhost => exact absurd hhost (hlooked address)
  · split at htarget
    · next hallowed =>
      obtain ⟨entry, hentry, rfl⟩ := List.mem_map.mp htarget
      unfold allowed at hallowed
      rw [decide_eq_true_eq] at hallowed
      have hpassed := List.all_eq_true.mp hallowed.2 entry hentry
      rw [decide_eq_true_eq, hjudged entry hentry] at hpassed
      exact Bool.eq_false_iff.mpr hpassed
    · cases htarget

/-- **The guard**: for every Lightning address and all answers of the resolver, the host is looked
    up, every answer is judged by the address it writes and nothing forbidden is connected to,
    exactly if the domain is no row of numbers and every answer is well judged. -/
theorem guard_iff (punycode : Text → Bool) (value : Text) (resolver : List ResolvedAddress) :
    Guarded punycode value resolver ↔
      ¬ LegacyIpv4 value ∧ ∀ entry ∈ resolver, ∀ s, entry.spelling = .v6 s → s.WellJudged := by
  constructor
  · intro h
    refine ⟨fun hlegacy => ?_, fun entry hentry => (entry_judged_iff entry).mp (h.judged entry hentry)⟩
    obtain ⟨address, haddress⟩ := (literal_iff punycode value).mpr hlegacy
    exact h.looked address haddress
  · rintro ⟨hlegacy, hwell⟩
    have hlooked : ∀ address, lud16Host punycode value ≠ some (.ipv4 address) := fun address h =>
      hlegacy ((literal_iff punycode value).mp ⟨address, h⟩)
    have hjudged : ∀ entry ∈ resolver,
        isForbiddenIp entry.address entry.spelling.family = entry.spelling.forbidden :=
      fun entry hentry => (entry_judged_iff entry).mpr (hwell entry hentry)
    exact ⟨hlooked, hjudged, reached_of_judged hlooked hjudged⟩

/-- `a@127.1` is a Lightning address, and its host is 127.0.0.1: it is never looked up. -/
theorem loopback_reached : ¬ Guarded (fun _ => true) "a@127.1".toList [] := by
  intro h
  have hlooked := h.looked 0x7f000001
  revert hlooked
  decide +kernel

end Kargain.FetchGuard
