/-
  Kargain.Wire.AccountState — lib/svm/decode-account-state.ts, PassportConfig.

  `decodeLayoutCursor` walks the fields a layout of the manifest declares;
  `encodePassportConfigAccount` writes the fields of a passport config in
  an order of its own.  `FieldType.fine` and `FieldType.print` say what a
  value of a type looks like in bytes: the walk is exact for them, whatever
  the layout, and the encoder writes what they say for the layout of the
  manifest.

  Main result: `passport_config_codec`.
-/
import Kargain.Base.Reader
import Kargain.Wire.ProtocolAddress

namespace Kargain.AccountState

open Kargain.Reader Kargain.ProtocolAddress

/-! ## §1. Layouts. -/

inductive FieldType
  | u8
  | u16
  | u32
  | u64
  | u128
  | bool
  | fixedBytes (len : Option ℕ)
  | remainderUnmodelled
  | vecEncumbranceSource
  | unsupported (type : String)
deriving DecidableEq

/-- `StateFieldDecl`. -/
structure FieldDecl where
  name : String
  type : FieldType

/-- `StateLayoutEntry`: the fields the decoders read. -/
structure LayoutEntry where
  discriminatorHex : Text
  fields : List FieldDecl

inductive DecodeCause
  | unknownLayout
  | discriminatorMismatch
  | truncated
  | malformedField
  | unsupportedType
deriving DecidableEq

/-- How a decoder or an encoder ends without a value. -/
inductive Fault
  | refused (cause : DecodeCause) (detail : String)
  | thrown (message : String)
deriving DecidableEq

/-- `EncumbranceSourceDecoded`. -/
structure EncumbranceSource where
  programId : Text
  seedPrefix : String
  programIdBytes : List UInt8
  seedPrefixBytes : List UInt8
deriving DecidableEq

inductive FieldValue
  | uint (n : ℕ)
  | bool (b : Bool)
  | bytes (l : List UInt8)
  | sources (l : List EncumbranceSource)

abbrev Run (α : Type) := Except Fault α

/-- `pubkeyBase58`. -/
def pubkeyBase58 (bytes : List UInt8) : Run Text :=
  match encodeSvmPubkeyBytes bytes with
  | .ok t => .ok t
  | .error e => .error (.thrown e)

section Fields

-- `new TextDecoder().decode`
variable (textDecode : List UInt8 → String)

def decodeUint (data : List UInt8) (offset width : ℕ) : Run (FieldValue × ℕ) :=
  if data.length < offset + width then
    .error (.refused .truncated ("u" ++ toString (width * 8)))
  else .ok (.uint (leNat (bytesAt data offset width)), offset + width)

/-- The loop over the entries of `vec_encumbrance_source`: `k` entries from the `i`-th on. -/
def decodeSources (data : List UInt8) (i : ℕ) : (k : ℕ) → (o : ℕ) → Run (List EncumbranceSource × ℕ)
  | 0, o => .ok ([], o)
  | k + 1, o => do
    if data.length < o + 32 + 4 then
      throw (.refused .truncated ("vec_encumbrance_source:entry:" ++ toString i))
    let programIdBytes := bytesAt data o 32
    let prefixLen := leNat (bytesAt data (o + 32) 4)
    if data.length < o + 36 + prefixLen then
      throw (.refused .truncated ("vec_encumbrance_source:prefix:" ++ toString i))
    let seedPrefixBytes := bytesAt data (o + 36) prefixLen
    let programId ← pubkeyBase58 programIdBytes
    let (rest, next) ← decodeSources data (i + 1) k (o + 36 + prefixLen)
    pure (⟨programId, textDecode seedPrefixBytes, programIdBytes, seedPrefixBytes⟩ :: rest, next)

def decodeField (data : List UInt8) (offset : ℕ) (decl : FieldDecl) : Run (FieldValue × ℕ) :=
  match decl.type with
  | .u8 => decodeUint data offset 1
  | .u16 => decodeUint data offset 2
  | .u32 => decodeUint data offset 4
  | .u64 => decodeUint data offset 8
  | .u128 => decodeUint data offset 16
  | .bool =>
    if data.length < offset + 1 then .error (.refused .truncated "bool")
    else
      let b := leNat (bytesAt data offset 1)
      if b ≠ 0 ∧ b ≠ 1 then .error (.refused .malformedField ("bool_byte:" ++ toString b))
      else .ok (.bool (b = 1), offset + 1)
  | .fixedBytes none => .error (.refused .unsupportedType "fixed_bytes_missing_len")
  | .fixedBytes (some len) =>
    if data.length < offset + len then
      .error (.refused .truncated ("fixed_bytes:" ++ toString len))
    else .ok (.bytes (bytesAt data offset len), offset + len)
  | .remainderUnmodelled =>
    .error (.refused .unsupportedType "remainder_unmodelled_via_decodeField")
  | .vecEncumbranceSource =>
    if data.length < offset + 4 then .error (.refused .truncated "vec_encumbrance_source:count")
    else do
      let (sources, next) ←
        decodeSources textDecode data 0 (leNat (bytesAt data offset 4)) (offset + 4)
      pure (.sources sources, next)
  | .unsupported type => .error (.refused .unsupportedType type)

/-! ## §2. The cursor. -/

abbrev Fields := List (String × FieldValue)

def DecodeCause.text : DecodeCause → String
  | .unknownLayout => "unknown_layout"
  | .discriminatorMismatch => "discriminator_mismatch"
  | .truncated => "truncated"
  | .malformedField => "malformed_field"
  | .unsupportedType => "unsupported_type"

/-- A refusal of a field names the field. -/
def named (name : String) {α : Type} : Run α → Run α
  | .error (.refused cause detail) =>
    .error (.refused cause (cause.text ++ ":" ++ name ++ ":" ++ detail))
  | r => r

/-- The loop over the declared fields: it stops at `remainder_unmodelled`. -/
def walk (data : List UInt8) : List FieldDecl → ℕ → Run (Fields × ℕ)
  | [], offset => .ok ([], offset)
  | decl :: decls, offset =>
    if decl.type = .remainderUnmodelled then .ok ([], offset)
    else do
      let (value, next) ← named decl.name (decodeField textDecode data offset decl)
      let (fields, last) ← walk data decls next
      pure ((decl.name, value) :: fields, last)

/-- The entry of a name: an object keeps the last one assigned. -/
def Fields.get (fields : Fields) (name : String) : Option FieldValue :=
  (fields.reverse.find? (fun f => f.1 = name)).map Prod.snd

/-- `fields[name] as Uint8Array`; whatever reads another value as bytes throws. -/
def Fields.bytes (fields : Fields) (name : String) : Run (List UInt8) :=
  match fields.get name with
  | some (.bytes l) => .ok l
  | _ => .error (.thrown "TypeError")

def Fields.uint (fields : Fields) (name : String) : Run ℕ :=
  match fields.get name with
  | some (.uint n) => .ok n
  | _ => .error (.thrown "TypeError")

def Fields.sources (fields : Fields) (name : String) : Run (List EncumbranceSource) :=
  match fields.get name with
  | some (.sources l) => .ok l
  | _ => .error (.thrown "TypeError")

def bytesToHex (bytes : List UInt8) : String := String.ofList (bytes.flatMap hexOfByte)

def orThrow {α : Type} : Except String α → Run α
  | .ok a => .ok a
  | .error e => .error (.thrown e)

def decodeLayoutCursor (data : List UInt8) (layout : LayoutEntry) : Run (Fields × ℕ) := do
  let markerIndex := layout.fields.findIdx (fun f => f.type = .remainderUnmodelled)
  if markerIndex + 1 < layout.fields.length then
    throw (.refused .unsupportedType "remainder_unmodelled_not_terminal")
  let expectedDisc ← orThrow (hexToBytes layout.discriminatorHex)
  let (fields, bytesRead) ← walk textDecode data layout.fields 0
  let expected := " expected:" ++ String.ofList layout.discriminatorHex
  match fields.get "discriminator" with
  | some (.bytes disc) =>
    if disc = expectedDisc then pure (fields, bytesRead)
    else throw (.refused .discriminatorMismatch ("got:" ++ bytesToHex disc ++ expected))
  | none => throw (.refused .discriminatorMismatch ("got:missing" ++ expected))
  | some _ => throw (.thrown "TypeError")

/-! ## §3. PassportConfig. -/

structure PassportConfig where
  authority : Text
  namespace_ : ℕ
  localEid : ℕ
  endpointProgram : Text
  disputeDeposit : ℕ
  stakingProgram : Text
  bridgeGateway : Text
  forfeitRecipient : Text
  nextTokenId : List UInt8
  encumbranceSources : List EncumbranceSource
  bump : ℕ
deriving DecidableEq

/-- `kar-passport/PassportConfig` of state.manifest.json. -/
def passportConfigLayout : LayoutEntry where
  discriminatorHex := "6b705f6366670000".toList
  fields := [
    ⟨"discriminator", .fixedBytes (some 8)⟩,
    ⟨"authority", .fixedBytes (some 32)⟩,
    ⟨"namespace", .u128⟩,
    ⟨"local_eid", .u32⟩,
    ⟨"endpoint_program", .fixedBytes (some 32)⟩,
    ⟨"dispute_deposit", .u64⟩,
    ⟨"staking_program", .fixedBytes (some 32)⟩,
    ⟨"bridge_gateway", .fixedBytes (some 32)⟩,
    ⟨"forfeit_recipient", .fixedBytes (some 32)⟩,
    ⟨"next_token_id", .fixedBytes (some 32)⟩,
    ⟨"encumbrance_sources", .vecEncumbranceSource⟩,
    ⟨"bump", .u8⟩]

/-- The value and `bytesRead`. -/
def decodePassportConfig (data : List UInt8) : Run (PassportConfig × ℕ) := do
  let (fields, bytesRead) ← decodeLayoutCursor textDecode data passportConfigLayout
  let sources ← fields.sources "encumbrance_sources"
  let authority ← fields.bytes "authority" >>= pubkeyBase58
  let namespace_ ← fields.uint "namespace"
  let localEid ← fields.uint "local_eid"
  let endpointProgram ← fields.bytes "endpoint_program" >>= pubkeyBase58
  let disputeDeposit ← fields.uint "dispute_deposit"
  let stakingProgram ← fields.bytes "staking_program" >>= pubkeyBase58
  let bridgeGateway ← fields.bytes "bridge_gateway" >>= pubkeyBase58
  let forfeitRecipient ← fields.bytes "forfeit_recipient" >>= pubkeyBase58
  let nextTokenId ← fields.bytes "next_token_id"
  let bump ← fields.uint "bump"
  pure (⟨authority, namespace_, localEid, endpointProgram, disputeDeposit, stakingProgram,
    bridgeGateway, forfeitRecipient, nextTokenId, sources, bump⟩, bytesRead)

/-- The entries as the encoder pushes them; `leBytes` is `u32LeBytes`, `u64LeBytes` and
    `u128LeBytes` at their widths. -/
def encodeSources (sources : List EncumbranceSource) : List UInt8 :=
  sources.flatMap (fun s => s.programIdBytes ++
    (leBytes 4 s.seedPrefixBytes.length ++ s.seedPrefixBytes))

def encodePassportConfigAccount (value : PassportConfig) : Run (List UInt8) := do
  let disc ← orThrow (hexToBytes passportConfigLayout.discriminatorHex)
  let authority ← orThrow (decodeBase58To32 value.authority)
  let endpointProgram ← orThrow (decodeBase58To32 value.endpointProgram)
  let stakingProgram ← orThrow (decodeBase58To32 value.stakingProgram)
  let bridgeGateway ← orThrow (decodeBase58To32 value.bridgeGateway)
  let forfeitRecipient ← orThrow (decodeBase58To32 value.forfeitRecipient)
  pure (disc ++ (authority ++ (leBytes 16 value.namespace_ ++ (leBytes 4 value.localEid ++
    (endpointProgram ++ (leBytes 8 value.disputeDeposit ++ (stakingProgram ++ (bridgeGateway ++
    (forfeitRecipient ++ (value.nextTokenId ++ (leBytes 4 value.encumbranceSources.length ++
    (encodeSources value.encumbranceSources ++ leBytes 1 value.bump))))))))))))

/-- The sources a caller gives in place of those decoded.  An array has fewer than 2 ^ 32
    elements; a seed prefix is refused over `MAX_SEED_PREFIX_LEN` before it gets here. -/
structure Replacement where
  sources : List (List UInt8 × List UInt8)
  few : sources.length < 2 ^ 32
  short : ∀ s ∈ sources, s.2.length < 2 ^ 32

def replaceSource (s : List UInt8 × List UInt8) : Run EncumbranceSource := do
  let programId ← pubkeyBase58 s.1
  pure ⟨programId, textDecode s.2, s.1, s.2⟩

def encodePassportConfigWithSources (currentData : List UInt8) (sources : List (List UInt8 × List UInt8)) :
    Run (List UInt8) :=
  match decodePassportConfig textDecode currentData with
  | .error (.refused cause detail) =>
    .error (.thrown ("encode_passport_config:" ++ cause.text ++ ":" ++ detail))
  | .error (.thrown message) => .error (.thrown message)
  | .ok (value, _) => do
    let next ← sources.mapM (replaceSource textDecode)
    encodePassportConfigAccount { value with encumbranceSources := next }

/-! ## §4. What a field looks like in bytes. -/

/-- A source as a decoder builds it. -/
def SourceFine (s : EncumbranceSource) : Prop :=
  s.programIdBytes.length = 32 ∧ s.seedPrefixBytes.length < 256 ^ 4 ∧
    s.programId = base58Encode s.programIdBytes ∧ s.seedPrefix = textDecode s.seedPrefixBytes

def uintFine (w : ℕ) : FieldValue → Prop
  | .uint n => n < 256 ^ w
  | _ => False

def uintPrint (w : ℕ) : FieldValue → List UInt8
  | .uint n => leBytes w n
  | _ => []

@[simp] theorem uintPrint_uint (w n : ℕ) : uintPrint w (.uint n) = leBytes w n := rfl

def boolFine : FieldValue → Prop
  | .bool _ => True
  | _ => False

def boolPrint : FieldValue → List UInt8
  | .bool b => [if b then 1 else 0]
  | _ => []

def bytesFine (len : ℕ) : FieldValue → Prop
  | .bytes l => l.length = len
  | _ => False

def bytesPrint : FieldValue → List UInt8
  | .bytes l => l
  | _ => []

def sourcesFine : FieldValue → Prop
  | .sources l => l.length < 256 ^ 4 ∧ ∀ s ∈ l, SourceFine textDecode s
  | _ => False

def sourcesPrint : FieldValue → List UInt8
  | .sources l => leBytes 4 l.length ++ encodeSources l
  | _ => []

def FieldType.Fine : FieldType → FieldValue → Prop
  | .u8 => uintFine 1
  | .u16 => uintFine 2
  | .u32 => uintFine 4
  | .u64 => uintFine 8
  | .u128 => uintFine 16
  | .bool => boolFine
  | .fixedBytes (some len) => bytesFine len
  | .vecEncumbranceSource => sourcesFine textDecode
  | .fixedBytes none | .remainderUnmodelled | .unsupported _ => fun _ => False

def FieldType.print : FieldType → FieldValue → List UInt8
  | .u8 => uintPrint 1
  | .u16 => uintPrint 2
  | .u32 => uintPrint 4
  | .u64 => uintPrint 8
  | .u128 => uintPrint 16
  | .bool => boolPrint
  | .fixedBytes _ => bytesPrint
  | .vecEncumbranceSource => sourcesPrint
  | .remainderUnmodelled | .unsupported _ => fun _ => []

theorem decodeUint_exact (w : ℕ) :
    Exact (fun data o => decodeUint data o w) (uintFine w) (uintPrint w) := by
  intro d o ho v o'
  simp only [decodeUint]
  constructor
  · intro h
    split at h
    · cases h
    · injection h with hpair
      injection hpair with hv ho'
      have hlen : (bytesAt d o w).length = w := length_bytesAt (by omega)
      have hlt := leNat_lt (bytesAt d o w)
      have hback := leBytes_leNat (bytesAt d o w)
      rw [hlen] at hlt hback
      subst hv
      refine ⟨hlt, ?_, ?_⟩
      · rw [uintPrint, hback]
        exact written_bytesAt d o w
      · rw [uintPrint, length_leBytes]
        exact ho'.symm
  · rintro ⟨hv, hw, ho'⟩
    cases v with
    | uint n =>
      have hfit := hw.fits ho
      have hread := hw.bytesAt
      rw [uintPrint, length_leBytes] at hfit hread ho'
      rw [if_neg (by omega), hread, leNat_leBytes hv, ho']
    | _ => exact hv.elim

/-- One byte, 0 or 1. -/
theorem decodeBool_exact (name : String) :
    Exact (fun data o => decodeField textDecode data o ⟨name, .bool⟩) boolFine boolPrint := by
  intro d o ho v o'
  simp only [decodeField]
  constructor
  · intro h
    split at h
    · cases h
    · have hlen : (bytesAt d o 1).length = 1 := length_bytesAt (by omega)
      have hback := leBytes_leNat (bytesAt d o 1)
      rw [hlen] at hback
      split at h
      · cases h
      · rename_i hbyte
        injection h with hpair
        injection hpair with hv ho'
        subst hv
        refine ⟨trivial, ?_, ho'.symm⟩
        have hone : [if leNat (bytesAt d o 1) = 1 then 1 else 0] = bytesAt d o 1 := by
          rw [← hback]
          rcases (by omega : leNat (bytesAt d o 1) = 0 ∨ leNat (bytesAt d o 1) = 1) with h0 | h1
          · simp [h0, leBytes, leNat]
          · simp [h1, leBytes, leNat]
        simp only [boolPrint, decide_eq_true_eq]
        rw [hone]
        exact written_bytesAt d o 1
  · rintro ⟨hv, hw, ho'⟩
    cases v with
    | bool b =>
      have hfit := hw.fits ho
      have hread := hw.bytesAt
      simp only [boolPrint, List.length_singleton] at hfit hread ho'
      rw [if_neg (by omega), hread, ho']
      cases b <;> simp [leNat]
    | _ => exact hv.elim

theorem decodeFixedBytes_exact (name : String) (len : ℕ) :
    Exact (fun data o => decodeField textDecode data o ⟨name, .fixedBytes (some len)⟩)
      (bytesFine len) bytesPrint := by
  intro d o ho v o'
  simp only [decodeField]
  constructor
  · intro h
    split at h
    · cases h
    · injection h with hpair
      injection hpair with hv ho'
      have hlen : (bytesAt d o len).length = len := length_bytesAt (by omega)
      subst hv
      refine ⟨hlen, written_bytesAt d o len, ?_⟩
      rw [bytesPrint, hlen]
      exact ho'.symm
  · rintro ⟨hv, hw, ho'⟩
    cases v with
    | bytes l =>
      have hfit := hw.fits ho
      have hread := hw.bytesAt
      have hlen : l.length = len := hv
      rw [bytesPrint, hlen] at hfit hread ho'
      rw [if_neg (by omega), hread, ho']
    | _ => exact hv.elim

theorem pubkeyBase58_eq {bytes : List UInt8} (h : bytes.length = 32) :
    pubkeyBase58 bytes = .ok (base58Encode bytes) := by
  rw [pubkeyBase58, encodeSvmPubkeyBytes_ok h]

theorem pubkeyBase58_iff {bytes : List UInt8} {t : Text} :
    pubkeyBase58 bytes = .ok t ↔ bytes.length = 32 ∧ t = base58Encode bytes := by
  constructor
  · intro h
    unfold pubkeyBase58 at h
    split at h
    · rename_i t' ht
      injection h with heq
      rw [← heq]
      exact length_of_encodeSvmPubkeyBytes ht
    · cases h
  · rintro ⟨hlen, rfl⟩
    exact pubkeyBase58_eq hlen

/-- The list of entries, by induction on how many are left. -/
theorem decodeSources_iff (data : List UInt8) (k : ℕ) :
    ∀ (i o : ℕ), o ≤ data.length → ∀ (l : List EncumbranceSource) (o' : ℕ),
      decodeSources textDecode data i k o = .ok (l, o') ↔
        l.length = k ∧ (∀ s ∈ l, SourceFine textDecode s) ∧ Written data o (encodeSources l) ∧
          o' = o + (encodeSources l).length := by
  induction k with
  | zero =>
    intro i o ho l o'
    constructor
    · intro h
      injection h with hpair
      injection hpair with hl ho'
      subst hl ho'
      exact ⟨rfl, by simp, written_nil data o, rfl⟩
    · rintro ⟨hl, -, -, ho'⟩
      have hnil : l = [] := List.eq_nil_of_length_eq_zero hl
      subst hnil
      rw [ho']
      rfl
  | succ k ih =>
    intro i o ho l o'
    have hentry : ∀ s : EncumbranceSource, ∀ rest, encodeSources (s :: rest) =
        s.programIdBytes ++ (leBytes 4 s.seedPrefixBytes.length ++ (s.seedPrefixBytes ++
          encodeSources rest)) := by
      intro s rest
      simp [encodeSources]
    rw [decodeSources]
    constructor
    · intro h
      by_cases hhead : data.length < o + 32 + 4
      · rw [if_pos hhead] at h
        cases h
      · rw [if_neg hhead] at h
        set prefixLen := leNat (bytesAt data (o + 32) 4) with hstart
        by_cases hbody : data.length < o + 36 + prefixLen
        · simp only [if_pos hbody] at h
          cases h
        · simp only [if_neg hbody] at h
          have hid : (bytesAt data o 32).length = 32 := length_bytesAt (by omega)
          have hcount : (bytesAt data (o + 32) 4).length = 4 := length_bytesAt (by omega)
          have hseed : (bytesAt data (o + 36) prefixLen).length = prefixLen :=
            length_bytesAt (by omega)
          have hlt : prefixLen < 256 ^ 4 := by
            have := leNat_lt (bytesAt data (o + 32) 4)
            rwa [hcount] at this
          have hback : leBytes 4 prefixLen = bytesAt data (o + 32) 4 := by
            have := leBytes_leNat (bytesAt data (o + 32) 4)
            rwa [hcount] at this
          rw [pubkeyBase58_eq hid] at h
          cases hrest : decodeSources textDecode data (i + 1) k (o + 36 + prefixLen) with
          | error f =>
            rw [hrest] at h
            cases h
          | ok p =>
            obtain ⟨rest, next⟩ := p
            rw [hrest] at h
            injection h with hpair
            injection hpair with hl ho'
            dsimp only at hl ho'
            obtain ⟨hlen, hfine, hw, hnext⟩ :=
              (ih (i + 1) (o + 36 + prefixLen) (by omega) rest next).mp hrest
            subst hl
            refine ⟨by simp [hlen], ?_, ?_, ?_⟩
            · intro s hs
              rcases List.mem_cons.mp hs with rfl | hs
              · exact ⟨hid, by rw [hseed]; exact hlt, rfl, rfl⟩
              · exact hfine s hs
            · rw [hentry, written_append, written_append, written_append, hid, hseed,
                length_leBytes, hback]
              exact ⟨written_bytesAt .., written_bytesAt .., written_bytesAt .., hw⟩
            · rw [hentry, List.length_append, List.length_append, List.length_append, hid, hseed,
                length_leBytes, ← ho', hnext]
              omega
    · rintro ⟨hlen, hfine, hw, rfl⟩
      cases l with
      | nil => cases hlen
      | cons s rest =>
        obtain ⟨hid, hshort, hshown, htext⟩ := hfine s (by simp)
        rw [hentry, written_append, written_append, written_append, hid, length_leBytes] at hw
        obtain ⟨hw₁, hw₂, hw₃, hw₄⟩ := hw
        have hfit₁ := hw₁.fits ho
        rw [hid] at hfit₁
        have hfit₂ := hw₂.fits (by omega)
        rw [length_leBytes] at hfit₂
        have hfit₃ := hw₃.fits (by omega)
        have hread₁ := hw₁.bytesAt
        rw [hid] at hread₁
        have hread₂ := hw₂.bytesAt
        rw [length_leBytes] at hread₂
        have hread₃ : bytesAt data (o + 36) s.seedPrefixBytes.length = s.seedPrefixBytes :=
          hw₃.bytesAt
        have hrest : decodeSources textDecode data (i + 1) k (o + 36 + s.seedPrefixBytes.length) =
            .ok (rest, o + 36 + s.seedPrefixBytes.length + (encodeSources rest).length) := by
          refine (ih _ _ (by omega) rest _).mpr ⟨by simpa using hlen, ?_, hw₄, rfl⟩
          intro t ht
          exact hfine t (by simp [ht])
        have hnot : ¬ data.length < o + 36 + s.seedPrefixBytes.length := by omega
        rw [if_neg (by omega)]
        simp only [hread₂, leNat_leBytes hshort, if_neg hnot, hread₁, hread₃]
        rw [pubkeyBase58_eq hid, hrest]
        have hs : (⟨base58Encode s.programIdBytes, textDecode s.seedPrefixBytes, s.programIdBytes,
            s.seedPrefixBytes⟩ : EncumbranceSource) = s := by
          rw [← hshown, ← htext]
        have hend : o + 36 + s.seedPrefixBytes.length + (encodeSources rest).length =
            o + (encodeSources (s :: rest)).length := by
          rw [hentry, List.length_append, List.length_append, List.length_append, hid,
            length_leBytes]
          omega
        show Except.ok (_ :: rest, _) = _
        rw [hs, hend]

theorem decodeSources_exact (name : String) :
    Exact (fun data o => decodeField textDecode data o ⟨name, .vecEncumbranceSource⟩)
      (sourcesFine textDecode) sourcesPrint := by
  intro d o ho v o'
  simp only [decodeField]
  constructor
  · intro h
    split at h
    · cases h
    · have hlen : (bytesAt d o 4).length = 4 := length_bytesAt (by omega)
      have hlt := leNat_lt (bytesAt d o 4)
      have hback := leBytes_leNat (bytesAt d o 4)
      rw [hlen] at hlt hback
      cases hl : decodeSources textDecode d 0 (leNat (bytesAt d o 4)) (o + 4) with
      | error f =>
        rw [hl] at h
        cases h
      | ok p =>
        obtain ⟨l, next⟩ := p
        rw [hl] at h
        injection h with hpair
        injection hpair with hv ho'
        dsimp only at hv ho'
        obtain ⟨hcount, hfine, hw, hnext⟩ :=
          (decodeSources_iff textDecode d _ 0 (o + 4) (by omega) l next).mp hl
        subst hv
        refine ⟨⟨by omega, hfine⟩, ?_, ?_⟩
        · rw [sourcesPrint, written_append, length_leBytes, hcount, hback]
          exact ⟨written_bytesAt d o 4, hw⟩
        · rw [sourcesPrint, List.length_append, length_leBytes]
          omega
  · rintro ⟨hv, hw, ho'⟩
    cases v with
    | sources l =>
      obtain ⟨hcount, hfine⟩ := hv
      rw [sourcesPrint, List.length_append, length_leBytes] at ho'
      rw [sourcesPrint, written_append, length_leBytes] at hw
      obtain ⟨hw₁, hw₂⟩ := hw
      have hfit := hw₁.fits ho
      have hread := hw₁.bytesAt
      rw [length_leBytes] at hfit hread
      have hl : decodeSources textDecode d 0 l.length (o + 4) = .ok (l, o') :=
        (decodeSources_iff textDecode d _ 0 (o + 4) (by omega) l o').mpr
          ⟨rfl, hfine, hw₂, by omega⟩
      rw [if_neg (by omega), hread, leNat_leBytes hcount, hl]
      rfl
    | _ => exact hv.elim

/-- **Every field is read exactly where it is written**, one case per type. -/
theorem decodeField_exact (decl : FieldDecl) :
    Exact (fun data o => decodeField textDecode data o decl) (decl.type.Fine textDecode)
      decl.type.print := by
  cases decl with
  | mk name type =>
    cases type with
    | u8 => exact decodeUint_exact 1
    | u16 => exact decodeUint_exact 2
    | u32 => exact decodeUint_exact 4
    | u64 => exact decodeUint_exact 8
    | u128 => exact decodeUint_exact 16
    | bool => exact decodeBool_exact textDecode name
    | fixedBytes len =>
      cases len with
      | some len => exact decodeFixedBytes_exact textDecode name len
      | none =>
        intro d o _ v o'
        constructor
        · intro h
          cases h
        · intro h
          exact h.1.elim
    | vecEncumbranceSource => exact decodeSources_exact textDecode name
    | remainderUnmodelled | unsupported _ =>
      intro d o _ v o'
      constructor
      · intro h
        cases h
      · intro h
        exact h.1.elim

/-! ## §5. What a layout looks like in bytes. -/

/-- The fields a layout declares before its marker, with fine values. -/
def FieldsFine : List FieldDecl → Fields → Prop
  | [], fields => fields = []
  | decl :: decls, fields =>
    if decl.type = .remainderUnmodelled then fields = []
    else ∃ v rest, fields = (decl.name, v) :: rest ∧ decl.type.Fine textDecode v ∧
      FieldsFine decls rest

def printFields : List FieldDecl → Fields → List UInt8
  | decl :: decls, (_, v) :: rest => decl.type.print v ++ printFields decls rest
  | _, _ => []

theorem named_ok {name : String} {α : Type} {r : Run α} {a : α} : named name r = .ok a ↔ r = .ok a := by
  cases r with
  | ok b => rfl
  | error f =>
    cases f with
    | refused cause detail =>
      constructor
      · intro h
        cases h
      · intro h
        cases h
    | thrown m => rfl

/-- **The cursor is exact**, by induction on the declared fields. -/
theorem walk_exact (decls : List FieldDecl) :
    Exact (fun data o => walk textDecode data decls o) (FieldsFine textDecode decls)
      (printFields decls) := by
  induction decls with
  | nil =>
    intro d o ho fields o'
    constructor
    · intro h
      injection h with hpair
      injection hpair with hf ho'
      subst hf ho'
      exact ⟨rfl, written_nil d o, rfl⟩
    · rintro ⟨hf, -, ho'⟩
      have hnil : fields = [] := hf
      subst hnil
      rw [ho']
      rfl
  | cons decl decls ih =>
    intro d o ho fields o'
    simp only [walk, FieldsFine]
    by_cases hmark : decl.type = .remainderUnmodelled
    · rw [if_pos hmark, if_pos hmark]
      constructor
      · intro h
        injection h with hpair
        injection hpair with hf ho'
        subst hf ho'
        exact ⟨rfl, written_nil d o, rfl⟩
      · rintro ⟨rfl, -, ho'⟩
        rw [ho']
        rfl
    · rw [if_neg hmark, if_neg hmark]
      constructor
      · intro h
        cases hv : named decl.name (decodeField textDecode d o decl) with
        | error f =>
          rw [hv] at h
          cases h
        | ok p =>
          obtain ⟨v, next⟩ := p
          rw [hv] at h
          have hfield := named_ok.mp hv
          have hnext := (decodeField_exact textDecode decl).next_le ho hfield
          obtain ⟨hfine, hw, hend⟩ := (decodeField_exact textDecode decl d o ho v next).mp hfield
          cases hrest : walk textDecode d decls next with
          | error f =>
            replace h : (do
              let (fields, last) ← walk textDecode d decls next
              pure ((decl.name, v) :: fields, last) : Run (Fields × ℕ)) = .ok (fields, o') := h
            rw [hrest] at h
            cases h
          | ok q =>
            obtain ⟨rest, last⟩ := q
            replace h : (do
              let (fields, last) ← walk textDecode d decls next
              pure ((decl.name, v) :: fields, last) : Run (Fields × ℕ)) = .ok (fields, o') := h
            rw [hrest] at h
            injection h with hpair
            injection hpair with hf ho'
            obtain ⟨hrestFine, hrestW, hlast⟩ := (ih d next hnext rest last).mp hrest
            subst hf
            refine ⟨⟨v, rest, rfl, hfine, hrestFine⟩, ?_, ?_⟩
            · rw [printFields, written_append, ← hend]
              exact ⟨hw, hrestW⟩
            · rw [printFields, List.length_append]
              omega
      · rintro ⟨⟨v, rest, rfl, hfine, hrestFine⟩, hw, ho'⟩
        rw [printFields, written_append] at hw
        rw [printFields, List.length_append] at ho'
        obtain ⟨hw₁, hw₂⟩ := hw
        have hfit := hw₁.fits ho
        have hfield := (decodeField_exact textDecode decl d o ho v _).mpr ⟨hfine, hw₁, rfl⟩
        have hrest : walk textDecode d decls (o + (decl.type.print v).length) = .ok (rest, o') :=
          (ih d _ hfit rest o').mpr ⟨hrestFine, hw₂, by omega⟩
        have hname : named decl.name (decodeField textDecode d o decl) =
            .ok (v, o + (decl.type.print v).length) := named_ok.mpr hfield
        rw [hname]
        show (do
          let (fields, last) ← walk textDecode d decls (o + (decl.type.print v).length)
          pure ((decl.name, v) :: fields, last) : Run (Fields × ℕ)) = .ok (_, o')
        rw [hrest]
        rfl

/-! ## §6. The config of the passport program. -/

/-- A config account in its own bytes: what the decoder reads before it shows the addresses. -/
structure RawConfig where
  authority : List UInt8
  namespace_ : ℕ
  localEid : ℕ
  endpointProgram : List UInt8
  disputeDeposit : ℕ
  stakingProgram : List UInt8
  bridgeGateway : List UInt8
  forfeitRecipient : List UInt8
  nextTokenId : List UInt8
  encumbranceSources : List EncumbranceSource
  bump : ℕ

def discriminator : List UInt8 := [0x6b, 0x70, 0x5f, 0x63, 0x66, 0x67, 0, 0]

def RawConfig.fieldsWith (c : RawConfig) (disc : List UInt8) : Fields :=
  [("discriminator", .bytes disc), ("authority", .bytes c.authority),
    ("namespace", .uint c.namespace_), ("local_eid", .uint c.localEid),
    ("endpoint_program", .bytes c.endpointProgram), ("dispute_deposit", .uint c.disputeDeposit),
    ("staking_program", .bytes c.stakingProgram), ("bridge_gateway", .bytes c.bridgeGateway),
    ("forfeit_recipient", .bytes c.forfeitRecipient), ("next_token_id", .bytes c.nextTokenId),
    ("encumbrance_sources", .sources c.encumbranceSources), ("bump", .uint c.bump)]

abbrev RawConfig.fields (c : RawConfig) : Fields := c.fieldsWith discriminator

def RawConfig.shown (c : RawConfig) : PassportConfig where
  authority := base58Encode c.authority
  namespace_ := c.namespace_
  localEid := c.localEid
  endpointProgram := base58Encode c.endpointProgram
  disputeDeposit := c.disputeDeposit
  stakingProgram := base58Encode c.stakingProgram
  bridgeGateway := base58Encode c.bridgeGateway
  forfeitRecipient := base58Encode c.forfeitRecipient
  nextTokenId := c.nextTokenId
  encumbranceSources := c.encumbranceSources
  bump := c.bump

structure RawConfig.Fine (c : RawConfig) : Prop where
  authority : c.authority.length = 32
  namespace_ : c.namespace_ < 256 ^ 16
  localEid : c.localEid < 256 ^ 4
  endpointProgram : c.endpointProgram.length = 32
  disputeDeposit : c.disputeDeposit < 256 ^ 8
  stakingProgram : c.stakingProgram.length = 32
  bridgeGateway : c.bridgeGateway.length = 32
  forfeitRecipient : c.forfeitRecipient.length = 32
  nextTokenId : c.nextTokenId.length = 32
  fewSources : c.encumbranceSources.length < 256 ^ 4
  sources : ∀ s ∈ c.encumbranceSources, SourceFine textDecode s
  bump : c.bump < 256 ^ 1

def RawConfig.print (c : RawConfig) : List UInt8 := printFields passportConfigLayout.fields c.fields

theorem hexToBytes_discriminator :
    hexToBytes passportConfigLayout.discriminatorHex = .ok discriminator := by decide +kernel

theorem fieldsFine_cons {decl : FieldDecl} {decls : List FieldDecl} {fields : Fields}
    (hmark : decl.type ≠ .remainderUnmodelled) :
    FieldsFine textDecode (decl :: decls) fields ↔
      ∃ v rest, fields = (decl.name, v) :: rest ∧ decl.type.Fine textDecode v ∧
        FieldsFine textDecode decls rest := by
  rw [FieldsFine, if_neg hmark]

theorem fine_bytes {len : ℕ} {v : FieldValue} :
    (FieldType.fixedBytes (some len)).Fine textDecode v ↔ ∃ l, v = .bytes l ∧ l.length = len := by
  constructor
  · intro h
    cases v with
    | bytes l => exact ⟨l, rfl, h⟩
    | _ => exact h.elim
  · rintro ⟨l, rfl, hl⟩
    exact hl

theorem fine_uint {w : ℕ} {v : FieldValue} : uintFine w v ↔ ∃ n, v = .uint n ∧ n < 256 ^ w := by
  constructor
  · intro h
    cases v with
    | uint n => exact ⟨n, rfl, h⟩
    | _ => exact h.elim
  · rintro ⟨n, rfl, hn⟩
    exact hn

theorem fine_sources {v : FieldValue} :
    sourcesFine textDecode v ↔
      ∃ l, v = .sources l ∧ l.length < 256 ^ 4 ∧ ∀ s ∈ l, SourceFine textDecode s := by
  constructor
  · intro h
    cases v with
    | sources l => exact ⟨l, rfl, h⟩
    | _ => exact h.elim
  · rintro ⟨l, rfl, hl⟩
    exact hl

/-- What the cursor takes for a config is the fields of one, and eight bytes before them. -/
theorem fieldsFine_config {fields : Fields} :
    FieldsFine textDecode passportConfigLayout.fields fields ↔
      ∃ (c : RawConfig) (disc : List UInt8),
        c.Fine textDecode ∧ disc.length = 8 ∧ fields = c.fieldsWith disc := by
  constructor
  · intro h
    unfold passportConfigLayout at h
    obtain ⟨v₀, r₀, rfl, h₀, h⟩ := (fieldsFine_cons textDecode (by simp)).mp h
    obtain ⟨v₁, r₁, rfl, h₁, h⟩ := (fieldsFine_cons textDecode (by simp)).mp h
    obtain ⟨v₂, r₂, rfl, h₂, h⟩ := (fieldsFine_cons textDecode (by simp)).mp h
    obtain ⟨v₃, r₃, rfl, h₃, h⟩ := (fieldsFine_cons textDecode (by simp)).mp h
    obtain ⟨v₄, r₄, rfl, h₄, h⟩ := (fieldsFine_cons textDecode (by simp)).mp h
    obtain ⟨v₅, r₅, rfl, h₅, h⟩ := (fieldsFine_cons textDecode (by simp)).mp h
    obtain ⟨v₆, r₆, rfl, h₆, h⟩ := (fieldsFine_cons textDecode (by simp)).mp h
    obtain ⟨v₇, r₇, rfl, h₇, h⟩ := (fieldsFine_cons textDecode (by simp)).mp h
    obtain ⟨v₈, r₈, rfl, h₈, h⟩ := (fieldsFine_cons textDecode (by simp)).mp h
    obtain ⟨v₉, r₉, rfl, h₉, h⟩ := (fieldsFine_cons textDecode (by simp)).mp h
    obtain ⟨v₁₀, r₁₀, rfl, h₁₀, h⟩ := (fieldsFine_cons textDecode (by simp)).mp h
    obtain ⟨v₁₁, r₁₁, rfl, h₁₁, rfl⟩ := (fieldsFine_cons textDecode (by simp)).mp h
    obtain ⟨disc, rfl, hdisc⟩ := (fine_bytes textDecode).mp h₀
    obtain ⟨authority, rfl, hauthority⟩ := (fine_bytes textDecode).mp h₁
    obtain ⟨ns, rfl, hns⟩ := fine_uint.mp h₂
    obtain ⟨localEid, rfl, hlocalEid⟩ := fine_uint.mp h₃
    obtain ⟨endpointProgram, rfl, hendpoint⟩ := (fine_bytes textDecode).mp h₄
    obtain ⟨disputeDeposit, rfl, hdeposit⟩ := fine_uint.mp h₅
    obtain ⟨stakingProgram, rfl, hstaking⟩ := (fine_bytes textDecode).mp h₆
    obtain ⟨bridgeGateway, rfl, hgateway⟩ := (fine_bytes textDecode).mp h₇
    obtain ⟨forfeitRecipient, rfl, hforfeit⟩ := (fine_bytes textDecode).mp h₈
    obtain ⟨nextTokenId, rfl, hnext⟩ := (fine_bytes textDecode).mp h₉
    obtain ⟨sources, rfl, hfew, hsources⟩ := (fine_sources textDecode).mp h₁₀
    obtain ⟨bump, rfl, hbump⟩ := fine_uint.mp h₁₁
    exact ⟨⟨authority, ns, localEid, endpointProgram, disputeDeposit, stakingProgram,
      bridgeGateway, forfeitRecipient, nextTokenId, sources, bump⟩, disc,
      ⟨hauthority, hns, hlocalEid, hendpoint, hdeposit, hstaking, hgateway, hforfeit, hnext, hfew,
        hsources, hbump⟩, hdisc, rfl⟩
  · rintro ⟨c, disc, hc, hdisc, rfl⟩
    unfold passportConfigLayout RawConfig.fieldsWith
    refine (fieldsFine_cons textDecode (by simp)).mpr ⟨_, _, rfl, hdisc, ?_⟩
    refine (fieldsFine_cons textDecode (by simp)).mpr ⟨_, _, rfl, hc.authority, ?_⟩
    refine (fieldsFine_cons textDecode (by simp)).mpr ⟨_, _, rfl, hc.namespace_, ?_⟩
    refine (fieldsFine_cons textDecode (by simp)).mpr ⟨_, _, rfl, hc.localEid, ?_⟩
    refine (fieldsFine_cons textDecode (by simp)).mpr ⟨_, _, rfl, hc.endpointProgram, ?_⟩
    refine (fieldsFine_cons textDecode (by simp)).mpr ⟨_, _, rfl, hc.disputeDeposit, ?_⟩
    refine (fieldsFine_cons textDecode (by simp)).mpr ⟨_, _, rfl, hc.stakingProgram, ?_⟩
    refine (fieldsFine_cons textDecode (by simp)).mpr ⟨_, _, rfl, hc.bridgeGateway, ?_⟩
    refine (fieldsFine_cons textDecode (by simp)).mpr ⟨_, _, rfl, hc.forfeitRecipient, ?_⟩
    refine (fieldsFine_cons textDecode (by simp)).mpr ⟨_, _, rfl, hc.nextTokenId, ?_⟩
    refine (fieldsFine_cons textDecode (by simp)).mpr ⟨_, _, rfl, ⟨hc.fewSources, hc.sources⟩, ?_⟩
    exact (fieldsFine_cons textDecode (by simp)).mpr ⟨_, _, rfl, hc.bump, rfl⟩

theorem get_discriminator (c : RawConfig) (disc : List UInt8) :
    (c.fieldsWith disc).get "discriminator" = some (.bytes disc) := by
  simp [Fields.get, RawConfig.fieldsWith]

@[simp] theorem bind_ok {α β : Type} (a : α) (f : α → Run β) : (Except.ok a >>= f) = f a := rfl

@[simp] theorem bind_error {α β : Type} (e : Fault) (f : α → Run β) :
    (Except.error e >>= f) = Except.error e := rfl

@[simp] theorem orThrow_ok {α : Type} (a : α) : orThrow (.ok a) = .ok a := rfl

/-- The encoder writes the fields in the order of the layout. -/
theorem encode_shown {c : RawConfig} (hc : c.Fine textDecode) :
    encodePassportConfigAccount c.shown = .ok c.print := by
  have hprint : c.print = discriminator ++ (c.authority ++ (leBytes 16 c.namespace_ ++
      (leBytes 4 c.localEid ++ (c.endpointProgram ++ (leBytes 8 c.disputeDeposit ++
      (c.stakingProgram ++ (c.bridgeGateway ++ (c.forfeitRecipient ++ (c.nextTokenId ++
      (leBytes 4 c.encumbranceSources.length ++ (encodeSources c.encumbranceSources ++
      leBytes 1 c.bump))))))))))) := by
    unfold RawConfig.print RawConfig.fields RawConfig.fieldsWith passportConfigLayout
    dsimp only
    simp only [printFields, FieldType.print, uintPrint_uint, bytesPrint, sourcesPrint,
      List.append_assoc, List.append_nil]
  rw [hprint]
  simp only [encodePassportConfigAccount, RawConfig.shown, hexToBytes_discriminator,
    decodeBase58To32_encode hc.authority, decodeBase58To32_encode hc.endpointProgram,
    decodeBase58To32_encode hc.stakingProgram, decodeBase58To32_encode hc.bridgeGateway,
    decodeBase58To32_encode hc.forfeitRecipient, orThrow_ok, bind_ok]
  rfl

theorem decodeLayoutCursor_iff {data : List UInt8} {fields : Fields} {n : ℕ} :
    decodeLayoutCursor textDecode data passportConfigLayout = .ok (fields, n) ↔
      walk textDecode data passportConfigLayout.fields 0 = .ok (fields, n) ∧
        fields.get "discriminator" = some (.bytes discriminator) := by
  have hmark : ¬ passportConfigLayout.fields.findIdx (fun f => f.type = .remainderUnmodelled) + 1 <
      passportConfigLayout.fields.length := by decide
  simp only [decodeLayoutCursor, if_neg hmark, hexToBytes_discriminator, orThrow_ok]
  cases hw : walk textDecode data passportConfigLayout.fields 0 with
  | error f =>
    constructor
    · intro h
      cases h
    · rintro ⟨h, -⟩
      cases h
  | ok p =>
    obtain ⟨got, m⟩ := p
    simp only [bind_ok]
    constructor
    · intro h
      split at h
      · rename_i disc hdisc
        split at h
        · rename_i heq
          subst heq
          injection h with hpair
          injection hpair with hf hn
          subst hf hn
          exact ⟨rfl, hdisc⟩
        · cases h
      · cases h
      · cases h
    · rintro ⟨h, hdisc⟩
      injection h with hpair
      injection hpair with hf hn
      subst hf hn
      rw [hdisc]
      simp only [if_true]
      rfl

/-- The product shows the fields of a fine config. -/
theorem decodePassportConfig_shown {data : List UInt8} {c : RawConfig} {n : ℕ}
    (hc : c.Fine textDecode)
    (hcursor : decodeLayoutCursor textDecode data passportConfigLayout = .ok (c.fields, n)) :
    decodePassportConfig textDecode data = .ok (c.shown, n) := by
  simp only [decodePassportConfig, hcursor, bind_ok]
  simp [Fields.sources, Fields.bytes, Fields.uint, Fields.get, RawConfig.fieldsWith,
    pubkeyBase58_eq hc.authority, pubkeyBase58_eq hc.endpointProgram,
    pubkeyBase58_eq hc.stakingProgram, pubkeyBase58_eq hc.bridgeGateway,
    pubkeyBase58_eq hc.forfeitRecipient]
  rfl

/-- **What decodes as a config**: the account begins with one, in bytes. -/
theorem decodePassportConfig_iff {data : List UInt8} {value : PassportConfig} {n : ℕ} :
    decodePassportConfig textDecode data = .ok (value, n) ↔
      ∃ c : RawConfig, c.Fine textDecode ∧ value = c.shown ∧
        walk textDecode data passportConfigLayout.fields 0 = .ok (c.fields, n) := by
  constructor
  · intro h
    cases hcursor : decodeLayoutCursor textDecode data passportConfigLayout with
    | error f =>
      rw [decodePassportConfig, hcursor] at h
      cases h
    | ok p =>
      obtain ⟨fields, m⟩ := p
      obtain ⟨hwalk, hdisc⟩ := (decodeLayoutCursor_iff textDecode).mp hcursor
      have hfine := ((walk_exact textDecode _ data 0 (Nat.zero_le _) fields m).mp hwalk).1
      obtain ⟨c, disc, hc, -, rfl⟩ := (fieldsFine_config textDecode).mp hfine
      rw [get_discriminator] at hdisc
      injection hdisc with hbytes
      injection hbytes with heq
      subst heq
      have hn : m = n ∧ value = c.shown := by
        have hm := decodePassportConfig_shown textDecode hc hcursor
        rw [hm] at h
        injection h with hpair
        injection hpair with hv hn
        exact ⟨hn, hv.symm⟩
      refine ⟨c, hc, hn.2, ?_⟩
      rw [← hn.1]
      exact hwalk
  · rintro ⟨c, hc, rfl, hwalk⟩
    exact decodePassportConfig_shown textDecode hc
      ((decodeLayoutCursor_iff textDecode).mpr ⟨hwalk, get_discriminator c discriminator⟩)

/-! ## §7. Refusals. -/

/-- A decoder that ends without a value says why; it does not throw. -/
def Refuses {α : Type} (r : Run α) : Prop :=
  ∀ f, r = .error f → ∃ cause detail, f = .refused cause detail

theorem Refuses.ok {α : Type} (a : α) : Refuses (.ok a : Run α) := by
  intro f h
  cases h

theorem Refuses.error {α : Type} (cause : DecodeCause) (detail : String) :
    Refuses (.error (.refused cause detail) : Run α) := by
  intro f h
  injection h with hf
  exact ⟨cause, detail, hf.symm⟩

theorem Refuses.bind {α β : Type} {r : Run α} {k : α → Run β} (h : Refuses r)
    (hk : ∀ a, r = .ok a → Refuses (k a)) : Refuses (r >>= k) := by
  cases r with
  | error f =>
    intro g hg
    injection hg with heq
    exact heq ▸ h f rfl
  | ok a => exact hk a rfl

theorem Refuses.named {α : Type} {r : Run α} (h : Refuses r) (name : String) :
    Refuses (named name r) := by
  cases r with
  | ok a => exact Refuses.ok a
  | error f =>
    obtain ⟨cause, detail, rfl⟩ := h f rfl
    exact Refuses.error _ _

theorem decodeUint_refuses (data : List UInt8) (o w : ℕ) : Refuses (decodeUint data o w) := by
  unfold decodeUint
  split
  · exact Refuses.error _ _
  · exact Refuses.ok _

theorem decodeSources_refuses (data : List UInt8) (k : ℕ) :
    ∀ i o, Refuses (decodeSources textDecode data i k o) := by
  induction k with
  | zero =>
    intro i o
    exact Refuses.ok _
  | succ k ih =>
    intro i o
    rw [decodeSources]
    by_cases hhead : data.length < o + 32 + 4
    · rw [if_pos hhead]
      exact Refuses.error _ _
    · rw [if_neg hhead]
      by_cases hbody : data.length < o + 36 + leNat (bytesAt data (o + 32) 4)
      · simp only [if_pos hbody]
        exact Refuses.error _ _
      · -- the address of an entry is 32 bytes, so it is shown
        have hid : (bytesAt data o 32).length = 32 := length_bytesAt (by omega)
        simp only [if_neg hbody, pubkeyBase58_eq hid]
        exact (ih _ _).bind (fun p _ => Refuses.ok _)

theorem decodeField_refuses (data : List UInt8) (o : ℕ) (decl : FieldDecl) :
    Refuses (decodeField textDecode data o decl) := by
  cases decl with
  | mk name type =>
    cases type with
    | u8 => exact decodeUint_refuses data o 1
    | u16 => exact decodeUint_refuses data o 2
    | u32 => exact decodeUint_refuses data o 4
    | u64 => exact decodeUint_refuses data o 8
    | u128 => exact decodeUint_refuses data o 16
    | bool =>
      simp only [decodeField]
      split
      · exact Refuses.error _ _
      · split
        · exact Refuses.error _ _
        · exact Refuses.ok _
    | fixedBytes len =>
      cases len with
      | none => exact Refuses.error _ _
      | some len =>
        simp only [decodeField]
        split
        · exact Refuses.error _ _
        · exact Refuses.ok _
    | remainderUnmodelled | unsupported _ => exact Refuses.error _ _
    | vecEncumbranceSource =>
      simp only [decodeField]
      split
      · exact Refuses.error _ _
      · exact (decodeSources_refuses textDecode data _ _ _).bind (fun p _ => Refuses.ok _)

theorem walk_refuses (data : List UInt8) (decls : List FieldDecl) :
    ∀ o, Refuses (walk textDecode data decls o) := by
  induction decls with
  | nil =>
    intro o
    exact Refuses.ok _
  | cons decl decls ih =>
    intro o
    rw [walk]
    split
    · exact Refuses.ok _
    · refine ((decodeField_refuses textDecode data o decl).named decl.name).bind (fun p _ => ?_)
      exact (ih p.2).bind (fun q _ => Refuses.ok _)

/-- **No bytes make the decoder of a config throw.** -/
theorem decodePassportConfig_refuses (data : List UInt8) :
    Refuses (decodePassportConfig textDecode data) := by
  have hmark : ¬ passportConfigLayout.fields.findIdx (fun f => f.type = .remainderUnmodelled) + 1 <
      passportConfigLayout.fields.length := by decide
  have hcursor : Refuses (decodeLayoutCursor textDecode data passportConfigLayout) := by
    simp only [decodeLayoutCursor, if_neg hmark, hexToBytes_discriminator, orThrow_ok]
    refine (walk_refuses textDecode data _ 0).bind (fun p hp => ?_)
    have hfine := ((walk_exact textDecode _ data 0 (Nat.zero_le _) p.1 p.2).mp hp).1
    obtain ⟨c, disc, -, -, hfields⟩ := (fieldsFine_config textDecode).mp hfine
    rw [hfields, get_discriminator]
    dsimp only
    split
    · exact Refuses.ok _
    · exact Refuses.error _ _
  cases hc : decodeLayoutCursor textDecode data passportConfigLayout with
  | error f =>
    rw [decodePassportConfig, hc]
    rw [hc] at hcursor
    obtain ⟨cause, detail, rfl⟩ := hcursor f rfl
    exact Refuses.error _ _
  | ok p =>
    obtain ⟨fields, n⟩ := p
    obtain ⟨hwalk, hdisc⟩ := (decodeLayoutCursor_iff textDecode).mp hc
    have hfine := ((walk_exact textDecode _ data 0 (Nat.zero_le _) fields n).mp hwalk).1
    obtain ⟨c, disc, hfineC, -, rfl⟩ := (fieldsFine_config textDecode).mp hfine
    rw [get_discriminator] at hdisc
    injection hdisc with hbytes
    injection hbytes with heq
    subst heq
    rw [decodePassportConfig_shown textDecode hfineC hc]
    exact Refuses.ok _

/-! ## §8. Other sources. -/

theorem replaceSource_iff {s : List UInt8 × List UInt8} {t : EncumbranceSource} :
    replaceSource textDecode s = .ok t ↔
      s.1.length = 32 ∧ t = ⟨base58Encode s.1, textDecode s.2, s.1, s.2⟩ := by
  unfold replaceSource
  constructor
  · intro h
    cases hid : pubkeyBase58 s.1 with
    | error f =>
      rw [hid] at h
      cases h
    | ok id =>
      rw [hid] at h
      injection h with ht
      obtain ⟨hlen, hshown⟩ := pubkeyBase58_iff.mp hid
      exact ⟨hlen, by rw [← ht, hshown]⟩
  · rintro ⟨hlen, rfl⟩
    rw [pubkeyBase58_eq hlen]
    rfl

/-- The replacing sources are the ones given, shown. -/
theorem mapM_replaceSource {l : List (List UInt8 × List UInt8)} {next : List EncumbranceSource} :
    l.mapM (replaceSource textDecode) = .ok next ↔
      (∀ s ∈ l, s.1.length = 32) ∧
        next = l.map (fun s => ⟨base58Encode s.1, textDecode s.2, s.1, s.2⟩) := by
  induction l generalizing next with
  | nil =>
    constructor
    · intro h
      injection h with hn
      exact ⟨by simp, hn.symm⟩
    · rintro ⟨-, rfl⟩
      rfl
  | cons s l ih =>
    rw [List.mapM_cons]
    constructor
    · intro h
      cases hs : replaceSource textDecode s with
      | error f =>
        rw [hs] at h
        cases h
      | ok t =>
        cases hl : l.mapM (replaceSource textDecode) with
        | error f =>
          rw [hs, hl] at h
          cases h
        | ok rest =>
          rw [hs, hl] at h
          injection h with hn
          obtain ⟨hlen, rfl⟩ := (replaceSource_iff textDecode).mp hs
          obtain ⟨hall, rfl⟩ := ih.mp hl
          refine ⟨?_, hn.symm⟩
          intro u hu
          rcases List.mem_cons.mp hu with rfl | hu
          · exact hlen
          · exact hall u hu
    · rintro ⟨hall, rfl⟩
      rw [(replaceSource_iff textDecode).mpr ⟨hall s (by simp), rfl⟩,
        ih.mpr ⟨fun u hu => hall u (by simp [hu]), rfl⟩]
      rfl

def RawConfig.withSources (c : RawConfig) (next : List EncumbranceSource) : RawConfig :=
  { c with encumbranceSources := next }

theorem RawConfig.shown_withSources (c : RawConfig) (next : List EncumbranceSource) :
    (c.withSources next).shown = { c.shown with encumbranceSources := next } := rfl

/-- A config with other fine sources is one. -/
theorem RawConfig.Fine.withSources {c : RawConfig} (hc : c.Fine textDecode)
    {next : List EncumbranceSource} (hfew : next.length < 256 ^ 4)
    (hnext : ∀ s ∈ next, SourceFine textDecode s) :
    (c.withSources next).Fine textDecode where
  authority := hc.authority
  namespace_ := hc.namespace_
  localEid := hc.localEid
  endpointProgram := hc.endpointProgram
  disputeDeposit := hc.disputeDeposit
  stakingProgram := hc.stakingProgram
  bridgeGateway := hc.bridgeGateway
  forfeitRecipient := hc.forfeitRecipient
  nextTokenId := hc.nextTokenId
  fewSources := hfew
  sources := hnext
  bump := hc.bump

theorem walk_fine {data : List UInt8} {n : ℕ} {c : RawConfig} (hc : c.Fine textDecode) :
    walk textDecode data passportConfigLayout.fields 0 = .ok (c.fields, n) ↔
      Written data 0 c.print ∧ n = c.print.length := by
  have h := walk_exact textDecode passportConfigLayout.fields data 0 (Nat.zero_le _) c.fields n
  have hfine : FieldsFine textDecode passportConfigLayout.fields c.fields :=
    (fieldsFine_config textDecode).mpr ⟨c, discriminator, hc, rfl, rfl⟩
  constructor
  · intro hw
    obtain ⟨-, hwritten, hn⟩ := h.mp hw
    exact ⟨hwritten, by rw [hn, Nat.zero_add]; rfl⟩
  · rintro ⟨hwritten, hn⟩
    exact h.mpr ⟨hfine, hwritten, by rw [hn, Nat.zero_add]; rfl⟩

/-- **The codec of the passport config account.**  What decodes is encoded back, byte for byte;
    every shorter array is refused; other sources leave every other field. -/
theorem passport_config_codec (data : List UInt8) (value : PassportConfig) (n : ℕ)
    (h : decodePassportConfig textDecode data = .ok (value, n)) :
    (n ≤ data.length ∧ encodePassportConfigAccount value = .ok (data.take n)) ∧
    (∀ m < n, ∃ cause detail,
      decodePassportConfig textDecode (data.take m) = .error (.refused cause detail)) ∧
    (∀ new : Replacement,
      ((∃ out, encodePassportConfigWithSources textDecode data new.sources = .ok out) ↔
        ∀ s ∈ new.sources, s.1.length = 32) ∧
      ∀ out, encodePassportConfigWithSources textDecode data new.sources = .ok out →
        decodePassportConfig textDecode out = .ok ({ value with
          encumbranceSources := new.sources.map
            (fun s => ⟨base58Encode s.1, textDecode s.2, s.1, s.2⟩) }, out.length)) := by
  obtain ⟨c, hc, rfl, hwalk⟩ := (decodePassportConfig_iff textDecode).mp h
  have hexact := walk_exact textDecode passportConfigLayout.fields
  have hprint : c.print = data.take n := hexact.printed hwalk
  refine ⟨⟨?_, ?_⟩, ?_, ?_⟩
  · exact hexact.next_le (Nat.zero_le _) hwalk
  · rw [encode_shown textDecode hc, hprint]
  · intro m hm
    cases hr : decodePassportConfig textDecode (data.take m) with
    | error f =>
      obtain ⟨cause, detail, rfl⟩ := decodePassportConfig_refuses textDecode _ f hr
      exact ⟨cause, detail, rfl⟩
    | ok p =>
      obtain ⟨w, n'⟩ := p
      obtain ⟨c', -, -, hshort⟩ := (decodePassportConfig_iff textDecode).mp hr
      exact absurd hshort (hexact.truncated hwalk hm _ _)
  · intro new
    set next : List EncumbranceSource :=
      new.sources.map (fun s => ⟨base58Encode s.1, textDecode s.2, s.1, s.2⟩) with hnext
    have hfine : (∀ s ∈ new.sources, s.1.length = 32) → (c.withSources next).Fine textDecode := by
      intro hids
      have hfew : next.length < 256 ^ 4 := by
        rw [hnext, List.length_map]
        have := new.few
        omega
      refine hc.withSources textDecode hfew ?_
      intro s hs
      obtain ⟨p, hp, rfl⟩ := List.mem_map.mp hs
      have hshort := new.short p hp
      exact ⟨hids p hp, by show p.2.length < 256 ^ 4; omega, rfl, rfl⟩
    have hout : ∀ out, encodePassportConfigWithSources textDecode data new.sources = .ok out ↔
        (∀ s ∈ new.sources, s.1.length = 32) ∧ out = (c.withSources next).print := by
      intro out
      unfold encodePassportConfigWithSources
      rw [h]
      dsimp only
      constructor
      · intro hok
        cases hmap : new.sources.mapM (replaceSource textDecode) with
        | error f =>
          rw [hmap] at hok
          cases hok
        | ok got =>
          obtain ⟨hids, hgot⟩ := (mapM_replaceSource textDecode).mp hmap
          rw [hmap, bind_ok, hgot, ← hnext, ← RawConfig.shown_withSources,
            encode_shown textDecode (hfine hids)] at hok
          injection hok with heq
          exact ⟨hids, heq.symm⟩
      · rintro ⟨hids, rfl⟩
        rw [(mapM_replaceSource textDecode).mpr ⟨hids, hnext⟩, bind_ok,
          ← RawConfig.shown_withSources, encode_shown textDecode (hfine hids)]
    refine ⟨⟨?_, ?_⟩, ?_⟩
    · rintro ⟨out, hok⟩
      exact ((hout out).mp hok).1
    · intro hids
      exact ⟨_, (hout _).mpr ⟨hids, rfl⟩⟩
    · intro out hok
      obtain ⟨hids, rfl⟩ := (hout out).mp hok
      rw [← RawConfig.shown_withSources]
      refine (decodePassportConfig_iff textDecode).mpr ⟨_, hfine hids, rfl, ?_⟩
      exact (walk_fine textDecode (hfine hids)).mpr ⟨List.prefix_rfl, rfl⟩

end Fields

/-- The sample of the manifest. -/
def sampleConfig : RawConfig where
  authority := List.replicate 32 0x11
  namespace_ := 2000040168
  localEid := 40168
  endpointProgram := List.replicate 32 0x22
  disputeDeposit := 10000000
  stakingProgram := List.replicate 32 0x33
  bridgeGateway := List.replicate 32 0x44
  forfeitRecipient := List.replicate 32 0x55
  nextTokenId := List.replicate 32 0x66
  encumbranceSources := [
    ⟨base58Encode (List.replicate 32 0x77), "ans", List.replicate 32 0x77, [0x61, 0x6e, 0x73]⟩]
  bump := 252

theorem sampleConfig_fine : sampleConfig.Fine (fun _ => "ans") where
  authority := rfl
  namespace_ := by decide
  localEid := by decide
  endpointProgram := rfl
  disputeDeposit := by decide
  stakingProgram := rfl
  bridgeGateway := rfl
  forfeitRecipient := rfl
  nextTokenId := rfl
  fewSources := by decide
  sources := by
    intro s hs
    rw [List.mem_singleton.mp hs]
    exact ⟨rfl, by decide, rfl, rfl⟩
  bump := by decide

theorem passport_config_codec_sample :
    sampleConfig.print.length = 272 ∧
      encodePassportConfigAccount sampleConfig.shown = .ok (sampleConfig.print.take 272) :=
  have hlen : sampleConfig.print.length = 272 := by decide +kernel
  have h : decodePassportConfig (fun _ => "ans") sampleConfig.print =
      .ok (sampleConfig.shown, 272) :=
    (decodePassportConfig_iff _).mpr ⟨sampleConfig, sampleConfig_fine, rfl,
      (walk_fine _ sampleConfig_fine).mpr ⟨List.prefix_rfl, hlen.symm⟩⟩
  ⟨hlen, (passport_config_codec (fun _ => "ans") _ _ _ h).1.2⟩

end Kargain.AccountState
