/-
  Kargain.Commons.DeriveClaims — lib/vincent-commons/derive-claims.ts and claim-sort.ts.

  Observations of verified passports become claims: one schema and one
  binding for each pair of manufacturer and year, and one pattern for each
  VIN section and attribute on which all observations of it agree.  Where
  they differ, no claim is made and the conflict is reported.

  The source gathers the observations in maps inside maps.  Here they are a
  list of facts, and what a map holds under a key is read off the list; the
  keys come in the order in which they were first set.

  Main results: `mem_deriveClaims`, what is claimed and what is reported as a
  conflict, and `deriveClaims_perm`, the derivation does not depend on the
  order of the observations.
-/
import Mathlib
import Kargain.Base.Keyed
import Kargain.Wire.ProtocolAddress

namespace Kargain.Commons

open Kargain.Keyed
open Kargain.ProtocolAddress (Text trim)

/-! ## §1. The order of strings. -/

/-- Membership among strings is decided by their equality. -/
scoped instance lawfulText : LawfulBEq Text := inferInstance

/-- The UTF-16 units of a character. -/
def unitsOf (c : Char) : List ℕ :=
  if c.toNat < 0x10000 then [c.toNat]
  else [0xD800 + (c.toNat - 0x10000) / 0x400, 0xDC00 + (c.toNat - 0x10000) % 0x400]

/-- The units of a string, by which `<` and `sort` compare. -/
def units (t : Text) : List ℕ := t.flatMap unitsOf

def sortTexts (xs : List Text) : List Text := sortBy units xs

/-- A unit that stands for itself is no surrogate. -/
theorem not_surrogate (c : Char) : c.toNat < 0xD800 ∨ 0xDFFF < c.toNat := by
  have hvalid := c.valid
  unfold UInt32.isValidChar Nat.isValidChar at hvalid
  show c.val.toNat < _ ∨ _ < c.val.toNat
  omega

theorem toNat_le (c : Char) : c.toNat < 0x110000 := by
  have hvalid := c.valid
  unfold UInt32.isValidChar Nat.isValidChar at hvalid
  show c.val.toNat < _
  omega

theorem unitsOf_append_inj {c d : Char} {xs ys : List ℕ}
    (h : unitsOf c ++ xs = unitsOf d ++ ys) : c = d ∧ xs = ys := by
  have hc := not_surrogate c
  have hd := not_surrogate d
  have hc' := toNat_le c
  have hd' := toNat_le d
  have heq : c.toNat = d.toNat ∧ xs = ys := by
    unfold unitsOf at h
    split at h <;> split at h <;>
      simp only [List.cons_append, List.nil_append, List.cons.injEq] at h
    · exact h
    · omega
    · omega
    · exact ⟨by omega, h.2.2⟩
  exact ⟨Char.toNat_inj.mp heq.1, heq.2⟩

theorem units_inj {s t : Text} (h : units s = units t) : s = t := by
  induction s generalizing t with
  | nil =>
    cases t with
    | nil => rfl
    | cons d t =>
      unfold units unitsOf at h
      rw [List.flatMap_nil, List.flatMap_cons] at h
      split at h <;> simp at h
  | cons c s ih =>
    cases t with
    | nil =>
      unfold units unitsOf at h
      rw [List.flatMap_nil, List.flatMap_cons] at h
      split at h <;> simp at h
    | cons d t =>
      unfold units at h
      rw [List.flatMap_cons, List.flatMap_cons] at h
      obtain ⟨hhead, htail⟩ := unitsOf_append_inj h
      rw [hhead, ih htail]

theorem sortTexts_perm {xs ys : List Text} (h : xs.Perm ys) : sortTexts xs = sortTexts ys :=
  sortBy_perm (fun _ _ _ _ heq => units_inj heq) h

/-! ## §2. Claims. -/

structure ClaimBase where
  schemaVersion : Text
  provenance : Text
  license : Text
deriving DecidableEq

/-- The claims that are derived or proposed. -/
inductive Claim
  | wmi (base : ClaimBase) (wmi manufacturer : Text) (country vehicleType : Option Text) (region : Text)
  | vdsSchema (base : ClaimBase) (name : Text)
  | vdsBinding (base : ClaimBase) (wmi : Text) (yearFrom : ℤ) (yearTo : Option ℤ) (schema : Text)
  | vdsPattern (base : ClaimBase) (schema vds : Text) (vis : Option Text) (attr code : Text)
deriving DecidableEq

namespace Claim

def type : Claim → Text
  | wmi .. => "wmi".toList
  | vdsSchema .. => "vds-schema".toList
  | vdsBinding .. => "vds-binding".toList
  | vdsPattern .. => "vds-pattern".toList

end Claim

inductive VinLength | full | legacy | other
deriving DecidableEq

/-- `validateVin`: `checkDigit` is `validation.checkDigit.valid === true`. -/
structure VinValidation where
  length : VinLength
  ok : Bool
  normalized : Text
  checkDigit : Bool

/-- What the package `@kargain/vincent` provides.  `lookupWmi` tells whether the bundled table has
    an entry. -/
structure Vincent where
  claimHash : Claim → Text
  parseClaim : Claim → Option Claim
  validateVin : Text → VinValidation
  resolveWmiKey : Text → Text
  lookupWmi : Text → Bool

/-- What `compareClaimsForJsonl` compares, in turn: the type, the fields of the key, the hash.  An
    open `yearTo` comes last. -/
abbrev JsonlKey := List ℕ ×ₗ List ℕ ×ₗ List ℕ ×ₗ ℤ ×ₗ WithTop ℤ ×ₗ List ℕ ×ₗ List ℕ

def jsonlKey (hash : Claim → Text) (claim : Claim) : JsonlKey :=
  let key (a b : Text) (from' : ℤ) (until' : WithTop ℤ) (c : Text) : JsonlKey :=
    toLex (units claim.type, toLex (units a, toLex (units b, toLex (from', toLex (until',
      toLex (units c, units (hash claim)))))))
  match claim with
  | .wmi _ wmi .. => key wmi [] 0 0 []
  | .vdsSchema _ name => key name [] 0 0 []
  | .vdsBinding _ wmi yearFrom yearTo schema => key wmi [] yearFrom (yearTo.elim ⊤ WithTop.some) schema
  | .vdsPattern _ schema vds vis .. => key schema vds 0 0 (vis.getD [])

def sortClaimsForJsonl (hash : Claim → Text) (claims : List Claim) : List Claim :=
  sortBy (jsonlKey hash) claims

theorem hash_of_jsonlKey {hash : Claim → Text} {c c' : Claim}
    (h : jsonlKey hash c = jsonlKey hash c') : hash c = hash c' := by
  let last (k : JsonlKey) : List ℕ := (ofLex (ofLex (ofLex (ofLex (ofLex (ofLex k).2).2).2).2).2).2
  have hlast : ∀ c : Claim, last (jsonlKey hash c) = units (hash c) := by
    intro c
    cases c <;> rfl
  refine units_inj ?_
  rw [← hlast c, h, hlast]

/-! ## §3. Observations. -/

/-- `year` is `none` where it is no integer. -/
structure VincentObservation where
  tokenId : Text
  vin : Text
  year : Option ℤ
  make : Option Text
  model : Option Text
  modelVariant : Option Text
  bodyType : Option Text
  fuelType : Option Text
  transmission : Option Text
  engine : Option Text

inductive DerivedAttribute | model | series | bodyType | fuelType | transmission | engine
deriving DecidableEq

def DerivedAttribute.text : DerivedAttribute → Text
  | .model => "model".toList
  | .series => "series".toList
  | .bodyType => "bodyType".toList
  | .fuelType => "fuelType".toList
  | .transmission => "transmission".toList
  | .engine => "engine".toList

theorem DerivedAttribute.text_inj {a b : DerivedAttribute} (h : a.text = b.text) : a = b := by
  cases a <;> cases b <;> first | rfl | exact absurd h (by decide)

inductive DeriveSkipReason | invalidVin | legacyVin | missingYear
deriving DecidableEq

def DeriveSkipReason.text : DeriveSkipReason → Text
  | .invalidVin => "invalid-vin".toList
  | .legacyVin => "legacy-vin".toList
  | .missingYear => "missing-year".toList

theorem DeriveSkipReason.text_inj {a b : DeriveSkipReason} (h : a.text = b.text) : a = b := by
  cases a <;> cases b <;> first | rfl | exact absurd h (by decide)

structure DeriveSkip where
  tokenId : Text
  reason : DeriveSkipReason
deriving DecidableEq

structure VocabularySkip where
  tokenId : Text
  attr : DerivedAttribute
  value : Text
deriving DecidableEq

/-- `VPIC_CANONICAL_CODES`, the entries it declares. -/
def vpicCanonicalCodes : DerivedAttribute → List (String × String)
  | .fuelType =>
    [("Petrol", "Gasoline"), ("Diesel", "Diesel"), ("Electric", "Electric"), ("Hybrid", "Hybrid")]
  | .bodyType =>
    [("Sedan", "Sedan/Saloon"), ("SUV", "SUV/MPV"), ("Hatchback", "Hatchback"), ("Coupe", "Coupe"),
      ("Van", "Van"), ("Truck", "Pickup")]
  | .transmission => [("Manual", "Manual"), ("Automatic", "Automatic")]
  | _ => []

def vpicCanonicalCode (attr : DerivedAttribute) (raw : Text) : Option Text :=
  ((vpicCanonicalCodes attr).find? fun entry => entry.1.toList = raw).map (·.2.toList)

/-- `raw?.trim()`, if anything is left. -/
def trimmed (raw : Option Text) : Option Text :=
  match raw.map trim with
  | some (c :: t) => some (c :: t)
  | _ => none

/-- The positions 4 to 9, the check digit masked if it is one. -/
def vdsFromVin (normalizedVin : Text) (checkDigitValid : Bool) : Text :=
  let vds := (normalizedVin.drop 3).take 6
  if checkDigitValid then vds.take 5 ++ ['*'] else vds

def freeAttributes (obs : VincentObservation) : List (DerivedAttribute × Option Text) :=
  [(.model, obs.model), (.series, obs.modelVariant), (.engine, obs.engine)]

def enumeratedAttributes (obs : VincentObservation) : List (DerivedAttribute × Option Text) :=
  [(.fuelType, obs.fuelType), (.bodyType, obs.bodyType), (.transmission, obs.transmission)]

/-- `extractAttributes`: the attributes of an observation. -/
def extractAttributes (obs : VincentObservation) : List (DerivedAttribute × Text) :=
  ((freeAttributes obs).filterMap fun (attr, raw) => (trimmed raw).map (attr, ·)) ++
  ((enumeratedAttributes obs).filterMap fun (attr, raw) =>
    ((trimmed raw).bind (vpicCanonicalCode attr)).map (attr, ·))

/-- `extractAttributes`: the values outside the vocabulary. -/
def vocabularySkipsOf (obs : VincentObservation) : List VocabularySkip :=
  (enumeratedAttributes obs).filterMap fun (attr, raw) =>
    (trimmed raw).bind fun value =>
      match vpicCanonicalCode attr value with
      | some _ => none
      | none => some { tokenId := obs.tokenId, attr := attr, value := value }

/-- An observation that passes the checks. -/
structure Admitted where
  obs : VincentObservation
  normalized : Text
  wmi : Text
  year : ℤ
  vds : Text

def admitObservation (v : Vincent) (obs : VincentObservation) : Except DeriveSkip Admitted :=
  let validation := v.validateVin obs.vin
  if validation.length ≠ .full ∨ validation.ok = false then
    .error { tokenId := obs.tokenId,
             reason := if validation.length = .legacy then .legacyVin else .invalidVin }
  else
    match obs.year with
    | none => .error { tokenId := obs.tokenId, reason := .missingYear }
    | some year =>
      if year < 1 then .error { tokenId := obs.tokenId, reason := .missingYear }
      else .ok { obs := obs, normalized := validation.normalized,
                 wmi := v.resolveWmiKey validation.normalized, year := year,
                 vds := vdsFromVin validation.normalized validation.checkDigit }

def skipOf (v : Vincent) (obs : VincentObservation) : Option DeriveSkip :=
  match admitObservation v obs with
  | .error skip => some skip
  | .ok _ => none

def admitted (v : Vincent) (observations : List VincentObservation) : List Admitted :=
  observations.filterMap fun obs => (admitObservation v obs).toOption

/-- What one attribute of one observation adds to the map of the groups. -/
structure Fact where
  wmi : Text
  year : ℤ
  vds : Text
  attr : DerivedAttribute
  code : Text
  tokenId : Text

abbrev GroupKey := Text × ℤ

abbrev PatternKey := Text × DerivedAttribute

def Fact.group (f : Fact) : GroupKey := (f.wmi, f.year)

def Fact.pattern (f : Fact) : PatternKey := (f.vds, f.attr)

def factsOf (a : Admitted) : List Fact :=
  (extractAttributes a.obs).map fun (attr, code) =>
    { wmi := a.wmi, year := a.year, vds := a.vds, attr := attr, code := code,
      tokenId := a.obs.tokenId }

/-! ## §4. Groups. -/

section Groups

variable (facts : List Fact)

/-- The keys of `groups`. -/
def groupKeys : List GroupKey := distinct (facts.map Fact.group)

/-- The keys of a group. -/
def patternKeys (g : GroupKey) : List PatternKey :=
  distinct ((facts.filter fun f => f.group = g).map Fact.pattern)

def accumulated (g : GroupKey) (p : PatternKey) : List Fact :=
  facts.filter fun f => f.group = g ∧ f.pattern = p

/-- The keys of `acc.codes`. -/
def codes (g : GroupKey) (p : PatternKey) : List Text :=
  distinct ((accumulated facts g p).map Fact.code)

/-- What `acc.codes` holds under a code. -/
def codeTokenIds (g : GroupKey) (p : PatternKey) (code : Text) : List Text :=
  distinct (((accumulated facts g p).filter fun f => f.code = code).map Fact.tokenId)

structure DeriveConflict where
  wmi : Text
  year : ℤ
  vds : Text
  attr : DerivedAttribute
  values : List Text
  tokenIds : List Text
deriving DecidableEq

def conflictAt (g : GroupKey) (p : PatternKey) : DeriveConflict where
  wmi := g.1
  year := g.2
  vds := p.1
  attr := p.2
  values := sortTexts (codes facts g p)
  tokenIds := sortTexts ((codes facts g p).flatMap (codeTokenIds facts g p))

def conflictsOf (g : GroupKey) : List DeriveConflict :=
  ((patternKeys facts g).filter fun p => 1 < (codes facts g p).length).map (conflictAt facts g)

def surviving (g : GroupKey) : List PatternKey :=
  (patternKeys facts g).filter fun p => ¬ 1 < (codes facts g p).length

/-- A claim that is pushed, the hash its sources are recorded under, and where they come from: one
    pattern of the group, or all that survive. -/
structure Emission where
  claim : Claim
  hash : Text
  group : GroupKey
  pattern : Option PatternKey

def patternTokenIds (g : GroupKey) (p : PatternKey) : List Text :=
  (codes facts g p).flatMap (codeTokenIds facts g p)

def Emission.tokenIds (e : Emission) : List Text :=
  match e.pattern with
  | some p => patternTokenIds facts e.group p
  | none => (surviving facts e.group).flatMap (patternTokenIds facts e.group)

def baseClaimFields : ClaimBase where
  schemaVersion := "1.1".toList
  provenance := "community/observation".toList
  license := "CC0-1.0".toList

def communitySchemaName (wmi : Text) (year : ℤ) : Text :=
  "Kargain community ".toList ++ wmi ++ " ".toList ++ (toString year).toList

variable (v : Vincent)

def emitPattern (g : GroupKey) (schemaRef : Text) (p : PatternKey) : Option (List Emission) :=
  match codes facts g p with
  | [] => some []
  | code :: _ => do
    let claim := Claim.vdsPattern baseClaimFields schemaRef p.1 none p.2.text code
    let parsed ← v.parseClaim claim
    some [{ claim := parsed, hash := v.claimHash claim, group := g, pattern := some p }]

/-- The claims of one group; a claim that does not parse fails the derivation. -/
def emitGroup (g : GroupKey) : Option (List Emission) :=
  if surviving facts g = [] then some []
  else do
    let schemaClaim := Claim.vdsSchema baseClaimFields (communitySchemaName g.1 g.2)
    let schemaRef := v.claimHash (← v.parseClaim schemaClaim)
    let bindingClaim := Claim.vdsBinding baseClaimFields g.1 g.2 (some g.2) schemaRef
    let binding ← v.parseClaim bindingClaim
    let patterns ← (surviving facts g).mapM (emitPattern facts v g schemaRef)
    some ({ claim := schemaClaim, hash := schemaRef, group := g, pattern := none } ::
      { claim := binding, hash := v.claimHash bindingClaim, group := g, pattern := none } ::
      patterns.flatten)

def sortedGroupKeys : List GroupKey := sortBy (fun g => toLex (units g.1, g.2)) (groupKeys facts)

def emissions : Option (List Emission) :=
  ((sortedGroupKeys facts).mapM (emitGroup facts v)).map List.flatten

end Groups

/-! ## §5. The derivation. -/

structure UnknownWmiCandidate where
  wmi : Text
  makes : List Text
  tokenIds : List Text
deriving DecidableEq

/-- `wmiSeen`: the observations under a WMI. -/
def seenUnder (seen : List Admitted) (wmi : Text) : List Admitted := seen.filter fun a => a.wmi = wmi

/-- The table knows the WMI, by the VIN that was seen first. -/
def known (v : Vincent) (seen : List Admitted) (wmi : Text) : Bool :=
  match seenUnder seen wmi with
  | [] => true
  | a :: _ => v.lookupWmi a.normalized

def unknownCandidate (seen : List Admitted) (wmi : Text) : UnknownWmiCandidate where
  wmi := wmi
  makes := sortTexts (distinct ((seenUnder seen wmi).filterMap fun a => trimmed a.obs.make))
  tokenIds := sortTexts (distinct ((seenUnder seen wmi).map fun a => a.obs.tokenId))

structure DeriveReport where
  observations : ℕ
  skipped : List DeriveSkip
  vocabularySkips : List VocabularySkip
  conflicts : List DeriveConflict
  unknownWmiCandidates : List UnknownWmiCandidate
  vdsSchema : ℕ
  vdsBinding : ℕ
  vdsPattern : ℕ
  total : ℕ
deriving DecidableEq

/-- `sources` has the hashes of the claims, in their order, and the passports behind each. -/
structure DeriveResult where
  claims : List Claim
  report : DeriveReport
  sources : List (Text × List Text)
deriving DecidableEq

def countType (type : String) (claims : List Claim) : ℕ := claims.countP fun c => c.type = type.toList

/-- The tokens recorded under a hash. -/
def sourceTokenIds (facts : List Fact) (es : List Emission) (hash : Text) : List Text :=
  sortTexts (distinct ((es.filter fun e => e.hash = hash).flatMap (Emission.tokenIds facts)))

/-- The claims by hash, the last of a hash, sorted. -/
def deduped (v : Vincent) (es : List Emission) : List Claim :=
  sortClaimsForJsonl v.claimHash
    ((collect v.claimHash (fun c _ => c) (es.map Emission.claim)).map Prod.snd)

/-- The WMIs the table does not know. -/
def unknownWmis (v : Vincent) (seen : List Admitted) : List UnknownWmiCandidate :=
  sortBy (fun c => units c.wmi)
    (((distinct (seen.map Admitted.wmi)).filter fun wmi => ¬ known v seen wmi).map
      (unknownCandidate seen))

def skipKey (s : DeriveSkip) : List ℕ ×ₗ List ℕ := toLex (units s.tokenId, units s.reason.text)

def vocabularyKey (s : VocabularySkip) : List ℕ ×ₗ List ℕ ×ₗ List ℕ :=
  toLex (units s.tokenId, toLex (units s.attr.text, units s.value))

def conflictKey (c : DeriveConflict) : List ℕ ×ₗ ℤ ×ₗ List ℕ ×ₗ List ℕ :=
  toLex (units c.wmi, toLex (c.year, toLex (units c.vds, units c.attr.text)))

def deriveClaims (v : Vincent) (observations : List VincentObservation) : Option DeriveResult := do
  let seen := admitted v observations
  let facts := seen.flatMap factsOf
  let es ← emissions facts v
  let claims := deduped v es
  let conflicts := (sortedGroupKeys facts).flatMap (conflictsOf facts)
  some {
    claims := claims
    sources := claims.map fun c => (v.claimHash c, sourceTokenIds facts es (v.claimHash c))
    report := {
      observations := observations.length
      skipped := sortBy skipKey (observations.filterMap (skipOf v))
      vocabularySkips := sortBy vocabularyKey (seen.flatMap fun a => vocabularySkipsOf a.obs)
      conflicts := sortBy conflictKey conflicts
      unknownWmiCandidates := unknownWmis v seen
      vdsSchema := countType "vds-schema" claims
      vdsBinding := countType "vds-binding" claims
      vdsPattern := countType "vds-pattern" claims
      total := claims.length } }

/-! ## §6. The order of the observations. -/

section Order

variable {facts facts' : List Fact} (h : facts.Perm facts')

include h

theorem patternKeys_perm (g : GroupKey) : (patternKeys facts g).Perm (patternKeys facts' g) :=
  distinct_perm ((h.filter _).map _)

theorem codes_perm (g : GroupKey) (p : PatternKey) : (codes facts g p).Perm (codes facts' g p) :=
  distinct_perm ((h.filter _).map _)

theorem codeTokenIds_perm (g : GroupKey) (p : PatternKey) (code : Text) :
    (codeTokenIds facts g p code).Perm (codeTokenIds facts' g p code) :=
  distinct_perm (((h.filter _).filter _).map _)

theorem patternTokenIds_perm (g : GroupKey) (p : PatternKey) :
    (patternTokenIds facts g p).Perm (patternTokenIds facts' g p) :=
  ((codes_perm h g p).flatMap_right _).trans
    (List.Perm.flatMap_left _ fun code _ => codeTokenIds_perm h g p code)

theorem surviving_perm (g : GroupKey) : (surviving facts g).Perm (surviving facts' g) := by
  unfold surviving
  simp only [(codes_perm h g _).length_eq]
  exact (patternKeys_perm h g).filter _

theorem tokenIds_perm (e : Emission) : (e.tokenIds facts).Perm (e.tokenIds facts') := by
  unfold Emission.tokenIds
  split
  · exact patternTokenIds_perm h _ _
  · exact ((surviving_perm h _).flatMap_right _).trans
      (List.Perm.flatMap_left _ fun p _ => patternTokenIds_perm h _ p)

theorem conflictAt_eq (g : GroupKey) (p : PatternKey) : conflictAt facts g p = conflictAt facts' g p := by
  unfold conflictAt
  rw [sortTexts_perm (codes_perm h g p)]
  congr 1
  exact sortTexts_perm (patternTokenIds_perm h g p)

theorem conflictsOf_perm (g : GroupKey) : (conflictsOf facts g).Perm (conflictsOf facts' g) := by
  have hat : conflictAt facts g = conflictAt facts' g := funext (conflictAt_eq h g)
  unfold conflictsOf
  simp only [(codes_perm h g _).length_eq, hat]
  exact ((patternKeys_perm h g).filter _).map _

omit h in
theorem groupKey_inj {g g' : GroupKey} (heq : toLex (units g.1, g.2) = toLex (units g'.1, g'.2)) :
    g = g' := by
  have hpair := toLex_inj.mp heq
  simp only [Prod.mk.injEq] at hpair
  exact Prod.ext (units_inj hpair.1) hpair.2

theorem sortedGroupKeys_eq : sortedGroupKeys facts = sortedGroupKeys facts' :=
  sortBy_perm (fun _ _ _ _ heq => groupKey_inj heq) (distinct_perm (h.map _))

/-- A pattern that survives has one code at most, so which is first does not depend on the order. -/
theorem emitPattern_eq (v : Vincent) (g : GroupKey) (schemaRef : Text) {p : PatternKey}
    (hp : p ∈ surviving facts g) :
    emitPattern facts v g schemaRef p = emitPattern facts' v g schemaRef p := by
  have hlen : (codes facts g p).length ≤ 1 := by
    have hkept := (List.mem_filter.mp hp).2
    simp only [decide_not, Bool.not_eq_true', decide_eq_false_iff_not] at hkept
    omega
  have hcodes : codes facts g p = codes facts' g p := by
    have hperm := codes_perm h g p
    match hc : codes facts g p with
    | [] => rw [hc] at hperm; exact hperm.nil_eq
    | [c] => rw [hc] at hperm; exact (List.perm_singleton.mp hperm.symm).symm
    | _ :: _ :: _ => rw [hc] at hlen; simp at hlen
  unfold emitPattern
  rw [hcodes]

theorem emitGroup_alike (v : Vincent) (g : GroupKey) :
    Alike (emitGroup facts v g) (emitGroup facts' v g) := by
  have hperm := surviving_perm h g
  unfold emitGroup
  by_cases hnil : surviving facts g = []
  · have hnil' : surviving facts' g = [] := by
      rw [hnil] at hperm
      exact hperm.nil_eq.symm
    simp [hnil, hnil', Alike]
  · have hnil' : surviving facts' g ≠ [] := by
      intro heq
      rw [heq] at hperm
      exact hnil hperm.eq_nil
    rw [if_neg hnil, if_neg hnil']
    cases hs : v.parseClaim (.vdsSchema baseClaimFields (communitySchemaName g.1 g.2)) with
    | none => simp [hs, Alike]
    | some schema =>
      cases hb : v.parseClaim
          (.vdsBinding baseClaimFields g.1 g.2 (some g.2) (v.claimHash schema)) with
      | none => simp [hs, hb, Alike]
      | some binding =>
        have hsame := mapM_congr fun p hp => emitPattern_eq h v g (v.claimHash schema) (p := p) hp
        have hmap := mapM_perm (emitPattern facts' v g (v.claimHash schema)) hperm
        rw [← hsame] at hmap
        rcases hmap.cases with ⟨hl, hr⟩ | ⟨ys, zs, hl, hr, hys⟩
        · simp [hs, hb, hl, hr, Alike]
        · simp only [hs, hb, hl, hr, Option.bind_eq_bind, Option.bind_some, Alike]
          exact (hys.flatten.cons _).cons _

theorem emissions_alike (v : Vincent) : Alike (emissions facts v) (emissions facts' v) := by
  unfold emissions
  rw [sortedGroupKeys_eq h]
  exact flatten_alike fun g _ => emitGroup_alike h v g

theorem sourceTokenIds_eq {es es' : List Emission} (hes : es.Perm es') (hash : Text) :
    sourceTokenIds facts es hash = sourceTokenIds facts' es' hash :=
  sortTexts_perm (distinct_perm (((hes.filter _).flatMap_right _).trans
    (List.Perm.flatMap_left _ fun e _ => tokenIds_perm h e)))

end Order

/-- The hashes tell the claims of a derivation apart. -/
def HashesApart (v : Vincent) (observations : List VincentObservation) : Prop :=
  ∀ es, emissions ((admitted v observations).flatMap factsOf) v = some es →
    ∀ c ∈ es.map Emission.claim, ∀ c' ∈ es.map Emission.claim, v.claimHash c = v.claimHash c' → c = c'

/-- The table is looked up by the WMI of a VIN. -/
def LookupByWmi (v : Vincent) : Prop :=
  ∀ vin vin', v.resolveWmiKey vin = v.resolveWmiKey vin' → v.lookupWmi vin = v.lookupWmi vin'

theorem strict_of_apart {hash : Claim → Text} {cs : List Claim}
    (hinj : ∀ c ∈ cs, ∀ c' ∈ cs, hash c = hash c' → c = c') : Strict hash (fun _ _ => True) cs :=
  fun c hc c' hc' heq _ _ => hinj c hc c' hc' heq

theorem mem_deduped {v : Vincent} {es : List Emission} {c : Claim} (hc : c ∈ deduped v es) :
    c ∈ es.map Emission.claim := by
  obtain ⟨⟨k, c'⟩, hin, rfl⟩ := List.mem_map.mp (mem_sortBy.mp hc)
  exact ((best_collect v.claimHash picks_first _).sound k c' hin).1

theorem deduped_eq {v : Vincent} {es es' : List Emission}
    (hinj : ∀ c ∈ es.map Emission.claim, ∀ c' ∈ es.map Emission.claim,
      v.claimHash c = v.claimHash c' → c = c') (h : es.Perm es') :
    deduped v es = deduped v es' := by
  refine sortBy_perm ?_ ((collect_perm picks_first (strict_of_apart hinj) (h.map _)).map _)
  intro c hc c' hc' hkey
  exact hinj c (mem_deduped (mem_sortBy.mpr hc)) c' (mem_deduped (mem_sortBy.mpr hc'))
    (hash_of_jsonlKey hkey)

theorem wmi_of_admitted {v : Vincent} {observations : List VincentObservation} {a : Admitted}
    (ha : a ∈ admitted v observations) : a.wmi = v.resolveWmiKey a.normalized := by
  obtain ⟨obs, _, hadmit⟩ := List.mem_filterMap.mp ha
  unfold admitObservation at hadmit
  simp only at hadmit
  split at hadmit
  · simp [Except.toOption] at hadmit
  · split at hadmit
    · simp [Except.toOption] at hadmit
    · split at hadmit
      · simp [Except.toOption] at hadmit
      · simp only [Except.toOption, Option.some.injEq] at hadmit
        rw [← hadmit]

/-- Which VIN of a WMI was seen first does not matter. -/
theorem known_eq {v : Vincent} (hv : LookupByWmi v) {seen seen' : List Admitted}
    (hwmi : ∀ a ∈ seen, a.wmi = v.resolveWmiKey a.normalized) (h : seen.Perm seen') (wmi : Text) :
    known v seen wmi = known v seen' wmi := by
  have hperm : (seenUnder seen wmi).Perm (seenUnder seen' wmi) := h.filter _
  have hkey : ∀ a ∈ seenUnder seen wmi, v.resolveWmiKey a.normalized = wmi := by
    intro a ha
    have hin := List.mem_filter.mp ha
    rw [← hwmi a hin.1]
    simpa using hin.2
  unfold known
  cases hl : seenUnder seen wmi with
  | nil =>
    rw [hl] at hperm
    rw [← hperm.nil_eq]
  | cons a l =>
    cases hr : seenUnder seen' wmi with
    | nil =>
      rw [hl, hr] at hperm
      exact absurd hperm.eq_nil (by simp)
    | cons b r =>
      have ha : a ∈ seenUnder seen wmi := by simp [hl]
      have hb : b ∈ seenUnder seen wmi := hperm.mem_iff.mpr (by simp [hr])
      exact hv _ _ ((hkey a ha).trans (hkey b hb).symm)

theorem unknownCandidate_eq {seen seen' : List Admitted} (h : seen.Perm seen') (wmi : Text) :
    unknownCandidate seen wmi = unknownCandidate seen' wmi := by
  have hperm : (seenUnder seen wmi).Perm (seenUnder seen' wmi) := h.filter _
  unfold unknownCandidate
  rw [sortTexts_perm (distinct_perm (hperm.filterMap _)), sortTexts_perm (distinct_perm (hperm.map _))]

theorem conflictKey_inj {facts : List Fact} {c c' : DeriveConflict}
    (hc : c ∈ (sortedGroupKeys facts).flatMap (conflictsOf facts))
    (hc' : c' ∈ (sortedGroupKeys facts).flatMap (conflictsOf facts))
    (h : conflictKey c = conflictKey c') : c = c' := by
  -- a conflict is read off the facts at its group and its pattern
  have hat : ∀ d ∈ (sortedGroupKeys facts).flatMap (conflictsOf facts),
      d = conflictAt facts (d.wmi, d.year) (d.vds, d.attr) := by
    intro d hd
    obtain ⟨g, _, hd⟩ := List.mem_flatMap.mp hd
    obtain ⟨p, _, rfl⟩ := List.mem_map.mp hd
    rfl
  have hfields : c.wmi = c'.wmi ∧ c.year = c'.year ∧ c.vds = c'.vds ∧ c.attr.text = c'.attr.text := by
    have hkey : units c.wmi = units c'.wmi ∧ c.year = c'.year ∧ units c.vds = units c'.vds ∧
        units c.attr.text = units c'.attr.text := by
      simpa [conflictKey, toLex_inj] using h
    exact ⟨units_inj hkey.1, hkey.2.1, units_inj hkey.2.2.1, units_inj hkey.2.2.2⟩
  rw [hat c hc, hat c' hc', hfields.1, hfields.2.1, hfields.2.2.1,
    DerivedAttribute.text_inj hfields.2.2.2]

theorem skipKey_inj {s s' : DeriveSkip} (h : skipKey s = skipKey s') : s = s' := by
  have hfields : s.tokenId = s'.tokenId ∧ s.reason.text = s'.reason.text := by
    have hkey : units s.tokenId = units s'.tokenId ∧ units s.reason.text = units s'.reason.text := by
      simpa [skipKey, toLex_inj] using h
    exact ⟨units_inj hkey.1, units_inj hkey.2⟩
  cases s
  cases s'
  simp only [DeriveSkip.mk.injEq]
  exact ⟨hfields.1, DeriveSkipReason.text_inj hfields.2⟩

theorem vocabularyKey_inj {s s' : VocabularySkip} (h : vocabularyKey s = vocabularyKey s') :
    s = s' := by
  have hfields : s.tokenId = s'.tokenId ∧ s.attr.text = s'.attr.text ∧ s.value = s'.value := by
    have hkey : units s.tokenId = units s'.tokenId ∧ units s.attr.text = units s'.attr.text ∧
        units s.value = units s'.value := by
      simpa [vocabularyKey, toLex_inj] using h
    exact ⟨units_inj hkey.1, units_inj hkey.2.1, units_inj hkey.2.2⟩
  cases s
  cases s'
  simp only [VocabularySkip.mk.injEq]
  exact ⟨hfields.1, DerivedAttribute.text_inj hfields.2.1, hfields.2.2⟩

theorem conflicts_eq {facts facts' : List Fact} (h : facts.Perm facts') :
    sortBy conflictKey ((sortedGroupKeys facts).flatMap (conflictsOf facts)) =
      sortBy conflictKey ((sortedGroupKeys facts').flatMap (conflictsOf facts')) := by
  refine sortBy_perm (fun c hc c' hc' => conflictKey_inj hc hc') ?_
  rw [sortedGroupKeys_eq h]
  exact List.Perm.flatMap_left _ fun g _ => conflictsOf_perm h g

theorem unknownWmis_eq {v : Vincent} (hv : LookupByWmi v) {seen seen' : List Admitted}
    (hwmi : ∀ a ∈ seen, a.wmi = v.resolveWmiKey a.normalized) (h : seen.Perm seen') :
    unknownWmis v seen = unknownWmis v seen' := by
  unfold unknownWmis
  simp only [known_eq hv hwmi h, funext (unknownCandidate_eq h)]
  refine sortBy_perm ?_ (((distinct_perm (h.map _)).filter _).map _)
  intro c hc c' hc' hkey
  obtain ⟨w, _, rfl⟩ := List.mem_map.mp hc
  obtain ⟨w', _, rfl⟩ := List.mem_map.mp hc'
  have hw : w = w' := units_inj hkey
  rw [hw]

/-! ## §7. What is derived. -/

/-- What the observations show. -/
abbrev factsIn (v : Vincent) (observations : List VincentObservation) : List Fact :=
  (admitted v observations).flatMap factsOf

/-- Someone observed the pattern, and everyone who did saw the code. -/
def Agreed (facts : List Fact) (g : GroupKey) (p : PatternKey) (code : Text) : Prop :=
  (∃ f ∈ facts, f.group = g ∧ f.pattern = p) ∧
    ∀ f ∈ facts, f.group = g → f.pattern = p → f.code = code

/-- Two observations of the pattern differ. -/
def Disputed (facts : List Fact) (g : GroupKey) (p : PatternKey) : Prop :=
  ∃ f ∈ facts, ∃ f' ∈ facts, (f.group = g ∧ f.pattern = p) ∧ (f'.group = g ∧ f'.pattern = p) ∧
    f.code ≠ f'.code

def schemaClaim (g : GroupKey) : Claim := .vdsSchema baseClaimFields (communitySchemaName g.1 g.2)

def bindingClaim (v : Vincent) (g : GroupKey) : Claim :=
  .vdsBinding baseClaimFields g.1 g.2 (some g.2) (v.claimHash (schemaClaim g))

def patternClaim (v : Vincent) (g : GroupKey) (p : PatternKey) (code : Text) : Claim :=
  .vdsPattern baseClaimFields (v.claimHash (schemaClaim g)) p.1 none p.2.text code

/-- A claim that parses is the claim that was given. -/
def Validates (v : Vincent) : Prop := ∀ c c', v.parseClaim c = some c' → c' = c

section Derived

variable {facts : List Fact} {v : Vincent}

theorem mem_codes {g : GroupKey} {p : PatternKey} {code : Text} :
    code ∈ codes facts g p ↔ ∃ f ∈ facts, (f.group = g ∧ f.pattern = p) ∧ f.code = code := by
  unfold codes accumulated
  rw [mem_distinct]
  simp [and_assoc]

theorem mem_patternKeys {g : GroupKey} {p : PatternKey} :
    p ∈ patternKeys facts g ↔ ∃ f ∈ facts, f.group = g ∧ f.pattern = p := by
  unfold patternKeys
  rw [mem_distinct]
  simp [and_assoc]

theorem mem_groupKeys {g : GroupKey} : g ∈ sortedGroupKeys facts ↔ ∃ f ∈ facts, f.group = g := by
  unfold sortedGroupKeys groupKeys
  rw [mem_sortBy, mem_distinct]
  simp

/-- Of the patterns in dispute there are two codes or more. -/
theorem disputed_iff {g : GroupKey} {p : PatternKey} :
    1 < (codes facts g p).length ↔ Disputed facts g p := by
  have hnodup : (codes facts g p).Nodup := nodup_distinct _
  constructor
  · intro hlen
    match hc : codes facts g p with
    | [] => simp [hc] at hlen
    | [_] => simp [hc] at hlen
    | a :: b :: l =>
      have ha : a ∈ codes facts g p := by simp [hc]
      have hb : b ∈ codes facts g p := by simp [hc]
      obtain ⟨f, hf, hfp, hfa⟩ := mem_codes.mp ha
      obtain ⟨f', hf', hfp', hfb⟩ := mem_codes.mp hb
      refine ⟨f, hf, f', hf', hfp, hfp', ?_⟩
      rw [hfa, hfb]
      rw [hc] at hnodup
      intro heq
      simp [heq] at hnodup
  · intro ⟨f, hf, f', hf', hp, hp', hne⟩
    have ha := mem_codes.mpr ⟨f, hf, hp, rfl⟩
    have hb := mem_codes.mpr ⟨f', hf', hp', rfl⟩
    match hc : codes facts g p with
    | [] => simp [hc] at ha
    | [_] =>
      simp only [hc, List.mem_singleton] at ha hb
      exact absurd (ha.trans hb.symm) hne
    | _ :: _ :: _ => simp

theorem codes_of_agreed {g : GroupKey} {p : PatternKey} {code : Text} (h : Agreed facts g p code) :
    codes facts g p = [code] := by
  obtain ⟨⟨f, hf, hp⟩, hall⟩ := h
  have hin : code ∈ codes facts g p := mem_codes.mpr ⟨f, hf, hp, hall f hf hp.1 hp.2⟩
  have hsame : ∀ c ∈ codes facts g p, c = code := by
    intro c hc
    obtain ⟨f', hf', hp', rfl⟩ := mem_codes.mp hc
    exact hall f' hf' hp'.1 hp'.2
  have hnodup : (codes facts g p).Nodup := nodup_distinct _
  have hrep := List.eq_replicate_of_mem hsame
  rw [hrep] at hnodup hin ⊢
  have hle := List.nodup_replicate.mp hnodup
  have hpos : (codes facts g p).length ≠ 0 := fun h0 => by simp [h0] at hin
  rw [show (codes facts g p).length = 1 by omega]
  rfl

/-- **The patterns that survive** are the ones that are agreed on. -/
theorem mem_surviving {g : GroupKey} {p : PatternKey} :
    p ∈ surviving facts g ↔ ∃ code, Agreed facts g p code := by
  unfold surviving
  rw [List.mem_filter, mem_patternKeys]
  simp only [decide_not, Bool.not_eq_true', decide_eq_false_iff_not, disputed_iff]
  constructor
  · intro ⟨⟨f, hf, hp⟩, hno⟩
    refine ⟨f.code, ⟨f, hf, hp⟩, fun f' hf' hg' hp' => ?_⟩
    by_contra hne
    exact hno ⟨f', hf', f, hf, ⟨hg', hp'⟩, hp, hne⟩
  · intro ⟨code, hex, hall⟩
    refine ⟨hex, fun ⟨f, hf, f', hf', hp, hp', hne⟩ => hne ?_⟩
    rw [hall f hf hp.1 hp.2, hall f' hf' hp'.1 hp'.2]

theorem mem_emitPattern (hv : Validates v) {g : GroupKey} {p : PatternKey} {code : Text}
    (hcode : codes facts g p = [code]) {es : List Emission}
    (h : emitPattern facts v g (v.claimHash (schemaClaim g)) p = some es) :
    es.map Emission.claim = [patternClaim v g p code] := by
  unfold emitPattern at h
  rw [hcode] at h
  simp only [Option.bind_eq_bind, Option.bind_eq_some_iff] at h
  obtain ⟨parsed, hparsed, hes⟩ := h
  cases hes
  show [parsed] = _
  rw [hv _ _ hparsed]
  rfl

/-- The claims of a group: its declarations, if a pattern survives, and the patterns. -/
theorem mem_emitGroup (hv : Validates v) {g : GroupKey} {es : List Emission}
    (h : emitGroup facts v g = some es) {c : Claim} : c ∈ es.map Emission.claim ↔
      ∃ p code, Agreed facts g p code ∧
        (c = schemaClaim g ∨ c = bindingClaim v g ∨ c = patternClaim v g p code) := by
  unfold emitGroup at h
  split at h
  · next hnil =>
    cases h
    constructor
    · intro hc
      simp at hc
    · intro ⟨p, code, hagreed, _⟩
      have hin := mem_surviving.mpr ⟨code, hagreed⟩
      rw [hnil] at hin
      simp at hin
  · next hne =>
    simp only [Option.bind_eq_bind, Option.bind_eq_some_iff] at h
    obtain ⟨schema, hschema, binding, hbinding, patterns, hpatterns, hes⟩ := h
    have hs : schema = schemaClaim g := hv _ _ hschema
    subst hs
    have hb : binding = bindingClaim v g := hv _ _ hbinding
    cases hes
    simp only [List.map_cons, List.mem_cons]
    have hmem : c ∈ patterns.flatten.map Emission.claim ↔
        ∃ p code, Agreed facts g p code ∧ c = patternClaim v g p code := by
      rw [List.mem_map]
      constructor
      · intro ⟨e, he, hce⟩
        obtain ⟨l, hl, hel⟩ := List.mem_flatten.mp he
        obtain ⟨p, hp, hemit⟩ := (mem_mapM hpatterns).mp hl
        obtain ⟨code, hagreed⟩ := mem_surviving.mp hp
        have hin : c ∈ l.map Emission.claim := List.mem_map.mpr ⟨e, hel, hce⟩
        rw [mem_emitPattern hv (codes_of_agreed hagreed) hemit] at hin
        exact ⟨p, code, hagreed, List.mem_singleton.mp hin⟩
      · intro ⟨p, code, hagreed, hc⟩
        have hp := mem_surviving.mpr ⟨code, hagreed⟩
        have hsome : ∃ l, emitPattern facts v g (v.claimHash (schemaClaim g)) p = some l :=
          some_of_mapM hpatterns hp
        obtain ⟨l, hemit⟩ := hsome
        have hin : c ∈ l.map Emission.claim := by
          rw [mem_emitPattern hv (codes_of_agreed hagreed) hemit, hc]
          simp
        obtain ⟨e, hel, hce⟩ := List.mem_map.mp hin
        exact ⟨e, List.mem_flatten.mpr ⟨l, (mem_mapM hpatterns).mpr ⟨p, hp, hemit⟩, hel⟩, hce⟩
    rw [hmem, hb]
    constructor
    · intro hc
      obtain ⟨p, hp⟩ := List.exists_mem_of_ne_nil _ hne
      obtain ⟨code, hagreed⟩ := mem_surviving.mp hp
      rcases hc with hc | hc | ⟨p', code', hagreed', hc⟩
      · exact ⟨p, code, hagreed, .inl hc⟩
      · exact ⟨p, code, hagreed, .inr (.inl hc)⟩
      · exact ⟨p', code', hagreed', .inr (.inr hc)⟩
    · intro ⟨p, code, hagreed, hc⟩
      rcases hc with hc | hc | hc
      · exact .inl hc
      · exact .inr (.inl hc)
      · exact .inr (.inr ⟨p, code, hagreed, hc⟩)

theorem mem_emissions (hv : Validates v) {es : List Emission} (h : emissions facts v = some es)
    {c : Claim} : c ∈ es.map Emission.claim ↔
      ∃ g p code, Agreed facts g p code ∧
        (c = schemaClaim g ∨ c = bindingClaim v g ∨ c = patternClaim v g p code) := by
  unfold emissions at h
  obtain ⟨groups, hgroups, rfl⟩ := Option.map_eq_some_iff.mp h
  rw [List.mem_map]
  constructor
  · intro ⟨e, he, hce⟩
    obtain ⟨l, hl, hel⟩ := List.mem_flatten.mp he
    obtain ⟨g, _, hemit⟩ := (mem_mapM hgroups).mp hl
    have hin : c ∈ l.map Emission.claim := List.mem_map.mpr ⟨e, hel, hce⟩
    exact ⟨g, (mem_emitGroup hv hemit).mp hin⟩
  · intro ⟨g, p, code, hagreed, hc⟩
    obtain ⟨f, hf, hfp⟩ := hagreed.1
    have hg : g ∈ sortedGroupKeys facts := mem_groupKeys.mpr ⟨f, hf, hfp.1⟩
    obtain ⟨l, hemit⟩ := some_of_mapM hgroups hg
    have hin := (mem_emitGroup hv hemit).mpr ⟨p, code, hagreed, hc⟩
    obtain ⟨e, hel, hce⟩ := List.mem_map.mp hin
    exact ⟨e, List.mem_flatten.mpr ⟨l, (mem_mapM hgroups).mpr ⟨g, hg, hemit⟩, hel⟩, hce⟩

end Derived

/-- Hashes that tell the claims of one group apart. -/
def sampleHash (c : Claim) : Text :=
  ['s', 'h', 'a', '2', '5', '6', ':'] ++ List.replicate 64 (match c with
    | .wmi .. => '0'
    | .vdsSchema .. => '1'
    | .vdsBinding .. => '2'
    | .vdsPattern .. => '3')

def sampleVincent : Vincent where
  claimHash := sampleHash
  parseClaim := some
  validateVin vin := { length := .full, ok := true, normalized := vin, checkDigit := false }
  resolveWmiKey vin := vin.take 3
  lookupWmi vin := vin.take 3 = ['V', 'F', '1']

def sampleObservation (tokenId model engine : Char) : VincentObservation where
  tokenId := [tokenId]
  vin := ['V', 'F', '3', 'A', 'B', 'C', 'D', 'E', 'F']
  year := some 2020
  make := none
  model := some [model]
  modelVariant := none
  bodyType := none
  fuelType := none
  transmission := none
  engine := some [engine]

/-- Two observations that agree on the model and differ on the engine. -/
def sampleObservations : List VincentObservation :=
  [sampleObservation '1' 'M' 'a', sampleObservation '2' 'M' 'b']

def sampleFact (attr : DerivedAttribute) (code tokenId : Char) : Fact where
  wmi := ['V', 'F', '3']
  year := 2020
  vds := ['A', 'B', 'C', 'D', 'E', 'F']
  attr := attr
  code := [code]
  tokenId := [tokenId]

theorem sampleFacts : factsIn sampleVincent sampleObservations =
    [sampleFact .model 'M' '1', sampleFact .engine 'a' '1', sampleFact .model 'M' '2',
      sampleFact .engine 'b' '2'] := rfl

theorem sample_validates : Validates sampleVincent := by
  intro c c' h
  exact (Option.some.inj h).symm

/-- The model is all that is agreed on. -/
theorem sample_agreed {g : GroupKey} {p : PatternKey} {code : Text}
    (h : Agreed (factsIn sampleVincent sampleObservations) g p code) :
    g = (['V', 'F', '3'], 2020) ∧ p = (['A', 'B', 'C', 'D', 'E', 'F'], .model) ∧ code = ['M'] := by
  rw [sampleFacts] at h
  obtain ⟨⟨f, hf, rfl, rfl⟩, hall⟩ := h
  simp only [List.mem_cons, List.not_mem_nil, or_false] at hf
  rcases hf with rfl | rfl | rfl | rfl
  · exact ⟨rfl, rfl, (hall _ (by simp) rfl rfl).symm⟩
  · have ha := hall (sampleFact .engine 'a' '1') (by simp) rfl rfl
    have hb := hall (sampleFact .engine 'b' '2') (by simp) rfl rfl
    exact absurd (ha.trans hb.symm) (by decide)
  · exact ⟨rfl, rfl, (hall _ (by simp) rfl rfl).symm⟩
  · have ha := hall (sampleFact .engine 'a' '1') (by simp) rfl rfl
    have hb := hall (sampleFact .engine 'b' '2') (by simp) rfl rfl
    exact absurd (ha.trans hb.symm) (by decide)

theorem sample_apart : HashesApart sampleVincent sampleObservations := by
  intro es hes c hc c' hc' heq
  obtain ⟨g, p, code, hagreed, hclaim⟩ := (mem_emissions sample_validates hes).mp hc
  obtain ⟨g', p', code', hagreed', hclaim'⟩ := (mem_emissions sample_validates hes).mp hc'
  obtain ⟨rfl, rfl, rfl⟩ := sample_agreed hagreed
  obtain ⟨rfl, rfl, rfl⟩ := sample_agreed hagreed'
  rcases hclaim with rfl | rfl | rfl <;> rcases hclaim' with rfl | rfl | rfl <;>
    first | rfl | exact absurd heq (by decide)

theorem sample_lookup : LookupByWmi sampleVincent := by
  intro vin vin' h
  have hwmi : vin.take 3 = vin'.take 3 := h
  show decide _ = decide _
  rw [hwmi]

def sampleDerived : DeriveResult := (deriveClaims sampleVincent sampleObservations).get (by rfl)

/-- **The derivation does not depend on the order of the observations.** -/
theorem deriveClaims_perm {v : Vincent} (hv : LookupByWmi v) {obs obs' : List VincentObservation}
    (hapart : HashesApart v obs) (h : obs.Perm obs') : deriveClaims v obs = deriveClaims v obs' := by
  have hseen : (admitted v obs).Perm (admitted v obs') := h.filterMap _
  have hfacts : ((admitted v obs).flatMap factsOf).Perm ((admitted v obs').flatMap factsOf) :=
    hseen.flatMap_right _
  have hskipped := sortBy_perm (fun _ _ _ _ heq => skipKey_inj heq) (h.filterMap (skipOf v))
  have hvocabulary := sortBy_perm (fun _ _ _ _ heq => vocabularyKey_inj heq)
    (hseen.flatMap_right fun a => vocabularySkipsOf a.obs)
  have hunknown := unknownWmis_eq hv (fun a => wmi_of_admitted (v := v) (a := a)) hseen
  unfold deriveClaims
  rcases (emissions_alike hfacts v).cases with ⟨hl, hr⟩ | ⟨es, es', hl, hr, hes⟩
  · simp [hl, hr]
  · simp only [hl, hr, Option.bind_eq_bind, Option.bind_some, deduped_eq (hapart es hl) hes,
      conflicts_eq hfacts, hunknown, hskipped, hvocabulary, h.length_eq,
      sourceTokenIds_eq hfacts hes]

theorem deriveClaims_two : deriveClaims sampleVincent sampleObservations =
    deriveClaims sampleVincent sampleObservations.reverse :=
  deriveClaims_perm sample_lookup sample_apart (List.reverse_perm _).symm

end Kargain.Commons
