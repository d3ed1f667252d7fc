/-
  Kargain.Svm.MintAdmission — crates/kargain-claimable-payouts on the bytes of a mint.

  `requireAdmittedSplMint` as the crate scans the extensions of a mint:
  type and length, two bytes each, from byte 166 on.  An index outside the
  data panics, `i + 4` panics or wraps as the crate was built, and the sum
  that goes on to the next entry is checked.  `Entries` reads the same list
  as the token program does, where an entry that does not fit is an error.

  Main results: the scan neither panics nor misses a transfer fee, and
  `admitted_iff`: for which bytes it accepts what the list says.
-/
import Kargain.Base.Panics
import Kargain.Base.Reader
import Kargain.Wire.Decoding

namespace Kargain.Svm.MintAdmission

open Kargain.Panics Kargain.Reader

/-! ## §1. The crate. -/

def mintSizeClassic : ℕ := 82
def token2022AccountTypeOffset : ℕ := 165
def token2022TlvStart : ℕ := 166
def accountTypeMint : UInt8 := 1
def mintDecimalsOffset : ℕ := 44
def mintInitializedOffset : ℕ := 45
def extUninitialized : ℕ := 0
def extTransferFeeConfig : ℕ := 1

/-- `data[i]`. -/
def index (data : List UInt8) (i : ℕ) : Eval KargainError UInt8 :=
  match data[i]? with
  | some b => .ok b
  | none => .error .panicked

/-- `u16::from_le_bytes([data[i], data[i + 1]])`. -/
def u16At (data : List UInt8) (i : ℕ) : Eval KargainError ℕ := do
  let low ← index data i
  let high ← index data (i + 1)
  pure (leNat [low, high])

/-- `i.checked_add(4).and_then(|x| x.checked_add(length))`. -/
def nextEntry (i length : ℕ) : Option ℕ :=
  (checkedAddUsize i 4).bind (fun x => checkedAddUsize x length)

theorem nextEntry_eq_some {i length next : ℕ} :
    nextEntry i length = some next ↔ next = i + 4 + length ∧ i + 4 + length < 2 ^ 64 := by
  unfold nextEntry checkedAddUsize
  constructor
  · intro h
    by_cases h₄ : i + 4 < 2 ^ 64
    · rw [if_pos h₄, Option.bind_some] at h
      by_cases hl : i + 4 + length < 2 ^ 64
      · rw [if_pos hl] at h
        injection h with hn
        exact ⟨hn.symm, hl⟩
      · rw [if_neg hl] at h
        cases h
    · rw [if_neg h₄] at h
      cases h
  · rintro ⟨rfl, hl⟩
    rw [if_pos (by omega), Option.bind_some, if_pos hl]

/-- The loop over the entries. -/
def scanFrom (b : Profile) (data : List UInt8) (i : ℕ) : Eval KargainError Unit := do
  let stop ← addUsize b i 4
  if stop ≤ data.length then
    let typeId ← u16At data i
    let length ← u16At data (i + 2)
    if typeId = extUninitialized then pure ()
    else if typeId = extTransferFeeConfig then
      throw (.refused .transferFeeExtensionForbidden)
    else
      match _hnext : nextEntry i length with
      | none => throw (.refused .tokenNonConforming)
      | some next => scanFrom b data next
  else pure ()
termination_by 2 ^ 64 - i
decreasing_by
  obtain ⟨hnext, hfit⟩ := nextEntry_eq_some.mp _hnext
  omega

def requireAdmittedSplMint (b : Profile) (mintData : List UInt8) : Eval KargainError Unit := do
  revertIf (mintData = []) (.refused .tokenHasNoCode)
  revertIf (mintData.length < mintSizeClassic) (.refused .tokenNonConforming)
  if mintData.length = mintSizeClassic then pure ()
  else
    revertIf (mintData.length < token2022TlvStart) (.refused .tokenNonConforming)
    let accountType ← index mintData token2022AccountTypeOffset
    revertIf (accountType ≠ accountTypeMint) (.refused .tokenNonConforming)
    scanFrom b mintData token2022TlvStart

/-- `require_admitted_spl_mint_account`, of an account of a token program or not. -/
def requireAdmittedSplMintAccount (b : Profile) (ownedByTokenProgram : Bool) (mintData : List UInt8) :
    Eval KargainError UInt8 := do
  require (ownedByTokenProgram = true) (.refused .tokenNonConforming)
  requireAdmittedSplMint b mintData
  revertIf (mintData.length ≤ mintInitializedOffset) (.refused .tokenDecimalsUnavailable)
  let initialized ← index mintData mintInitializedOffset
  revertIf (initialized ≠ 1) (.refused .tokenDecimalsUnavailable)
  index mintData mintDecimalsOffset

/-! ## §2. The list of extensions. -/

def typeOf (l : List UInt8) : ℕ := leNat (l.take 2)
def lengthOf (l : List UInt8) : ℕ := leNat ((l.drop 2).take 2)

/-- The list `l` is read to its end or terminator, with these types: fewer than two bytes are the
    end, the type 0 is the terminator, and the value of an entry is inside the list. -/
inductive Entries : List UInt8 → List ℕ → Prop
  | finished {l} (h : l.length < 2) : Entries l []
  | terminator {l} (h : 2 ≤ l.length) (h₀ : typeOf l = extUninitialized) : Entries l []
  | entry {l types} (h₀ : typeOf l ≠ extUninitialized) (hfit : 4 + lengthOf l ≤ l.length)
      (rest : Entries (l.drop (4 + lengthOf l)) types) : Entries l (typeOf l :: types)

/-- The last entry before a terminator or a transfer fee runs off the end of the list, in its
    header or in its value. -/
inductive RunsOff : List UInt8 → Prop
  | header {l} (h₀ : typeOf l ≠ extUninitialized) (h : 2 ≤ l.length) (hcut : l.length < 4) : RunsOff l
  | value {l} (h₀ : typeOf l ≠ extUninitialized) (h₁ : typeOf l ≠ extTransferFeeConfig)
      (h : 4 ≤ l.length) (hcut : l.length < 4 + lengthOf l) : RunsOff l
  | entry {l} (h₀ : typeOf l ≠ extUninitialized) (h₁ : typeOf l ≠ extTransferFeeConfig)
      (hfit : 4 + lengthOf l ≤ l.length) (rest : RunsOff (l.drop (4 + lengthOf l))) : RunsOff l

theorem RunsOff.not_entries {l : List UInt8} (h : RunsOff l) : ∀ types, ¬ Entries l types := by
  induction h with
  | header h₀ h hcut =>
    intro types he
    cases he with
    | finished hshort => omega
    | terminator _ hzero => exact h₀ hzero
    | entry _ hfit _ => omega
  | value h₀ h₁ h hcut =>
    intro types he
    cases he with
    | finished hshort => omega
    | terminator _ hzero => exact h₀ hzero
    | entry _ hfit _ => omega
  | entry h₀ h₁ hfit rest ih =>
    intro types he
    cases he with
    | finished hshort => omega
    | terminator _ hzero => exact h₀ hzero
    | entry _ _ hrest => exact ih _ hrest

/-- A classic mint, or a mint of Token-2022 whose list of extensions has no transfer fee. -/
def Admissible (mintData : List UInt8) : Prop :=
  mintData.length = mintSizeClassic ∨
    (token2022TlvStart ≤ mintData.length ∧
      mintData[token2022AccountTypeOffset]? = some accountTypeMint ∧
      ∃ types, Entries (mintData.drop token2022TlvStart) types ∧ extTransferFeeConfig ∉ types)

/-- A mint of Token-2022 whose list of extensions runs off its end. -/
def CutShort (mintData : List UInt8) : Prop :=
  token2022TlvStart ≤ mintData.length ∧
    mintData[token2022AccountTypeOffset]? = some accountTypeMint ∧
    RunsOff (mintData.drop token2022TlvStart)

/-! ## §3. The scan reads the list. -/

theorem index_eq {data : List UInt8} {i : ℕ} (h : i < data.length) : index data i = .ok data[i] := by
  unfold index
  rw [List.getElem?_eq_getElem h]

theorem u16At_eq {data : List UInt8} {i : ℕ} (h : i + 1 < data.length) :
    u16At data i = .ok (leNat ((data.drop i).take 2)) := by
  have htake : (data.drop i).take 2 = [data[i], data[i + 1]] := by
    rw [List.drop_eq_getElem_cons (by omega), List.drop_eq_getElem_cons h]
    rfl
  unfold u16At
  rw [index_eq (by omega), index_eq h, htake]
  rfl

/-- One turn of the loop, on the rest of the data. -/
theorem scanFrom_eq (b : Profile) {data : List UInt8} {i : ℕ} (hfits : data.length < 2 ^ 63)
    (hi : i < 2 ^ 63 + 2 ^ 17) :
    scanFrom b data i =
      if i + 4 ≤ data.length then
        if typeOf (data.drop i) = extUninitialized then .ok ()
        else if typeOf (data.drop i) = extTransferFeeConfig then
          .error (.refused .transferFeeExtensionForbidden)
        else scanFrom b data (i + 4 + lengthOf (data.drop i))
      else .ok () := by
  rw [scanFrom, addUsize_fits (by omega), ok_bind]
  by_cases h₄ : i + 4 ≤ data.length
  · rw [if_pos h₄, if_pos h₄, u16At_eq (by omega), ok_bind, u16At_eq (by omega), ok_bind]
    have htype : leNat ((data.drop i).take 2) = typeOf (data.drop i) := rfl
    have hlength : leNat ((data.drop (i + 2)).take 2) = lengthOf (data.drop i) := by
      rw [lengthOf, List.drop_drop]
    have hlt : lengthOf (data.drop i) < 2 ^ 16 := by
      have h := leNat_lt (((data.drop i).drop 2).take 2)
      have hl : (((data.drop i).drop 2).take 2).length = 2 := by
        rw [List.length_take, List.length_drop, List.length_drop]
        omega
      rw [hl] at h
      exact h
    rw [htype, hlength]
    have hnext : nextEntry i (lengthOf (data.drop i)) = some (i + 4 + lengthOf (data.drop i)) :=
      nextEntry_eq_some.mpr ⟨rfl, by omega⟩
    split
    · rfl
    · split
      · rfl
      · split
        · rename_i hnone
          rw [hnext] at hnone
          cases hnone
        · rename_i next hsome
          rw [hnext] at hsome
          injection hsome with heq
          rw [heq]
  · rw [if_neg h₄, if_neg h₄]
    rfl

/-- **What the scan makes of the rest of the data**, by induction on its length. -/
theorem scanFrom_spec (b : Profile) {data : List UInt8} (hfits : data.length < 2 ^ 63) :
    ∀ (n i : ℕ), data.length - i = n → i < 2 ^ 63 + 2 ^ 17 →
      Safe (scanFrom b data i) ∧
        (i ≤ data.length →
          (scanFrom b data i = .ok () ↔
            (∃ types, Entries (data.drop i) types ∧ extTransferFeeConfig ∉ types) ∨
              RunsOff (data.drop i))) := by
  intro n
  induction n using Nat.strong_induction_on with
  | _ n ih =>
    intro i hn hi
    have hlen : (data.drop i).length = data.length - i := List.length_drop
    rw [scanFrom_eq b hfits hi]
    by_cases h₄ : i + 4 ≤ data.length
    · rw [if_pos h₄]
      by_cases h₀ : typeOf (data.drop i) = extUninitialized
      · rw [if_pos h₀]
        refine ⟨safe_ok (), fun _ => ⟨fun _ => Or.inl ⟨[], .terminator (by omega) h₀, by simp⟩,
          fun _ => rfl⟩⟩
      · rw [if_neg h₀]
        by_cases h₁ : typeOf (data.drop i) = extTransferFeeConfig
        · -- a transfer fee: neither side accepts
          rw [if_pos h₁]
          refine ⟨safe_refused _, fun _ => ?_⟩
          constructor
          · intro h
            cases h
          rintro (⟨types, he, hno⟩ | hoff)
          · cases he with
            | finished hshort => omega
            | terminator _ hzero => exact absurd hzero h₀
            | entry _ _ _ => exact absurd (by simp [h₁]) hno
          · cases hoff with
            | header _ _ hcut => omega
            | value _ hne _ _ => exact absurd h₁ hne
            | entry _ hne _ _ => exact absurd h₁ hne
        · rw [if_neg h₁]
          have hlt : lengthOf (data.drop i) < 2 ^ 16 := by
            have h := leNat_lt (((data.drop i).drop 2).take 2)
            have hl : (((data.drop i).drop 2).take 2).length = 2 := by
              rw [List.length_take, List.length_drop, List.length_drop]
              omega
            rw [hl] at h
            exact h
          obtain ⟨hsafe, hspec⟩ :=
            ih (data.length - (i + 4 + lengthOf (data.drop i))) (by omega) _ rfl (by omega)
          refine ⟨hsafe, fun _ => ?_⟩
          by_cases hfit : i + 4 + lengthOf (data.drop i) ≤ data.length
          · have hdrop : (data.drop i).drop (4 + lengthOf (data.drop i)) =
                data.drop (i + 4 + lengthOf (data.drop i)) := by
              rw [List.drop_drop, Nat.add_assoc]
            rw [hspec hfit]
            constructor
            · rintro (⟨types, he, hno⟩ | hoff)
              · refine Or.inl ⟨_, .entry h₀ (by omega) (hdrop ▸ he), ?_⟩
                rw [List.mem_cons]
                rintro (heq | hin)
                · exact h₁ heq.symm
                · exact hno hin
              · exact Or.inr (.entry h₀ h₁ (by omega) (hdrop ▸ hoff))
            · rintro (⟨types, he, hno⟩ | hoff)
              · cases he with
                | finished hshort => omega
                | terminator _ hzero => exact absurd hzero h₀
                | entry _ _ hrest =>
                  exact Or.inl ⟨_, hdrop ▸ hrest, fun hin => hno (List.mem_cons_of_mem _ hin)⟩
              · cases hoff with
                | header _ _ hcut => omega
                | value _ _ _ hcut => omega
                | entry _ _ _ hrest => exact Or.inr (hdrop ▸ hrest)
          · -- the value runs off the end, and the loop stops behind it
            have hstop : scanFrom b data (i + 4 + lengthOf (data.drop i)) = .ok () := by
              rw [scanFrom_eq b hfits (by omega), if_neg (by omega)]
            exact ⟨fun _ => Or.inr (.value h₀ h₁ (by omega) (by omega)), fun _ => hstop⟩
    · rw [if_neg h₄]
      refine ⟨safe_ok (), fun hile => ⟨fun _ => ?_, fun _ => rfl⟩⟩
      by_cases hshort : (data.drop i).length < 2
      · exact Or.inl ⟨[], .finished hshort, by simp⟩
      · by_cases h₀ : typeOf (data.drop i) = extUninitialized
        · exact Or.inl ⟨[], .terminator (by omega) h₀, by simp⟩
        · exact Or.inr (.header h₀ (by omega) (by omega))

/-! ## §4. Admission. -/

theorem requireAdmittedSplMint_safe (b : Profile) (data : Wire.Bytes) :
    Safe (requireAdmittedSplMint b data.bytes) := by
  have hfits := data.fits
  unfold requireAdmittedSplMint
  refine safe_revertIf.bind fun _ _ => safe_revertIf.bind fun _ _ => ?_
  refine safe_ite (fun _ => safe_pure _) fun _ => ?_
  refine safe_revertIf.bind fun _ h => ?_
  have hlong : ¬ data.bytes.length < token2022TlvStart := revertIf_ok.mp h
  unfold token2022TlvStart at hlong
  rw [index_eq (by unfold token2022AccountTypeOffset; omega), ok_bind]
  refine safe_revertIf.bind fun _ _ => ?_
  exact (scanFrom_spec b hfits _ token2022TlvStart rfl (by unfold token2022TlvStart; omega)).1

/-- The data is long enough for both offsets, so the checks before the scan are the ones of
    `Admissible`. -/
theorem requireAdmittedSplMint_ok (b : Profile) (data : Wire.Bytes) :
    requireAdmittedSplMint b data.bytes = .ok () ↔ Admissible data.bytes ∨ CutShort data.bytes := by
  have hfits := data.fits
  generalize data.bytes = d at hfits
  have hscan := fun hle =>
    (scanFrom_spec b hfits _ token2022TlvStart rfl (by unfold token2022TlvStart; omega)).2 hle
  unfold requireAdmittedSplMint
  constructor
  · intro h
    obtain ⟨_, -, h⟩ := bind_ok.mp h
    obtain ⟨_, -, h⟩ := bind_ok.mp h
    by_cases hclassic : d.length = mintSizeClassic
    · exact Or.inl (Or.inl hclassic)
    · rw [if_neg hclassic] at h
      obtain ⟨_, hlong, h⟩ := bind_ok.mp h
      have hlong : ¬ d.length < token2022TlvStart := revertIf_ok.mp hlong
      have hle : token2022TlvStart ≤ d.length := by omega
      have hat : token2022AccountTypeOffset < d.length := by
        unfold token2022TlvStart at hle
        unfold token2022AccountTypeOffset
        omega
      rw [index_eq hat, ok_bind] at h
      obtain ⟨_, htype, h⟩ := bind_ok.mp h
      have htype : d[token2022AccountTypeOffset] = accountTypeMint :=
        Decidable.not_not.mp (revertIf_ok.mp htype)
      have htype : d[token2022AccountTypeOffset]? = some accountTypeMint := by
        rw [List.getElem?_eq_getElem hat, htype]
      rcases (hscan hle).mp h with hlist | hoff
      · exact Or.inl (Or.inr ⟨hle, htype, hlist⟩)
      · exact Or.inr ⟨hle, htype, hoff⟩
  · intro h
    have hcases : d.length = mintSizeClassic ∨ (token2022TlvStart ≤ d.length ∧
        d[token2022AccountTypeOffset]? = some accountTypeMint ∧
        scanFrom b d token2022TlvStart = .ok ()) := by
      rcases h with (hclassic | ⟨hle, htype, hlist⟩) | ⟨hle, htype, hoff⟩
      · exact Or.inl hclassic
      · exact Or.inr ⟨hle, htype, (hscan hle).mpr (Or.inl hlist)⟩
      · exact Or.inr ⟨hle, htype, (hscan hle).mpr (Or.inr hoff)⟩
    have hlen : ¬ d.length < mintSizeClassic ∧ d ≠ [] := by
      have h₈₂ : mintSizeClassic ≤ d.length := by
        rcases hcases with hclassic | ⟨hle, -⟩
        · omega
        · unfold token2022TlvStart at hle
          unfold mintSizeClassic
          omega
      refine ⟨by omega, ?_⟩
      intro hnil
      rw [hnil] at h₈₂
      exact absurd h₈₂ (by decide)
    rw [revertIf, if_neg hlen.2, ok_bind, revertIf, if_neg hlen.1, ok_bind]
    rcases hcases with hclassic | ⟨hle, htype, hok⟩
    · rw [if_pos hclassic]
      rfl
    · have hat : token2022AccountTypeOffset < d.length := (List.getElem?_eq_some_iff.mp htype).1
      have htype : d[token2022AccountTypeOffset] = accountTypeMint :=
        (List.getElem?_eq_some_iff.mp htype).2
      have hclassic : d.length ≠ mintSizeClassic := by
        unfold token2022TlvStart at hle
        unfold mintSizeClassic
        omega
      rw [if_neg hclassic, revertIf, if_neg (by omega), ok_bind, index_eq hat, ok_bind, revertIf,
        if_neg (by rw [htype]; exact fun h => h rfl), ok_bind]
      exact hok

/-- What is cut short is not admissible. -/
theorem CutShort.not_admissible {d : List UInt8} (h : CutShort d) : ¬ Admissible d := by
  obtain ⟨hle, -, hoff⟩ := h
  rintro (hclassic | ⟨-, -, types, he, -⟩)
  · unfold token2022TlvStart at hle
    unfold mintSizeClassic at hclassic
    omega
  · exact hoff.not_entries types he

/-- **When the scan accepts exactly what the list says**: unless the list runs off its end.  It
    never panics, and never misses a transfer fee. -/
theorem admitted_iff (b : Profile) (data : Wire.Bytes) :
    (Safe (requireAdmittedSplMint b data.bytes) ∧
      (requireAdmittedSplMint b data.bytes = .ok () ↔ Admissible data.bytes)) ↔
      ¬ CutShort data.bytes := by
  rw [requireAdmittedSplMint_ok]
  constructor
  · rintro ⟨-, hexact⟩ hcut
    exact hcut.not_admissible (hexact.mp (Or.inr hcut))
  · intro hcut
    refine ⟨requireAdmittedSplMint_safe b data, ?_, Or.inl⟩
    rintro (hadm | hoff)
    · exact hadm
    · exact absurd hoff hcut

/-- The account is admitted with the decimals its bytes name. -/
theorem requireAdmittedSplMintAccount_ok (b : Profile) (owned : Bool) (data : Wire.Bytes)
    (decimals : UInt8) :
    requireAdmittedSplMintAccount b owned data.bytes = .ok decimals ↔
      owned = true ∧ (Admissible data.bytes ∨ CutShort data.bytes) ∧
        data.bytes[mintInitializedOffset]? = some 1 ∧
        data.bytes[mintDecimalsOffset]? = some decimals := by
  rw [← requireAdmittedSplMint_ok b data]
  generalize data.bytes = d
  unfold requireAdmittedSplMintAccount
  constructor
  · intro h
    obtain ⟨_, howned, h⟩ := bind_ok.mp h
    obtain ⟨_, hadm, h⟩ := bind_ok.mp h
    obtain ⟨_, hlong, h⟩ := bind_ok.mp h
    have hlong : ¬ d.length ≤ mintInitializedOffset := revertIf_ok.mp hlong
    rw [index_eq (by omega), ok_bind] at h
    obtain ⟨_, hinit, h⟩ := bind_ok.mp h
    have hinit : d[mintInitializedOffset] = 1 := Decidable.not_not.mp (revertIf_ok.mp hinit)
    have hat : mintDecimalsOffset < d.length := by
      unfold mintInitializedOffset at hlong
      unfold mintDecimalsOffset
      omega
    rw [index_eq hat] at h
    injection h with hdec
    refine ⟨require_ok.mp howned, hadm, ?_, ?_⟩
    · rw [List.getElem?_eq_getElem (by omega), hinit]
    · rw [List.getElem?_eq_getElem hat, hdec]
  · rintro ⟨howned, hadm, hinit, hdec⟩
    obtain ⟨hlong, hinit⟩ := List.getElem?_eq_some_iff.mp hinit
    obtain ⟨hat, hdec⟩ := List.getElem?_eq_some_iff.mp hdec
    rw [require, if_pos howned, ok_bind, hadm, ok_bind, revertIf, if_neg (by omega), ok_bind,
      index_eq hlong, ok_bind, revertIf, if_neg (by rw [hinit]; exact fun h => h rfl), ok_bind,
      index_eq hat, hdec]

/-- A mint with one extension whose value is said to be 65535 bytes long and is not there. -/
def overlongMint : Wire.Bytes where
  bytes := List.replicate 165 0 ++ [1, 3, 0, 255, 255]
  fits := by decide +kernel

theorem overlongMint_cutShort : CutShort overlongMint.bytes :=
  ⟨by decide +kernel, by decide +kernel,
    .value (by decide +kernel) (by decide +kernel) (by decide +kernel) (by decide +kernel)⟩

/-- The scan accepts it. -/
theorem overlong_admitted :
    requireAdmittedSplMint ⟨true⟩ overlongMint.bytes = .ok () ∧ ¬ Admissible overlongMint.bytes :=
  ⟨(requireAdmittedSplMint_ok ⟨true⟩ overlongMint).mpr (Or.inr overlongMint_cutShort),
    overlongMint_cutShort.not_admissible⟩

end Kargain.Svm.MintAdmission
