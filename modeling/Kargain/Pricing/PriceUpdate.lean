/-
  Kargain.Pricing.PriceUpdate — crates/kargain-price on any account.

  `read_price_update` takes the fields of a price update from fixed
  offsets, the message of a fully verified update starting at byte 41,
  and `price_to_usd_1e8` scales the price to 8 decimals.  Slices,
  products, negation and division are the panicking ones.

  Main result: `price_reading`, the two never panic, and what they have
  checked of an account and its clock where they give a price.
-/
import Mathlib
import Kargain.Base.Abi
import Kargain.Base.Panics
import Kargain.Svm.Types

namespace Kargain.Pricing

open Kargain.Panics

/-! ## §1. The crate. -/

def priceUpdateV2Len : ℕ := 134

def priceUpdateV2Disc : List UInt8 := [0x22, 0xf1, 0x23, 0x63, 0x9d, 0x7e, 0xf4, 0xcd]

def feedIdOffset : ℕ := 41
def priceI64Offset : ℕ := 73
def confU64Offset : ℕ := 81
def expoI32Offset : ℕ := 89
def publishTimeOffset : ℕ := 93

def publishAheadSkewSecs : ℤ := 60

structure PriceReading where
  feedId : List UInt8
  price : ℤ
  conf : ℕ
  expo : ℤ
  publishTime : ℤ
deriving DecidableEq

/-- `i64::saturating_add` and `saturating_sub`. -/
def saturatingI64 (n : ℤ) : ℤ := max (-2 ^ 63) (min n (2 ^ 63 - 1))

/-- `i32::checked_add`. -/
def checkedAddI32 (m n : ℤ) : Option ℤ :=
  if -2 ^ 31 ≤ m + n ∧ m + n < 2 ^ 31 then some (m + n) else none

/-- `10u128.checked_pow`. -/
def checkedPow10 (n : ℕ) : Option ℕ := if 10 ^ n < 2 ^ 128 then some (10 ^ n) else none

/-- `u128::checked_mul`. -/
def checkedMulU128 (m n : ℕ) : Option ℕ := if m * n < 2 ^ 128 then some (m * n) else none

/-- A signed number of 64 bits. -/
structure I64 where
  val : ℤ
  ge : -2 ^ 63 ≤ val
  lt : val < 2 ^ 63

/-- What a lot's payment token says of its feed. -/
structure FeedTerms where
  expectedProgram : List UInt8
  expectedFeedId : List UInt8
  stalenessTolerance : ℕ
  maxConfBps : ℕ
  staleness_lt : stalenessTolerance < 2 ^ 32

variable (b : Profile)

/-- `read_u64_le`, and its relatives before they are read as signed. -/
def readLe (data : List UInt8) (off width : ℕ) : Eval Svm.KargainError ℕ := do
  let buf ← slice data off (off + width)
  pure (Abi.ofBytes buf.reverse)

def readI64Le (data : List UInt8) (off : ℕ) : Eval Svm.KargainError ℤ := do
  let n ← readLe data off 8
  pure (signed 64 n)

def readI32Le (data : List UInt8) (off : ℕ) : Eval Svm.KargainError ℤ := do
  let n ← readLe data off 4
  pure (signed 32 n)

/-- `read_price_update`. -/
def readPriceUpdate (data owner : List UInt8) (terms : FeedTerms) (nowUnix : I64) :
    Eval Svm.KargainError PriceReading := do
  revertIf (owner ≠ terms.expectedProgram) (.refused .invalidFeed)
  revertIf (data.length < priceUpdateV2Len) (.refused .invalidFeed)
  let disc ← slice data 0 8
  revertIf (disc ≠ priceUpdateV2Disc) (.refused .invalidFeed)
  let feedId ← slice data feedIdOffset (feedIdOffset + 32)
  revertIf (feedId ≠ terms.expectedFeedId) (.refused .invalidFeed)
  let price ← readI64Le data priceI64Offset
  let conf ← readLe data confU64Offset 8
  let expo ← readI32Le data expoI32Offset
  let publishTime ← readI64Le data publishTimeOffset
  revertIf (price ≤ 0) (.refused .badOracleAnswer)
  revertIf (publishTime > saturatingI64 (nowUnix.val + publishAheadSkewSecs))
    (.refused .badOracleAnswer)
  let age := if publishTime ≥ nowUnix.val then 0 else saturatingI64 (nowUnix.val - publishTime)
  revertIf (age > terms.stalenessTolerance) (.refused .stalePrice)
  let absPrice := price.natAbs
  revertIf (absPrice = 0) (.refused .badOracleAnswer)
  let wide ← mulU128 b conf 10000
  let confBps ← divide wide absPrice
  revertIf (confBps > terms.maxConfBps) (.refused .confidenceTooWide)
  pure ⟨feedId, price, conf, expo, publishTime⟩

/-- `price_to_usd_1e8`. -/
def priceToUsd1e8 (price expo : ℤ) : Eval Svm.KargainError ℕ := do
  revertIf (price ≤ 0) (.refused .badOracleAnswer)
  let p := price.toNat
  let power ← orRevert (checkedAddI32 8 expo) (.refused .arithmeticOverflow)
  if power = 0 then pure p
  else if power > 0 then do
    let mul ← orRevert (checkedPow10 power.toNat) (.refused .arithmeticOverflow)
    orRevert (checkedMulU128 p mul) (.refused .arithmeticOverflow)
  else do
    let exponent ← negI32 b power
    let div ← orRevert (checkedPow10 exponent.toNat) (.refused .arithmeticOverflow)
    divide p div

/-- One after the other, as a fiat quote calls them. -/
def usdPrice (data owner : List UInt8) (terms : FeedTerms) (nowUnix : I64) :
    Eval Svm.KargainError ℕ := do
  let r ← readPriceUpdate b data owner terms nowUnix
  priceToUsd1e8 b r.price r.expo

/-! ## §2. What stands at the offsets. -/

/-- `width` bytes at `off`, least significant first. -/
def leAt (data : List UInt8) (off width : ℕ) : ℕ :=
  Abi.ofBytes ((data.drop off).take width).reverse

def fieldsOf (data : List UInt8) : PriceReading where
  feedId := (data.drop feedIdOffset).take 32
  price := signed 64 (leAt data priceI64Offset 8)
  conf := leAt data confU64Offset 8
  expo := signed 32 (leAt data expoI32Offset 4)
  publishTime := signed 64 (leAt data publishTimeOffset 8)

theorem leAt_lt (data : List UInt8) (off width : ℕ) : leAt data off width < 256 ^ width := by
  have h := Abi.ofBytes_lt ((data.drop off).take width).reverse
  rw [List.length_reverse, List.length_take] at h
  exact Nat.lt_of_lt_of_le h (Nat.pow_le_pow_right (by norm_num) (by omega))

theorem readLe_eq {data : List UInt8} {off width : ℕ} (h : off + width ≤ data.length) :
    readLe data off width = .ok (leAt data off width) := by
  unfold readLe leAt
  rw [slice_eq (Nat.le_add_right _ _) h, Nat.add_sub_cancel_left]
  rfl

theorem readI64Le_eq {data : List UInt8} {off : ℕ} (h : off + 8 ≤ data.length) :
    readI64Le data off = .ok (signed 64 (leAt data off 8)) := by
  unfold readI64Le
  rw [readLe_eq h]
  rfl

theorem readI32Le_eq {data : List UInt8} {off : ℕ} (h : off + 4 ≤ data.length) :
    readI32Le data off = .ok (signed 32 (leAt data off 4)) := by
  unfold readI32Le
  rw [readLe_eq h]
  rfl

theorem signed_ge {n : ℕ} (w : ℕ) : -2 ^ w ≤ signed (w + 1) n := by
  have hpos : (0 : ℤ) < 2 ^ w := by positivity
  unfold signed
  rw [Nat.add_sub_cancel]
  split
  · omega
  · rename_i h
    have hge : (2 : ℤ) ^ w ≤ n := by exact_mod_cast Nat.not_lt.mp h
    rw [pow_succ]
    omega

/-! ## §3. Reading. -/

/-- What a reading has passed. -/
structure Passed (data owner : List UInt8) (terms : FeedTerms) (nowUnix : I64) (r : PriceReading) :
    Prop where
  owner : owner = terms.expectedProgram
  length : priceUpdateV2Len ≤ data.length
  disc : data.take 8 = priceUpdateV2Disc
  fields : r = fieldsOf data
  feedId : r.feedId = terms.expectedFeedId
  price : 0 < r.price
  ahead : r.publishTime ≤ nowUnix.val + publishAheadSkewSecs
  age : nowUnix.val - r.publishTime ≤ terms.stalenessTolerance
  conf : r.conf * 10000 / r.price.toNat ≤ terms.maxConfBps

variable {b} {data owner : List UInt8} {terms : FeedTerms} {nowUnix : I64}

/-- The reading, once the account is long enough. -/
theorem readPriceUpdate_eq (hlen : priceUpdateV2Len ≤ data.length) :
    readPriceUpdate b data owner terms nowUnix =
      (do
        revertIf (owner ≠ terms.expectedProgram) (.refused .invalidFeed)
        revertIf (data.take 8 ≠ priceUpdateV2Disc) (.refused .invalidFeed)
        revertIf ((fieldsOf data).feedId ≠ terms.expectedFeedId) (.refused .invalidFeed)
        revertIf ((fieldsOf data).price ≤ 0) (.refused .badOracleAnswer)
        revertIf ((fieldsOf data).publishTime > saturatingI64 (nowUnix.val + publishAheadSkewSecs))
          (.refused .badOracleAnswer)
        revertIf ((if (fieldsOf data).publishTime ≥ nowUnix.val then 0
          else saturatingI64 (nowUnix.val - (fieldsOf data).publishTime)) >
            terms.stalenessTolerance) (.refused .stalePrice)
        revertIf ((fieldsOf data).price.natAbs = 0) (.refused .badOracleAnswer)
        let confBps ← divide ((fieldsOf data).conf * 10000) (fieldsOf data).price.natAbs
        revertIf (confBps > terms.maxConfBps) (.refused .confidenceTooWide)
        pure (fieldsOf data)) := by
  have hlong : (revertIf (data.length < priceUpdateV2Len) (.refused .invalidFeed) :
      Eval Svm.KargainError Unit) = .ok () := if_neg (Nat.not_lt.mpr hlen)
  unfold priceUpdateV2Len at hlen
  have hdisc : (slice data 0 8 : Eval Svm.KargainError _) = .ok (data.take 8) :=
    slice_eq (by omega) (by omega)
  have hfeed : (slice data feedIdOffset (feedIdOffset + 32) : Eval Svm.KargainError _) =
      .ok ((data.drop feedIdOffset).take 32) := by
    unfold feedIdOffset
    exact slice_eq (by omega) (by omega)
  have hprice : priceI64Offset + 8 ≤ data.length := by
    unfold priceI64Offset
    omega
  have hconf : confU64Offset + 8 ≤ data.length := by
    unfold confU64Offset
    omega
  have hexpo : expoI32Offset + 4 ≤ data.length := by
    unfold expoI32Offset
    omega
  have htime : publishTimeOffset + 8 ≤ data.length := by
    unfold publishTimeOffset
    omega
  have hwide : (mulU128 b (leAt data confU64Offset 8) 10000 : Eval Svm.KargainError ℕ) =
      .ok (leAt data confU64Offset 8 * 10000) := by
    have h : leAt data confU64Offset 8 < 2 ^ 64 :=
      Nat.lt_of_lt_of_eq (leAt_lt data confU64Offset 8) (by norm_num)
    apply mulU128_fits
    exact Nat.lt_of_lt_of_le (Nat.mul_lt_mul_of_pos_right h (by norm_num)) (by norm_num)
  unfold readPriceUpdate
  rw [hlong, hdisc, hfeed, readI64Le_eq hprice, readLe_eq hconf, readI32Le_eq hexpo,
    readI64Le_eq htime]
  simp only [ok_bind, hwide]
  rfl

theorem readPriceUpdate_safe :
    Safe (readPriceUpdate b data owner terms nowUnix) := by
  by_cases hlen : priceUpdateV2Len ≤ data.length
  · rw [readPriceUpdate_eq hlen]
    refine safe_revertIf.bind fun _ _ => safe_revertIf.bind fun _ _ => safe_revertIf.bind fun _ _ =>
      safe_revertIf.bind fun _ _ => safe_revertIf.bind fun _ _ => safe_revertIf.bind fun _ _ =>
      safe_revertIf.bind fun _ hnz => ?_
    -- the divisor is the one just found not to be zero
    rw [divide_eq (revertIf_ok.mp hnz), ok_bind]
    exact safe_revertIf.bind fun _ _ => safe_pure _
  · have hshort : (revertIf (data.length < priceUpdateV2Len) (.refused .invalidFeed) :
        Eval Svm.KargainError Unit) = .error (.refused .invalidFeed) := if_pos (Nat.not_le.mp hlen)
    unfold readPriceUpdate
    refine safe_revertIf.bind fun _ _ => ?_
    rw [hshort]
    exact safe_refused _

theorem readPriceUpdate_passed {r : PriceReading}
    (h : readPriceUpdate b data owner terms nowUnix = .ok r) :
    Passed data owner terms nowUnix r := by
  by_cases hlen : priceUpdateV2Len ≤ data.length
  · rw [readPriceUpdate_eq hlen] at h
    simp only [bind_ok, revertIf_ok, pure_ok, exists_const, not_not, not_le, not_lt, gt_iff_lt] at h
    obtain ⟨howner, hdisc, hfeed, hprice, hahead, hage, hnz, confBps, hconf, hmax, rfl⟩ := h
    rw [divide_eq hnz] at hconf
    obtain rfl := Except.ok.inj hconf
    refine ⟨howner, hlen, hdisc, rfl, hfeed, hprice, ?_, ?_, ?_⟩
    · have hge := nowUnix.ge
      unfold saturatingI64 at hahead
      unfold publishAheadSkewSecs at hahead ⊢
      omega
    · have hlt := terms.staleness_lt
      unfold saturatingI64 at hage
      split at hage <;> omega
    · have habs : (fieldsOf data).price.natAbs = (fieldsOf data).price.toNat := by omega
      rw [← habs]
      exact hmax
  · have hshort : (revertIf (data.length < priceUpdateV2Len) (.refused .invalidFeed) :
        Eval Svm.KargainError Unit) = .error (.refused .invalidFeed) := if_pos (Nat.not_le.mp hlen)
    unfold readPriceUpdate at h
    rw [hshort] at h
    simp only [bind_ok] at h
    obtain ⟨_, -, _, h, -⟩ := h
    cases h

/-! ## §4. Scaling. -/

/-- The exponents of an `i32` never negate out of range, and a power of ten is not zero. -/
theorem priceToUsd1e8_safe {price expo : ℤ} (he : -2 ^ 31 ≤ expo) :
    Safe (priceToUsd1e8 b price expo) := by
  unfold priceToUsd1e8
  refine safe_revertIf.bind fun _ _ => safe_orRevert.bind fun power hpower => ?_
  refine safe_ite (fun _ => safe_pure _) fun _ => safe_ite (fun _ => ?_) fun _ => ?_
  · exact safe_orRevert.bind fun _ _ => safe_orRevert
  · have hne : power ≠ -2 ^ 31 := by
      have h := orRevert_ok.mp hpower
      unfold checkedAddI32 at h
      split at h
      · have h := Option.some.inj h
        omega
      · cases h
    rw [negI32_eq hne, ok_bind]
    refine safe_orRevert.bind fun div hdiv => ?_
    have hpos : div ≠ 0 := by
      have h := orRevert_ok.mp hdiv
      unfold checkedPow10 at h
      split at h
      · have h := Option.some.inj h
        have hten : 0 < 10 ^ (-power).toNat := Nat.pow_pos (by norm_num)
        omega
      · cases h
    rw [divide_eq hpos]
    exact safe_ok _

/-- **The price in 8 decimals**, rounded down. -/
theorem priceToUsd1e8_floor {price expo : ℤ} {v : ℕ} (he : -2 ^ 31 ≤ expo)
    (h : priceToUsd1e8 b price expo = .ok v) :
    (v : ℤ) = ⌊(price : ℚ) * 10 ^ (expo + 8)⌋ := by
  unfold priceToUsd1e8 at h
  simp only [bind_ok, revertIf_ok, exists_const, orRevert_ok, not_le] at h
  obtain ⟨hprice, power, hpower, h⟩ := h
  have hexp : power = expo + 8 := by
    unfold checkedAddI32 at hpower
    split at hpower
    · have h := Option.some.inj hpower
      omega
    · cases hpower
  have hp : ((price.toNat : ℕ) : ℤ) = price := Int.toNat_of_nonneg hprice.le
  rw [← hexp]
  split at h
  · rename_i hz
    obtain rfl := pure_ok.mp h
    rw [hz, zpow_zero, mul_one, Int.floor_intCast, hp]
  · split at h
    · rename_i hpos
      simp only [bind_ok, orRevert_ok, checkedPow10, checkedMulU128, Option.ite_none_right_eq_some,
        Option.some.injEq] at h
      obtain ⟨mul, ⟨-, rfl⟩, -, rfl⟩ := h
      -- scaling up loses nothing
      have hscaled : (price : ℚ) * 10 ^ power = ((price * 10 ^ power.toNat : ℤ) : ℚ) := by
        have hz : (power.toNat : ℤ) = power := Int.toNat_of_nonneg hpos.le
        conv_lhs => rw [← hz]
        rw [zpow_natCast]
        push_cast
        rfl
      rw [hscaled, Int.floor_intCast]
      push_cast
      rw [hp]
    · rename_i hz hpos
      simp only [bind_ok] at h
      obtain ⟨exponent, hneg, h⟩ := h
      have hexponent : exponent = -power := by
        rw [negI32_eq (by omega)] at hneg
        exact (Except.ok.inj hneg).symm
      simp only [orRevert_ok, checkedPow10, Option.ite_none_right_eq_some, Option.some.injEq] at h
      obtain ⟨div, ⟨-, rfl⟩, h⟩ := h
      have hten : 10 ^ exponent.toNat ≠ 0 := by positivity
      rw [divide_eq hten] at h
      obtain rfl := Except.ok.inj h
      have hscaled : (price : ℚ) * 10 ^ power = (price : ℚ) / ((10 ^ exponent.toNat : ℕ) : ℚ) := by
        have hz : (exponent.toNat : ℤ) = -power := by
          rw [hexponent]
          exact Int.toNat_of_nonneg (by omega)
        have hpow : power = -(exponent.toNat : ℤ) := by omega
        conv_lhs => rw [hpow]
        rw [zpow_neg, zpow_natCast, div_eq_mul_inv]
        push_cast
        rfl
      rw [hscaled, Rat.floor_intCast_div_natCast]
      push_cast
      rw [hp]

/-! ## §5. Both. -/

/-- **A price from an account.**  Reading and scaling return or refuse,
whatever the account, its owner, the terms and the clock.  Where they
return, the account has passed every check, its stamp at most
`publishAheadSkewSecs` ahead of the clock, and the value is the price at
8 decimals, rounded down. -/
theorem price_reading (b : Profile) (data owner : List UInt8) (terms : FeedTerms) (nowUnix : I64) :
    Safe (usdPrice b data owner terms nowUnix) ∧
      ∀ v, usdPrice b data owner terms nowUnix = .ok v →
        ∃ r, Passed data owner terms nowUnix r ∧
          (v : ℤ) = ⌊(r.price : ℚ) * 10 ^ (r.expo + 8)⌋ := by
  have hexpo : ∀ r, readPriceUpdate b data owner terms nowUnix = .ok r → -2 ^ 31 ≤ r.expo := by
    intro r hr
    rw [(readPriceUpdate_passed hr).fields]
    exact signed_ge 31
  unfold usdPrice
  constructor
  · exact readPriceUpdate_safe.bind fun r hr => priceToUsd1e8_safe (hexpo r hr)
  · intro v h
    obtain ⟨r, hr, hv⟩ := bind_ok.mp h
    exact ⟨r, readPriceUpdate_passed hr, priceToUsd1e8_floor (hexpo r hr) hv⟩

/-- A price of one, stamped a second past the epoch. -/
def newReading : List UInt8 :=
  priceUpdateV2Disc ++ List.replicate 65 0 ++ ([1] ++ List.replicate 7 0) ++ List.replicate 8 0 ++
    List.replicate 4 0 ++ ([1] ++ List.replicate 7 0) ++ List.replicate 33 0

def newReadingTerms : FeedTerms := ⟨List.replicate 32 7, List.replicate 32 0, 3600, 200, by decide⟩

/-- A stamp of the future is accepted: here the clock stands at zero. -/
theorem future_stamp :
    usdPrice ⟨true⟩ newReading (List.replicate 32 7) newReadingTerms ⟨0, by decide, by decide⟩ =
        .ok 100000000 ∧
      0 < (fieldsOf newReading).publishTime := by
  decide +kernel

end Kargain.Pricing
