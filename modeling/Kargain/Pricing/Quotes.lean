/-
  Kargain.Pricing.Quotes — what a fiat lot costs, on either chain.

  A fiat price is turned into units of the payment token by two or three
  divisions, each rounded down: on the EVM currency to dollars and
  dollars to units, on Solana the feed to 8 decimals and dollars to
  units.  Nothing asks that the result is not zero, or that what the
  divisions drop stays under a unit.

  §1 is the arithmetic of two roundings in a row.
  Main result: `fiat_quotes_iff`, for which prices and readings the
  quote is positive and within a unit of the exact conversion.
-/
import Mathlib
import Kargain.Evm.FixedPriceConsignment
import Kargain.Svm.FixedPrice

namespace Kargain.Pricing

/-! ## §1. Two roundings in a row. -/

/-- What two divisions drop: the first division's remainder, scaled, and the second's. -/
theorem two_divisions {n d s p : ℕ} (hd : 0 < d) (hp : 0 < p) :
    (n * s / (d * p) : ℚ) =
      (n / d * s / p : ℕ) + ((n % d * s + d * (n / d * s % p) : ℕ) : ℚ) / (d * p : ℕ) := by
  have hn : d * (n / d) + n % d = n := Nat.div_add_mod n d
  have hq : p * (n / d * s / p) + n / d * s % p = n / d * s := Nat.div_add_mod _ p
  have hexact : n * s = d * p * (n / d * s / p) + (n % d * s + d * (n / d * s % p)) := by
    calc n * s = d * (n / d * s) + n % d * s := by
          conv_lhs => rw [← hn]
          ring
      _ = d * (p * (n / d * s / p) + n / d * s % p) + n % d * s := by rw [hq]
      _ = _ := by ring
  have hd' : (d : ℚ) ≠ 0 := by exact_mod_cast hd.ne'
  have hp' : (p : ℚ) ≠ 0 := by exact_mod_cast hp.ne'
  have hcast : (n * s : ℚ) =
      d * p * (n / d * s / p : ℕ) + (n % d * s + d * (n / d * s % p) : ℕ) := by
    exact_mod_cast hexact
  rw [hcast]
  push_cast
  field_simp

theorem two_divisions_close {n d s p : ℕ} (hd : 0 < d) (hp : 0 < p) :
    |((n / d * s / p : ℕ) : ℚ) - n * s / (d * p)| < 1 ↔
      n % d * s + d * (n / d * s % p) < d * p := by
  have hpos : (0 : ℚ) < (d * p : ℕ) := by exact_mod_cast Nat.mul_pos hd hp
  rw [two_divisions hd hp, sub_add_cancel_left, abs_neg, abs_of_nonneg (by positivity),
    div_lt_one hpos, Nat.cast_lt]

/-- Dividing by a divisor that was itself rounded down. -/
theorem rounded_divisor_close {w p d : ℕ} (hd : 0 < d) (hp : 0 < p / d) :
    |((w / (p / d) : ℕ) : ℚ) - w * d / p| < 1 ↔ w < p / d * (w * d ⌈/⌉ p + 1) := by
  have hp' : 0 < p := Nat.pos_of_ne_zero fun h => by
    rw [h, Nat.zero_div] at hp
    omega
  have hpq : (0 : ℚ) < p := by exact_mod_cast hp'
  have hle : d * (p / d) ≤ p := Nat.mul_div_le p d
  generalize hq : w / (p / d) = q
  -- the quotient is never a unit under the exact one
  have hlow : (w * d / p : ℚ) < q + 1 := by
    have h : w < p / d * (q + 1) := by
      rw [← hq]
      exact Nat.lt_mul_div_succ w hp
    have h' : w * d < p * (q + 1) :=
      calc w * d < p / d * (q + 1) * d := Nat.mul_lt_mul_of_pos_right h hd
        _ = d * (p / d) * (q + 1) := by ring
        _ ≤ p * (q + 1) := Nat.mul_le_mul_right _ hle
    rw [div_lt_iff₀ hpq]
    have hcast : ((w * d : ℕ) : ℚ) < ((p * (q + 1) : ℕ) : ℚ) := Nat.cast_lt.mpr h'
    push_cast at hcast
    linarith
  have hhigh : (q - w * d / p : ℚ) < 1 ↔ q * p < w * d + p := by
    rw [sub_lt_iff_lt_add, ← div_self hpq.ne', ← add_div, lt_div_iff₀ hpq]
    have hcast : ((q * p : ℕ) : ℚ) < ((w * d + p : ℕ) : ℚ) ↔ q * p < w * d + p := Nat.cast_lt
    rw [← hcast]
    push_cast
    constructor <;> intro h <;> linarith
  have hceil : w < p / d * (w * d ⌈/⌉ p + 1) ↔ q * p < w * d + p := by
    rw [Nat.mul_comm, ← Nat.div_lt_iff_lt_mul hp, hq]
    cases q with
    | zero => exact iff_of_true (Nat.succ_pos _) (by omega)
    | succ q =>
      rw [Nat.add_lt_add_iff_right, ← Nat.not_le, ceilDiv_le_iff_le_mul hp', Nat.not_le,
        Nat.succ_mul, Nat.add_lt_add_iff_right, Nat.mul_comm]
  rw [hceil, ← hhigh, abs_lt]
  exact and_iff_right (by linarith)

/-- A quote that is given, takes something, and is within a unit of `worth`. -/
def Honest {ε : Type} (quote : Except ε ℕ) (worth : ℚ) : Prop :=
  ∃ amount, quote = .ok amount ∧ 0 < amount ∧ |(amount : ℚ) - worth| < 1

theorem honest_ok {ε : Type} {quote : Except ε ℕ} {worth : ℚ} {fits : Prop} {amount : ℕ}
    (h : ∀ a, quote = .ok a ↔ fits ∧ amount = a) :
    Honest quote worth ↔ fits ∧ 0 < amount ∧ |(amount : ℚ) - worth| < 1 := by
  unfold Honest
  constructor
  · rintro ⟨a, hquote, hpos, hclose⟩
    obtain ⟨hfits, rfl⟩ := (h a).mp hquote
    exact ⟨hfits, hpos, hclose⟩
  · rintro ⟨hfits, hpos, hclose⟩
    exact ⟨amount, (h amount).mpr ⟨hfits, rfl⟩, hpos, hclose⟩

/-! ## §2. On the EVM. -/

section Evm

open Evm Evm.FixedPrice

variable {P : Type}

/-- `quoteBuy`. -/
def quoteBuy (w : FixedPrice.World P) (t : TokenId) : Except Evm.Error ℕ := do
  revertIf (isLiveConsignment w t = false) .noLiveConsignment
  let c := w.com.consignments t
  quoteAmount w c.price c.denomination c.asset

/-- What the currency's feed says, in dollars of 8 decimals; a dollar is a dollar. -/
def rateOf (w : FixedPrice.World P) (currencyCode : ℕ) : Except Evm.Error ℕ :=
  if currencyCode = currencyUsd then .ok fiatScale
  else do
    let cfg := w.ext.currencyFeeds currencyCode
    revertIf (cfg.feed = .zero) .currencyNotAvailableOnChain
    readFeed w cfg.feed cfg.stalenessTolerance

/-- What the asset's feed says. -/
def assetPriceOf (w : FixedPrice.World P) (asset : Address) : Except Evm.Error ℕ :=
  if asset = .zero then readFeed w w.ext.nativeUsdFeed w.ext.nativeUsdStalenessTolerance
  else do
    revertIf ((w.ext.paymentTokens asset).feed = .zero) .paymentTokenFeedRequired
    readFeed w (w.ext.paymentTokens asset).feed (w.ext.paymentTokens asset).stalenessTolerance

/-- Units of the asset in one of it. -/
def unitsOf (w : FixedPrice.World P) (asset : Address) : ℕ :=
  if asset = .zero then 10 ^ 18 else 10 ^ (w.ext.paymentTokens asset).decimals

/-- A live fiat lot whose feeds answer with fresh, positive readings. -/
structure EvmLot (w : FixedPrice.World P) (t : TokenId) (rate px : ℕ) : Prop where
  live : isLiveConsignment w t = true
  fiat : (w.com.consignments t).denomination.kind = .fiat
  price : 0 < (w.com.consignments t).price
  price_lt : (w.com.consignments t).price < 2 ^ 128   -- a uint128
  rate : rateOf w (w.com.consignments t).denomination.currencyCode = .ok rate
  px : assetPriceOf w (w.com.consignments t).asset = .ok px

/-- The products fit a word, the lot is worth a unit, and what the two divisions drop is less
    than one. -/
structure EvmQuotable (price rate units px : ℕ) : Prop where
  rated : price * rate < 2 ^ 256
  units_lt : units < 2 ^ 256
  scaled : price * rate / fiatScale * units < 2 ^ 256
  worth : px ≤ price * rate / fiatScale * units
  dropped : price * rate % fiatScale * units + fiatScale * (price * rate / fiatScale * units % px) <
    fiatScale * px

theorem readFeed_pos {w : FixedPrice.World P} {feed : Address} {tolerance r : ℕ}
    (h : readFeed w feed tolerance = .ok r) : 0 < r := by
  unfold readFeed at h
  simp only [bind_ok, revertIf_ok, pure_ok, exists_const, not_le] at h
  obtain ⟨reading, -, _, -, hpos, rfl⟩ := h
  omega

theorem assetPriceOf_pos {w : FixedPrice.World P} {asset : Address} {px : ℕ}
    (h : assetPriceOf w asset = .ok px) : 0 < px := by
  unfold assetPriceOf at h
  split at h
  · exact readFeed_pos h
  · obtain ⟨_, -, h⟩ := bind_ok.mp h
    exact readFeed_pos h

theorem fiatToUsd1e8_ok {w : FixedPrice.World P} {code price rate u : ℕ}
    (hrate : rateOf w code = .ok rate) (hprice : price < 2 ^ 128) :
    fiatToUsd1e8 w price code = .ok u ↔ price * rate < 2 ^ 256 ∧ price * rate / fiatScale = u := by
  unfold rateOf at hrate
  unfold fiatToUsd1e8
  split at hrate
  · rename_i husd
    obtain rfl := Except.ok.inj hrate
    have hfits : price * fiatScale < 2 ^ 256 := by
      unfold fiatScale
      omega
    have hsame : price * fiatScale / fiatScale = price := by
      unfold fiatScale
      omega
    rw [if_pos husd, hsame, Except.ok.injEq]
    exact (and_iff_right hfits).symm
  · rename_i husd
    obtain ⟨_, hset, hread⟩ := bind_ok.mp hrate
    rw [if_neg husd]
    simp only [bind_ok, hset, hread, checkedMul_ok, pure_ok, Except.ok.injEq, exists_eq_left',
      exists_const, true_and]
    constructor
    · rintro ⟨_, ⟨hfits, rfl⟩, rfl⟩
      exact ⟨hfits, rfl⟩
    · rintro ⟨hfits, rfl⟩
      exact ⟨_, ⟨hfits, rfl⟩, rfl⟩

/-- Dollars to units, in either asset. -/
theorem usdToAsset_ok {w : FixedPrice.World P} {asset : Address} {px u a : ℕ}
    (hpx : assetPriceOf w asset = .ok px) :
    (if asset = .zero then usdToNative w u else usdToTokenAmount w u (w.ext.paymentTokens asset)) =
        .ok a ↔
      (unitsOf w asset < 2 ^ 256 ∧ u * unitsOf w asset < 2 ^ 256) ∧
        u * unitsOf w asset / px = a := by
  unfold assetPriceOf at hpx
  unfold unitsOf
  split at hpx
  · rename_i hnative
    unfold usdToNative
    rw [if_pos hnative, if_pos hnative]
    simp only [bind_ok, hpx, checkedMul_ok, pure_ok, Except.ok.injEq, exists_eq_left']
    constructor
    · rintro ⟨_, ⟨hfits, rfl⟩, rfl⟩
      exact ⟨⟨by norm_num, hfits⟩, rfl⟩
    · rintro ⟨⟨-, hfits⟩, rfl⟩
      exact ⟨_, ⟨hfits, rfl⟩, rfl⟩
  · rename_i htoken
    obtain ⟨_, hset, hread⟩ := bind_ok.mp hpx
    unfold usdToTokenAmount
    rw [if_neg htoken, if_neg htoken]
    simp only [bind_ok, hset, hread, revertIf_ok, checkedMul_ok, pure_ok, Except.ok.injEq,
      exists_eq_left', exists_const, true_and, ge_iff_le, not_le]
    constructor
    · rintro ⟨hunits, _, ⟨hfits, rfl⟩, rfl⟩
      exact ⟨⟨hunits, hfits⟩, rfl⟩
    · rintro ⟨⟨hunits, hfits⟩, rfl⟩
      exact ⟨hunits, _, ⟨hfits, rfl⟩, rfl⟩

theorem quoteBuy_ok {w : FixedPrice.World P} {t : TokenId} {rate px a : ℕ} (h : EvmLot w t rate px) :
    let c := w.com.consignments t
    quoteBuy w t = .ok a ↔
      (c.price * rate < 2 ^ 256 ∧ unitsOf w c.asset < 2 ^ 256 ∧
        c.price * rate / fiatScale * unitsOf w c.asset < 2 ^ 256) ∧
        c.price * rate / fiatScale * unitsOf w c.asset / px = a := by
  intro c
  have hlive : (revertIf (isLiveConsignment w t = false) .noLiveConsignment :
      Except Evm.Error Unit) = .ok () := if_neg (by rw [h.live]; exact Bool.noConfusion)
  have hfiat : ¬ c.denomination.kind = .asset := by
    rw [h.fiat]
    exact DenominationKind.noConfusion
  unfold quoteBuy quoteAmount
  rw [hlive]
  show (if c.denomination.kind = .asset then _ else _) = _ ↔ _
  rw [if_neg hfiat]
  simp only [bind_ok, fiatToUsd1e8_ok h.rate h.price_lt, usdToAsset_ok h.px]
  constructor
  · rintro ⟨_, ⟨hrated, rfl⟩, ⟨hunits, hscaled⟩, ha⟩
    exact ⟨⟨hrated, hunits, hscaled⟩, ha⟩
  · rintro ⟨⟨hrated, hunits, hscaled⟩, ha⟩
    exact ⟨_, ⟨hrated, rfl⟩, ⟨hunits, hscaled⟩, ha⟩

/-- What a lot is worth in units of its asset. -/
def evmWorth (price rate units px : ℕ) : ℚ := (price * rate * units : ℕ) / (fiatScale * px : ℕ)

theorem quoteBuy_honest {w : FixedPrice.World P} {t : TokenId} {rate px : ℕ}
    (h : EvmLot w t rate px) :
    let c := w.com.consignments t
    Honest (quoteBuy w t) (evmWorth c.price rate (unitsOf w c.asset) px) ↔
      EvmQuotable c.price rate (unitsOf w c.asset) px := by
  intro c
  have hpx := assetPriceOf_pos h.px
  have hclose := two_divisions_close (n := c.price * rate) (d := fiatScale) (s := unitsOf w c.asset)
    (by unfold fiatScale; norm_num) hpx
  have hworth : evmWorth c.price rate (unitsOf w c.asset) px =
      ((c.price * rate : ℕ) : ℚ) * unitsOf w c.asset / (fiatScale * px) := by
    unfold evmWorth
    push_cast
    rfl
  rw [honest_ok fun a => quoteBuy_ok h, hworth, hclose, Nat.div_pos_iff]
  constructor
  · rintro ⟨⟨hrated, hunits, hscaled⟩, ⟨-, hpos⟩, hdropped⟩
    exact ⟨hrated, hunits, hscaled, hpos, hdropped⟩
  · rintro ⟨hrated, hunits, hscaled, hpos, hdropped⟩
    exact ⟨⟨hrated, hunits, hscaled⟩, ⟨hpx, hpos⟩, hdropped⟩

end Evm

/-! ## §3. On Solana. -/

section Svm

open Svm Svm.FixedPrice Kargain.Accounts

/-- The powers of ten that bring a feed's price to 8 decimals: one of them is zero. -/
def powerUp (expo : ℤ) : ℕ := (8 + expo).toNat
def powerDown (expo : ℤ) : ℕ := (-(8 + expo)).toNat

/-- A fiat lot whose price account passes the checks. -/
structure SvmLot (x : Call) (now : ℕ) (L : Ledger) (c : ConsignmentRecord)
    (record : PricedTokenRecord) (reading : PriceUpdate) : Prop where
  fiat : isFiat c.denomination = true
  currency : c.denomination.currencyCode = currencyUsd
  asset : c.asset ≠ .zero
  price : 0 < c.price
  paymentTok : (x.account 18 : Except Svm.Error _) = .ok (paymentTokenPda c.asset)
  admitted : (load L (paymentTokenPda c.asset) : Except Svm.Error _) = .ok record
  feed : record.mint = c.asset ∧ record.hasFeed = true
  read : ∃ priceAccount, (x.account 19 : Except Svm.Error _) = .ok priceAccount ∧
    Svm.readPriceUpdate (L priceAccount) record.priceProgram record.feedId now
      record.stalenessTolerance record.maxConfidenceBps = .ok reading

/-- The products fit, the feed has a price at 8 decimals, the lot is worth a unit at it, and
    lowering the price to 8 decimals does not carry the quote past the next unit. -/
structure SvmQuotable (price decimals feedPrice : ℕ) (expo : ℤ) : Prop where
  exponent : powerUp expo ≤ 38 ∧ powerDown expo ≤ 38
  raised : 0 ≤ 8 + expo → feedPrice * 10 ^ powerUp expo < 2 ^ 128
  decimals_le : decimals ≤ 38
  scaled : price * 10 ^ decimals < 2 ^ 128
  feed : 0 < feedPrice * 10 ^ powerUp expo / 10 ^ powerDown expo
  amount : price * 10 ^ decimals < 2 ^ 64 * (feedPrice * 10 ^ powerUp expo / 10 ^ powerDown expo)
  worth : feedPrice * 10 ^ powerUp expo / 10 ^ powerDown expo ≤ price * 10 ^ decimals
  lowered : price * 10 ^ decimals < feedPrice * 10 ^ powerUp expo / 10 ^ powerDown expo *
    (price * 10 ^ decimals * 10 ^ powerDown expo ⌈/⌉ (feedPrice * 10 ^ powerUp expo) + 1)

theorem priceToUsd1e8_ok {price expo : ℤ} {v : ℕ} (hprice : 0 < price) :
    Svm.priceToUsd1e8 price expo = .ok v ↔
      ((powerUp expo ≤ 38 ∧ powerDown expo ≤ 38) ∧
        (0 ≤ 8 + expo → price.toNat * 10 ^ powerUp expo < 2 ^ 128)) ∧
        price.toNat * 10 ^ powerUp expo / 10 ^ powerDown expo = v := by
  unfold Svm.priceToUsd1e8
  simp only [bind_ok, revertIf_ok, require_ok, exists_const, not_le, hprice, true_and]
  split
  · rename_i hup
    have hdown : powerDown expo = 0 := by
      unfold powerDown
      omega
    rw [hdown, pow_zero, Nat.div_one]
    unfold Svm.checkedPow10 checkedMul128
    simp only [bind_ok, require_ok, pure_ok, exists_const, and_assoc, exists_and_left, exists_eq_left']
    unfold powerUp
    constructor
    · rintro ⟨-, hle, hfits, rfl⟩
      exact ⟨hle, by omega, fun _ => hfits, rfl⟩
    · rintro ⟨hle, -, hfits, rfl⟩
      exact ⟨by omega, hle, hfits hup, rfl⟩
  · rename_i hdown
    have hup : powerUp expo = 0 := by
      unfold powerUp
      omega
    rw [hup, pow_zero, Nat.mul_one]
    unfold Svm.checkedPow10
    simp only [bind_ok, require_ok, pure_ok, exists_const, and_assoc, exists_and_left, exists_eq_left']
    unfold powerDown
    constructor
    · rintro ⟨-, hle, rfl⟩
      exact ⟨by omega, hle, fun h => absurd h hdown, rfl⟩
    · rintro ⟨-, hle, -, rfl⟩
      exact ⟨by omega, hle, rfl⟩

theorem usd1e8ToAssetAmount_ok {usd feed decimals a : ℕ} :
    usd1e8ToAssetAmount usd feed decimals = .ok a ↔
      (feed ≠ 0 ∧ decimals ≤ 38 ∧ usd * 10 ^ decimals < 2 ^ 128 ∧
        usd * 10 ^ decimals / feed ≤ u64Max) ∧ usd * 10 ^ decimals / feed = a := by
  unfold usd1e8ToAssetAmount Svm.checkedPow10 checkedMul128
  simp only [bind_ok, revertIf_ok, require_ok, pure_ok, exists_const, and_assoc, exists_and_left, exists_eq_left']

theorem fiatUsd1e8ToTokenAmount_ok {price decimals a : ℕ} {reading : PriceUpdate}
    (hpos : 0 < reading.price) :
    let feed := reading.price.toNat * 10 ^ powerUp reading.expo / 10 ^ powerDown reading.expo
    fiatUsd1e8ToTokenAmount price reading decimals = .ok a ↔
      (((powerUp reading.expo ≤ 38 ∧ powerDown reading.expo ≤ 38) ∧
        (0 ≤ 8 + reading.expo → reading.price.toNat * 10 ^ powerUp reading.expo < 2 ^ 128)) ∧
        feed ≠ 0 ∧ decimals ≤ 38 ∧ price * 10 ^ decimals < 2 ^ 128 ∧
        price * 10 ^ decimals / feed ≤ u64Max) ∧ price * 10 ^ decimals / feed = a := by
  intro feed
  unfold fiatUsd1e8ToTokenAmount
  simp only [bind_ok, priceToUsd1e8_ok hpos, usd1e8ToAssetAmount_ok, and_assoc, exists_and_left,
    exists_eq_left', feed]

theorem chargedAmount_eq {x : Call} {now : ℕ} {L : Ledger} {c : ConsignmentRecord}
    {record : PricedTokenRecord} {reading : PriceUpdate} (h : SvmLot x now L c record reading) :
    chargedAmount x now L c = fiatUsd1e8ToTokenAmount c.price reading record.decimals := by
  obtain ⟨priceAccount, haccount, hread⟩ := h.read
  have hcurrency : (revertIf (c.denomination.currencyCode ≠ currencyUsd)
      (.custom .currencyNotAvailableOnChain) : Except Svm.Error Unit) = .ok () :=
    if_neg (not_not.mpr h.currency)
  have hasset : (revertIf (c.asset = .zero) (.custom .currencyNotAvailableOnChain) :
      Except Svm.Error Unit) = .ok () := if_neg h.asset
  have hpda : (require True .invalidSeeds : Except Svm.Error Unit) = .ok () := if_pos trivial
  have hfeed : (require (record.mint = c.asset ∧ record.hasFeed = true)
      (.custom .paymentTokenFeedRequired) : Except Svm.Error Unit) = .ok () := if_pos h.feed
  unfold chargedAmount
  rw [if_pos h.fiat, hcurrency, hasset, h.paymentTok]
  simp only [bind, Except.bind, hpda, h.admitted, hfeed, haccount, hread]

/-- What a lot is worth in units of its mint. -/
def svmWorth (price decimals : ℕ) (feedPrice expo : ℤ) : ℚ :=
  price * 10 ^ decimals / (feedPrice * 10 ^ (expo + 8))

theorem svmWorth_eq {price decimals : ℕ} {feedPrice expo : ℤ} (hpos : 0 < feedPrice) :
    svmWorth price decimals feedPrice expo =
      (price * 10 ^ decimals : ℕ) * (10 ^ powerDown expo : ℕ) /
        (feedPrice.toNat * 10 ^ powerUp expo : ℕ) := by
  have hp : ((feedPrice.toNat : ℕ) : ℚ) = feedPrice := by
    exact_mod_cast Int.toNat_of_nonneg hpos.le
  have hten : (10 : ℚ) ≠ 0 := by norm_num
  have hpow : (10 : ℚ) ^ (expo + 8) = 10 ^ powerUp expo / 10 ^ powerDown expo := by
    have hsum : expo + 8 = (powerUp expo : ℤ) - powerDown expo := by
      unfold powerUp powerDown
      omega
    rw [hsum, zpow_sub₀ hten, zpow_natCast, zpow_natCast]
  unfold svmWorth
  rw [hpow]
  push_cast
  rw [hp]
  have hne : (feedPrice : ℚ) ≠ 0 := by exact_mod_cast hpos.ne'
  field_simp

theorem readPriceUpdate_pos {a : Account Pubkey Data} {program : Pubkey} {feedId : ℕ} {now : ℤ}
    {tolerance maxConf : ℕ} {u : PriceUpdate}
    (h : Svm.readPriceUpdate a program feedId now tolerance maxConf = .ok u) : 0 < u.price := by
  unfold Svm.readPriceUpdate at h
  simp only [bind_ok, revertIf_ok, require_ok, orRevert_ok, pure_ok, exists_const, not_le] at h
  obtain ⟨-, u, -, -, hpos, -, -, -, rfl⟩ := h
  exact hpos

theorem chargedAmount_honest {x : Call} {now : ℕ} {L : Ledger} {c : ConsignmentRecord}
    {record : PricedTokenRecord} {reading : PriceUpdate} (h : SvmLot x now L c record reading) :
    Honest (chargedAmount x now L c)
        (svmWorth c.price record.decimals reading.price reading.expo) ↔
      SvmQuotable c.price record.decimals reading.price.toNat reading.expo := by
  obtain ⟨_, -, hread⟩ := h.read
  have hpos := readPriceUpdate_pos hread
  have hdown : 0 < 10 ^ powerDown reading.expo := Nat.pow_pos (by norm_num)
  rw [chargedAmount_eq h, honest_ok fun a => fiatUsd1e8ToTokenAmount_ok hpos, svmWorth_eq hpos]
  constructor
  · rintro ⟨⟨⟨hexp, hraised⟩, hfeed, hdec, hscaled, hle⟩, hamount, hclose⟩
    have hfeed := Nat.pos_of_ne_zero hfeed
    refine ⟨hexp, hraised, hdec, hscaled, hfeed, ?_, (Nat.div_pos_iff.mp hamount).2,
      (rounded_divisor_close hdown hfeed).mp hclose⟩
    rw [← Nat.div_lt_iff_lt_mul hfeed]
    unfold u64Max at hle
    omega
  · rintro ⟨hexp, hraised, hdec, hscaled, hfeed, hle, hworth, hclose⟩
    refine ⟨⟨⟨hexp, hraised⟩, hfeed.ne', hdec, hscaled, ?_⟩, Nat.div_pos hworth hfeed,
      (rounded_divisor_close hdown hfeed).mpr hclose⟩
    have hlt := (Nat.div_lt_iff_lt_mul hfeed).mpr hle
    unfold u64Max
    omega

end Svm

/-! ## §4. Both. -/

/-- **Fiat quotes.**  Of a live fiat lot whose feeds pass their checks, the quote is given,
    positive and within a unit of the exact conversion under exactly these conditions. -/
theorem fiat_quotes_iff {P : Type} (w : Evm.FixedPrice.World P) (t : Evm.TokenId) (x : Svm.Call)
    (now : ℕ) (L : Svm.Ledger) (c : Svm.ConsignmentRecord) :
    (∀ rate px, EvmLot w t rate px →
      let lot := w.com.consignments t
      (Honest (quoteBuy w t) (evmWorth lot.price rate (unitsOf w lot.asset) px) ↔
        EvmQuotable lot.price rate (unitsOf w lot.asset) px)) ∧
    ∀ record reading, SvmLot x now L c record reading →
      (Honest (Svm.FixedPrice.chargedAmount x now L c)
          (svmWorth c.price record.decimals reading.price reading.expo) ↔
        SvmQuotable c.price record.decimals reading.price.toNat reading.expo) :=
  ⟨fun _ _ h => quoteBuy_honest h, fun _ _ h => chargedAmount_honest h⟩

open Evm Evm.FixedPrice

/-- A token of no decimals at 2000 dollars is admitted, and a passport offered for 1999. -/
def cheapLot : List (Action FixedPrice.Call) :=
  [.msg (.tx (Caller.account 9) 0 (.approvePaymentToken (.account 8) (.account 8) 3600)
      [Callee.accept, ⟨true, ⟨32, 0⟩, 0, []⟩]),
    .call 1 0 (.openDirect 7 ⟨.fiat, currencyUsd⟩ (.account 8) 199900000000)]

def cheapWorld : FixedPrice.World Registry := finalState FixedPrice.mode.step smallGenesis cheapLot

/-- It is quoted at nothing, and account 3 buys it for that. -/
theorem quoted_nothing :
    isLiveConsignment cheapWorld 7 = true ∧
      (cheapWorld.com.consignments 7).denomination.kind = .fiat ∧
      0 < (cheapWorld.com.consignments 7).price ∧ quoteBuy cheapWorld 7 = .ok 0 ∧
      (finalState FixedPrice.mode.step cheapWorld [.call 3 0 (.buy 7)]).ownerOf 7 =
        some (.account 3) := by
  refine ⟨?_, ?_, ?_, ?_, ?_⟩ <;> decide +kernel

/-- A passport offered for 1999 dollars of the native coin. -/
def nativeWorld : FixedPrice.World Registry :=
  finalState FixedPrice.mode.step smallGenesis
    [.call 1 0 (.openDirect 7 ⟨.fiat, currencyUsd⟩ .zero 199900000000)]

/-- The same lot on Solana, for a token of 6 decimals at 2000 dollars. -/
def mintLot : Svm.ConsignmentRecord :=
  { (default : Svm.ConsignmentRecord) with
    asset := .key 5, denomination := ⟨Svm.DenominationKind.fiat, Svm.currencyUsd⟩
    price := 199900000000, phase := Svm.Phase.offered }

def mintFeed : Svm.PricedTokenRecord := ⟨.key 5, true, 6, .program 9, 3, 3600, 200⟩

def mintReading : Svm.PriceUpdate := ⟨3, 200000000000, 0, -8, 100⟩

def mintLedger : Svm.Ledger := fun k =>
  if k = .key 6 then ⟨1, .program 9, .priceUpdate mintReading, false⟩
  else ⟨1, .program 2, .pricedToken mintFeed, false⟩

def mintCall : Svm.Call :=
  ⟨List.replicate 18 (.key 1) ++ [Svm.FixedPrice.paymentTokenPda (.key 5), .key 6], [], []⟩

theorem quoted_fairly :
    Honest (quoteBuy nativeWorld 7) (evmWorth 199900000000 (10 ^ 8) (10 ^ 18) (2 * 10 ^ 11)) ∧
      Honest (Svm.FixedPrice.chargedAmount mintCall 100 mintLedger mintLot)
        (svmWorth 199900000000 6 200000000000 (-8)) := by
  have hnative : EvmLot nativeWorld 7 (10 ^ 8) (2 * 10 ^ 11) := by
    constructor <;> decide +kernel
  have hmint : SvmLot mintCall 100 mintLedger mintLot mintFeed mintReading := by
    refine ⟨rfl, rfl, by decide, by decide, rfl, rfl, by decide, .key 6, rfl, ?_⟩
    decide +kernel
  have hquotes := fiat_quotes_iff nativeWorld 7 mintCall 100 mintLedger mintLot
  constructor
  · apply (hquotes.1 _ _ hnative).mpr
    constructor <;> decide +kernel
  · apply (hquotes.2 _ _ hmint).mpr
    constructor <;> decide +kernel

end Kargain.Pricing
