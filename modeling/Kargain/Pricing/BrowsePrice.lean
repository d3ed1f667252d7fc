/-
  Kargain.Pricing.BrowsePrice — the asking price in dollars, three times.

  Browsing filters and sorts by a SQL expression, written once as text
  (`consignmentPriceUsdRawSql`) and once for the query builder
  (`consignmentPriceUsdSql`); the card shows what the client makes of the
  same row.  SQL divides `numeric` values, which keeps at least 16
  significant digits and rounds the last; the client divides integers.
  The SQL knows a currency by its code, the client takes what it does not
  know for dollars; the client trims and decodes, the SQL does not.

  §1 is the division.
  Main result: `prices_agree_iff`, for which rows and rates all three
  agree, and the filter with what is shown.
-/
import Mathlib
import Kargain.Wire.ProtocolAddress

namespace Kargain.Pricing.Browse

open Kargain.ProtocolAddress (Text trim jsWhiteSpace parseInt16)

/-! ## §1. `numeric / numeric`. -/

/-- A `numeric` is a row of digits to the base 10000; this many follow the first. -/
def weight (n : ℕ) : ℕ := Nat.log 10000 n

def firstDigit (n : ℕ) : ℕ := n / 10000 ^ weight n

/-- The decimal places of a quotient of whole numbers: the quotient is estimated from the weights
    and the first digits, and 16 significant digits are kept. -/
def divScale (n d : ℕ) : ℕ :=
  let qweight : ℤ := weight n - weight d - if firstDigit n ≤ firstDigit d then 1 else 0
  min 1000 (16 - 4 * qweight).toNat

/-- The quotient, rounded half away from zero at its last place. -/
def numericDiv (n d : ℕ) : ℚ :=
  ((2 * n * 10 ^ divScale n d + d) / (2 * d) : ℕ) / 10 ^ divScale n d

-- `10 / 3` has 16 places and `1 / 3` has 20.
example : divScale 10 3 = 16 ∧ divScale 1 3 = 20 := by decide +kernel

/-- What the integer quotient drops is rounded off too. -/
def RoundsDown (n d : ℕ) : Prop := 2 * (n % d) * 10 ^ divScale n d < d

instance (n d : ℕ) : Decidable (RoundsDown n d) := inferInstanceAs (Decidable (_ < _))

theorem numericDiv_eq_div {n d : ℕ} (hd : 0 < d) :
    numericDiv n d = ((n / d : ℕ) : ℚ) ↔ RoundsDown n d := by
  unfold numericDiv RoundsDown
  generalize divScale n d = s
  have hs : (0 : ℚ) < 10 ^ s := by positivity
  have hn : d * (n / d) + n % d = n := Nat.div_add_mod n d
  -- The rounded numerator is the integer quotient, scaled, and what the rest rounds to.
  have hsplit : (2 * n * 10 ^ s + d) / (2 * d) =
      n / d * 10 ^ s + (2 * (n % d) * 10 ^ s + d) / (2 * d) := by
    have hexpand : 2 * n * 10 ^ s + d =
        2 * (n % d) * 10 ^ s + d + 2 * d * (n / d * 10 ^ s) := by
      calc 2 * n * 10 ^ s + d = 2 * (d * (n / d) + n % d) * 10 ^ s + d := by rw [hn]
        _ = _ := by ring
    rw [hexpand, Nat.add_mul_div_left _ _ (by omega), Nat.add_comm]
  rw [hsplit, div_eq_iff hs.ne']
  have hcast : ((n / d * 10 ^ s + (2 * (n % d) * 10 ^ s + d) / (2 * d) : ℕ) : ℚ) =
      ((n / d : ℕ) : ℚ) * 10 ^ s ↔ (2 * (n % d) * 10 ^ s + d) / (2 * d) = 0 := by
    push_cast
    constructor
    · intro h
      have hzero : (((2 * (n % d) * 10 ^ s + d) / (2 * d) : ℕ) : ℚ) = 0 := by linarith
      exact_mod_cast hzero
    · intro h
      have hzero : (((2 * (n % d) * 10 ^ s + d) / (2 * d) : ℕ) : ℚ) = 0 := by exact_mod_cast h
      linarith
  rw [hcast, Nat.div_eq_zero_iff]
  constructor
  · rintro (h | h) <;> omega
  · intro h
    right
    omega

theorem roundsDown_of_dvd {n d : ℕ} (hd : 0 < d) (h : d ∣ n) : RoundsDown n d := by
  unfold RoundsDown
  rw [Nat.mod_eq_zero_of_dvd h]
  omega

/-! ## §2. Rows, rates and stacks. -/

inductive DenominationKind
  | asset
  | fiat
deriving DecidableEq

/-- The columns that are read. -/
structure Row where
  chainId : ℕ
  asset : Text
  denominationKind : DenominationKind
  currencyCode : Text
  price : ℤ

structure PartialFxRates where
  ethUsd : Option ℤ
  eurUsd : Option ℤ
  cnyUsd : Option ℤ
  inrUsd : Option ℤ
  brlUsd : Option ℤ
  idrUsd : Option ℤ
  audUsd : Option ℤ
  aedUsd : Option ℤ
  krwUsd : Option ℤ
  rubUsd : Option ℤ
  jpyUsd : Option ℤ

def fiatScale : ℕ := 100000000

def askingNativeAsset : Text := "0x0000000000000000000000000000000000000000".toList

inductive Vm
  | evm
  | svm
deriving DecidableEq

structure Stack where
  vm : Vm
  usdc : Text
  nativeDecimals : ℕ

/-- `COMMERCIAL_ACTIVE`: Base Sepolia, Ethereum Sepolia and Solana Devnet. -/
def commercialActive (chainId : ℕ) : Option Stack :=
  if chainId = 84532 then
    some ⟨.evm, "0x036CbD53842c5426634e7929541eC2318f3dCF7e".toList, 18⟩
  else if chainId = 11155111 then
    some ⟨.evm, "0x1c7D4B196Cb0C7B01d743Fbc6116a902379C7238".toList, 18⟩
  else if chainId = 2000040168 then
    some ⟨.svm, "4zMMC9srt5Ri5X14GAgXhaHii3GnPAEERYPJgZJDncDU".toList, 9⟩
  else none

def commercialEip155Ids : List ℕ := [84532, 11155111]

/-! ## §3. Assets and currencies. -/

def lower (t : Text) : Text := t.map Char.toLower

/-- Codes are made of the bytes of a bytes32, and no letter beyond ASCII becomes one of a code. -/
def upper (t : Text) : Text := t.map Char.toUpper

def isHex (c : Char) : Bool := c.isDigit ∨ ('a' ≤ c ∧ c ≤ 'f') ∨ ('A' ≤ c ∧ c ≤ 'F')

/-- `getAddress`, which throws on what is no address.  Addresses are only compared, so their
    digits stand in lower case and not in the case of the checksum. -/
def getAddress (address : Text) : Option Text :=
  match address with
  | '0' :: 'x' :: digits => if digits.length = 40 ∧ digits.all isHex then some (lower address) else none
  | _ => none

def isZero (asset : Text) : Bool :=
  match getAddress asset with
  | some address => address = askingNativeAsset
  | none => true

inductive SettlementAssetIdentity
  | native
  | usdc
  | unknown
deriving DecidableEq

structure SettlementAssetMeta where
  decimals : Option ℕ
  identity : SettlementAssetIdentity

def resolveSettlementAssetMeta (chainId : ℕ) (asset : Text) : SettlementAssetMeta :=
  let raw := trim asset
  if raw = [] ∨ isZero raw = true then
    match commercialActive chainId with
    | none => { decimals := none, identity := .unknown }
    | some stack => { decimals := some stack.nativeDecimals, identity := .native }
  else
    match getAddress raw with
    | none => { decimals := none, identity := .unknown }
    | some checksummed =>
      match commercialActive chainId with
      | some ⟨.evm, usdc, _⟩ =>
        if getAddress usdc = some checksummed then { decimals := some 6, identity := .usdc }
        else { decimals := none, identity := .unknown }
      | _ => { decimals := none, identity := .unknown }

structure AskingUsdcFact where
  chainId : ℕ
  address : Text
  decimals : ℕ
deriving DecidableEq

/-- It throws where the token of a stack is not known as USDC, which none is. -/
def askingUsdcFacts : List AskingUsdcFact :=
  commercialEip155Ids.filterMap fun chainId => do
    let stack ← commercialActive chainId
    let decimals ← (resolveSettlementAssetMeta chainId stack.usdc).decimals
    some { chainId := chainId, address := stack.usdc, decimals := decimals }

/-- The chains agree on the decimals. -/
def askingNativeDecimals : ℕ :=
  ((commercialEip155Ids.filterMap fun chainId =>
    (resolveSettlementAssetMeta chainId askingNativeAsset).decimals).head?).getD 0

def askingAssetUsdScale (decimals : ℕ) : ℕ := 10 ^ decimals

/-- `LEGACY_FIAT_CURRENCIES`, without the dollar. -/
inductive LegacyFiat
  | eur | cny | inr | brl | idr | aud | aed | krw | rub | jpy
deriving DecidableEq

def LegacyFiat.all : List LegacyFiat := [.eur, .cny, .inr, .brl, .idr, .aud, .aed, .krw, .rub, .jpy]

def LegacyFiat.code : LegacyFiat → Text
  | eur => "EUR".toList
  | cny => "CNY".toList
  | inr => "INR".toList
  | brl => "BRL".toList
  | idr => "IDR".toList
  | aud => "AUD".toList
  | aed => "AED".toList
  | krw => "KRW".toList
  | rub => "RUB".toList
  | jpy => "JPY".toList

/-- `FIAT_RATE_KEYS`. -/
def PartialFxRates.fiat (rates : PartialFxRates) : LegacyFiat → Option ℤ
  | .eur => rates.eurUsd
  | .cny => rates.cnyUsd
  | .inr => rates.inrUsd
  | .brl => rates.brlUsd
  | .idr => rates.idrUsd
  | .aud => rates.audUsd
  | .aed => rates.aedUsd
  | .krw => rates.krwUsd
  | .rub => rates.rubUsd
  | .jpy => rates.jpyUsd

/-! ## §4. The two SQL expressions. -/

/-- A `CASE` without `ELSE`: the first branch whose condition holds. -/
def caseWhen (branches : List (Bool × Option ℚ)) : Option ℚ :=
  match branches.find? Prod.fst with
  | some branch => branch.2
  | none => none

/-- `rateLit`: the literal of a rate, 0 without one. -/
def rateLit (v : Option ℤ) : ℕ :=
  match v with
  | some r => if 0 < r then r.toNat else 0
  | none => 0

/-- `(price * rate::numeric) / scale::numeric`; a price that is not positive is caught before. -/
def priceTimes (c : Row) (rate scale : ℕ) : Option ℚ := some (numericDiv (c.price.toNat * rate) scale)

def consignmentPriceUsdRawSql (rates : Option PartialFxRates) (c : Row) : Option ℚ :=
  let nativeScale := askingAssetUsdScale askingNativeDecimals
  let eur := rateLit (rates.bind PartialFxRates.eurUsd)
  let eth := rateLit (rates.bind PartialFxRates.ethUsd)
  let cny := rateLit (rates.bind PartialFxRates.cnyUsd)
  let inr := rateLit (rates.bind PartialFxRates.inrUsd)
  let brl := rateLit (rates.bind PartialFxRates.brlUsd)
  let idr := rateLit (rates.bind PartialFxRates.idrUsd)
  let aud := rateLit (rates.bind PartialFxRates.audUsd)
  let aed := rateLit (rates.bind PartialFxRates.aedUsd)
  let krw := rateLit (rates.bind PartialFxRates.krwUsd)
  let rub := rateLit (rates.bind PartialFxRates.rubUsd)
  let jpy := rateLit (rates.bind PartialFxRates.jpyUsd)
  let usdcBranches := askingUsdcFacts.map fun fact =>
    (decide (c.denominationKind = .asset ∧ c.chainId = fact.chainId ∧
        lower c.asset = lower fact.address),
      priceTimes c fiatScale (askingAssetUsdScale fact.decimals))
  let nativeAddr := lower askingNativeAsset
  caseWhen ([(decide (c.price ≤ 0), none)] ++ usdcBranches ++
    [(decide (c.denominationKind = .asset ∧ (c.asset = [] ∨ lower c.asset = nativeAddr) ∧ 0 < eth),
        priceTimes c eth nativeScale),
      (decide (c.denominationKind = .asset), none),
      (decide (upper c.currencyCode = "USD".toList ∨ upper c.currencyCode = []), some c.price),
      (decide (upper c.currencyCode = "EUR".toList ∧ 0 < eur), priceTimes c eur fiatScale),
      (decide (upper c.currencyCode = "CNY".toList ∧ 0 < cny), priceTimes c cny fiatScale),
      (decide (upper c.currencyCode = "INR".toList ∧ 0 < inr), priceTimes c inr fiatScale),
      (decide (upper c.currencyCode = "BRL".toList ∧ 0 < brl), priceTimes c brl fiatScale),
      (decide (upper c.currencyCode = "IDR".toList ∧ 0 < idr), priceTimes c idr fiatScale),
      (decide (upper c.currencyCode = "AUD".toList ∧ 0 < aud), priceTimes c aud fiatScale),
      (decide (upper c.currencyCode = "AED".toList ∧ 0 < aed), priceTimes c aed fiatScale),
      (decide (upper c.currencyCode = "KRW".toList ∧ 0 < krw), priceTimes c krw fiatScale),
      (decide (upper c.currencyCode = "RUB".toList ∧ 0 < rub), priceTimes c rub fiatScale),
      (decide (upper c.currencyCode = "JPY".toList ∧ 0 < jpy), priceTimes c jpy fiatScale)])

/-- The expression of the query builder, in its own words. -/
def consignmentPriceUsdSql (rates : Option PartialFxRates) (consignment : Row) : Option ℚ :=
  let nativeScale := askingAssetUsdScale askingNativeDecimals
  let rate (field : PartialFxRates → Option ℤ) := rateLit (rates.bind field)
  let usdcBranches := askingUsdcFacts.map fun fact =>
    let assetScale := askingAssetUsdScale fact.decimals
    (decide (consignment.denominationKind = .asset ∧ consignment.chainId = fact.chainId ∧
        lower consignment.asset = lower fact.address), priceTimes consignment fiatScale assetScale)
  let fiatBranch (code : Text) (field : PartialFxRates → Option ℤ) :=
    (decide (upper consignment.currencyCode = code ∧ 0 < rate field),
      priceTimes consignment (rate field) fiatScale)
  caseWhen ((decide (consignment.price ≤ 0), none) :: (usdcBranches ++
    [(decide (consignment.denominationKind = .asset ∧
          (consignment.asset = [] ∨ lower consignment.asset = lower askingNativeAsset) ∧
          0 < rate PartialFxRates.ethUsd),
        priceTimes consignment (rate PartialFxRates.ethUsd) nativeScale),
      (decide (consignment.denominationKind = .asset), none),
      (decide (upper consignment.currencyCode = "USD".toList ∨ upper consignment.currencyCode = []),
        some consignment.price),
      fiatBranch "EUR".toList PartialFxRates.eurUsd,
      fiatBranch "CNY".toList PartialFxRates.cnyUsd,
      fiatBranch "INR".toList PartialFxRates.inrUsd,
      fiatBranch "BRL".toList PartialFxRates.brlUsd,
      fiatBranch "IDR".toList PartialFxRates.idrUsd,
      fiatBranch "AUD".toList PartialFxRates.audUsd,
      fiatBranch "AED".toList PartialFxRates.aedUsd,
      fiatBranch "KRW".toList PartialFxRates.krwUsd,
      fiatBranch "RUB".toList PartialFxRates.rubUsd,
      fiatBranch "JPY".toList PartialFxRates.jpyUsd]))

/-! ## §5. The client. -/

/-- A currency of the client: the dollar is none of `LegacyFiat`. -/
abbrev Currency := Option LegacyFiat

/-- The loop of `decodeCurrencyCode`, two characters a byte. -/
def decodeBytes (out : Text) : Text → Text
  | a :: b :: rest =>
    match parseInt16 [a, b] with
    | none => out
    | some byte =>
      if byte = 0 then out
      else if byte < 0x20 ∨ 0x7e < byte then []
      else decodeBytes (out ++ [Char.ofNat byte.toNat]) rest
  | _ => out

def decodeCurrencyCode (raw : Text) : Text :=
  match raw with
  | '0' :: 'x' :: digits => decodeBytes [] digits
  | _ => []

def fiatCurrencyLabel (currencyCode : Text) : Text :=
  let raw := trim currencyCode
  if raw = [] then "USD".toList
  else if "0x".toList <+: raw then
    if decodeCurrencyCode raw = [] then "USD".toList else decodeCurrencyCode raw
  else upper raw

/-- What is no known code is taken for the dollar. -/
def legacyFiatFromCurrencyCode (code : Text) : Currency :=
  LegacyFiat.all.find? fun currency => currency.code = upper code

inductive ListingAskingPrice
  | fiat (amount1e8 : ℤ) (currencyCode : Text)
  | asset (amount : ℤ) (decimals : ℕ) (identity : SettlementAssetIdentity)
  | unresolved

/-- `erc20Decimals` is what was read from the chain, where it was. -/
def deriveListingAskingPrice (c : Row) (erc20Decimals : Option ℕ) : ListingAskingPrice :=
  if c.price ≤ 0 then .unresolved
  else
    match c.denominationKind with
    | .fiat => .fiat c.price (fiatCurrencyLabel c.currencyCode)
    | .asset =>
      let settlement := resolveSettlementAssetMeta c.chainId c.asset
      match erc20Decimals <|> settlement.decimals with
      | none => .unresolved
      | some decimals => .asset c.price decimals settlement.identity

def askingAssetAmountToUsd1e8 (amount : ℤ) (decimals : ℕ) (identity : SettlementAssetIdentity)
    (ethUsd1e8 : Option ℤ) : Option ℤ :=
  let scale : ℤ := askingAssetUsdScale decimals
  match identity with
  | .usdc => some ((amount * fiatScale).tdiv scale)
  | .native =>
    match ethUsd1e8 with
    | some rate => if rate ≤ 0 then none else some ((amount * rate).tdiv scale)
    | none => none
  | .unknown => none

structure AskingDisplaySource where
  amount1e8 : ℤ
  listingCurrency : Currency

def toAskingDisplaySource (asking : ListingAskingPrice) (ethUsd1e8 : Option ℤ) :
    Option AskingDisplaySource :=
  match asking with
  | .unresolved => none
  | .fiat amount1e8 currencyCode =>
    some { amount1e8 := amount1e8, listingCurrency := legacyFiatFromCurrencyCode currencyCode }
  | .asset amount decimals identity =>
    (askingAssetAmountToUsd1e8 amount decimals identity ethUsd1e8).map fun amount1e8 =>
      { amount1e8 := amount1e8, listingCurrency := none }

def fiatUsdRate (code : Currency) (rates : Option PartialFxRates) : Option ℤ :=
  match code with
  | none => some fiatScale
  | some currency =>
    match rates.bind (·.fiat currency) with
    | some rate => if 0 < rate then some rate else none
    | none => none

def listingToUsd1e8 (fiatPrice1e8 : ℤ) (fiatCurrency : Currency) (rates : Option PartialFxRates) :
    Option ℤ :=
  match fiatUsdRate fiatCurrency rates with
  | none => none
  | some rate =>
    if fiatCurrency = none then some fiatPrice1e8 else some ((fiatPrice1e8 * rate).tdiv fiatScale)

/-- The dollar price a card shows. -/
def shownUsd1e8 (rates : Option PartialFxRates) (c : Row) : Option ℤ :=
  match toAskingDisplaySource (deriveListingAskingPrice c none)
    (rates.bind PartialFxRates.ethUsd) with
  | none => none
  | some source => listingToUsd1e8 source.amount1e8 source.listingCurrency rates

/-! ## §6. The law. -/

/-- A filter drops the rows without a price and keeps what is within its bounds. -/
def passes (min max : Option ℤ) (usd : Option ℚ) : Prop :=
  ∃ x, usd = some x ∧ (∀ m ∈ min, (m : ℚ) ≤ x) ∧ ∀ m ∈ max, x ≤ (m : ℚ)

def within (min max : Option ℤ) (usd : Option ℤ) : Prop :=
  ∃ x, usd = some x ∧ (∀ m ∈ min, m ≤ x) ∧ ∀ m ∈ max, x ≤ m

structure PricesAgree (rates : Option PartialFxRates) (c : Row) : Prop where
  sql : consignmentPriceUsdRawSql rates c = consignmentPriceUsdSql rates c
  shown : consignmentPriceUsdSql rates c = (shownUsd1e8 rates c).map fun (x : ℤ) => (x : ℚ)
  filter : ∀ min max, passes min max (consignmentPriceUsdSql rates c) ↔
    within min max (shownUsd1e8 rates c)

/-! ## §7. What each reads in a row. -/

inductive Reading
  | usdc
  | native (decimals : ℕ)
  | fiat (currency : Currency)
deriving DecidableEq

def positive (v : Option ℤ) : Option ℕ :=
  match v with
  | some r => if 0 < r then some r.toNat else none
  | none => none

/-- What the price is multiplied by, if it is known. -/
def Reading.rate (rates : Option PartialFxRates) : Reading → Option ℕ
  | usdc => some fiatScale
  | native _ => positive (rates.bind PartialFxRates.ethUsd)
  | fiat none => some fiatScale
  | fiat (some currency) => positive (rates.bind (·.fiat currency))

/-- And divided by. -/
def Reading.scale : Reading → ℕ
  | usdc => 10 ^ 6
  | native decimals => 10 ^ decimals
  | fiat _ => fiatScale

/-- By the conditions of the SQL. -/
def sqlReading (c : Row) : Option Reading :=
  match c.denominationKind with
  | .asset =>
    if ∃ fact ∈ askingUsdcFacts, c.chainId = fact.chainId ∧ lower c.asset = lower fact.address then
      some .usdc
    else if c.asset = [] ∨ lower c.asset = lower askingNativeAsset then some (.native 18)
    else none
  | .fiat =>
    if upper c.currencyCode = "USD".toList ∨ upper c.currencyCode = [] then some (.fiat none)
    else (LegacyFiat.all.find? fun currency => currency.code = upper c.currencyCode).map
      fun currency => .fiat (some currency)

/-- By what the client resolves. -/
def clientReading (c : Row) : Option Reading :=
  match c.denominationKind with
  | .asset =>
    match resolveSettlementAssetMeta c.chainId c.asset with
    | { decimals := some _, identity := .usdc } => some .usdc
    | { decimals := some decimals, identity := .native } => some (.native decimals)
    | _ => none
  | .fiat => some (.fiat (legacyFiatFromCurrencyCode (fiatCurrencyLabel c.currencyCode)))

theorem Reading.scale_pos (r : Reading) : 0 < r.scale := by
  cases r with
  | usdc => exact Nat.pow_pos (by omega)
  | native decimals => exact Nat.pow_pos (by omega)
  | fiat currency => show 0 < fiatScale; unfold fiatScale; omega

theorem askingUsdcFacts_eq : askingUsdcFacts =
    [{ chainId := 84532, address := "0x036CbD53842c5426634e7929541eC2318f3dCF7e".toList, decimals := 6 },
      { chainId := 11155111, address := "0x1c7D4B196Cb0C7B01d743Fbc6116a902379C7238".toList,
        decimals := 6 }] := by
  decide +kernel

theorem askingNativeDecimals_eq : askingNativeDecimals = 18 := by decide +kernel

theorem rateLit_pos {v : Option ℤ} : 0 < rateLit v ↔ positive v = some (rateLit v) := by
  unfold rateLit positive
  cases v with
  | none => simp
  | some r =>
    simp only
    split
    · simp
      omega
    · simp

theorem positive_eq (v : Option ℤ) : positive v = if 0 < rateLit v then some (rateLit v) else none := by
  by_cases h : 0 < rateLit v
  · rw [if_pos h]
    exact rateLit_pos.mp h
  · rw [if_neg h]
    unfold rateLit positive at *
    cases v with
    | none => rfl
    | some r =>
      simp only at h ⊢
      split
      · next hr =>
        rw [if_pos hr] at h
        omega
      · rfl

theorem caseWhen_cons (b : Bool) (v : Option ℚ) (branches : List (Bool × Option ℚ)) :
    caseWhen ((b, v) :: branches) = if b = true then v else caseWhen branches := by
  unfold caseWhen
  rw [List.find?_cons]
  cases b <;> rfl

theorem LegacyFiat.code_injective : Function.Injective LegacyFiat.code := by
  intro a b h
  cases a <;> cases b <;> first | rfl | (revert h; decide)

/-- Branches for currencies: at most one code fits, so the branch of a currency without a rate is
    followed by none that holds. -/
theorem caseWhen_fiat (code : Text) (rate : LegacyFiat → ℕ) (value : LegacyFiat → Option ℚ)
    (currencies : List LegacyFiat) (hnodup : currencies.Nodup) :
    caseWhen (currencies.map fun currency =>
        (decide (code = currency.code ∧ 0 < rate currency), value currency)) =
      (currencies.find? fun currency => currency.code = code).bind fun currency =>
        if 0 < rate currency then value currency else none := by
  induction currencies with
  | nil => rfl
  | cons currency currencies ih =>
    rw [List.nodup_cons] at hnodup
    rw [List.map_cons, caseWhen_cons, ih hnodup.2, List.find?_cons]
    by_cases hcode : currency.code = code
    · have hnone : currencies.find? (fun other => decide (other.code = code)) = none := by
        rw [List.find?_eq_none]
        intro other hother hsame
        have hsame : other = currency :=
          LegacyFiat.code_injective ((of_decide_eq_true hsame).trans hcode.symm)
        exact hnodup.1 (hsame ▸ hother)
      rw [hnone]
      by_cases hrate : 0 < rate currency <;> simp [hcode, hrate]
    · have hcode' : code ≠ currency.code := fun h => hcode h.symm
      simp [hcode, hcode']

theorem raw_eq_sql (rates : Option PartialFxRates) (c : Row) :
    consignmentPriceUsdRawSql rates c = consignmentPriceUsdSql rates c := rfl

theorem numericDiv_mul (p : ℕ) {d : ℕ} (hd : 0 < d) : numericDiv (p * d) d = p := by
  have h := (numericDiv_eq_div (n := p * d) hd).mpr (roundsDown_of_dvd hd (Nat.dvd_mul_left d p))
  rwa [Nat.mul_div_cancel p hd] at h

/-- The price by a reading: the SQL's. -/
theorem sql_eq (rates : Option PartialFxRates) (c : Row) :
    consignmentPriceUsdSql rates c =
      if c.price ≤ 0 then none
      else (sqlReading c).bind fun r =>
        (r.rate rates).map fun m => numericDiv (c.price.toNat * m) r.scale := by
  unfold consignmentPriceUsdSql
  simp only
  rw [caseWhen_cons, askingUsdcFacts_eq, askingNativeDecimals_eq]
  by_cases hprice : c.price ≤ 0
  · simp [hprice]
  · rw [if_neg (by simpa using hprice), if_neg hprice]
    simp only [List.map_cons, List.map_nil, List.cons_append, List.nil_append]
    rw [caseWhen_cons, caseWhen_cons, caseWhen_cons, caseWhen_cons, caseWhen_cons]
    unfold sqlReading
    rw [askingUsdcFacts_eq]
    cases hkind : c.denominationKind with
    | asset =>
      simp only [true_and, decide_eq_true_eq, List.mem_cons, List.not_mem_nil, or_false,
        exists_eq_or_imp, exists_eq_left, if_true]
      by_cases hbase : c.chainId = 84532 ∧
          lower c.asset = lower "0x036CbD53842c5426634e7929541eC2318f3dCF7e".toList
      · rw [if_pos hbase, if_pos (Or.inl hbase)]
        rfl
      · rw [if_neg hbase]
        by_cases hsepolia : c.chainId = 11155111 ∧
            lower c.asset = lower "0x1c7D4B196Cb0C7B01d743Fbc6116a902379C7238".toList
        · rw [if_pos hsepolia, if_pos (Or.inr hsepolia)]
          rfl
        · have hnone : ¬ ((c.chainId = 84532 ∧
              lower c.asset = lower "0x036CbD53842c5426634e7929541eC2318f3dCF7e".toList) ∨
              c.chainId = 11155111 ∧
                lower c.asset = lower "0x1c7D4B196Cb0C7B01d743Fbc6116a902379C7238".toList) :=
            fun h => h.elim hbase hsepolia
          rw [if_neg hsepolia, if_neg hnone]
          by_cases hnative : c.asset = [] ∨ lower c.asset = lower askingNativeAsset
          · rw [if_pos hnative]
            show _ = (positive _).map _
            rw [positive_eq]
            by_cases heth : 0 < rateLit (rates.bind PartialFxRates.ethUsd)
            · rw [if_pos ⟨hnative, heth⟩, if_pos heth]
              rfl
            · rw [if_neg (fun h => heth h.2), if_neg heth]
              rfl
          · rw [if_neg (fun h => hnative h.1), if_neg hnative]
            rfl
    | fiat =>
      have hkind' : ¬ DenominationKind.fiat = DenominationKind.asset := by decide
      simp only [hkind', false_and, decide_false, Bool.false_eq_true, if_false, decide_eq_true_eq]
      by_cases husd : upper c.currencyCode = "USD".toList ∨ upper c.currencyCode = []
      · rw [if_pos husd, if_pos husd]
        show some (c.price : ℚ) = some (numericDiv (c.price.toNat * fiatScale) fiatScale)
        have hexact : numericDiv (c.price.toNat * fiatScale) fiatScale = c.price.toNat :=
          numericDiv_mul _ (Reading.scale_pos (.fiat none))
        rw [hexact]
        have hcast : ((c.price.toNat : ℤ) : ℚ) = (c.price : ℚ) := by
          rw [Int.toNat_of_nonneg (by omega)]
        rw [← hcast]
        rfl
      · rw [if_neg husd, if_neg husd]
        have hfiat := caseWhen_fiat (upper c.currencyCode)
          (fun currency => rateLit (rates.bind (·.fiat currency)))
          (fun currency => priceTimes c (rateLit (rates.bind (·.fiat currency))) fiatScale)
          LegacyFiat.all (by decide)
        refine Eq.trans hfiat ?_
        rw [Option.bind_map]
        refine congrArg _ (funext fun currency => ?_)
        show _ = (positive _).map _
        rw [positive_eq]
        split <;> rfl

theorem meta_usdc {chainId : ℕ} {asset : Text}
    (h : (resolveSettlementAssetMeta chainId asset).identity = .usdc) :
    (resolveSettlementAssetMeta chainId asset).decimals = some 6 := by
  unfold resolveSettlementAssetMeta at *
  simp only at *
  split at h <;> split at h <;> (try split at h) <;> (try split at h) <;> simp_all

/-- BigInt division of what is not negative. -/
theorem tdiv_eq {price : ℤ} (hprice : ¬ price ≤ 0) (m s : ℕ) :
    (price * (m : ℤ)).tdiv (s : ℤ) = ((price.toNat * m / s : ℕ) : ℤ) := by
  have hnat : price = (price.toNat : ℤ) := (Int.toNat_of_nonneg (by omega)).symm
  rw [hnat, Int.toNat_natCast, ← Int.natCast_mul]
  exact (Int.ofNat_tdiv _ _).symm

/-- The price by a reading: the client's. -/
theorem shown_eq (rates : Option PartialFxRates) (c : Row) :
    shownUsd1e8 rates c =
      if c.price ≤ 0 then none
      else (clientReading c).bind fun r =>
        (r.rate rates).map fun m => ((c.price.toNat * m / r.scale : ℕ) : ℤ) := by
  unfold shownUsd1e8 deriveListingAskingPrice
  by_cases hprice : c.price ≤ 0
  · rw [if_pos hprice, if_pos hprice]
    rfl
  · rw [if_neg hprice, if_neg hprice]
    unfold clientReading
    cases c.denominationKind with
    | fiat =>
      simp only [toAskingDisplaySource, Option.bind_some]
      cases legacyFiatFromCurrencyCode (fiatCurrencyLabel c.currencyCode) with
      | none =>
        have hexact : c.price.toNat * fiatScale / fiatScale = c.price.toNat :=
          Nat.mul_div_cancel _ (Reading.scale_pos (.fiat none))
        show some c.price = some ((c.price.toNat * fiatScale / fiatScale : ℕ) : ℤ)
        rw [hexact, Int.toNat_of_nonneg (by omega)]
      | some currency =>
        unfold listingToUsd1e8 fiatUsdRate Reading.rate positive
        simp only
        cases rates.bind (·.fiat currency) with
        | none => rfl
        | some rate =>
          simp only
          by_cases hrate : 0 < rate
          · have hnat : rate = (rate.toNat : ℤ) := (Int.toNat_of_nonneg (by omega)).symm
            rw [if_pos hrate, if_pos hrate]
            show some ((c.price * rate).tdiv fiatScale) = some _
            rw [hnat, tdiv_eq hprice, Int.toNat_natCast]
            rfl
          · rw [if_neg hrate, if_neg hrate]
            rfl
    | asset =>
      simp only
      cases hmeta : resolveSettlementAssetMeta c.chainId c.asset with
      | mk decimals identity =>
        cases decimals with
        | none => cases identity <;> rfl
        | some decimals =>
          cases identity with
          | unknown => rfl
          | usdc =>
            have hsix : decimals = 6 := by
              have h : (resolveSettlementAssetMeta c.chainId c.asset).decimals = some 6 :=
                meta_usdc (by rw [hmeta])
              rw [hmeta] at h
              exact Option.some.inj h
            subst hsix
            show some ((c.price * fiatScale).tdiv ((10 ^ 6 : ℕ) : ℤ)) = some _
            rw [tdiv_eq hprice]
            rfl
          | native =>
            -- Nothing was read from the chain, so the decimals are the stack's.
            show (match toAskingDisplaySource (.asset c.price decimals .native)
                (rates.bind PartialFxRates.ethUsd) with
              | none => none
              | some source => listingToUsd1e8 source.amount1e8 source.listingCurrency rates) = _
            simp only [toAskingDisplaySource, askingAssetAmountToUsd1e8, Option.bind_some,
              Reading.rate, positive]
            cases rates.bind PartialFxRates.ethUsd with
            | none => rfl
            | some rate =>
              simp only
              by_cases hrate : 0 < rate
              · have hnat : rate = (rate.toNat : ℤ) := (Int.toNat_of_nonneg (by omega)).symm
                rw [if_pos hrate, if_neg (by omega)]
                show some ((c.price * rate).tdiv ((10 ^ decimals : ℕ) : ℤ)) = some _
                rw [hnat, tdiv_eq hprice, Int.toNat_natCast]
                rfl
              · rw [if_neg hrate, if_pos (by omega)]
                rfl

/-! ## §8. What the SQL knows, the client knows too. -/

/-- Blanks are far from the letters. -/
theorem jsWhiteSpace_far {c : Char} (h : jsWhiteSpace c = true) : c.toNat ≤ 32 ∨ 160 ≤ c.toNat := by
  unfold jsWhiteSpace at h
  simp only [decide_eq_true_eq] at h
  omega

theorem jsWhiteSpace_upper {c : Char} (h : 'A' ≤ c.toUpper ∧ c.toUpper ≤ 'Z') :
    jsWhiteSpace c = false := by
  cases hspace : jsWhiteSpace c with
  | false => rfl
  | true =>
    have hfar := jsWhiteSpace_far hspace
    have hkeep : c.toUpper = c := by
      unfold Char.toUpper
      rw [dif_neg]
      rintro ⟨h1, h2⟩
      rw [UInt32.le_iff_toNat_le] at h1 h2
      change 97 ≤ c.toNat at h1
      change c.toNat ≤ 122 at h2
      omega
    rw [hkeep] at h
    obtain ⟨h1, h2⟩ := h
    change ('A'.val ≤ c.val) at h1
    change (c.val ≤ 'Z'.val) at h2
    rw [UInt32.le_iff_toNat_le] at h1 h2
    change 65 ≤ c.toNat at h1
    change c.toNat ≤ 90 at h2
    omega

theorem jsWhiteSpace_lower {c : Char} (h : c.toLower = '0' ∨ c.toLower = 'x') :
    jsWhiteSpace c = false := by
  cases hspace : jsWhiteSpace c with
  | false => rfl
  | true =>
    have hfar := jsWhiteSpace_far hspace
    have hkeep : c.toLower = c := by
      unfold Char.toLower
      rw [dif_neg]
      rintro ⟨h1, h2⟩
      rw [ge_iff_le, UInt32.le_iff_toNat_le] at h1
      rw [UInt32.le_iff_toNat_le] at h2
      change 65 ≤ c.toNat at h1
      change c.toNat ≤ 90 at h2
      omega
    rw [hkeep] at h
    rcases h with rfl | rfl
    · revert hfar; decide
    · revert hfar; decide

/-- A code in capital letters is its own label. -/
theorem label_known {code t : Text} (ht : upper code = t) (hne : t ≠ [])
    (hletters : t.all (fun c => 'A' ≤ c ∧ c ≤ 'Z') = true) : fiatCurrencyLabel code = t := by
  have hletter : ∀ c ∈ code, 'A' ≤ c.toUpper ∧ c.toUpper ≤ 'Z' := fun c hc =>
    of_decide_eq_true (List.all_eq_true.mp hletters c.toUpper (ht ▸ List.mem_map_of_mem hc))
  have htrim : trim code = code :=
    Kargain.ProtocolAddress.trim_eq_self fun c hc => jsWhiteSpace_upper (hletter c hc)
  have hcode : code ≠ [] := by
    intro hnil
    rw [hnil] at ht
    exact hne ht.symm
  have hplain : ¬ "0x".toList <+: code := by
    rintro ⟨rest, hrest⟩
    have hzero := hletter '0' (hrest ▸ by simp)
    revert hzero
    decide
  unfold fiatCurrencyLabel
  simp only
  rw [htrim, if_neg hcode, if_neg hplain, ht]

theorem upper_code (currency : LegacyFiat) : upper currency.code = currency.code ∧
    currency.code ≠ [] ∧ currency.code.all (fun c => 'A' ≤ c ∧ c ≤ 'Z') = true := by
  cases currency <;> decide

theorem legacyFiat_code (currency : LegacyFiat) :
    legacyFiatFromCurrencyCode currency.code = some currency := by
  cases currency <;> decide

theorem fiat_same {c : Row} (hkind : c.denominationKind = .fiat) {r : Reading}
    (h : sqlReading c = some r) : clientReading c = some r := by
  unfold sqlReading at h
  unfold clientReading
  rw [hkind] at h ⊢
  simp only at h ⊢
  split at h
  · next husd =>
    rw [← h]
    have hlabel : fiatCurrencyLabel c.currencyCode = "USD".toList := by
      rcases husd with husd | hnil
      · exact label_known husd (by decide) (by decide)
      · rw [List.map_eq_nil_iff.mp hnil]
        decide
    rw [hlabel]
    decide
  · rw [Option.map_eq_some_iff] at h
    obtain ⟨currency, hfind, hr⟩ := h
    have hfound := List.find?_some hfind
    have hcode : currency.code = upper c.currencyCode := of_decide_eq_true hfound
    obtain ⟨-, hne, hletters⟩ := upper_code currency
    rw [label_known hcode.symm hne hletters, legacyFiat_code, hr]

theorem getAddress_some {t address : Text} (h : getAddress t = some address) : address = lower t := by
  unfold getAddress at h
  split at h
  · split at h
    · exact (Option.some.inj h).symm
    · cases h
  · cases h

/-- Where the SQL sees the native asset the client sees no token. -/
theorem native_same {c : Row} {decimals : ℕ} (h : sqlReading c = some (.native decimals)) :
    clientReading c = (commercialActive c.chainId).map fun stack => .native stack.nativeDecimals := by
  unfold sqlReading at h
  unfold clientReading
  cases hkind : c.denominationKind with
  | fiat =>
    rw [hkind] at h
    simp only at h
    split at h
    · cases h
    · rw [Option.map_eq_some_iff] at h
      obtain ⟨currency, -, hr⟩ := h
      cases hr
  | asset =>
    rw [hkind] at h
    simp only at h ⊢
    split at h
    · cases h
    · split at h
      · next hnative =>
        have hraw : trim c.asset = [] ∨ isZero (trim c.asset) = true := by
          rcases hnative with hnil | hzero
          · left
            rw [hnil]
            rfl
          · right
            have hchar : ∀ x ∈ c.asset, x.toLower = '0' ∨ x.toLower = 'x' := by
              intro x hx
              have hin : x.toLower ∈ lower askingNativeAsset := hzero ▸ List.mem_map_of_mem hx
              have hall : (lower askingNativeAsset).all (fun y => y = '0' ∨ y = 'x') = true := by decide
              exact of_decide_eq_true (List.all_eq_true.mp hall _ hin)
            rw [Kargain.ProtocolAddress.trim_eq_self fun x hx => jsWhiteSpace_lower (hchar x hx)]
            unfold isZero
            cases haddr : getAddress c.asset with
            | none => rfl
            | some address =>
              simp only [decide_eq_true_eq]
              rw [getAddress_some haddr, hzero]
              decide
        unfold resolveSettlementAssetMeta
        simp only
        rw [if_pos hraw]
        cases commercialActive c.chainId <;> rfl
      · cases h

theorem numericDiv_sol {n : ℕ} (hn : 0 < n) : numericDiv n (10 ^ 18) ≠ ((n / 10 ^ 9 : ℕ) : ℚ) := by
  intro h
  unfold numericDiv at h
  have hscale : n < 10 ^ 9 → 10 ^ 18 ≤ n * 10 ^ divScale n (10 ^ 18) := by
    intro hlt
    have hweight : weight (10 ^ 18) = 4 := by
      unfold weight
      rw [Nat.log_eq_iff (Or.inl (by omega))]
      norm_num
    have hsmall : weight n ≤ 2 := by
      unfold weight
      have : Nat.log 10000 n < 3 := Nat.log_lt_of_lt_pow (by omega) (by omega)
      omega
    have hpow : 10000 ^ weight n ≤ n := Nat.pow_log_le_self 10000 (by omega)
    have hdigits : 32 - 4 * weight n ≤ divScale n (10 ^ 18) := by
      unfold divScale
      rw [hweight]
      simp only
      split <;> omega
    calc 10 ^ 18 ≤ 10 ^ 32 := by norm_num
      _ = 10000 ^ weight n * 10 ^ (32 - 4 * weight n) := by
        have hten : 10000 ^ weight n = 10 ^ (4 * weight n) := by
          rw [Nat.pow_mul]
        rw [hten, ← Nat.pow_add]
        congr 1
        omega
      _ ≤ n * 10 ^ divScale n (10 ^ 18) :=
        Nat.mul_le_mul hpow (Nat.pow_le_pow_right (by omega) hdigits)
  generalize divScale n (10 ^ 18) = s at h hscale
  have hs : (0 : ℚ) < 10 ^ s := by positivity
  rw [div_eq_iff hs.ne'] at h
  have hnat : (2 * n * 10 ^ s + 10 ^ 18) / (2 * 10 ^ 18) = n / 10 ^ 9 * 10 ^ s := by exact_mod_cast h
  have hone : 1 ≤ 10 ^ s := Nat.one_le_pow _ _ (by omega)
  have hq : n < (n / 10 ^ 9 + 1) * 10 ^ 9 := by omega
  by_cases hzero : n / 10 ^ 9 = 0
  · have hbig := hscale (by omega)
    rw [hzero, Nat.zero_mul, Nat.div_eq_zero_iff] at hnat
    have : 2 * n * 10 ^ s = 2 * (n * 10 ^ s) := by ring
    omega
  · -- The dollars of a lamport are a thousand million times those of a wei.
    have hle := Nat.div_mul_le_self (2 * n * 10 ^ s + 10 ^ 18) (2 * 10 ^ 18)
    rw [hnat] at hle
    have hmul : n * 10 ^ s ≤ 2 * 10 ^ 9 * (n / 10 ^ 9 * 10 ^ s) := by
      have hn2 : n ≤ 2 * 10 ^ 9 * (n / 10 ^ 9) := by omega
      calc n * 10 ^ s ≤ 2 * 10 ^ 9 * (n / 10 ^ 9) * 10 ^ s := Nat.mul_le_mul_right _ hn2
        _ = _ := by ring
    have hpos : 1 ≤ n / 10 ^ 9 * 10 ^ s := Nat.mul_pos (by omega) hone
    have : 2 * n * 10 ^ s = 2 * (n * 10 ^ s) := by ring
    omega

/-! ## §9. When the prices agree. -/

/-- Both read the same, and what the client cuts off the SQL rounds off; or both are without a
    rate.  The last case is a token the SQL knows by letters the client takes for no address. -/
def ConvertsAlike (rates : Option PartialFxRates) (c : Row) : Prop :=
  c.price ≤ 0 ∨
  match sqlReading c, clientReading c with
  | none, none => True
  | none, some r => r.rate rates = none
  | some r, none => r.rate rates = none
  | some r, some r' =>
    (r.rate rates = none ∧ r'.rate rates = none) ∨
    (r = r' ∧ ∀ m, r.rate rates = some m → RoundsDown (c.price.toNat * m) r.scale) ∨
    (r = .usdc ∧ ∃ m decimals, r' = .native decimals ∧ r'.rate rates = some m ∧
      100 * c.price.toNat = c.price.toNat * m / 10 ^ decimals)

theorem rate_pos {rates : Option PartialFxRates} {r : Reading} {m : ℕ} (h : r.rate rates = some m) :
    0 < m := by
  have hpositive : ∀ v : Option ℤ, positive v = some m → 0 < m := by
    intro v hv
    unfold positive at hv
    split at hv
    · split at hv
      · have := Option.some.inj hv
        omega
      · cases hv
    · cases hv
  unfold Reading.rate at h
  split at h
  · rw [← Option.some.inj h]
    unfold fiatScale
    omega
  · exact hpositive _ h
  · rw [← Option.some.inj h]
    unfold fiatScale
    omega
  · exact hpositive _ h

theorem clientReading_asset {c : Row} (hkind : c.denominationKind = .asset) (currency : Currency) :
    clientReading c ≠ some (.fiat currency) := by
  unfold clientReading
  rw [hkind]
  simp only
  split <;> simp

theorem sqlReading_usdc {c : Row} (h : sqlReading c = some .usdc) : c.denominationKind = .asset := by
  unfold sqlReading at h
  cases hkind : c.denominationKind with
  | asset => rfl
  | fiat =>
    rw [hkind] at h
    simp only at h
    split at h
    · cases h
    · rw [Option.map_eq_some_iff] at h
      obtain ⟨currency, -, hr⟩ := h
      cases hr

theorem sqlReading_native {c : Row} {decimals : ℕ} (h : sqlReading c = some (.native decimals)) :
    decimals = 18 := by
  unfold sqlReading at h
  split at h
  · split at h
    · cases h
    · split at h
      · cases h
        rfl
      · cases h
  · split at h
    · cases h
    · rw [Option.map_eq_some_iff] at h
      obtain ⟨currency, -, hr⟩ := h
      cases hr

theorem sqlReading_fiat {c : Row} {currency : Currency} (h : sqlReading c = some (.fiat currency)) :
    c.denominationKind = .fiat := by
  unfold sqlReading at h
  cases hkind : c.denominationKind with
  | fiat => rfl
  | asset =>
    rw [hkind] at h
    simp only at h
    split at h
    · cases h
    · split at h <;> cases h

theorem nativeDecimals_cases {chainId : ℕ} {stack : Stack} (h : commercialActive chainId = some stack) :
    stack.nativeDecimals = 18 ∨ stack.nativeDecimals = 9 := by
  unfold commercialActive at h
  split at h
  · rw [← Option.some.inj h]
    exact Or.inl rfl
  · split at h
    · rw [← Option.some.inj h]
      exact Or.inl rfl
    · split at h
      · rw [← Option.some.inj h]
        exact Or.inr rfl
      · cases h

/-- The dollars of a token with a fixed rate. -/
theorem usdc_value {p : ℕ} : numericDiv (p * fiatScale) (10 ^ 6) = ((100 * p : ℕ) : ℚ) := by
  have hsplit : p * fiatScale = 100 * p * 10 ^ 6 := by
    unfold fiatScale
    omega
  rw [hsplit, numericDiv_mul _ (Nat.pow_pos (by omega))]

/-- Two readings of one row that are not the same: the client takes the asset for the native one. -/
theorem readings_apart {c : Row} {r r' : Reading} (hs : sqlReading c = some r)
    (hc : clientReading c = some r') (hne : r ≠ r') :
    (r = .usdc ∧ ∃ decimals, r' = .native decimals) ∨ (r = .native 18 ∧ r' = .native 9) := by
  cases r with
  | usdc =>
    left
    refine ⟨rfl, ?_⟩
    cases r' with
    | usdc => exact absurd rfl hne
    | native decimals => exact ⟨decimals, rfl⟩
    | fiat currency => exact absurd hc (clientReading_asset (sqlReading_usdc hs) currency)
  | native decimals =>
    right
    have hdecimals := sqlReading_native hs
    subst hdecimals
    rw [native_same hs, Option.map_eq_some_iff] at hc
    obtain ⟨stack, hstack, hr⟩ := hc
    rw [← hr] at hne ⊢
    rcases nativeDecimals_cases hstack with h | h
    · rw [h] at hne
      exact absurd rfl hne
    · rw [h]
      exact ⟨rfl, rfl⟩
  | fiat currency =>
    rw [fiat_same (sqlReading_fiat hs) hs] at hc
    exact absurd (Option.some.inj hc) hne

/-- The values of two readings of one row. -/
theorem values_iff (rates : Option PartialFxRates) {c : Row} (hprice : ¬ c.price ≤ 0) {r r' : Reading}
    (hs : sqlReading c = some r) (hc : clientReading c = some r') :
    (r.rate rates).map (fun m => numericDiv (c.price.toNat * m) r.scale) =
        (r'.rate rates).map (fun m => ((c.price.toNat * m / r'.scale : ℕ) : ℚ)) ↔
      (r.rate rates = none ∧ r'.rate rates = none) ∨
      (r = r' ∧ ∀ m, r.rate rates = some m → RoundsDown (c.price.toNat * m) r.scale) ∨
      (r = .usdc ∧ ∃ m decimals, r' = .native decimals ∧ r'.rate rates = some m ∧
        100 * c.price.toNat = c.price.toNat * m / 10 ^ decimals) := by
  by_cases hsame : r = r'
  · subst hsame
    cases hrate : r.rate rates with
    | none => simp
    | some m =>
      have hdiv := numericDiv_eq_div (n := c.price.toNat * m) r.scale_pos
      constructor
      · intro h
        have hround := hdiv.mp (Option.some.inj h)
        right
        left
        exact ⟨rfl, fun m' hm' => Option.some.inj hm' ▸ hround⟩
      · rintro (⟨h, -⟩ | ⟨-, hround⟩ | ⟨husdc, m', decimals, hnative, -⟩)
        · cases h
        · exact congrArg some (hdiv.mpr (hround m rfl))
        · rw [husdc] at hnative
          cases hnative
  · rcases readings_apart hs hc hsame with ⟨rfl, decimals, rfl⟩ | ⟨rfl, rfl⟩
    · have husdc : Reading.usdc.rate rates = some fiatScale := rfl
      rw [husdc]
      show some (numericDiv (c.price.toNat * fiatScale) (10 ^ 6)) = _ ↔ _
      rw [usdc_value]
      cases hrate : (Reading.native decimals).rate rates with
      | none => simp
      | some m =>
        constructor
        · intro h
          have hvalue : ((100 * c.price.toNat : ℕ) : ℚ) = ((c.price.toNat * m / 10 ^ decimals : ℕ) : ℚ) :=
            Option.some.inj h
          right
          right
          exact ⟨rfl, m, decimals, rfl, rfl, by exact_mod_cast hvalue⟩
        · rintro (⟨h, -⟩ | ⟨h, -⟩ | ⟨-, m', decimals', hnative, hm, hvalue⟩)
          · cases h
          · cases h
          · cases hnative
            rw [← Option.some.inj hm] at hvalue
            show some _ = some _
            rw [hvalue]
            rfl
    · have hnine : (Reading.native 9).rate rates = (Reading.native 18).rate rates := rfl
      rw [hnine]
      cases hrate : (Reading.native 18).rate rates with
      | none => simp
      | some m =>
        constructor
        · intro h
          -- Lamports are never worth what as many wei are.
          have hpos : 0 < c.price.toNat * m := Nat.mul_pos (by omega) (rate_pos hrate)
          exact absurd (Option.some.inj h) (numericDiv_sol hpos)
        · rintro (⟨h, -⟩ | ⟨h, -⟩ | ⟨h, -⟩)
          · cases h
          · cases h
          · cases h

/-- **The prices agree**: for every row and all rates the two SQL expressions and what the client
    shows are one number or none, and filters follow what is shown, exactly if the row
    `ConvertsAlike`. -/
theorem prices_agree_iff (rates : Option PartialFxRates) (c : Row) :
    PricesAgree rates c ↔ ConvertsAlike rates c := by
  have hshown : consignmentPriceUsdSql rates c = (shownUsd1e8 rates c).map (fun (x : ℤ) => (x : ℚ)) ↔
      ConvertsAlike rates c := by
    rw [sql_eq, shown_eq]
    unfold ConvertsAlike
    by_cases hprice : c.price ≤ 0
    · simp [hprice]
    · rw [if_neg hprice, if_neg hprice]
      cases hs : sqlReading c with
      | none =>
        cases hc : clientReading c with
        | none => simp
        | some r' => cases hr : r'.rate rates <;> simp [hr, hprice]
      | some r =>
        cases hc : clientReading c with
        | none => cases hr : r.rate rates <;> simp [hr, hprice]
        | some r' =>
          have hvalues := values_iff rates hprice hs hc
          simp only [Option.bind_some, Option.map_map, hprice, false_or]
          refine Iff.trans ?_ hvalues
          have hcast : ((fun (x : ℤ) => (x : ℚ)) ∘ fun m => ((c.price.toNat * m / r'.scale : ℕ) : ℤ)) =
              fun m => ((c.price.toNat * m / r'.scale : ℕ) : ℚ) := by
            funext m
            exact Int.cast_natCast _
          rw [hcast]
  rw [← hshown]
  constructor
  · intro h
    exact h.shown
  · intro h
    refine ⟨raw_eq_sql rates c, h, fun min max => ?_⟩
    rw [h]
    unfold passes within
    cases shownUsd1e8 rates c with
    | none => simp
    | some x =>
      simp only [Option.map_some, Option.some.injEq, exists_eq_left']
      exact_mod_cast Iff.rfl

/-! ### Pounds shown as dollars. -/

def poundRow : Row where
  chainId := 11155111
  asset := askingNativeAsset
  denominationKind := .fiat
  currencyCode := "GBP".toList
  price := 10000000000

/-- 100 pounds, which Ethereum Sepolia lists: no price to the SQL, 100 dollars to the client. -/
theorem pounds_as_dollars : ¬ PricesAgree none poundRow := by
  intro h
  have hshown := h.shown
  revert hshown
  decide +kernel

end Kargain.Pricing.Browse
