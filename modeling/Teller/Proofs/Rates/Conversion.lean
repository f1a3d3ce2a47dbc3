/-
Amounts converted at a rate: how they are rounded, and that more is never converted into less.

* `PairQuote.product`: the exact product of an amount and a rate;
* `PairQuote.convert_eq_ok_iff`: what is converted is the product fitted into range and then rounded
  to cents;
* `PairQuote.convert_isRounded`: the two roundings are one, unless the first ends on half a cent and
  the second goes on away from the product; `PairQuote.convert_not_isRounded` is a case of that;
* `PairQuote.convert_mono`: conversion is monotone in the amount and in the rate, and equal amounts
  and rates are converted alike with whatever scales they are written.
-/
import Teller.Proofs.Decimal.Nearest

namespace Teller

open Decimal

/-! ### Products of positive factors -/

namespace Decimal

variable {a b d : Decimal}

/-- A decimal above zero has no sign and a mantissa. -/
lemma zero_lt_iff : zero < d ↔ d.negative = false ∧ 0 < d.mantissa := by
  have hlt : zero < d ↔ 0 < d.coefficient := by
    show (0 : ℤ) * 10 ^ d.scale < d.coefficient * 10 ^ 0 ↔ _
    rw [zero_mul, pow_zero, mul_one]
  rw [hlt, coefficient]
  cases hneg : d.negative with
  | false => simp
  | true => simp

lemma zero_lt_iff_toRat : zero < d ↔ 0 < d.toRat := by
  rw [lt_iff_toRat, toRat_zero]

lemma zero_lt_of_le (ha : zero < a) (h : a ≤ b) : zero < b := by
  rw [zero_lt_iff_toRat] at ha ⊢
  exact ha.trans_le (le_iff_toRat.mp h)

/-- An amount above zero that is a whole number of cents has a long mantissa if it is written with
more than eleven fraction digits. -/
lemma IsAmount.scale_le_of_isShort (h : a.IsAmount) (hshort : a.isShort = true) :
    a.scale ≤ 11 := by
  obtain ⟨n, hpos, hn⟩ := h
  have hunits := isUnits_iff.mp hn.isUnits
  have hmantissa : a.mantissa < 2 ^ 32 := of_decide_eq_true hshort
  have hcoefficient : a.coefficient ≤ a.mantissa := by
    rw [coefficient]
    split <;> omega
  by_contra hgt
  have hpow : (10 : ℤ) ^ 12 ≤ 10 ^ a.scale := pow_le_pow_right₀ (by norm_num) (by omega)
  have hone : (1 : ℤ) ≤ n := by exact_mod_cast hpos
  have hbig : (10 : ℤ) ^ 12 ≤ n * 10 ^ a.scale := by nlinarith
  omega

/-- **The product** of an amount and a positive factor is the exact product fitted into range: the
scales of two short factors never add up to more than 47, so no product is taken for zero. -/
theorem IsAmount.mul?_eq_fit? (ha : a.IsAmount) (hb : zero < b) :
    a.mul? b = fit? false (a.mantissa * b.mantissa) (a.scale + b.scale) := by
  obtain ⟨hna, hma⟩ := zero_lt_iff.mp (zero_lt_iff_toRat.mpr ha.toRat_pos)
  obtain ⟨hnb, hmb⟩ := zero_lt_iff.mp hb
  have hza : a.isZero = false := by simp [isZero, hma.ne']
  have hzb : b.isZero = false := by simp [isZero, hmb.ne']
  have hsign : (a.negative != b.negative) = false := by rw [hna, hnb]; rfl
  simp only [mul?, hza, hzb, hsign, Bool.or_self, Bool.false_eq_true, if_false]
  split
  · next hshort =>
    have hsa : a.scale ≤ 11 := ha.scale_le_of_isShort (Bool.and_eq_true_iff.mp hshort).1
    have hsb : b.scale ≤ 28 := b.scale_le
    rw [if_neg (by omega)]
    -- there is no sign to be struck
    cases hfit : fit? false (a.mantissa * b.mantissa) (a.scale + b.scale) with
    | none => rfl
    | some c =>
        obtain ⟨-, -, -, hnc, -⟩ := fit?_eq_some hfit
        rw [Option.map_some, withoutZeroSign, hnc, Bool.false_and, ← hnc]
  · rfl

/-- Mantissas and scales of positive factors give the exact product. -/
lemma toRat_mul_toRat (ha : zero < a) (hb : zero < b) :
    a.toRat * b.toRat = ((a.mantissa * b.mantissa : ℕ) : ℚ) / 10 ^ (a.scale + b.scale) := by
  have hcoefficient : ∀ {d : Decimal}, zero < d → d.coefficient = d.mantissa := fun h => by
    rw [coefficient, (zero_lt_iff.mp h).1, if_neg (by simp)]
  rw [toRat_eq, toRat_eq, hcoefficient ha, hcoefficient hb, div_mul_div_comm, pow_add]
  push_cast
  rfl

end Decimal

namespace PairQuote

variable {quote quote' : PairQuote} {value value' : Decimal} {currency : Currency}
  {source source' target target' : Money}

/-- The exact number of units of the target that an amount is worth. -/
def product (quote : PairQuote) (amount : Money) : ℚ :=
  amount.value.toRat * quote.rate.toRat

/-- The product as it is written before it is rounded to cents. -/
def written? (quote : PairQuote) (amount : Money) : Option Decimal :=
  fit? false (amount.value.mantissa * quote.rate.mantissa) (amount.value.scale + quote.rate.scale)

/-- An accepted amount is above zero. -/
lemma zero_lt_of_positive (h : Money.positive value currency = .ok source) :
    zero < source.value := by
  obtain ⟨rfl, hamount⟩ := Money.isAmount_of_positive h
  exact zero_lt_iff_toRat.mpr hamount.toRat_pos

/-- The mantissa and the scale that are fitted into range denote the exact product. -/
lemma product_eq (h : Money.positive value currency = .ok source) (hrate : zero < quote.rate) :
    quote.product source = ((source.value.mantissa * quote.rate.mantissa : ℕ) : ℚ)
      / 10 ^ (source.value.scale + quote.rate.scale) :=
  toRat_mul_toRat (zero_lt_of_positive h) hrate

/-- **What is converted**: the product is written with the digits that fit, and what is written is
rounded to cents. -/
theorem convert_eq_ok_iff (h : Money.positive value currency = .ok source)
    (hrate : zero < quote.rate) :
    quote.convert source = .ok target ↔ currency = quote.pair.source ∧
      ∃ written, quote.written? source = some written ∧
        target = ⟨written.roundTo 2, quote.pair.target⟩ := by
  obtain ⟨rfl, hamount⟩ := Money.isAmount_of_positive h
  have hplaces : quote.pair.target.decimalPlaces = 2 := by cases quote.pair.target <;> rfl
  have hmul : value.mul? quote.rate = quote.written? ⟨value, currency⟩ := hamount.mul?_eq_fit? hrate
  rw [convert, hmul]
  dsimp only
  split
  · next hcurrency =>
    cases quote.written? ⟨value, currency⟩ with
    | none => simp
    | some written => simp [hcurrency, Money.round, hplaces, eq_comm]
  · next hcurrency => simp [hcurrency]

/-- An amount of the source that is not converted is worth more than decimals can denote. -/
lemma convert_of_written?_eq_none (h : Money.positive value quote.pair.source = .ok source)
    (hrate : zero < quote.rate) (hnone : quote.written? source = none) :
    quote.convert source = .error (.validation
      (.conversionOverflow value quote.pair.source quote.rate quote.pair.target)) := by
  obtain ⟨rfl, hamount⟩ := Money.isAmount_of_positive h
  have hmul : value.mul? quote.rate = none := (hamount.mul?_eq_fit? hrate).trans hnone
  rw [convert, if_pos rfl, hmul]

/-! ### Rounding -/

/-- **Two roundings**: the product is rounded to the places that it keeps and then to cents, and it
is off by no more than half a unit of each. As long as cents are kept, the amount is the product
rounded once, unless the first rounding ends on half a cent and the second goes on away from the
product. A product that is a decimal itself is always rounded once. -/
theorem convert_isRounded (h : Money.positive value currency = .ok source)
    (hrate : zero < quote.rate) (hconvert : quote.convert source = .ok target) :
    target.currency = quote.pair.target ∧
    (∀ exact : Decimal, exact.toRat = quote.product source →
      target.value.IsRounded 2 (quote.product source)) ∧
    ∃ written : Decimal,
      written.IsRounded (keptPlaces (quote.product source)) (quote.product source) ∧
      target.value.IsRounded 2 written.toRat ∧
      (2 ≤ keptPlaces (quote.product source) →
        (target.value.IsRounded 2 (quote.product source) ↔
          ¬ (|written.toRat - target.value.toRat| = 1 / 200 ∧
            (quote.product source - written.toRat) * (target.value.toRat - written.toRat) < 0))) ∧
      |quote.product source - target.value.toRat| ≤
        1 / 200 + 1 / (2 * 10 ^ keptPlaces (quote.product source)) := by
  -- the product is rounded to the digits that fit, and what is written then to cents
  obtain ⟨-, written, hwritten, rfl⟩ := (convert_eq_ok_iff h hrate).mp hconvert
  have hfit : written.IsRounded (keptPlaces (quote.product source)) (quote.product source) := by
    rw [product_eq h hrate]
    exact isRounded_fit? hwritten
  have hround : (written.roundTo 2).IsRounded 2 written.toRat := isRounded_roundTo 2 written
  have hunit : (1 : ℚ) / (2 * 10 ^ 2) = 1 / 200 := by norm_num
  refine ⟨rfl, fun exact hexact => ?_, written, hfit, hround, fun hplaces => ?_, ?_⟩
  · rw [← hexact] at hfit ⊢
    rwa [hfit.toRat_eq_of_kept] at hround
  · rw [hfit.twice_iff hround hplaces, hunit]
  · calc |quote.product source - (written.roundTo 2).toRat|
        ≤ |quote.product source - written.toRat| + |written.toRat - (written.roundTo 2).toRat| :=
          abs_sub_le _ _ _
      _ ≤ 1 / (2 * 10 ^ keptPlaces (quote.product source)) + 1 / (2 * 10 ^ 2) :=
          add_le_add hfit.abs_sub_le hround.abs_sub_le
      _ = 1 / 200 + 1 / (2 * 10 ^ keptPlaces (quote.product source)) := by rw [hunit, add_comm]

/-- A rate with four fraction digits. -/
def fourDigits : PairQuote := ⟨⟨.usd, .eur⟩, ⟨false, 9137, 4, by decide, by decide⟩⟩

/-- Ten dollars at a rate with four fraction digits: the product is a decimal. -/
theorem convert_isRounded_ten :
    let ten : Money := ⟨⟨false, 10, 0, by decide, by decide⟩, .usd⟩
    Money.positive ten.value .usd = .ok ten ∧ zero < fourDigits.rate ∧
    fourDigits.convert ten = .ok ⟨⟨false, 914, 2, by decide, by decide⟩, .eur⟩ ∧
    IsRounded ⟨false, 914, 2, by decide, by decide⟩ 2 (fourDigits.product ten) := by
  intro ten
  have hten : Money.positive ten.value .usd = .ok ten := by decide +kernel
  have hrate : zero < fourDigits.rate := by decide
  have hconvert : fourDigits.convert ten = .ok ⟨⟨false, 914, 2, by decide, by decide⟩, .eur⟩ := by
    decide +kernel
  have hexact : toRat ⟨false, 91370, 4, by decide, by decide⟩ = fourDigits.product ten := by
    norm_num [product, fourDigits, ten, toRat_eq, coefficient]
  exact ⟨hten, hrate, hconvert, (convert_isRounded hten hrate hconvert).2.1 _ hexact⟩

/-- The least rate above one half. -/
def aboveHalf : PairQuote :=
  ⟨⟨.usd, .eur⟩, ⟨false, 5000000000000000000000000001, 28, by decide, by decide⟩⟩

/-- **Not rounded once**: a cent at the least rate above one half is worth more than half a cent.
Its product is written as half a cent, and that is rounded to nothing. -/
theorem convert_not_isRounded :
    let cent : Money := ⟨⟨false, 1, 2, by decide, by decide⟩, .usd⟩
    Money.positive cent.value .usd = .ok cent ∧ zero < aboveHalf.rate ∧
    aboveHalf.convert cent = .ok ⟨⟨false, 0, 2, by decide, by decide⟩, .eur⟩ ∧
    ¬ IsRounded ⟨false, 0, 2, by decide, by decide⟩ 2 (aboveHalf.product cent) := by
  intro cent
  refine ⟨by decide +kernel, by decide, by decide +kernel, fun h => ?_⟩
  have hle := h.abs_sub_le
  norm_num [product, aboveHalf, cent, toRat_eq, coefficient] at hle

/-! ### Monotonicity -/

/-- What is written for the lesser product is not more. -/
lemma written?_mono (h : Money.positive value currency = .ok source)
    (h' : Money.positive value' currency = .ok source') (hrate : zero < quote.rate)
    (hvalue : value ≤ value') (hrates : quote.rate ≤ quote'.rate) {written' : Decimal}
    (hwritten : quote'.written? source' = some written') :
    ∃ written, quote.written? source = some written ∧ written.toRat ≤ written'.toRat := by
  have hrate' : zero < quote'.rate := zero_lt_of_le hrate hrates
  refine fit?_mono ?_ hwritten
  rw [← product_eq h hrate, ← product_eq h' hrate']
  have hpos : 0 ≤ source'.value.toRat := (zero_lt_iff_toRat.mp (zero_lt_of_positive h')).le
  have hpos' : 0 ≤ quote.rate.toRat := (zero_lt_iff_toRat.mp hrate).le
  obtain ⟨rfl, -⟩ := Money.isAmount_of_positive h
  obtain ⟨rfl, -⟩ := Money.isAmount_of_positive h'
  exact mul_le_mul (le_iff_toRat.mp hvalue) (le_iff_toRat.mp hrates) hpos' hpos

/-- A lesser amount at a lesser rate is converted whenever the greater one is, and not into more. -/
lemma convert_le_of_le (h : Money.positive value currency = .ok source)
    (h' : Money.positive value' currency = .ok source') (hpair : quote.pair = quote'.pair)
    (hrate : zero < quote.rate) (hvalue : value ≤ value') (hrates : quote.rate ≤ quote'.rate)
    (hconvert : quote'.convert source' = .ok target') :
    ∃ target, quote.convert source = .ok target ∧ target.currency = target'.currency ∧
      target.value ≤ target'.value := by
  have hrate' : zero < quote'.rate := zero_lt_of_le hrate hrates
  obtain ⟨hcurrency, written', hwritten', rfl⟩ := (convert_eq_ok_iff h' hrate').mp hconvert
  obtain ⟨written, hwritten, hle⟩ := written?_mono h h' hrate hvalue hrates hwritten'
  refine ⟨⟨written.roundTo 2, quote.pair.target⟩, ?_, congrArg CurrencyPair.target hpair, ?_⟩
  · exact (convert_eq_ok_iff h hrate).mpr
      ⟨hcurrency.trans (congrArg CurrencyPair.source hpair.symm), written, hwritten, rfl⟩
  · rw [le_iff_toRat]
    exact (isRounded_roundTo 2 written).mono (isRounded_roundTo 2 written') hle

/-- **Conversion is monotone**, and it does not depend on how amounts and rates are written. A
lesser amount at a lesser rate is converted whenever the greater one is, and not into more. Amounts
and rates that are the same numbers are both converted into the same number, or both worth more than
decimals can denote. -/
theorem convert_mono (h : Money.positive value currency = .ok source)
    (h' : Money.positive value' currency = .ok source') (hpair : quote.pair = quote'.pair)
    (hrate : zero < quote.rate) (hvalue : value ≤ value') (hrates : quote.rate ≤ quote'.rate) :
    (∀ target', quote'.convert source' = .ok target' →
      ∃ target, quote.convert source = .ok target ∧ target.currency = target'.currency ∧
        target.value ≤ target'.value) ∧
    (currency = quote.pair.source → value.SameValue value' → quote.rate.SameValue quote'.rate →
      (quote.convert source = .error (.validation
          (.conversionOverflow value currency quote.rate quote.pair.target)) ∧
        quote'.convert source' = .error (.validation
          (.conversionOverflow value' currency quote'.rate quote.pair.target))) ∨
      ∃ target target', quote.convert source = .ok target ∧
        quote'.convert source' = .ok target' ∧ target.SameValue target') := by
  have hrate' : zero < quote'.rate := zero_lt_of_le hrate hrates
  refine ⟨fun target' => convert_le_of_le h h' hpair hrate hvalue hrates, ?_⟩
  rintro rfl hsame hsame'
  -- the same numbers are also in the opposite order
  have hvalue' : value' ≤ value := le_iff_toRat.mpr (sameValue_iff.mp hsame).ge
  have hrates' : quote'.rate ≤ quote.rate := le_iff_toRat.mpr (sameValue_iff.mp hsame').ge
  cases hwritten' : quote'.written? source' with
  | none =>
      left
      have hwritten : quote.written? source = none := by
        rw [Option.eq_none_iff_forall_ne_some]
        intro written hwritten
        obtain ⟨_, hsome, -⟩ := written?_mono h' h hrate' hvalue' hrates' hwritten
        rw [hwritten'] at hsome
        cases hsome
      have hsource : quote.pair.source = quote'.pair.source := congrArg CurrencyPair.source hpair
      refine ⟨convert_of_written?_eq_none h hrate hwritten, ?_⟩
      rw [hpair]
      rw [hsource] at h'
      exact convert_of_written?_eq_none h' hrate' hwritten'
  | some written' =>
      right
      have hconvert' : quote'.convert source' = .ok ⟨written'.roundTo 2, quote'.pair.target⟩ :=
        (convert_eq_ok_iff h' hrate').mpr
          ⟨congrArg CurrencyPair.source hpair, written', hwritten', rfl⟩
      obtain ⟨target, hconvert, hcurrency, hle⟩ :=
        convert_le_of_le h h' hpair hrate hvalue hrates hconvert'
      obtain ⟨target', hback, -, hge⟩ :=
        convert_le_of_le h' h hpair.symm hrate' hvalue' hrates' hconvert
      obtain rfl := Except.ok.inj (hconvert'.symm.trans hback)
      refine ⟨target, _, hconvert, hconvert', hcurrency, sameValue_iff.mpr ?_⟩
      exact le_antisymm (le_iff_toRat.mp hle) (le_iff_toRat.mp hge)

/-- The rate with four fraction digits, written with seven. -/
def sevenDigits : PairQuote := ⟨⟨.usd, .eur⟩, ⟨false, 9137000, 7, by decide, by decide⟩⟩

/-- Ten dollars, written in two ways, at a rate written in two ways. -/
theorem convert_mono_ten :
    let ten : Money := ⟨⟨false, 10, 0, by decide, by decide⟩, .usd⟩
    let long : Money := ⟨⟨false, 1000000, 5, by decide, by decide⟩, .usd⟩
    ten.value ≤ long.value ∧ fourDigits.rate ≤ sevenDigits.rate ∧
    ∃ target target', fourDigits.convert ten = .ok target ∧
      sevenDigits.convert long = .ok target' ∧ target.SameValue target' := by
  intro ten long
  have hten : Money.positive ten.value .usd = .ok ten := by decide +kernel
  have hlong : Money.positive long.value .usd = .ok long := by decide +kernel
  have hle : ten.value ≤ long.value := by decide +kernel
  have hrates : fourDigits.rate ≤ sevenDigits.rate := by decide
  have hconvert : fourDigits.convert ten = .ok ⟨⟨false, 914, 2, by decide, by decide⟩, .eur⟩ := by
    decide +kernel
  have hpair : fourDigits.pair = sevenDigits.pair := rfl
  have hrate : zero < fourDigits.rate := by decide
  have hsame : ten.value.SameValue long.value := by decide +kernel
  have hsame' : fourDigits.rate.SameValue sevenDigits.rate := by decide
  have hmono := (convert_mono hten hlong hpair hrate hle hrates).2 rfl hsame hsame'
  refine ⟨hle, hrates, hmono.resolve_left ?_⟩
  rintro ⟨herror, -⟩
  rw [hconvert] at herror
  cases herror

end PairQuote

end Teller
