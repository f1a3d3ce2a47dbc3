/-
Whole cents: sums of amounts of money are exact.

* `Decimal.IsCents`: the decimal denotes so many hundredths, with whatever scale it is written;
  comparisons and signs are those of the hundredths (`IsCents.lt_iff`, `IsCents.le_iff`,
  `IsCents.neg`);
* `Decimal.add?_isCents`: the sum of whole cents is exact as long as the cents fit a mantissa;
* `Decimal.IsBalance` and `Decimal.IsAmount`: what a balance is and what an operation moves;
  `Money.isAmount_of_positive` and `PairQuote.isAmount_of_convert` say where amounts come from.
-/
import Teller.Proofs.Decimal.Grid

namespace Teller

namespace Decimal

/-! ### Hundredths -/

/-- The decimal denotes `n` hundredths. -/
def IsCents (d : Decimal) (n : ℤ) : Prop :=
  d.toRat = n / 100

/-- Hundredths are units of two fraction digits. -/
lemma isCents_iff_isUnits {d : Decimal} {n : ℤ} : d.IsCents n ↔ d.IsUnits 2 n := by
  rw [IsCents, IsUnits]
  norm_num

lemma isCents_zero : zero.IsCents 0 := isCents_iff_isUnits.mpr isUnits_zero

lemma isCents_maxValue : Money.maxValue.IsCents 99999999999999999999 :=
  isCents_iff_isUnits.mpr (isUnits_maxValue 0)

namespace IsCents

variable {a b : Decimal} {m n : ℤ}

lemma isUnits (h : a.IsCents m) : a.IsUnits 2 m := isCents_iff_isUnits.mp h

lemma isZero_iff (h : a.IsCents m) : a.isZero = true ↔ m = 0 := h.isUnits.isZero_iff

lemma neg (h : a.IsCents m) : (-a).IsCents (-m) := isCents_iff_isUnits.mpr h.isUnits.neg

lemma lt_iff (ha : a.IsCents m) (hb : b.IsCents n) : a < b ↔ m < n := ha.isUnits.lt_iff hb.isUnits

lemma le_iff (ha : a.IsCents m) (hb : b.IsCents n) : a ≤ b ↔ m ≤ n := ha.isUnits.le_iff hb.isUnits

end IsCents

/-- A decimal with at most two fraction digits is a whole number of cents. -/
lemma exists_isCents_of_scale_le {d : Decimal} (h : d.scale ≤ 2) : ∃ n, d.IsCents n := by
  obtain ⟨n, hn⟩ := exists_isUnits_of_scale_le h
  exact ⟨n, isCents_iff_isUnits.mpr hn⟩

/-- A decimal that can be written with two fraction digits is a whole number of cents. -/
lemma exists_isCents_of_minimalScale_le {d : Decimal} (h : d.minimalScale ≤ 2) :
    ∃ n, d.IsCents n := by
  obtain ⟨n, hn⟩ := exists_isUnits_of_minimalScale_le h
  exact ⟨n, isCents_iff_isUnits.mpr hn⟩

/-- Whole cents add up without rounding as long as the cents of the sum fit a mantissa. -/
theorem add?_isCents {a b : Decimal} {m n : ℤ} (ha : a.IsCents m) (hb : b.IsCents n)
    (h : (m + n).natAbs < 2 ^ 96) : ∃ c, a.add? b = some c ∧ c.IsCents (m + n) := by
  obtain ⟨c, hsum, hc⟩ := add?_isUnits (by omega) ha.isUnits hb.isUnits h
  exact ⟨c, hsum, isCents_iff_isUnits.mpr hc⟩

/-! ### Balances and amounts -/

/-- What a balance is: a whole number of cents from zero to the largest balance. -/
def IsBalance (d : Decimal) : Prop :=
  ∃ n : ℕ, n ≤ 99999999999999999999 ∧ d.IsCents n

/-- What an operation moves: a whole number of cents above zero. -/
def IsAmount (d : Decimal) : Prop :=
  ∃ n : ℕ, 0 < n ∧ d.IsCents n

lemma isBalance_zero : zero.IsBalance := ⟨0, by norm_num, isCents_zero⟩

/-- A balance is not below zero. -/
lemma IsBalance.not_neg {d : Decimal} (h : d.IsBalance) : ¬ d < zero := by
  obtain ⟨n, -, hn⟩ := h
  rw [hn.lt_iff isCents_zero]
  omega

lemma IsBalance.toRat_nonneg {d : Decimal} (h : d.IsBalance) : 0 ≤ d.toRat := by
  obtain ⟨n, -, hn⟩ := h
  have hnum : (0 : ℚ) ≤ (n : ℤ) := by exact_mod_cast n.zero_le
  calc (0 : ℚ) ≤ (n : ℤ) / 100 := by positivity
    _ = d.toRat := hn.symm

/-- An amount is above zero. -/
lemma IsAmount.toRat_pos {d : Decimal} (h : d.IsAmount) : 0 < d.toRat := by
  obtain ⟨n, hpos, hn⟩ := h
  have hnum : (0 : ℚ) < (n : ℤ) := by exact_mod_cast hpos
  calc (0 : ℚ) < (n : ℤ) / 100 := by positivity
    _ = d.toRat := hn.symm

/-- An amount is no zero whose sign could be lost. -/
lemma IsAmount.withoutZeroSign_eq {d : Decimal} (h : d.IsAmount) : d.withoutZeroSign = d := by
  obtain ⟨n, hpos, hn⟩ := h
  have hnot : d.isZero = false := by
    rw [Bool.eq_false_iff, ne_eq, hn.isZero_iff]
    omega
  rw [withoutZeroSign, hnot, Bool.not_false, Bool.and_true]

/-- Without the sign of a zero a decimal denotes the same number. -/
lemma sameValue_withoutZeroSign (d : Decimal) : d.withoutZeroSign.SameValue d := by
  have hcoefficient : d.withoutZeroSign.coefficient = d.coefficient := by
    rw [coefficient, coefficient, withoutZeroSign]
    cases hzero : d.isZero with
    | false => simp
    | true =>
        have hmantissa : d.mantissa = 0 := beq_iff_eq.mp hzero
        simp [hmantissa]
  rw [SameValue, coefficientAt, coefficientAt, hcoefficient]
  rfl

/-- A credit adds the amount, a debit takes it away. -/
lemma IsAmount.signed {d : Decimal} (h : d.IsAmount) (direction : Direction) :
    ∃ n : ℤ, (direction.signed d).IsCents n := by
  obtain ⟨n, -, hn⟩ := h
  cases direction with
  | credit => exact ⟨n, hn⟩
  | debit => exact ⟨-n, hn.neg⟩

end Decimal

/-- Every amount that is accepted is a whole number of cents. -/
lemma Money.isAmount_of_positive {value : Decimal} {currency : Currency} {m : Money}
    (h : Money.positive value currency = .ok m) : m = ⟨value, currency⟩ ∧ value.IsAmount := by
  rw [Money.positive] at h
  split at h
  · simp at h
  split at h
  · simp at h
  split at h
  · simp at h
  · next hpos _ hscale =>
    obtain rfl := Except.ok.inj h
    have hplaces : currency.decimalPlaces = 2 := by cases currency <;> rfl
    obtain ⟨n, hn⟩ := Decimal.exists_isCents_of_minimalScale_le (d := value) (by omega)
    rw [hn.le_iff Decimal.isCents_zero] at hpos
    refine ⟨rfl, n.toNat, by omega, ?_⟩
    rwa [Int.toNat_of_nonneg (by omega)]

/-- Every amount above zero that a conversion gives is a whole number of cents of the target. -/
lemma PairQuote.isAmount_of_convert {quote : PairQuote} {source target : Money}
    (h : quote.convert source = .ok target) (hpos : target.isPositive = true) :
    target.currency = quote.pair.target ∧ target.value.IsAmount := by
  rw [PairQuote.convert] at h
  split at h
  · split at h
    · next value _ =>
      obtain rfl := Except.ok.inj h
      have hplaces : quote.pair.target.decimalPlaces = 2 := by cases quote.pair.target <;> rfl
      have hscale : (value.roundTo quote.pair.target.decimalPlaces).scale ≤ 2 := by
        rw [Decimal.roundTo, hplaces]
        split
        · assumption
        · exact le_rfl
      obtain ⟨n, hn⟩ := Decimal.exists_isCents_of_scale_le hscale
      have hlt : Decimal.zero < value.roundTo quote.pair.target.decimalPlaces :=
        of_decide_eq_true hpos
      rw [Decimal.isCents_zero.lt_iff hn] at hlt
      refine ⟨rfl, n.toNat, by omega, ?_⟩
      rw [Int.toNat_of_nonneg hlt.le]
      exact hn
    · simp at h
  · simp at h

end Teller
