/-
Which amounts are accepted: the ones that can be paid, however they are written.

* `Decimal.minimalScale_le_iff`: striking the zeros at the end of a fraction leaves few enough
  digits exactly if the number is a whole number of the unit;
* `IsPayable`: a number above zero, not above the largest amount, and with whole hundredths;
* `Money.JudgesByValue`: an amount is accepted as it stands if it is payable, and refused as invalid
  otherwise, which rests on the number alone;
* `Money.judgesByValue`: this is how every amount of every currency is judged.
-/
import Teller.Proofs.Decimal.Cents

namespace Teller

namespace Decimal

variable {places : ℕ}

/-! ### Striking zeros -/

/-- Zeros are struck until a digit of another kind is last: as many as the mantissa ends with. -/
lemma strippedScale_le_of_dvd (mantissa scale : ℕ) (h : 10 ^ (scale - places) ∣ mantissa) :
    strippedScale mantissa scale ≤ places := by
  induction scale generalizing mantissa with
  | zero => simp [strippedScale]
  | succ s ih =>
      rcases Nat.lt_or_ge s places with hs | hs
      · calc strippedScale mantissa (s + 1) ≤ s + 1 := strippedScale_le _ _
          _ ≤ places := hs
      · -- one digit more than the unit has: the last one is a zero, the others are left to `ih`
        rw [Nat.sub_add_comm hs, pow_succ'] at h
        obtain ⟨q, rfl⟩ := h
        have hlast : 10 * 10 ^ (s - places) * q % 10 = 0 := by
          rw [mul_assoc]
          exact Nat.mul_mod_right _ _
        have hrest : 10 * 10 ^ (s - places) * q / 10 = 10 ^ (s - places) * q := by
          rw [mul_assoc]
          exact Nat.mul_div_cancel_left _ (by norm_num)
        rw [strippedScale, if_pos hlast, hrest]
        exact ih _ (dvd_mul_right _ _)

/-- A whole number of a unit can be written with the fraction digits of the unit. -/
lemma IsUnits.minimalScale_le {d : Decimal} {n : ℤ} (h : d.IsUnits places n) :
    d.minimalScale ≤ places := by
  rcases Nat.lt_or_ge d.scale places with hs | hs
  · exact (strippedScale_le _ _).trans hs.le
  · rw [isUnits_iff] at h
    have hmantissa : d.mantissa * 10 ^ places = n.natAbs * 10 ^ d.scale := by
      have habs := congrArg Int.natAbs h
      have hcoefficient : d.coefficient.natAbs = d.mantissa := by
        rw [coefficient]
        split <;> omega
      simpa only [Int.natAbs_mul, Int.natAbs_pow, Int.reduceAbs, hcoefficient] using habs
    exact strippedScale_le_of_dvd _ _ ⟨_, mantissa_eq_of_units hmantissa hs⟩

/-- The digits that are left when zeros are struck are no more than those of a unit exactly if the
decimal is a whole number of units. -/
theorem minimalScale_le_iff {d : Decimal} : d.minimalScale ≤ places ↔ ∃ n, d.IsUnits places n := by
  constructor
  · exact exists_isUnits_of_minimalScale_le
  · rintro ⟨n, hn⟩
    exact hn.minimalScale_le

end Decimal

/-! ### Payable numbers -/

/-- A number that can be paid: above zero, at most the largest amount, and with whole hundredths. -/
def IsPayable (number : ℚ) : Prop :=
  0 < number ∧ number ≤ 99999999999999999999 / 100 ∧ ∃ n : ℤ, 100 * number = n

namespace Decimal

/-- Whole cents are whole hundredths of the number. -/
lemma isCents_iff {d : Decimal} {n : ℤ} : d.IsCents n ↔ 100 * d.toRat = n := by
  have h100 : (100 : ℚ) ≠ 0 := by norm_num
  rw [IsCents, eq_div_iff h100, mul_comm]

/-- The three questions that are asked of an amount, together, ask whether the number is
payable. -/
lemma isPayable_toRat_iff {d : Decimal} : IsPayable d.toRat ↔
    ¬ d ≤ zero ∧ ¬ Money.maxValue < d ∧ d.minimalScale ≤ 2 := by
  have hpos : 0 < d.toRat ↔ ¬ d ≤ zero := by
    rw [le_iff_toRat, toRat_zero, not_le]
  have hlargest : d.toRat ≤ 99999999999999999999 / 100 ↔ ¬ Money.maxValue < d := by
    have hmax : Money.maxValue.toRat = 99999999999999999999 / 100 := by
      exact_mod_cast isCents_maxValue
    rw [lt_iff_toRat, hmax, not_lt]
  have hwhole : (∃ n : ℤ, 100 * d.toRat = n) ↔ d.minimalScale ≤ 2 := by
    simp only [minimalScale_le_iff, ← isCents_iff_isUnits, isCents_iff]
  rw [IsPayable, hpos, hlargest, hwhole]

end Decimal

namespace Money

variable {value : Decimal} {currency : Currency}

/-! ### The verdict -/

/-- **Amounts are judged by their number**: payable ones are accepted as they stand, all others are
refused as invalid, and another way of writing the same number gets the same verdict. -/
structure JudgesByValue (value : Decimal) (currency : Currency) : Prop where
  /-- What is accepted is what is payable. -/
  accepted : (∃ m, positive value currency = .ok m) ↔ IsPayable value.toRat
  /-- An accepted amount is the one that was given, with its scale. -/
  unchanged : ∀ m, positive value currency = .ok m → m = ⟨value, currency⟩
  /-- A refusal blames the request. -/
  refused : ∀ e, positive value currency = .error e → ∃ reason, e = .validation reason
  /-- The scale makes no difference. -/
  sameVerdict : ∀ other : Decimal, other.toRat = value.toRat →
    ((∃ m, positive other currency = .ok m) ↔ ∃ m, positive value currency = .ok m)

/-- A payable amount is accepted as it stands. -/
lemma positive_of_isPayable (h : IsPayable value.toRat) :
    positive value currency = .ok ⟨value, currency⟩ := by
  obtain ⟨hpos, hlargest, hdigits⟩ := Decimal.isPayable_toRat_iff.mp h
  have hplaces : currency.decimalPlaces = 2 := by cases currency <;> rfl
  have hprecise : ¬ currency.decimalPlaces < value.minimalScale := by omega
  rw [positive, if_neg hpos, if_neg hlargest, if_neg hprecise]

/-- What is not payable is refused as invalid. -/
lemma positive_of_not_isPayable (currency : Currency) (h : ¬ IsPayable value.toRat) :
    ∃ reason, positive value currency = .error (.validation reason) := by
  have hplaces : currency.decimalPlaces = 2 := by cases currency <;> rfl
  rw [Decimal.isPayable_toRat_iff] at h
  rw [positive]
  split
  · exact ⟨_, rfl⟩
  next hpos =>
  split
  · exact ⟨_, rfl⟩
  next hlargest =>
  split
  · exact ⟨_, rfl⟩
  next hprecise =>
  exact absurd ⟨hpos, hlargest, by omega⟩ h

lemma exists_positive_iff : (∃ m, positive value currency = .ok m) ↔ IsPayable value.toRat := by
  constructor
  · rintro ⟨m, hm⟩
    by_contra hnot
    obtain ⟨reason, hreason⟩ := positive_of_not_isPayable currency hnot
    rw [hreason] at hm
    cases hm
  · intro h
    exact ⟨_, positive_of_isPayable h⟩

/-- Every amount of every currency is judged by its number. -/
theorem judgesByValue (value : Decimal) (currency : Currency) : JudgesByValue value currency := by
  constructor
  case accepted => exact exists_positive_iff
  case unchanged =>
    intro m hm
    have h := exists_positive_iff.mp ⟨m, hm⟩
    rw [positive_of_isPayable h] at hm
    exact (Except.ok.inj hm).symm
  case refused =>
    intro e he
    by_cases h : IsPayable value.toRat
    · rw [positive_of_isPayable h] at he
      cases he
    · obtain ⟨reason, hreason⟩ := positive_of_not_isPayable currency h
      rw [hreason] at he
      exact ⟨reason, (Except.error.inj he).symm⟩
  case sameVerdict =>
    intro other hother
    rw [exists_positive_iff, exists_positive_iff, hother]

/-- One, with all the fraction digits that a decimal can have, is accepted. -/
example : positive ⟨false, 10 ^ 28, 28, by decide, by decide⟩ .usd
    = .ok ⟨⟨false, 10 ^ 28, 28, by decide, by decide⟩, .usd⟩ := by decide +kernel

end Money

end Teller
