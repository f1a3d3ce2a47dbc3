/-
Decimals that are whole numbers of some unit: their sums are exact.

* `Decimal.le_iff_toRat`, `Decimal.lt_iff_toRat`: the order of decimals is that of the numbers that
  they denote;
* `Decimal.IsUnits`: the decimal denotes so many units of some number of fraction digits, with
  whatever scale it is written; comparisons and signs are those of the units (`IsUnits.lt_iff`,
  `IsUnits.le_iff`, `IsUnits.neg`);
* `Decimal.exists_isUnits_of_minimalScale_le`: a decimal is a whole number of every unit that its
  digits do not go below;
* `Decimal.add?_isUnits`: the sum of whole units is exact as long as the units fit a mantissa: the
  digits that `fit?` drops are zeros;
* `Decimal.not_add?_le_maxValue`: a sum whose units do not fit is above the largest balance, if it
  exists and the unit has no more than ten fraction digits. With eleven digits this fails: the units
  of the largest balance do not fit a mantissa themselves.
-/
import Mathlib.Tactic
import Teller.Rates.Basic

namespace Teller

/-- A quotient without remainder is not rounded. -/
lemma halfEven_of_dvd {n d : ℕ} (hd : 0 < d) (h : d ∣ n) : halfEven n d = n / d := by
  have hr : n % d = 0 := Nat.mod_eq_zero_of_dvd h
  simp [halfEven, hr, hd]

/-- Rounding never goes below the floor. -/
lemma div_le_halfEven (n d : ℕ) : n / d ≤ halfEven n d := by
  rcases halfEven_cases n d with h | ⟨h, -⟩ <;> omega

namespace Decimal

variable {places : ℕ}

/-! ### Units -/

/-- The decimal denotes `n` units of this many fraction digits. -/
def IsUnits (d : Decimal) (places : ℕ) (n : ℤ) : Prop :=
  d.toRat = n / 10 ^ places

lemma toRat_eq (d : Decimal) : d.toRat = d.coefficient / 10 ^ d.scale := by
  rw [toRat, Rat.mkRat_eq_div]
  norm_cast

lemma toRat_zero : zero.toRat = 0 := by simp [toRat_eq, zero, coefficient]

lemma coefficient_neg (d : Decimal) : (-d).coefficient = -d.coefficient := by
  show Decimal.coefficient { d with negative := !d.negative } = _
  cases hn : d.negative <;> simp [coefficient, hn]

lemma toRat_neg (d : Decimal) : (-d).toRat = -d.toRat := by
  rw [toRat_eq, toRat_eq, coefficient_neg, Int.cast_neg, neg_div]
  rfl

/-- Decimals are in the order of the numbers that they denote, whatever their scales. -/
lemma le_iff_toRat {a b : Decimal} : a ≤ b ↔ a.toRat ≤ b.toRat := by
  have ha : (0 : ℚ) < 10 ^ a.scale := by positivity
  have hb : (0 : ℚ) < 10 ^ b.scale := by positivity
  rw [toRat_eq, toRat_eq, div_le_div_iff₀ ha hb]
  show a.coefficient * 10 ^ b.scale ≤ b.coefficient * 10 ^ a.scale ↔ _
  norm_cast

lemma lt_iff_toRat {a b : Decimal} : a < b ↔ a.toRat < b.toRat := by
  have hnot : a < b ↔ ¬ b ≤ a := Int.not_le.symm
  rw [hnot, le_iff_toRat, not_le]

lemma sameValue_iff {a b : Decimal} : a.SameValue b ↔ a.toRat = b.toRat := by
  have ha : (10 : ℚ) ^ a.scale ≠ 0 := by positivity
  have hb : (10 : ℚ) ^ b.scale ≠ 0 := by positivity
  rw [SameValue, coefficientAt, coefficientAt, toRat_eq, toRat_eq, div_eq_div_iff ha hb]
  norm_cast

/-- Units in terms of coefficient and scale. -/
lemma isUnits_iff {d : Decimal} {n : ℤ} :
    d.IsUnits places n ↔ d.coefficient * 10 ^ places = n * 10 ^ d.scale := by
  have hscale : (10 : ℚ) ^ d.scale ≠ 0 := by positivity
  have hplaces : (10 : ℚ) ^ places ≠ 0 := by positivity
  rw [IsUnits, toRat_eq, div_eq_div_iff hscale hplaces]
  norm_cast

lemma isUnits_zero : zero.IsUnits places 0 := by
  simp [isUnits_iff, zero, coefficient]

namespace IsUnits

variable {a b : Decimal} {m n : ℤ}

lemma isZero_iff (h : a.IsUnits places m) : a.isZero = true ↔ m = 0 := by
  rw [isUnits_iff] at h
  have hscale : (10 : ℤ) ^ a.scale ≠ 0 := by positivity
  have hplaces : (10 : ℤ) ^ places ≠ 0 := by positivity
  have hz : a.isZero = true ↔ a.coefficient = 0 := by
    simp only [isZero, beq_iff_eq, coefficient]
    split <;> omega
  rw [hz]
  constructor
  · intro h0
    rw [h0, zero_mul] at h
    exact (mul_eq_zero.mp h.symm).resolve_right hscale
  · intro h0
    rw [h0, zero_mul] at h
    exact (mul_eq_zero.mp h).resolve_right hplaces

lemma neg (h : a.IsUnits places m) : (-a).IsUnits places (-m) := by
  rw [IsUnits, toRat_neg, show a.toRat = m / 10 ^ places from h, Int.cast_neg, neg_div]

lemma lt_iff (ha : a.IsUnits places m) (hb : b.IsUnits places n) : a < b ↔ m < n := by
  have hplaces : (0 : ℚ) < 10 ^ places := by positivity
  rw [lt_iff_toRat, show a.toRat = _ from ha, show b.toRat = _ from hb,
    div_lt_div_iff_of_pos_right hplaces, Int.cast_lt]

lemma le_iff (ha : a.IsUnits places m) (hb : b.IsUnits places n) : a ≤ b ↔ m ≤ n := by
  have hplaces : (0 : ℚ) < 10 ^ places := by positivity
  rw [le_iff_toRat, show a.toRat = _ from ha, show b.toRat = _ from hb,
    div_le_div_iff_of_pos_right hplaces, Int.cast_le]

end IsUnits

/-- A decimal with no more fraction digits than a unit is a whole number of units. -/
lemma exists_isUnits_of_scale_le {d : Decimal} (h : d.scale ≤ places) :
    ∃ n, d.IsUnits places n := by
  refine ⟨d.coefficient * 10 ^ (places - d.scale), isUnits_iff.mpr ?_⟩
  rw [mul_assoc, ← pow_add, Nat.sub_add_cancel h]

/-- When only so many fraction digits are left by striking zeros, the others were zeros. -/
lemma dvd_of_strippedScale_le (mantissa scale : ℕ) (h : strippedScale mantissa scale ≤ places) :
    10 ^ (scale - places) ∣ mantissa := by
  induction scale generalizing mantissa with
  | zero => simp
  | succ s ih =>
      rw [strippedScale] at h
      split at h
      · next h0 =>
        obtain ⟨q, hq⟩ := ih _ h
        have hm : mantissa = 10 * (mantissa / 10) := by omega
        rcases Nat.lt_or_ge s places with hs | hs
        · rw [show s + 1 - places = 0 from by omega, pow_zero]
          exact one_dvd _
        · refine ⟨q, ?_⟩
          rw [hm, hq, show s + 1 - places = s - places + 1 from by omega, pow_succ]
          ring
      · rw [show s + 1 - places = 0 from by omega, pow_zero]
        exact one_dvd _

/-- A decimal that can be written with the fraction digits of a unit is a whole number of units. -/
lemma exists_isUnits_of_minimalScale_le {d : Decimal} (h : d.minimalScale ≤ places) :
    ∃ n, d.IsUnits places n := by
  rcases Nat.lt_or_ge places d.scale with hs | hs
  · obtain ⟨q, hq⟩ := dvd_of_strippedScale_le _ _ h
    refine ⟨if d.negative then -q else q, isUnits_iff.mpr ?_⟩
    have hsplit : (10 : ℤ) ^ d.scale = 10 ^ (d.scale - places) * 10 ^ places := by
      rw [← pow_add, Nat.sub_add_cancel hs.le]
    rw [coefficient, hq, hsplit]
    push_cast
    split <;> ring
  · exact exists_isUnits_of_scale_le hs

/-! ### Sums -/

/-- Fitting into range is by dropping no more digits than there are, and each that is kept
stands. -/
lemma fit?_eq_some {negative : Bool} {mantissa scale : ℕ} {d : Decimal}
    (h : fit? negative mantissa scale = some d) : ∃ k ≤ scale,
      (∀ j < k, ¬ Fits mantissa scale j) ∧ d.negative = negative ∧
        d.mantissa = halfEven mantissa (10 ^ k) ∧ d.scale = scale - k := by
  rw [fit?] at h
  split at h
  · simp at h
  · next k hk =>
    simp only [droppedDigits?, List.find?_range_eq_some, List.mem_range] at hk
    obtain ⟨-, hks, hmin⟩ := hk
    obtain rfl := Option.some.inj h
    exact ⟨k, by omega, fun j hj => by simpa using hmin j hj, rfl, rfl, rfl⟩

/-- Some number of digits can be dropped if one such number is known. -/
lemma exists_fit?_eq_some (negative : Bool) {mantissa scale k : ℕ} (hk : k ≤ scale)
    (h : Fits mantissa scale k) : ∃ d, fit? negative mantissa scale = some d := by
  rw [fit?]
  split
  · next hnone =>
    simp only [droppedDigits?, List.find?_range_eq_none] at hnone
    exact absurd h (by simpa using hnone k (by omega))
  · exact ⟨_, rfl⟩

/-- Behind the units all digits are zeros. -/
lemma mantissa_eq_of_units {mantissa scale n : ℕ} (h : mantissa * 10 ^ places = n * 10 ^ scale)
    (hs : places ≤ scale) : mantissa = 10 ^ (scale - places) * n := by
  have hpos : 0 < 10 ^ places := by positivity
  have hsplit : 10 ^ scale = 10 ^ (scale - places) * 10 ^ places := by
    rw [← pow_add, Nat.sub_add_cancel hs]
  refine Nat.eq_of_mul_eq_mul_right hpos ?_
  calc mantissa * 10 ^ places = n * 10 ^ scale := h
    _ = 10 ^ (scale - places) * n * 10 ^ places := by rw [hsplit]; ring

/-- Whole units that fit a mantissa can be fitted into range by dropping all but their fraction
digits. -/
lemma fits_of_units (hplaces : places ≤ 28) {mantissa scale n : ℕ}
    (h : mantissa * 10 ^ places = n * 10 ^ scale) (hn : n < 2 ^ 96) :
    10 ^ (scale - places) ∣ mantissa ∧ Fits mantissa scale (scale - places) := by
  rcases Nat.lt_or_ge scale places with hs | hs
  · -- a unit is finer than the last digit
    have hle : mantissa * 10 ^ scale ≤ n * 10 ^ scale := by
      calc mantissa * 10 ^ scale ≤ mantissa * 10 ^ places :=
            Nat.mul_le_mul_left _ (Nat.pow_le_pow_right (by omega) hs.le)
        _ = n * 10 ^ scale := h
    have hmantissa := Nat.le_of_mul_le_mul_right hle (by positivity)
    rw [show scale - places = 0 from by omega, pow_zero]
    refine ⟨one_dvd _, by omega, ?_⟩
    rw [pow_zero, halfEven_of_dvd one_pos (one_dvd _), Nat.div_one]
    omega
  · have hm := mantissa_eq_of_units h hs
    have hdvd : 10 ^ (scale - places) ∣ mantissa := ⟨n, hm⟩
    refine ⟨hdvd, by omega, ?_⟩
    rw [halfEven_of_dvd (by positivity) hdvd, hm, Nat.mul_div_cancel_left _ (by positivity)]
    exact hn

/-- Whole units that fit a mantissa are fitted into range exactly. -/
lemma fit?_isUnits (hplaces : places ≤ 28) (negative : Bool) {mantissa scale n : ℕ}
    (h : mantissa * 10 ^ places = n * 10 ^ scale) (hn : n < 2 ^ 96) :
    ∃ d, fit? negative mantissa scale = some d ∧
      d.IsUnits places (if negative then -n else n) := by
  obtain ⟨hdvd, hfits⟩ := fits_of_units hplaces h hn
  obtain ⟨d, hd⟩ := exists_fit?_eq_some negative (Nat.sub_le scale places) hfits
  obtain ⟨k, hk, hmin, hneg, hmant, hscale⟩ := fit?_eq_some hd
  have hkept : k ≤ scale - places := by
    by_contra hgt
    exact hmin (scale - places) (by omega) hfits
  have hdk : 10 ^ k ∣ mantissa := (pow_dvd_pow 10 hkept).trans hdvd
  obtain ⟨q, hq⟩ := hdk
  rw [halfEven_of_dvd (by positivity) ⟨q, hq⟩, hq,
    Nat.mul_div_cancel_left _ (by positivity)] at hmant
  have hval : q * 10 ^ places = n * 10 ^ (scale - k) := by
    have hpow : 10 ^ scale = 10 ^ k * 10 ^ (scale - k) := by
      rw [← pow_add, Nat.add_sub_cancel' hk]
    have hpos : 0 < 10 ^ k := by positivity
    refine Nat.eq_of_mul_eq_mul_left hpos ?_
    calc 10 ^ k * (q * 10 ^ places) = mantissa * 10 ^ places := by rw [hq]; ring
      _ = 10 ^ k * (n * 10 ^ (scale - k)) := by rw [h, hpow]; ring
  refine ⟨d, hd, isUnits_iff.mpr ?_⟩
  rw [coefficient, hneg, hmant, hscale]
  have hval' : (q : ℤ) * 10 ^ places = n * 10 ^ (scale - k) := by exact_mod_cast hval
  split <;> linarith

/-- The coefficients of two summands at the larger scale add up to the sum of the units. -/
lemma IsUnits.coefficientAt_add {a b : Decimal} {m n : ℤ} (ha : a.IsUnits places m)
    (hb : b.IsUnits places n) :
    (a.coefficientAt (max a.scale b.scale - a.scale)
      + b.coefficientAt (max a.scale b.scale - b.scale)) * 10 ^ places
      = (m + n) * 10 ^ max a.scale b.scale := by
  rw [isUnits_iff] at ha hb
  have h1 : (10 : ℤ) ^ max a.scale b.scale
      = 10 ^ a.scale * 10 ^ (max a.scale b.scale - a.scale) := by
    rw [← pow_add, Nat.add_sub_cancel' (le_max_left _ _)]
  have h2 : (10 : ℤ) ^ max a.scale b.scale
      = 10 ^ b.scale * 10 ^ (max a.scale b.scale - b.scale) := by
    rw [← pow_add, Nat.add_sub_cancel' (le_max_right _ _)]
  have e1 : a.coefficientAt (max a.scale b.scale - a.scale) * 10 ^ places
      = m * 10 ^ max a.scale b.scale := by
    rw [coefficientAt, h1, ← mul_assoc, ← ha]
    ring
  have e2 : b.coefficientAt (max a.scale b.scale - b.scale) * 10 ^ places
      = n * 10 ^ max a.scale b.scale := by
    rw [coefficientAt, h2, ← mul_assoc, ← hb]
    ring
  rw [add_mul, e1, e2, add_mul]

/-- **Exact sums**: whole units add up without rounding as long as the units of the sum fit a
mantissa. -/
theorem add?_isUnits (hplaces : places ≤ 28) {a b : Decimal} {m n : ℤ} (ha : a.IsUnits places m)
    (hb : b.IsUnits places n) (h : (m + n).natAbs < 2 ^ 96) :
    ∃ c, a.add? b = some c ∧ c.IsUnits places (m + n) := by
  rw [add?]
  split
  · next h0 =>
    rw [ha.isZero_iff.mp h0, zero_add]
    exact ⟨b, rfl, hb⟩
  split
  · next h0 =>
    rw [hb.isZero_iff.mp h0, add_zero]
    exact ⟨a, rfl, ha⟩
  -- at the finer of the two scales both are integers, and so is their sum
  have hsum := ha.coefficientAt_add hb
  set scale := max a.scale b.scale
  set sum := a.coefficientAt (scale - a.scale) + b.coefficientAt (scale - b.scale)
  have habs : sum.natAbs * 10 ^ places = (m + n).natAbs * 10 ^ scale := by
    have := congrArg Int.natAbs hsum
    simpa [Int.natAbs_mul, Int.natAbs_pow] using this
  obtain ⟨d, hd, hunits⟩ := fit?_isUnits hplaces (decide (sum < 0)) habs h
  refine ⟨d, hd, ?_⟩
  have hpow : (0 : ℤ) < 10 ^ scale := by positivity
  have hunit : (0 : ℤ) < 10 ^ places := by positivity
  -- the sign is that of the units
  have hsign : sum < 0 ↔ m + n < 0 := by
    calc sum < 0 ↔ sum * 10 ^ places < 0 * 10 ^ places := (mul_lt_mul_iff_left₀ hunit).symm
      _ ↔ (m + n) * 10 ^ scale < 0 * 10 ^ scale := by rw [hsum, zero_mul, zero_mul]
      _ ↔ m + n < 0 := mul_lt_mul_iff_left₀ hpow
  convert hunits using 1
  by_cases hs : sum < 0
  · have hmn := hsign.mp hs
    rw [if_pos (decide_eq_true hs)]
    omega
  · have hmn := mt hsign.mpr hs
    rw [if_neg (by simpa using hs)]
    omega

/-- The units of the largest balance. -/
lemma isUnits_maxValue (places : ℕ) :
    Money.maxValue.IsUnits (places + 2) (99999999999999999999 * 10 ^ places) := by
  rw [isUnits_iff, pow_add]
  show (99999999999999999999 : ℤ) * (10 ^ places * 10 ^ 2) = _ * 10 ^ 2
  ring

/-- A sum of two summands other than zero whose units do not fit a mantissa is still so large. -/
lemma not_fit?_le_maxValue (hplaces : places ≤ 10) {mantissa scale : ℕ} {n : ℤ} {c : Decimal}
    (hm : (mantissa : ℤ) * 10 ^ places = n * 10 ^ scale) (hn : 2 ^ 96 ≤ n)
    (hc : fit? false mantissa scale = some c) : ¬ c ≤ Money.maxValue := by
  obtain ⟨k, hk, -, hneg, hmant, hscale⟩ := fit?_eq_some hc
  have hcoef : c.coefficient = halfEven mantissa (10 ^ k) := by
    rw [coefficient, hneg, if_neg (by simp), hmant]
  -- the floor of the quotient is close enough to the exact value
  have hfloor := div_le_halfEven mantissa (10 ^ k)
  have hdiv : mantissa < (halfEven mantissa (10 ^ k) + 1) * 10 ^ k :=
    (Nat.div_lt_iff_lt_mul (by positivity)).mp (by omega)
  have hlow : n * 10 ^ (scale - k) < (c.coefficient + 1) * 10 ^ places := by
    have h10 : (0 : ℤ) < 10 ^ k := by positivity
    have hunit : (0 : ℤ) < 10 ^ places := by positivity
    have hsplit : (10 : ℤ) ^ scale = 10 ^ k * 10 ^ (scale - k) := by
      rw [← pow_add, Nat.add_sub_cancel' hk]
    have hdiv' : (mantissa : ℤ) < (c.coefficient + 1) * 10 ^ k := by
      rw [hcoef]
      exact_mod_cast hdiv
    refine lt_of_mul_lt_mul_left ?_ h10.le
    calc 10 ^ k * (n * 10 ^ (scale - k)) = mantissa * 10 ^ places := by rw [hm, hsplit]; ring
      _ < (c.coefficient + 1) * 10 ^ k * 10 ^ places := mul_lt_mul_of_pos_right hdiv' hunit
      _ = 10 ^ k * ((c.coefficient + 1) * 10 ^ places) := by ring
  have hcoarse : (10 : ℤ) ^ places ≤ 10 ^ 10 := pow_le_pow_right₀ (by norm_num) hplaces
  have hnonneg : 0 ≤ c.coefficient := by rw [hcoef]; positivity
  have hone : (1 : ℤ) ≤ 10 ^ (scale - k) := one_le_pow₀ (by norm_num)
  have hbound : 2 ^ 96 * 10 ^ (scale - k) < (c.coefficient + 1) * 10 ^ 10 := by
    calc 2 ^ 96 * 10 ^ (scale - k) ≤ n * 10 ^ (scale - k) :=
          mul_le_mul_of_nonneg_right hn (by omega)
      _ < (c.coefficient + 1) * 10 ^ places := hlow
      _ ≤ (c.coefficient + 1) * 10 ^ 10 := mul_le_mul_of_nonneg_left hcoarse (by omega)
  show ¬ c.coefficient * 10 ^ 2 ≤ (99999999999999999999 : ℤ) * 10 ^ c.scale
  rw [hscale]
  omega

/-- A sum whose units do not fit a mantissa is above every balance, if it exists. -/
theorem not_add?_le_maxValue (hplaces : places ≤ 8) {a b c : Decimal} {m n : ℤ}
    (ha : a.IsUnits (places + 2) m) (hb : b.IsUnits (places + 2) n) (h : 2 ^ 96 ≤ m + n)
    (hc : a.add? b = some c) : ¬ c ≤ Money.maxValue := by
  have hlargest : (99999999999999999999 : ℤ) * 10 ^ places < 2 ^ 96 := by
    have hcoarse : (10 : ℤ) ^ places ≤ 10 ^ 8 := pow_le_pow_right₀ (by norm_num) hplaces
    omega
  rw [add?] at hc
  split at hc
  · next h0 =>
    obtain rfl := Option.some.inj hc
    rw [ha.isZero_iff.mp h0] at h
    rw [hb.le_iff (isUnits_maxValue places)]
    omega
  split at hc
  · next h0 =>
    obtain rfl := Option.some.inj hc
    rw [hb.isZero_iff.mp h0] at h
    rw [ha.le_iff (isUnits_maxValue places)]
    omega
  have hsum := ha.coefficientAt_add hb
  set scale := max a.scale b.scale
  set sum := a.coefficientAt (scale - a.scale) + b.coefficientAt (scale - b.scale)
  have hunit : (0 : ℤ) < 10 ^ (places + 2) := by positivity
  have hpow : (0 : ℤ) < 10 ^ scale := by positivity
  -- neither of them is zero, so the sum is the rounded one; it is above zero
  have hpos : 0 < sum := by
    refine (mul_pos_iff_of_pos_right hunit).mp ?_
    rw [hsum]
    exact mul_pos (by omega) hpow
  have hfit : fit? (decide (sum < 0)) sum.natAbs scale = some c := hc
  rw [decide_eq_false (not_lt.mpr hpos.le)] at hfit
  have hfew : places + 2 ≤ 10 := by omega
  refine not_fit?_le_maxValue hfew ?_ h hfit
  rw [Int.natAbs_of_nonneg hpos.le]
  exact hsum

end Decimal

end Teller
