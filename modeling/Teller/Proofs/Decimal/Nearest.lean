/-
Rounding a number of any size to decimals: once to the digits that a mantissa keeps, once to a
fixed number of places.

* `IsNearest`: the integer nearest to a rational number, the even one of two; it is unique and
  monotone (`IsNearest.mono`, `IsNearest.unique`);
* `Decimal.IsRounded`: a decimal is a number rounded to so many places; `isRounded_roundTo` says so
  of `Decimal.roundTo`;
* `Decimal.IsRounded.twice_iff`: when a number rounded twice is the number rounded once;
* `Decimal.IsKept`: a number leaves room in a mantissa for so many fraction digits;
  `Decimal.keptPlaces` is the most for which it does, and depends on the number alone;
* `Decimal.isRounded_fit?`: fitting into range rounds once, to the places that are kept;
* `Decimal.fit?_mono`: fitting is monotone, also where a greater number keeps fewer places.
-/
import Teller.Proofs.Decimal.Cents

namespace Teller

/-! ### The nearest integer -/

/-- The integer `n` is nearest to `x`, and it is even if another one is as near. -/
def IsNearest (x : ℚ) (n : ℤ) : Prop :=
  |x - n| ≤ 1 / 2 ∧ (|x - n| = 1 / 2 → Even n)

lemma isNearest_intCast (n : ℤ) : IsNearest n n := by
  simp [IsNearest]

namespace IsNearest

variable {x y : ℚ} {m n : ℤ}

lemma neg (h : IsNearest x n) : IsNearest (-x) (-n) := by
  have habs : |-x - ((-n : ℤ) : ℚ)| = |x - n| := by
    rw [← abs_neg]
    push_cast
    ring_nf
  rw [IsNearest, habs]
  exact ⟨h.1, fun hhalf => (h.2 hhalf).neg⟩

/-- Greater numbers have nearest integers that are not less. -/
theorem mono (hx : IsNearest x m) (hy : IsNearest y n) (h : x ≤ y) : m ≤ n := by
  by_contra hlt
  have hmn : n + 1 ≤ m := by omega
  have hmn' : (n : ℚ) + 1 ≤ m := by exact_mod_cast hmn
  have hxm := abs_le.mp hx.1
  have hyn := abs_le.mp hy.1
  -- both numbers lie half way between two neighbours, and both neighbours would be even
  have hm : (m : ℚ) = n + 1 := by linarith [hxm.1, hyn.2]
  have hxhalf : |x - m| = 1 / 2 := by
    rw [abs_eq (by norm_num)]
    exact .inr (by linarith [hxm.1, hyn.2])
  have hyhalf : |y - n| = 1 / 2 := by
    rw [abs_eq (by norm_num)]
    exact .inl (by linarith [hxm.1, hyn.2])
  have hsucc : m = n + 1 := by exact_mod_cast hm
  have hm_even := hx.2 hxhalf
  have hn_even := hy.2 hyhalf
  rw [hsucc, Int.even_add_one] at hm_even
  exact hm_even hn_even

theorem unique (hm : IsNearest x m) (hn : IsNearest x n) : m = n :=
  le_antisymm (hm.mono hn le_rfl) (hn.mono hm le_rfl)

/-- The nearest integer stays below an even bound exactly when the number is more than a half below
it. -/
lemma lt_iff (h : IsNearest x n) (hm : Even m) : n < m ↔ x < m - 1 / 2 := by
  have habs := abs_le.mp h.1
  constructor
  · intro hlt
    have hle : (n : ℚ) ≤ m - 1 := by
      have : n ≤ m - 1 := by omega
      exact_mod_cast this
    refine lt_of_le_of_ne (by linarith) fun heq => ?_
    have hn : (n : ℚ) = m - 1 := by linarith
    have hn_even := h.2 (by rw [heq, hn, abs_eq (by norm_num)]; left; ring)
    have hpred : n = m - 1 := by exact_mod_cast hn
    rw [hpred, Int.even_sub_one] at hn_even
    exact hn_even hm
  · intro hlt
    have hn : (n : ℚ) < m := by linarith
    exact_mod_cast hn

end IsNearest

/-- Nearness to a quotient, without the quotient. -/
lemma isNearest_div_iff {m n : ℤ} {d : ℕ} (hd : 0 < d) :
    IsNearest ((m : ℚ) / d) n ↔
      |2 * (m - n * d)| ≤ d ∧ (|2 * (m - n * d)| = d → Even n) := by
  have hdq : (0 : ℚ) < d := by exact_mod_cast hd
  have hdist : |(m : ℚ) / d - n| = (|2 * (m - n * d)| : ℤ) / (2 * d) := by
    have hsub : (m : ℚ) / d - n = (2 * (m - n * d)) / (2 * d) := by field_simp
    rw [hsub, abs_div, abs_of_pos (show (0 : ℚ) < 2 * d by positivity)]
    push_cast
    rfl
  have hhalf : (1 : ℚ) / 2 = d / (2 * d) := by field_simp
  have htwo : (0 : ℚ) < 2 * d := by positivity
  rw [IsNearest, hdist, hhalf, div_le_div_iff_of_pos_right htwo, div_left_inj' htwo.ne']
  norm_cast

/-- Rounding a quotient gives the integer nearest to it. -/
theorem isNearest_halfEven (n : ℕ) {d : ℕ} (hd : 0 < d) :
    IsNearest ((n : ℚ) / d) (halfEven n d : ℤ) := by
  have hdiv : (n : ℤ) = (n / d : ℕ) * d + (n % d : ℕ) := by
    exact_mod_cast (Nat.div_add_mod' n d).symm
  have hlt : n % d < d := Nat.mod_lt n hd
  -- twice the distances from the floor of the quotient and from the integer above it
  have hfloor : |2 * ((n : ℤ) - (n / d : ℕ) * d)| = 2 * (n % d : ℕ) := by
    rw [hdiv, add_sub_cancel_left, abs_of_nonneg (by positivity)]
  have hceil : |2 * ((n : ℤ) - (n / d + 1 : ℕ) * d)| = 2 * (d - (n % d : ℕ)) := by
    have hneg : 2 * ((n : ℤ) - (n / d + 1 : ℕ) * d) = -(2 * (d - (n % d : ℕ))) := by
      rw [hdiv, Nat.cast_add_one]
      ring
    rw [hneg, abs_neg, abs_of_nonneg (by omega)]
  have hcast : (n : ℚ) = (n : ℤ) := by norm_cast
  rw [hcast, isNearest_div_iff hd]
  unfold halfEven
  dsimp only
  split
  · next hlow =>
    rw [hfloor]
    exact ⟨by omega, fun h => by omega⟩
  · next hhigh =>
    split
    · rw [hceil]
      exact ⟨by omega, fun h => by omega⟩
    · split
      · next heven =>
        rw [hfloor, Int.even_coe_nat, Nat.even_iff]
        exact ⟨by omega, fun _ => heven⟩
      · next hodd =>
        rw [hceil, Int.even_coe_nat, Nat.even_iff]
        exact ⟨by omega, fun _ => by omega⟩

/-- Rounding first to a grid that is finer by an even factor and then to integers is rounding once,
unless the first rounding ends half way between two integers and the second goes on away from the
number. -/
lemma IsNearest.twice_iff {x w : ℚ} {K : ℕ} {a n : ℤ} (hK : 0 < K)
    (hx : IsNearest (x * (2 * K)) a) (ha : w * (2 * K) = a) (hn : IsNearest w n) :
    IsNearest x n ↔ ¬ (|w - n| = 1 / 2 ∧ (x - w) * (n - w) < 0) := by
  have hKq : (1 : ℚ) ≤ K := by exact_mod_cast hK
  have hstep : |x - w| * (2 * K) ≤ 1 / 2 := by
    calc |x - w| * (2 * K) = |x * (2 * K) - a| := by
          rw [← ha, ← sub_mul, abs_mul, abs_of_pos (show (0 : ℚ) < 2 * K by positivity)]
      _ ≤ 1 / 2 := hx.1
  have hclose : |x - w| ≤ 1 / 4 := by nlinarith [abs_nonneg (x - w)]
  rcases hn.1.eq_or_lt with hhalf | hlt
  · -- the finer grid point is half way: the second rounding goes to the even side
    have heven := hn.2 hhalf
    have hiff : IsNearest x n ↔ |x - n| ≤ 1 / 2 := ⟨And.left, fun h => ⟨h, fun _ => heven⟩⟩
    have hnear := abs_le.mp hclose
    rw [hiff, and_iff_right hhalf, not_lt, abs_le]
    rcases (abs_eq (by norm_num)).mp hhalf with h | h
    · rw [show (n : ℚ) = w - 1 / 2 by linarith]
      constructor
      · rintro ⟨-, hle⟩
        nlinarith
      · intro hprod
        constructor <;> nlinarith
    · rw [show (n : ℚ) = w + 1 / 2 by linarith]
      constructor
      · rintro ⟨hle, -⟩
        nlinarith
      · intro hprod
        constructor <;> nlinarith
  · -- the finer grid point is nearer by at least one step of the finer grid
    refine iff_of_true ?_ (fun h => hlt.ne h.1)
    have hint : |w - n| * (2 * K) = (|a - n * (2 * K)| : ℤ) := by
      push_cast
      rw [← ha, ← sub_mul, abs_mul, abs_of_pos (show (0 : ℚ) < 2 * K by positivity)]
    have hlt' : |a - n * (2 * (K : ℤ))| < K := by
      have : ((|a - n * (2 * K)| : ℤ) : ℚ) < K := by
        rw [← hint]
        nlinarith
      exact_mod_cast this
    have hle : |w - n| * (2 * K) ≤ K - 1 := by
      rw [hint]
      have : |a - n * (2 * (K : ℤ))| ≤ K - 1 := by omega
      exact_mod_cast this
    have hsum : |x - n| ≤ |x - w| + |w - n| := abs_sub_le x w n
    have hstrict : |x - n| < 1 / 2 := by nlinarith
    exact ⟨hstrict.le, fun h => absurd h hstrict.ne⟩

namespace Decimal

variable {d : Decimal} {places p q : ℕ} {x y : ℚ}

/-! ### Rounded decimals -/

/-- The decimal denotes the number `x` rounded to this many fraction digits, a half going to the
even neighbour. -/
def IsRounded (d : Decimal) (places : ℕ) (x : ℚ) : Prop :=
  ∃ n : ℤ, d.IsUnits places n ∧ IsNearest (x * 10 ^ places) n

lemma IsUnits.toRat_mul {n : ℤ} (h : d.IsUnits places n) : d.toRat * 10 ^ places = n := by
  rw [show d.toRat = n / 10 ^ places from h, div_mul_cancel₀ _ (by positivity)]

/-- A decimal that is a whole number of units is rounded to them already. -/
lemma isRounded_of_isUnits {n : ℤ} (h : d.IsUnits places n) : d.IsRounded places d.toRat :=
  ⟨n, h, by rw [h.toRat_mul]; exact isNearest_intCast n⟩

/-- Whether a whole number of units is a rounded number, in terms of its units. -/
lemma IsUnits.isRounded_iff {n : ℤ} (h : d.IsUnits places n) :
    d.IsRounded places x ↔ IsNearest (x * 10 ^ places) n := by
  refine ⟨?_, fun hn => ⟨n, h, hn⟩⟩
  rintro ⟨m, hm, hnear⟩
  have hmn : (m : ℚ) = n := hm.toRat_mul.symm.trans h.toRat_mul
  rwa [Int.cast_injective hmn] at hnear

/-- Rounding a number rounds off at most a half unit. -/
lemma IsRounded.abs_sub_le (h : d.IsRounded places x) : |x - d.toRat| ≤ 1 / (2 * 10 ^ places) := by
  obtain ⟨n, hn, hnear, -⟩ := h
  have hpow : (0 : ℚ) < 10 ^ places := by positivity
  have hscaled : |x - d.toRat| * 10 ^ places = |x * 10 ^ places - n| := by
    rw [← hn.toRat_mul, ← sub_mul, abs_mul, abs_of_pos hpow]
  rw [le_div_iff₀ (by positivity)]
  linarith

/-- Rounding is monotone. -/
lemma IsRounded.mono {c : Decimal} (hd : d.IsRounded places x) (hc : c.IsRounded places y)
    (h : x ≤ y) : d.toRat ≤ c.toRat := by
  obtain ⟨m, hm, hxm⟩ := hd
  obtain ⟨n, hn, hyn⟩ := hc
  have hmn : m ≤ n := hxm.mono hyn (mul_le_mul_of_nonneg_right h (by positivity))
  exact le_iff_toRat.mp ((hm.le_iff hn).mpr hmn)

/-- The mantissa of a decimal, seen from a scale with fewer digits. -/
lemma coefficient_mul_pow (d : Decimal) (h : places ≤ d.scale) :
    d.toRat * 10 ^ places = d.coefficient / 10 ^ (d.scale - places) := by
  have hsplit : (10 : ℚ) ^ d.scale = 10 ^ (d.scale - places) * 10 ^ places := by
    rw [← pow_add, Nat.sub_add_cancel h]
  rw [toRat_eq, hsplit]
  field_simp

lemma scale_roundTo (h : places < d.scale) : (d.roundTo places).scale = places := by
  rw [roundTo, dif_neg (by omega)]

/-- A sign is lost only where the mantissa becomes zero. -/
lemma coefficient_roundTo (h : places < d.scale) :
    (d.roundTo places).coefficient =
      if d.negative then -(halfEven d.mantissa (10 ^ (d.scale - places)) : ℤ)
      else halfEven d.mantissa (10 ^ (d.scale - places)) := by
  rw [roundTo, dif_neg (by omega), coefficient]
  cases d.negative with
  | false => simp
  | true => by_cases hm : halfEven d.mantissa (10 ^ (d.scale - places)) = 0 <;> simp [hm]

/-- **Rounding to places** gives the nearest decimal with so many fraction digits. -/
theorem isRounded_roundTo (places : ℕ) (d : Decimal) :
    (d.roundTo places).IsRounded places d.toRat := by
  rcases Nat.lt_or_ge places d.scale with hlt | hle
  · refine ⟨(d.roundTo places).coefficient, ?_, ?_⟩
    · rw [isUnits_iff, scale_roundTo hlt]
    · have hnear := isNearest_halfEven d.mantissa
        (show 0 < 10 ^ (d.scale - places) by positivity)
      rw [Nat.cast_pow, Nat.cast_ofNat] at hnear
      rw [coefficient_mul_pow d hlt.le, coefficient_roundTo hlt, coefficient]
      cases d.negative with
      | false => simpa using hnear
      | true => simpa [neg_div] using hnear.neg
  · obtain ⟨n, hn⟩ := exists_isUnits_of_scale_le hle
    rw [roundTo, dif_pos hle]
    exact isRounded_of_isUnits hn

/-- **Rounding twice**: a number rounded to some places, and then to fewer, is the number rounded
once, unless the first rounding ends half way between two units of the second and the second goes on
away from the number. -/
theorem IsRounded.twice_iff {w : Decimal} (hw : w.IsRounded p x) (hd : d.IsRounded places w.toRat)
    (h : places ≤ p) :
    d.IsRounded places x ↔
      ¬ (|w.toRat - d.toRat| = 1 / (2 * 10 ^ places) ∧
        (x - w.toRat) * (d.toRat - w.toRat) < 0) := by
  obtain ⟨a, ha, hxa⟩ := hw
  obtain ⟨n, hn, hwn⟩ := hd
  have hunit : (0 : ℚ) < 10 ^ places := by positivity
  have hdn := hn.toRat_mul
  rw [hn.isRounded_iff]
  rcases h.eq_or_lt with rfl | hlt
  · -- the second rounding has nothing to do
    have hwa := ha.toRat_mul
    obtain rfl : a = n := (hwa ▸ isNearest_intCast a).unique hwn
    have hsame : w.toRat = d.toRat :=
      mul_right_cancel₀ hunit.ne' (hwa.trans hdn.symm)
    refine iff_of_true hxa ?_
    rintro ⟨-, hneg⟩
    rw [hsame, sub_self, mul_zero] at hneg
    exact hneg.false
  · obtain ⟨K, hK, hpow⟩ : ∃ K : ℕ, 0 < K ∧ (10 : ℚ) ^ p = 10 ^ places * (2 * K) := by
      refine ⟨5 * 10 ^ (p - places - 1), by positivity, ?_⟩
      have hsplit : (10 : ℚ) ^ p = 10 ^ places * 10 * 10 ^ (p - places - 1) := by
        rw [← pow_succ, ← pow_add]
        congr 1
        omega
      rw [hsplit]
      push_cast
      ring
    have hwa := ha.toRat_mul
    rw [hpow, ← mul_assoc] at hxa hwa
    rw [hxa.twice_iff hK hwa hwn]
    -- both conditions are the same at the scale of the units
    have habs : |w.toRat * 10 ^ places - n| = |w.toRat - d.toRat| * 10 ^ places := by
      rw [← hdn, ← sub_mul, abs_mul, abs_of_pos hunit]
    have hprod : (x * 10 ^ places - w.toRat * 10 ^ places) * (n - w.toRat * 10 ^ places)
        = (x - w.toRat) * (d.toRat - w.toRat) * (10 ^ places * 10 ^ places) := by
      rw [← hdn]
      ring
    have hhalf : |w.toRat - d.toRat| * 10 ^ places = 1 / 2 ↔
        |w.toRat - d.toRat| = 1 / (2 * 10 ^ places) := by
      rw [← div_div, eq_div_iff hunit.ne']
    have hsign : (x - w.toRat) * (d.toRat - w.toRat) * (10 ^ places * 10 ^ places) < 0 ↔
        (x - w.toRat) * (d.toRat - w.toRat) < 0 :=
      ⟨fun hneg => neg_of_mul_neg_left hneg (by positivity),
        fun hneg => mul_neg_of_neg_of_pos hneg (mul_pos hunit hunit)⟩
    rw [habs, hprod, hhalf, hsign]

/-! ### The places that are kept -/

/-- The number `x`, written with this many fraction digits, is rounded to less than the limit of
mantissas. The limit is even, so half a unit below it is rounded up. -/
def IsKept (x : ℚ) (places : ℕ) : Prop :=
  x * 10 ^ places < 2 ^ 96 - 1 / 2

instance (x : ℚ) (places : ℕ) : Decidable (IsKept x places) :=
  inferInstanceAs (Decidable (_ < _))

/-- The most fraction digits, up to 28, with which a number is written in range. -/
def keptPlaces (x : ℚ) : ℕ :=
  Nat.findGreatest (IsKept x) 28

lemma IsKept.of_le (hx : 0 ≤ x) (h : x ≤ y) (hpq : p ≤ q) (hy : IsKept y q) : IsKept x p := by
  refine lt_of_le_of_lt ?_ hy
  calc x * 10 ^ p ≤ x * 10 ^ q :=
        mul_le_mul_of_nonneg_left (pow_le_pow_right₀ (by norm_num) hpq) hx
    _ ≤ y * 10 ^ q := mul_le_mul_of_nonneg_right h (by positivity)

lemma isKept_keptPlaces (h : IsKept x 0) : IsKept x (keptPlaces x) :=
  Nat.findGreatest_spec (Nat.zero_le 28) h

/-- A number that is not greater keeps no fewer places. -/
lemma keptPlaces_anti (hx : 0 ≤ x) (h : x ≤ y) (hy : IsKept y 0) :
    keptPlaces y ≤ keptPlaces x :=
  Nat.le_findGreatest (Nat.findGreatest_le 28)
    ((isKept_keptPlaces hy).of_le hx h le_rfl)

/-- A mantissa at some scale fits, after some of its digits are dropped, if the number that it
denotes keeps the places that are left. -/
lemma fits_iff {mantissa scale k : ℕ} (hk : k ≤ scale) :
    Fits mantissa scale k ↔
      scale - k ≤ 28 ∧ IsKept ((mantissa : ℚ) / 10 ^ scale) (scale - k) := by
  have hnear : IsNearest ((mantissa : ℚ) / 10 ^ k) (halfEven mantissa (10 ^ k) : ℤ) := by
    have := isNearest_halfEven mantissa (show 0 < 10 ^ k by positivity)
    exact_mod_cast this
  have hscale : (mantissa : ℚ) / 10 ^ scale * 10 ^ (scale - k) = mantissa / 10 ^ k := by
    have hsplit : (10 : ℚ) ^ scale = 10 ^ k * 10 ^ (scale - k) := by
      rw [← pow_add, Nat.add_sub_cancel' hk]
    rw [hsplit]
    field_simp
  have heven : Even (2 ^ 96 : ℤ) := by decide
  rw [Fits, IsKept, hscale]
  refine and_congr_right fun _ => ?_
  calc halfEven mantissa (10 ^ k) < 2 ^ 96
      ↔ (halfEven mantissa (10 ^ k) : ℤ) < 2 ^ 96 := by norm_cast
    _ ↔ (mantissa : ℚ) / 10 ^ k < (2 ^ 96 : ℤ) - 1 / 2 := hnear.lt_iff heven
    _ ↔ (mantissa : ℚ) / 10 ^ k < 2 ^ 96 - 1 / 2 := by norm_cast

/-- **What fits**: a mantissa of any size and scale can be fitted into range exactly when the
number that it denotes keeps its integer part. -/
theorem exists_fit?_iff {mantissa scale : ℕ} :
    (∃ d, fit? false mantissa scale = some d) ↔ IsKept ((mantissa : ℚ) / 10 ^ scale) 0 := by
  constructor
  · rintro ⟨d, h⟩
    obtain ⟨k, hk, -, -, hmant, hscale⟩ := fit?_eq_some h
    have hfits : Fits mantissa scale k := ⟨hscale ▸ d.scale_le, hmant ▸ d.mantissa_lt⟩
    exact ((fits_iff hk).mp hfits).2.of_le (by positivity) le_rfl (Nat.zero_le _)
  · intro h
    refine exists_fit?_eq_some false (le_refl scale) ((fits_iff le_rfl).mpr ?_)
    rw [Nat.sub_self]
    exact ⟨Nat.zero_le _, h⟩

/-- **Fitting rounds once**, to the places that the number keeps. -/
theorem isRounded_fit? {mantissa scale : ℕ} (h : fit? false mantissa scale = some d) :
    d.IsRounded (keptPlaces ((mantissa : ℚ) / 10 ^ scale)) ((mantissa : ℚ) / 10 ^ scale) := by
  obtain ⟨k, hk, hmin, hneg, hmant, hscale⟩ := fit?_eq_some h
  set x : ℚ := (mantissa : ℚ) / 10 ^ scale with hx
  have hfits : Fits mantissa scale k := ⟨hscale ▸ d.scale_le, hmant ▸ d.mantissa_lt⟩
  obtain ⟨hplaces, hkept⟩ := (fits_iff hk).mp hfits
  have hle : scale - k ≤ keptPlaces x := Nat.le_findGreatest hplaces hkept
  have hcoefficient : d.coefficient = halfEven mantissa (10 ^ k) := by
    rw [coefficient, hneg, if_neg (by simp), hmant]
  rcases Nat.eq_zero_or_pos k with rfl | hpos
  · -- no digit is dropped, and the number is exact at every finer scale
    have hexact : d.toRat = x := by
      rw [toRat_eq, hcoefficient, hscale, hx, pow_zero, halfEven_of_dvd one_pos (one_dvd _)]
      simp
    obtain ⟨n, hn⟩ := exists_isUnits_of_scale_le (hscale ▸ hle)
    rw [← hexact] at hn ⊢
    exact isRounded_of_isUnits hn
  · -- one digit more does not fit, so no more places than these are kept
    have hmax : keptPlaces x = scale - k := by
      refine le_antisymm (Nat.le_of_not_lt fun hlt => ?_) hle
      have hspec : IsKept x (keptPlaces x) :=
        isKept_keptPlaces (hkept.of_le (by positivity) le_rfl (Nat.zero_le _))
      have hnext : IsKept x (scale - (k - 1)) :=
        hspec.of_le (by positivity) le_rfl (by omega)
      have h28 : keptPlaces x ≤ 28 := Nat.findGreatest_le 28
      exact hmin (k - 1) (by omega) ((fits_iff (by omega)).mpr ⟨by omega, hnext⟩)
    rw [hmax]
    refine ⟨halfEven mantissa (10 ^ k), ?_, ?_⟩
    · rw [isUnits_iff, hcoefficient, hscale]
    · have hsplit : (10 : ℚ) ^ scale = 10 ^ k * 10 ^ (scale - k) := by
        rw [← pow_add, Nat.add_sub_cancel' hk]
      have hscaled : x * 10 ^ (scale - k) = (mantissa : ℚ) / (10 ^ k : ℕ) := by
        rw [hx, hsplit]
        push_cast
        field_simp
      rw [hscaled]
      exact isNearest_halfEven mantissa (by positivity)

/-- A decimal that is a number in range itself is among the places that are kept. -/
lemma scale_le_keptPlaces (d : Decimal) : d.scale ≤ keptPlaces d.toRat := by
  refine Nat.le_findGreatest d.scale_le ?_
  have hcoefficient : d.coefficient ≤ d.mantissa := by
    rw [coefficient]
    split <;> omega
  have hlt : d.coefficient ≤ 2 ^ 96 - 1 := by
    have := d.mantissa_lt
    omega
  have hlt' : (d.coefficient : ℚ) ≤ 2 ^ 96 - 1 := by exact_mod_cast hlt
  rw [IsKept, toRat_eq, div_mul_cancel₀ _ (by positivity)]
  linarith

/-- Rounding to the places that a number keeps does nothing to a number that is a decimal. -/
lemma IsRounded.toRat_eq_of_kept {w : Decimal} (hw : w.IsRounded (keptPlaces d.toRat) d.toRat) :
    w.toRat = d.toRat := by
  obtain ⟨n, hn⟩ := exists_isUnits_of_scale_le d.scale_le_keptPlaces
  exact le_antisymm (hw.mono (isRounded_of_isUnits hn) le_rfl)
    ((isRounded_of_isUnits hn).mono hw le_rfl)

/-- A number that does not keep one place more lies above every decimal that has more places. -/
lemma toRat_le_of_not_isKept {c : Decimal} {m n : ℤ} (hd : d.IsUnits p m) (hm : m < 2 ^ 96)
    (hc : c.IsUnits q n) (hn : IsNearest (y * 10 ^ q) n) (hpq : q < p)
    (hy : ¬ IsKept y (q + 1)) : d.toRat ≤ c.toRat := by
  -- the tenth of the largest mantissa is half way between two integers, and `n` is the upper one
  have hlow : (7922816251426433759354395034 : ℤ) ≤ n := by
    have hy' : (2 : ℚ) ^ 96 - 1 / 2 ≤ y * 10 ^ q * 10 := by
      rw [mul_assoc, ← pow_succ]
      exact not_lt.mp hy
    have habs := abs_le.mp hn.1
    have hgt : (7922816251426433759354395033 : ℚ) < n := by linarith [habs.2]
    have hgt' : (7922816251426433759354395033 : ℤ) < n := by exact_mod_cast hgt
    omega
  have hmax : (m : ℚ) ≤ 2 ^ 96 - 1 := by
    have : m ≤ 2 ^ 96 - 1 := by omega
    exact_mod_cast this
  have hpow : (10 : ℚ) ^ (q + 1) ≤ 10 ^ p := pow_le_pow_right₀ (by norm_num) hpq
  calc d.toRat = m / 10 ^ p := hd
    _ ≤ (2 ^ 96 - 1) / 10 ^ p := div_le_div_of_nonneg_right hmax (by positivity)
    _ ≤ (2 ^ 96 - 1) / 10 ^ (q + 1) :=
        div_le_div_of_nonneg_left (by norm_num) (by positivity) hpow
    _ = (2 ^ 96 - 1) / 10 / 10 ^ q := by rw [pow_succ' (10 : ℚ) q, div_div]
    _ ≤ (7922816251426433759354395034 : ℤ) / 10 ^ q :=
        div_le_div_of_nonneg_right (by norm_num) (by positivity)
    _ ≤ n / 10 ^ q := div_le_div_of_nonneg_right (by exact_mod_cast hlow) (by positivity)
    _ = c.toRat := hc.symm

/-- **Fitting is monotone**: if a number can be fitted into range, so can each that is not greater,
and its decimal is not greater, with however many digits the two are written. -/
theorem fit?_mono {mantissa scale mantissa' scale' : ℕ} {c : Decimal}
    (h : (mantissa : ℚ) / 10 ^ scale ≤ (mantissa' : ℚ) / 10 ^ scale')
    (hc : fit? false mantissa' scale' = some c) :
    ∃ d, fit? false mantissa scale = some d ∧ d.toRat ≤ c.toRat := by
  set x : ℚ := (mantissa : ℚ) / 10 ^ scale with hx
  set y : ℚ := (mantissa' : ℚ) / 10 ^ scale' with hy
  have hx0 : 0 ≤ x := by positivity
  have hkept : IsKept y 0 := exists_fit?_iff.mp ⟨c, hc⟩
  have hkept' : IsKept x 0 := hkept.of_le hx0 h le_rfl
  obtain ⟨d, hd⟩ := exists_fit?_iff.mpr hkept'
  refine ⟨d, hd, ?_⟩
  have hxr := isRounded_fit? hd
  have hyr := isRounded_fit? hc
  rw [← hx] at hxr
  rw [← hy] at hyr
  rcases (keptPlaces_anti hx0 h hkept).eq_or_lt with heq | hlt
  · rw [heq] at hyr
    exact hxr.mono hyr h
  · obtain ⟨m, hm, hxm⟩ := hxr
    obtain ⟨n, hn, hyn⟩ := hyr
    have heven : Even (2 ^ 96 : ℤ) := by decide
    have hm_lt : m < 2 ^ 96 := by
      rw [hxm.lt_iff heven, Int.cast_pow, Int.cast_ofNat]
      exact isKept_keptPlaces hkept'
    have h28 : keptPlaces x ≤ 28 := Nat.findGreatest_le 28
    have hnot : ¬ IsKept y (keptPlaces y + 1) := fun hnext => by
      have : keptPlaces y + 1 ≤ keptPlaces y := Nat.le_findGreatest (by omega) hnext
      omega
    exact toRat_le_of_not_isKept hm hm_lt hn hyn hlt hnot

end Decimal

end Teller
