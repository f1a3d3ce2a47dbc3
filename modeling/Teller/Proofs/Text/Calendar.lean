/-
The calendar goes on with the clock.

* `Date.ordinal`: the number of a day, counted through all years; days that come after have the
  numbers after it (`Date.ordinal_addDays`);
* `Date.IsBefore`: the order of days by year, month and day; `Date.isBefore_of_ordinal_lt`: days
  with smaller numbers come before;
* `Timestamp.ofEpochMillis_mono`: an instant that is not earlier on the clock is not earlier on the
  calendar.
-/
import Mathlib.Tactic
import Teller.Timestamp

namespace Teller

namespace Date

/-! ### Numbers of days -/

/-- The number of days before a year: 365 for each year before it, and one more for each leap
year. -/
def yearStart (year : ℤ) : ℤ :=
  365 * year + (year - 1) / 4 - (year - 1) / 100 + (year - 1) / 400

/-- The number of days of a year before a month. -/
def monthStart (year : ℤ) : ℕ → ℕ
  | 0 => 0
  | month + 1 => monthStart year month + if month = 0 then 0 else monthLength year month

/-- The number of a day, counted through all years. -/
def ordinal (d : Date) : ℤ :=
  yearStart d.year + monthStart d.year d.month + d.day

/-- A year has 365 days, a leap year 366. -/
lemma yearStart_succ (year : ℤ) : yearStart (year + 1) = yearStart year + monthStart year 13 := by
  have hmonths : (monthStart year 13 : ℤ) = if isLeapYear year then 366 else 365 := by
    cases h : isLeapYear year <;> simp [monthStart, monthLength, h]
  have hleap : isLeapYear year = true ↔ year % 4 = 0 ∧ (year % 100 ≠ 0 ∨ year % 400 = 0) := by
    simp [isLeapYear]
  rw [hmonths, yearStart, yearStart]
  split
  · next h =>
    rw [hleap] at h
    omega
  · next h =>
    rw [hleap] at h
    omega

lemma yearStart_mono {year year' : ℤ} (h : year ≤ year') : yearStart year ≤ yearStart year' := by
  rw [yearStart, yearStart]
  omega

lemma monthStart_mono (year : ℤ) {month month' : ℕ} (h : month ≤ month') :
    monthStart year month ≤ monthStart year month' := by
  induction month', h using Nat.le_induction with
  | base => exact le_rfl
  | succ month' _ ih =>
      calc monthStart year month ≤ monthStart year month' := ih
        _ ≤ monthStart year (month' + 1) := Nat.le_add_right _ _

/-- The days of a month have their place before the next month. -/
lemma ordinal_le_of_month_lt (d : Date) {month : ℕ} (h : d.month < month) :
    d.ordinal ≤ yearStart d.year + monthStart d.year month := by
  have hmonth := d.month_range
  have hday := d.day_range
  have hnext : monthStart d.year (d.month + 1)
      = monthStart d.year d.month + monthLength d.year d.month := by
    rw [monthStart, if_neg (by omega)]
  have hmono := monthStart_mono d.year (show d.month + 1 ≤ month from h)
  rw [ordinal]
  omega

lemma lt_ordinal (d : Date) : yearStart d.year + monthStart d.year d.month < d.ordinal := by
  have hday := d.day_range
  rw [ordinal]
  omega

/-! ### The next days -/

lemma ordinal_next (d : Date) : d.next.ordinal = d.ordinal + 1 := by
  have hmonth := d.month_range
  have hday := d.day_range
  rw [next]
  split
  · show yearStart d.year + monthStart d.year d.month + (d.day + 1 : ℕ) = d.ordinal + 1
    rw [ordinal]
    omega
  · next hlast =>
    have hstart : monthStart d.year (d.month + 1)
        = monthStart d.year d.month + monthLength d.year d.month := by
      rw [monthStart, if_neg (by omega)]
    split
    · show yearStart d.year + monthStart d.year (d.month + 1) + (1 : ℕ) = d.ordinal + 1
      rw [ordinal, hstart]
      omega
    · next hend =>
      obtain heq : d.month = 12 := by omega
      have hfirst : monthStart (d.year + 1) 1 = 0 := rfl
      show yearStart (d.year + 1) + monthStart (d.year + 1) 1 + (1 : ℕ) = d.ordinal + 1
      rw [heq] at hstart hlast
      rw [ordinal, yearStart_succ, hfirst, heq, show 13 = 12 + 1 from rfl, hstart]
      have hlast' : d.day = monthLength d.year 12 := by
        rw [heq] at hday
        omega
      omega

lemma ordinal_repeat_next (d : Date) (days : ℕ) :
    (Nat.repeat next days d).ordinal = d.ordinal + days := by
  induction days with
  | zero => simp [Nat.repeat]
  | succ days ih =>
      rw [Nat.repeat, ordinal_next, ih]
      push_cast
      ring

lemma monthStart_add_cycles (year : ℤ) (cycles month : ℕ) :
    monthStart (year + 400 * cycles) month = monthStart year month := by
  induction month with
  | zero => rfl
  | succ month ih => rw [monthStart, monthStart, ih, monthLength_add_cycles]

lemma ordinal_addCycles (d : Date) (cycles : ℕ) :
    (d.addCycles cycles).ordinal = d.ordinal + cycleDays * cycles := by
  show yearStart (d.year + 400 * cycles) + monthStart (d.year + 400 * cycles) d.month + d.day
    = d.ordinal + cycleDays * cycles
  rw [monthStart_add_cycles, ordinal, yearStart, yearStart, cycleDays]
  omega

/-- So many days later the number is so much greater. -/
theorem ordinal_addDays (d : Date) (days : ℕ) : (d.addDays days).ordinal = d.ordinal + days := by
  have hdays := Nat.mod_add_div days cycleDays
  rw [addDays, ordinal_addCycles, ordinal_repeat_next, add_assoc]
  exact congrArg _ (by exact_mod_cast hdays)

/-! ### The order of days -/

/-- The day is in an earlier year, in an earlier month of the same year, or on an earlier day of the
same month. -/
def IsBefore (a b : Date) : Prop :=
  a.year < b.year ∨ a.year = b.year ∧ (a.month < b.month ∨ a.month = b.month ∧ a.day < b.day)

lemma ordinal_lt_of_isBefore {a b : Date} (h : a.IsBefore b) : a.ordinal < b.ordinal := by
  rcases h with hyear | ⟨hyear, hmonth | ⟨hmonth, hday⟩⟩
  · have hrange := a.month_range
    calc a.ordinal ≤ yearStart a.year + monthStart a.year 13 :=
          a.ordinal_le_of_month_lt (by omega)
      _ = yearStart (a.year + 1) := (yearStart_succ _).symm
      _ ≤ yearStart b.year := yearStart_mono hyear
      _ ≤ yearStart b.year + monthStart b.year b.month := by omega
      _ < b.ordinal := b.lt_ordinal
  · calc a.ordinal ≤ yearStart a.year + monthStart a.year b.month :=
          a.ordinal_le_of_month_lt hmonth
      _ = yearStart b.year + monthStart b.year b.month := by rw [hyear]
      _ < b.ordinal := b.lt_ordinal
  · rw [ordinal, ordinal, hyear, hmonth]
    omega

/-- Days with smaller numbers come before. -/
theorem isBefore_of_ordinal_lt {a b : Date} (h : a.ordinal < b.ordinal) : a.IsBefore b := by
  by_contra hnot
  have hback : b.IsBefore a ∨ a.year = b.year ∧ a.month = b.month ∧ a.day = b.day := by
    rw [IsBefore] at hnot ⊢
    omega
  rcases hback with hback | ⟨hyear, hmonth, hday⟩
  · exact absurd (ordinal_lt_of_isBefore hback) (by omega)
  · rw [ordinal, ordinal, hyear, hmonth, hday] at h
    exact lt_irrefl _ h

end Date

/-! ### Instants -/

namespace Timestamp

variable {a b c : Timestamp}

lemma le_trans (h : a ≤ b) (h' : b ≤ c) : a ≤ c :=
  List.le_trans h h'

/-- An instant on an earlier day is earlier. -/
lemma le_of_isBefore (h : a.date.IsBefore b.date) : a ≤ b := by
  show a.key ≤ b.key
  simp only [key, List.cons_le_cons_iff]
  rcases h with hyear | ⟨hyear, hmonth | ⟨hmonth, hday⟩⟩
  · exact .inl hyear
  · exact .inr ⟨hyear, .inl (by exact_mod_cast hmonth)⟩
  · exact .inr ⟨hyear, .inr ⟨by rw [hmonth], .inl (by exact_mod_cast hday)⟩⟩

/-- On one day the second and the nanoseconds decide. -/
lemma le_of_date_eq (hdate : a.date = b.date)
    (h : a.second < b.second ∨ a.second = b.second ∧ a.nanos ≤ b.nanos) : a ≤ b := by
  show a.key ≤ b.key
  simp only [key, List.cons_le_cons_iff, hdate, true_and]
  refine .inr (.inr (.inr ?_))
  rcases h with hsecond | ⟨hsecond, hnanos⟩
  · exact .inl (by exact_mod_cast hsecond)
  · refine .inr ⟨by rw [hsecond], ?_⟩
    rcases lt_or_eq_of_le hnanos with hlt | heq
    · exact .inl (by exact_mod_cast hlt)
    · exact .inr ⟨by rw [heq], List.le_refl _⟩

/-- **The calendar goes on with the clock.** -/
theorem ofEpochMillis_mono {m n : ℕ} (h : m ≤ n) : ofEpochMillis m ≤ ofEpochMillis n := by
  have hseconds : m / 1000 ≤ n / 1000 := Nat.div_le_div_right h
  rcases Nat.lt_or_ge (m / 1000 / daySeconds) (n / 1000 / daySeconds) with hdays | hdays
  · refine le_of_isBefore (Date.isBefore_of_ordinal_lt ?_)
    show (Date.epoch.addDays _).ordinal < (Date.epoch.addDays _).ordinal
    rw [Date.ordinal_addDays, Date.ordinal_addDays]
    exact Int.add_lt_add_left (by exact_mod_cast hdays) _
  · have heq : m / 1000 / daySeconds = n / 1000 / daySeconds :=
      le_antisymm (Nat.div_le_div_right hseconds) hdays
    refine le_of_date_eq (congrArg Date.epoch.addDays heq) ?_
    show m / 1000 % daySeconds < n / 1000 % daySeconds ∨ m / 1000 % daySeconds
      = n / 1000 % daySeconds ∧ m % 1000 * 10 ^ 6 ≤ n % 1000 * 10 ^ 6
    rw [daySeconds] at heq ⊢
    omega

end Timestamp

end Teller
