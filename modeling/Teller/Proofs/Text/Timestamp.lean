/-
Instants are read back as they were written.

* `Timestamp.IsWritable`: the year is one of the calendar, and a leap second stands at the end of a
  minute;
* `readYear?_yearChars`, `readNumber?_padded`, `readFraction?_fractionChars`: the parts of a text;
* `Timestamp.parse?_toString`: the written form of an instant denotes it;
* `Timestamp.settled`: the instant that is denoted by the written form of any instant, by
  `Timestamp.parse?_toString_settled`;
* `Timestamp.isWritable_ofEpochMillis`: an instant of a clock is writable as long as its year is.
-/
import Teller.Proofs.Text.Numeral
import Teller.Timestamp

namespace Teller.Timestamp

open Text

/-! ### Parts -/

section Parts

variable {c : Char} {cs rest : List Char}

/-- A text that starts with no white space. -/
lemma skipBlanks_cons (h : isBlank c = false) : skipBlanks (c :: cs) = c :: cs := by
  simp [skipBlanks, h]

lemma skipBlanks_digits (hne : cs ≠ []) (hcs : Digits cs) :
    skipBlanks (cs ++ rest) = cs ++ rest := by
  cases cs with
  | nil => exact absurd rfl hne
  | cons c cs => exact skipBlanks_cons (isBlank_of_isDigit (digits_cons.mp hcs).1)

/-- A number of a fixed width. -/
lemma readNumber?_padded {width n : ℕ} (hwidth : 0 < width) (h : n < 10 ^ width) :
    readNumber? width (padded width n ++ rest) = some (n, rest) := by
  have hlength := length_padded_of_lt hwidth h
  have htake : (padded width n ++ rest).take width = padded width n := List.take_left' hlength
  have hdigits : (padded width n).takeWhile Char.isDigit = padded width n :=
    (digits_padded width n).takeWhile_eq
  rw [readNumber?, skipBlanks_digits (padded_ne_nil _ _) (digits_padded _ _), htake, hdigits,
    if_neg (padded_ne_nil _ _), valueOf_padded, List.drop_left]

lemma readMark?_cons (h : isBlank c = false) : readMark? c (c :: rest) = some rest := by
  rw [readMark?, skipBlanks_cons h]
  exact if_pos rfl

/-- A year before something else than a digit. -/
lemma readYear?_yearChars (year : ℤ) (hrest : StopsDigits rest) :
    readYear? (yearChars year ++ rest) = some (year, rest) := by
  rw [yearChars]
  split
  · next hshort =>
    have hread : readNumber? 4 (padded 4 year.toNat ++ rest) = some (year.toNat, rest) :=
      readNumber?_padded (by omega) (by omega)
    have hskip := @skipBlanks_digits _ rest (padded_ne_nil 4 year.toNat) (digits_padded _ _)
    have hdigits := digits_padded 4 year.toNat
    have hyear : (year.toNat : ℤ) = year := Int.toNat_of_nonneg hshort.1
    -- a year of four digits has no sign: its first character is a digit
    revert hread hskip hdigits
    cases hcs : padded 4 year.toNat with
    | nil => exact absurd hcs (padded_ne_nil _ _)
    | cons c cs =>
        intro hread hskip hdigits
        have hc : c.isDigit = true := (digits_cons.mp hdigits).1
        have hminus : c ≠ '-' := ne_of_isDigit hc rfl
        have hplus : c ≠ '+' := ne_of_isDigit hc rfl
        rw [List.cons_append] at hread hskip ⊢
        rw [readYear?, hskip]
        simp [hminus, hplus, hread, hyear]
  · -- any other year has one, and its digits end where something else begins
    have htaken := takeWhile_digits (digits_padded 4 year.natAbs) hrest
    by_cases hnegative : year < 0
    · rw [if_pos hnegative, List.cons_append, readYear?, skipBlanks_cons (by decide)]
      simp only [htaken, if_neg (padded_ne_nil _ _), valueOf_padded, List.drop_left, if_true]
      congr
      omega
    · rw [if_neg hnegative, List.cons_append, readYear?, skipBlanks_cons (by decide)]
      simp only [htaken, if_neg (padded_ne_nil _ _), valueOf_padded, List.drop_left]
      simp
      omega

/-- Digits after a point, of which there are at most nine. -/
lemma readFraction?_padded {width n : ℕ} (hwidth : 0 < width ∧ width ≤ 9) (h : n < 10 ^ width)
    (hrest : StopsDigits rest) :
    readFraction? ('.' :: padded width n ++ rest) = some (n * 10 ^ (9 - width), rest) := by
  have htaken := takeWhile_digits (digits_padded width n) hrest
  have hlength := length_padded_of_lt hwidth.1 h
  have hnine : (padded width n).take 9 = padded width n :=
    List.take_of_length_le (by omega)
  have hdrop : (padded width n ++ rest).drop width = rest := List.drop_left' hlength
  rw [List.cons_append, readFraction?]
  simp only [htaken, if_neg (padded_ne_nil _ _), hnine, valueOf_padded, hlength, hdrop]

/-- A fraction of a second before something else. -/
lemma readFraction?_fractionChars {nanos : ℕ} (h : nanos < 10 ^ 9) (hrest : StopsDigits rest)
    (hpoint : rest.head? ≠ some '.') :
    readFraction? (fractionChars nanos ++ rest) = some (nanos, rest) := by
  rw [fractionChars]
  split
  · next hzero =>
    cases rest with
    | nil => simp [readFraction?, hzero]
    | cons c rest =>
        have hc : c ≠ '.' := by simpa using hpoint
        simp [readFraction?, hzero, hc]
  split
  · rw [@readFraction?_padded rest 3 (nanos / 10 ^ 6) (by omega) (by omega) hrest]
    congr
    omega
  split
  · rw [@readFraction?_padded rest 6 (nanos / 10 ^ 3) (by omega) (by omega) hrest]
    congr
    omega
  · rw [@readFraction?_padded rest 9 nanos (by omega) h hrest]
    simp

end Parts

/-! ### Whole texts -/

/-- An instant that a text can denote: in a year of the calendar, and in a leap second only at the
end of a minute. -/
structure IsWritable (t : Timestamp) : Prop where
  year : yearInRange t.date.year = true
  leap : t.nanos < secondNanos ∨ t.second % 60 = 59

/-- The part of a text that is the date. -/
lemma readDate?_date (d : Date) (rest : List Char) (hyear : yearInRange d.year = true) :
    readDate? (yearChars d.year ++ '-' :: padded 2 d.month ++ '-' :: padded 2 d.day ++ rest)
      = some (d, rest) := by
  have hmonth := d.month_range
  have hday := d.day_range
  have hlength : monthLength d.year d.month ≤ 31 := by
    unfold monthLength
    repeat' split
    all_goals omega
  have hdate : Date.ofNumbers? d.year d.month d.day = some d := dif_pos ⟨hmonth, hday⟩
  have hmark : isBlank '-' = false := by decide
  simp only [List.append_assoc, List.cons_append, readDate?]
  rw [readYear?_yearChars _ (stopsDigits_cons.mpr rfl)]
  simp only [Option.bind_eq_bind, Option.bind_some, readMark?_cons hmark]
  rw [readNumber?_padded (by omega) (by omega)]
  simp only [Option.bind_some, readMark?_cons hmark]
  rw [readNumber?_padded (by omega) (by omega)]
  simp [hyear, hdate]

/-- The part of a text that is the time of day. -/
lemma readTime?_time {second nanos : ℕ} {rest : List Char} (hsecond : second < daySeconds)
    (hnanos : nanos < 2 * secondNanos) (hleap : nanos < secondNanos ∨ second % 60 = 59)
    (hrest : StopsDigits rest) (hpoint : rest.head? ≠ some '.') :
    readTime? (padded 2 (second / 3600) ++ ':' :: padded 2 (second / 60 % 60)
        ++ ':' :: padded 2 (second % 60 + nanos / secondNanos)
        ++ fractionChars (nanos % secondNanos) ++ rest) = some ((second, nanos), rest) := by
  rw [daySeconds] at hsecond
  have hmark : isBlank ':' = false := by decide
  have hbillion : secondNanos = 10 ^ 9 := rfl
  have hsplit : nanos / secondNanos * secondNanos + nanos % secondNanos = nanos :=
    Nat.div_add_mod' _ _
  -- Past its first thousand million nanoseconds a minute is in its last second.
  have hlast : nanos / secondNanos = 0 ∨ second % 60 = 59 ∧ nanos / secondNanos = 1 := by
    rw [hbillion] at hnanos hleap ⊢
    omega
  have hfraction := readFraction?_fractionChars (Nat.mod_lt nanos (by decide)) hrest hpoint
  rw [← hbillion] at hfraction
  simp only [List.append_assoc, List.cons_append, readTime?]
  rw [readNumber?_padded (by omega) (by omega)]
  simp only [Option.bind_eq_bind, Option.bind_some, readMark?_cons hmark]
  rw [readNumber?_padded (by omega) (by omega)]
  simp only [Option.bind_some, readMark?_cons hmark]
  rw [readNumber?_padded (by omega) (by omega)]
  simp only [Option.bind_some, hfraction]
  rw [if_pos (by omega)]
  have hminute : (second % 60 + nanos / secondNanos) / 60 = nanos / secondNanos := by omega
  simp only [Option.some.injEq, Prod.mk.injEq, and_true, hminute]
  omega

/-- A time without offset is that of the instant. -/
lemma ofLocal?_zero {t : Timestamp} (hyear : yearInRange t.date.year = true) :
    ofLocal? t.date t.second t.nanos 0 = some t := by
  have hsecond := t.second_lt
  have hlate : ¬ (daySeconds : ℤ) ≤ (t.second : ℤ) - 0 := by omega
  have hearly : ¬ (t.second : ℤ) - 0 < 0 := by omega
  have hutc : ((t.second : ℤ) - 0).toNat = t.second := by omega
  simp only [ofLocal?, if_neg hearly, if_neg hlate, hutc]
  rw [dif_pos ⟨hsecond, t.nanos_lt⟩, if_pos hyear]

/-- An instant is read back. -/
theorem parse?_toString {t : Timestamp} (h : t.IsWritable) : parse? t.toString = some t := by
  have htime := @readTime?_time t.second t.nanos ['Z'] t.second_lt t.nanos_lt h.leap
    (stopsDigits_cons.mpr rfl) (by decide)
  have hdate := readDate?_date t.date ('T' :: (padded 2 (t.second / 3600)
    ++ ':' :: padded 2 (t.second / 60 % 60)
    ++ ':' :: padded 2 (t.second % 60 + t.nanos / secondNanos)
    ++ fractionChars (t.nanos % secondNanos) ++ ['Z'])) h.year
  have hoffset : readOffset? ['Z'] = some (0, []) := by decide
  simp only [List.append_assoc, List.cons_append] at htime hdate
  rw [parse?, toString, String.toList_ofList]
  simp only [List.append_assoc, List.cons_append]
  rw [hdate]
  simp only [Option.bind_eq_bind, Option.bind_some, readSeparator?, true_or, if_true, htime,
    hoffset]
  exact (if_pos rfl).trans (ofLocal?_zero h.year)

/-- The instant itself, unless it is within a leap second that does not stand at the end of a
minute: that is written as the second after it. -/
def settled (t : Timestamp) : Timestamp :=
  if h : secondNanos ≤ t.nanos ∧ t.second % 60 ≠ 59 then
    { t with
      second := t.second + 1
      nanos := t.nanos - secondNanos
      second_lt := by
        have hsecond := t.second_lt
        rw [daySeconds] at hsecond ⊢
        omega
      nanos_lt := by
        have hnanos := t.nanos_lt
        omega }
  else t

lemma settled_eq {t : Timestamp} (h : t.nanos < secondNanos ∨ t.second % 60 = 59) :
    t.settled = t := by
  rw [settled, dif_neg]
  rintro ⟨hlong, hwithin⟩
  exact h.elim (not_lt.mpr hlong) hwithin

/-- So many nanoseconds after the start of the day it is the same time. -/
lemma dayNanos_settled (t : Timestamp) :
    t.settled.date = t.date ∧
      t.settled.second * secondNanos + t.settled.nanos = t.second * secondNanos + t.nanos := by
  rw [settled]
  split
  · next h =>
    refine ⟨rfl, ?_⟩
    show (t.second + 1) * secondNanos + (t.nanos - secondNanos) = t.second * secondNanos + t.nanos
    rw [Nat.succ_mul, add_assoc, Nat.add_sub_of_le h.1]
  · exact ⟨rfl, rfl⟩

lemma isWritable_settled {t : Timestamp} (hyear : yearInRange t.date.year = true) :
    t.settled.IsWritable := by
  rw [settled]
  split
  · next h =>
    have hnanos := t.nanos_lt
    exact ⟨hyear, .inl (show t.nanos - secondNanos < secondNanos by omega)⟩
  · next h =>
    refine ⟨hyear, ?_⟩
    by_contra hnot
    obtain ⟨hlong, hwithin⟩ := not_or.mp hnot
    exact h ⟨not_lt.mp hlong, hwithin⟩

/-- The two instants have one written form. -/
lemma toString_settled (t : Timestamp) : t.settled.toString = t.toString := by
  rw [settled]
  split
  · next h =>
    obtain ⟨hlong, hwithin⟩ := h
    have hnanos := t.nanos_lt
    have hhour : (t.second + 1) / 3600 = t.second / 3600 := by omega
    have hminute : (t.second + 1) / 60 % 60 = t.second / 60 % 60 := by omega
    have hleap : (t.nanos - secondNanos) / secondNanos = 0 := Nat.div_eq_of_lt (by omega)
    have hone : t.nanos / secondNanos = 1 := by
      rw [Nat.div_eq_iff (by decide)]
      omega
    have hsecond : (t.second + 1) % 60 + 0 = t.second % 60 + 1 := by omega
    have hfraction : (t.nanos - secondNanos) % secondNanos = t.nanos % secondNanos :=
      (Nat.mod_eq_sub_mod hlong).symm
    simp only [toString, hhour, hminute, hleap, hone, hsecond, hfraction]
  · rfl

/-- Every instant of the calendar is read back, as the one that its written form denotes. -/
theorem parse?_toString_settled {t : Timestamp} (hyear : yearInRange t.date.year = true) :
    parse? t.toString = some t.settled := by
  rw [← t.toString_settled, parse?_toString (isWritable_settled hyear)]

/-- What a clock shows can be written as long as its year is one of the calendar. -/
lemma isWritable_ofEpochMillis {millis : ℕ}
    (h : yearInRange (ofEpochMillis millis).date.year = true) :
    (ofEpochMillis millis).IsWritable where
  year := h
  leap := by
    left
    calc millis % 1000 * 10 ^ 6 < 1000 * 10 ^ 6 :=
          Nat.mul_lt_mul_of_pos_right (Nat.mod_lt _ (by omega)) (by omega)
      _ = secondNanos := rfl

end Teller.Timestamp
