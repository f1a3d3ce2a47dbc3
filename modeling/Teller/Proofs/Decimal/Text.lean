/-
Decimals are read back as they were written.

* `Decimal.readDigits?_fraction`, `Decimal.readDigits?_whole`: what comes of digits after the point
  and before it, as long as there is room for them;
* `Decimal.ofText?_toString`: the text of a decimal denotes that decimal, and only the sign of a
  zero is lost.
-/
import Teller.Proofs.Text.Numeral
import Teller.Decimal.Text

namespace Teller.Decimal

open Text

/-! ### Digits, one after the other -/

section Digits

variable {negative : Bool} {m s : ℕ} {ds rest : List Char}

/-- Digits after the point are all taken in while there is room. -/
lemma readDigits?_fraction (hds : Digits ds) (hlt : Nat.ofDigitChars 10 ds m < 2 ^ 96)
    (hscale : s + ds.length ≤ 28) :
    readDigits? negative ⟨m, s, true, true⟩ ds
      = build? negative (Nat.ofDigitChars 10 ds m) (s + ds.length) := by
  induction ds generalizing m s with
  | nil => simp [readDigits?]
  | cons c ds ih =>
      obtain ⟨hc, hds⟩ := digits_cons.mp hds
      rw [List.length_cons] at hscale ⊢
      rw [ofDigitChars_cons] at hlt ⊢
      have hroom : 10 * m + digitValue c < mantissaLimit := (le_ofDigitChars _ ds).trans_lt hlt
      have hnotFull : (s == maxScale) = false := by
        rw [beq_eq_false_iff_ne, maxScale]
        omega
      have hstep : readDigits? negative ⟨m, s, true, true⟩ (c :: ds)
          = readDigits? negative ⟨10 * m + digitValue c, s + 1, true, true⟩ ds := by
        rw [readDigits?, if_neg (ne_of_isDigit hc rfl), if_neg (ne_of_isDigit hc rfl), if_pos hc]
        simp [hnotFull, hroom]
      rw [hstep, ih hds hlt (by omega)]
      congr 1
      omega

/-- Digits before the point are all taken in while there is room. -/
lemma readDigits?_whole {digits : Bool} (hds : Digits ds)
    (hlt : Nat.ofDigitChars 10 ds m < 2 ^ 96) :
    readDigits? negative ⟨m, 0, false, digits⟩ (ds ++ rest)
      = readDigits? negative ⟨Nat.ofDigitChars 10 ds m, 0, false, digits || !ds.isEmpty⟩ rest := by
  induction ds generalizing m digits with
  | nil => simp
  | cons c ds ih =>
      obtain ⟨hc, hds⟩ := digits_cons.mp hds
      rw [ofDigitChars_cons] at hlt ⊢
      have hroom : 10 * m + digitValue c < mantissaLimit := (le_ofDigitChars _ ds).trans_lt hlt
      have hstep : readDigits? negative ⟨m, 0, false, digits⟩ (c :: (ds ++ rest))
          = readDigits? negative ⟨10 * m + digitValue c, 0, false, true⟩ (ds ++ rest) := by
        rw [readDigits?, if_neg (ne_of_isDigit hc rfl), if_neg (ne_of_isDigit hc rfl), if_pos hc]
        simp [hroom]
      rw [List.cons_append, hstep, ih hds hlt]
      simp

/-- A numeral with a point in it, while there is room. -/
lemma readDigits?_point {whole fraction : List Char} (hwhole : Digits whole) (hne : whole ≠ [])
    (hfraction : Digits fraction) (hlt : valueOf (whole ++ fraction) < 2 ^ 96)
    (hscale : fraction.length ≤ 28) :
    readDigits? negative ⟨0, 0, false, false⟩ (whole ++ '.' :: fraction)
      = build? negative (valueOf (whole ++ fraction)) fraction.length := by
  have hsplit : valueOf (whole ++ fraction) = Nat.ofDigitChars 10 fraction (valueOf whole) :=
    Nat.ofDigitChars_append 0
  have hroom : valueOf whole < 2 ^ 96 := by
    calc valueOf whole ≤ valueOf (whole ++ fraction) := hsplit ▸ le_ofDigitChars _ fraction
      _ < 2 ^ 96 := hlt
  have hpoint : readDigits? negative ⟨valueOf whole, 0, false, true⟩ ('.' :: fraction)
      = readDigits? negative ⟨valueOf whole, 0, true, true⟩ fraction := by
    rw [readDigits?]
    simp
  have hseen : (false || !whole.isEmpty) = true := by simpa using hne
  rw [hsplit] at hlt ⊢
  rw [readDigits?_whole hwhole hroom, ← valueOf_eq, hseen, hpoint,
    readDigits?_fraction hfraction hlt (by omega), Nat.zero_add]

end Digits

/-! ### Whole texts -/

/-- The digits of a decimal, with zeros in front as far as they are needed for the scale. -/
def digitChars (d : Decimal) : List Char := padded (d.scale + 1) d.mantissa

lemma scale_lt_length_digitChars (d : Decimal) : d.scale < d.digitChars.length := by
  rw [digitChars, length_padded]
  omega

lemma digits_digitChars (d : Decimal) : Digits d.digitChars := digits_padded _ _

lemma valueOf_digitChars (d : Decimal) : valueOf d.digitChars = d.mantissa := valueOf_padded _ _

/-- The digits, with the point among them, are read as the decimal. -/
lemma readDigits?_unsignedChars (negative : Bool) (d : Decimal) :
    readDigits? negative ⟨0, 0, false, false⟩ d.unsignedChars
      = build? negative d.mantissa d.scale := by
  have hvalue := d.valueOf_digitChars
  have hdigits := d.digits_digitChars
  have hlength := d.scale_lt_length_digitChars
  have hmantissa := d.mantissa_lt
  have hscale := d.scale_le
  rw [unsignedChars, ← digitChars]
  rw [← hvalue] at hmantissa
  split
  · next hzero =>
    have hseen : (false || !d.digitChars.isEmpty) = true := by
      simpa [← List.length_pos_iff] using by omega
    have hread := @readDigits?_whole negative 0 d.digitChars [] false hdigits hmantissa
    rw [List.append_nil, ← valueOf_eq, hvalue, hseen] at hread
    rw [hread, hzero]
    rfl
  · -- The point stands in front of the last digits, as many as the scale says.
    have hwhole := hdigits.sublist (List.take_sublist (d.digitChars.length - d.scale) _)
    have hfraction := hdigits.sublist (List.drop_sublist (d.digitChars.length - d.scale) _)
    have hdropped : (d.digitChars.drop (d.digitChars.length - d.scale)).length = d.scale := by
      rw [List.length_drop]
      omega
    have hne : d.digitChars.take (d.digitChars.length - d.scale) ≠ [] := by
      rw [← List.length_pos_iff, List.length_take]
      omega
    rw [readDigits?_point hwhole hne hfraction, List.take_append_drop, hvalue, hdropped]
    · rwa [List.take_append_drop]
    · rwa [hdropped]

/-- A decimal without its sign starts with a digit. -/
lemma exists_unsignedChars_eq (d : Decimal) :
    ∃ c cs, d.unsignedChars = c :: cs ∧ c.isDigit = true := by
  have hlength := d.scale_lt_length_digitChars
  have hdigits := d.digits_digitChars
  rw [unsignedChars, ← digitChars]
  cases hds : d.digitChars with
  | nil => simp [hds] at hlength
  | cons c cs =>
      rw [hds] at hlength hdigits
      have hc : c.isDigit = true := (digits_cons.mp hdigits).1
      by_cases hscale : d.scale = 0
      · exact ⟨c, cs, if_pos hscale, hc⟩
      · obtain ⟨n, hn⟩ : ∃ n, (c :: cs).length - d.scale = n + 1 :=
          ⟨_, (Nat.succ_pred_eq_of_pos (by omega)).symm⟩
        exact ⟨c, _, by rw [if_neg hscale, hn, List.take_succ_cons, List.cons_append], hc⟩

/-- The mantissa and the scale of a decimal are in range. -/
lemma build?_eq (d : Decimal) : build? d.negative d.mantissa d.scale = some d.withoutZeroSign := by
  rw [build?, dif_pos ⟨d.mantissa_lt, d.scale_le⟩]
  rfl

/-- A decimal is read back, without the sign of a zero. -/
theorem parse?_toString (d : Decimal) : parse? d.toString = some d.withoutZeroSign := by
  rw [← build?_eq, ← readDigits?_unsignedChars, parse?, toString, String.toList_ofList]
  cases hnegative : d.negative with
  | true => rfl
  | false =>
      obtain ⟨c, cs, hcs, hc⟩ := d.exists_unsignedChars_eq
      have hminus : c ≠ '-' := ne_of_isDigit hc rfl
      have hplus : c ≠ '+' := ne_of_isDigit hc rfl
      simp [hcs, hminus, hplus]

/-- The same by the reader that takes scientific forms too. -/
theorem ofText?_toString (d : Decimal) : ofText? d.toString = some d.withoutZeroSign := by
  rw [ofText?, parse?_toString, Option.some_or]

end Teller.Decimal
