/-
Numerals, and how they are found in a text.

* `Text.valueOf_padded`: a numeral, with zeros in front, denotes its number;
  `Text.length_padded`: how long it is;
* `Text.Digits`: a list of digits; `Text.StopsDigits`: a text that goes on with no digit;
* `Text.takeWhile_digits`, `Text.dropWhile_digits`: a numeral in front of such a text is found;
* `Text.isBlank_of_isDigit`: no digit is white space.
-/
import Mathlib.Data.Nat.Digits.Lemmas
import Teller.Text.Blank
import Teller.Text.Digits

namespace Teller.Text

/-! ### Numerals -/

lemma valueOf_eq (cs : List Char) : valueOf cs = Nat.ofDigitChars 10 cs 0 := rfl

lemma ofDigitChars_cons (n : ℕ) (c : Char) (cs : List Char) :
    Nat.ofDigitChars 10 (c :: cs) n = Nat.ofDigitChars 10 cs (10 * n + digitValue c) :=
  Nat.ofDigitChars_cons

/-- A numeral with zeros in front denotes its number. -/
@[simp] lemma valueOf_padded (width n : ℕ) : valueOf (padded width n) = n := by
  calc valueOf (padded width n)
      = Nat.ofDigitChars 10 (Nat.toDigits 10 n)
          (Nat.ofDigitChars 10 (List.replicate (width - (digitsOf n).length) '0') 0) :=
        Nat.ofDigitChars_append 0
    _ = Nat.ofDigitChars 10 (Nat.toDigits 10 n) 0 := by
        rw [Nat.ofDigitChars_replicate_zero, Nat.mul_zero]
    _ = n := Nat.ofDigitChars_ten_toDigits

/-- Digits in front make a number no smaller. -/
lemma le_ofDigitChars (n : ℕ) (cs : List Char) : n ≤ Nat.ofDigitChars 10 cs n := by
  induction cs generalizing n with
  | nil => exact le_rfl
  | cons c cs ih =>
      rw [ofDigitChars_cons]
      calc n ≤ 10 * n + digitValue c := by omega
        _ ≤ _ := ih _

lemma length_padded (width n : ℕ) :
    (padded width n).length = max width (digitsOf n).length := by
  simp only [padded, List.length_append, List.length_replicate]
  omega

/-- A number that has room in so many digits has that many. -/
lemma length_padded_of_lt {width n : ℕ} (hwidth : 0 < width) (h : n < 10 ^ width) :
    (padded width n).length = width := by
  have hle : (digitsOf n).length ≤ width := (Nat.length_toDigits_le_iff (by omega) hwidth).mpr h
  rw [length_padded]
  omega

lemma digitsOf_ne_nil (n : ℕ) : digitsOf n ≠ [] := List.length_pos_iff.mp Nat.length_toDigits_pos

lemma padded_ne_nil (width n : ℕ) : padded width n ≠ [] :=
  List.append_ne_nil_of_right_ne_nil _ (digitsOf_ne_nil n)

/-! ### Digits -/

/-- A list of digits. -/
def Digits (cs : List Char) : Prop := ∀ c ∈ cs, c.isDigit = true

/-- A text that does not go on with a digit. -/
def StopsDigits (cs : List Char) : Prop := ∀ c ∈ cs.head?, c.isDigit = false

lemma digits_digitsOf (n : ℕ) : Digits (digitsOf n) :=
  fun _ hc => Nat.isDigit_of_mem_toDigits (by omega) le_rfl hc

lemma digits_padded (width n : ℕ) : Digits (padded width n) := by
  intro c hc
  rcases List.mem_append.mp hc with hc | hc
  · rw [List.eq_of_mem_replicate hc]
    rfl
  · exact digits_digitsOf n c hc

lemma digits_cons {c : Char} {cs : List Char} : Digits (c :: cs) ↔ c.isDigit = true ∧ Digits cs :=
  List.forall_mem_cons

lemma Digits.sublist {cs ds : List Char} (h : Digits cs) (hsub : ds.Sublist cs) : Digits ds :=
  fun c hc => h c (hsub.subset hc)

lemma stopsDigits_nil : StopsDigits [] := by simp [StopsDigits]

@[simp] lemma stopsDigits_cons {c : Char} {cs : List Char} :
    StopsDigits (c :: cs) ↔ c.isDigit = false := by
  simp [StopsDigits]

/-- A digit is no other character. -/
lemma ne_of_isDigit {c mark : Char} (hc : c.isDigit = true) (hmark : mark.isDigit = false) :
    c ≠ mark := by
  rintro rfl
  exact absurd (hc.symm.trans hmark) (by simp)

section Front

variable {ds rest : List Char}

lemma takeWhile_digits (hds : Digits ds) (hrest : StopsDigits rest) :
    (ds ++ rest).takeWhile Char.isDigit = ds := by
  rw [List.takeWhile_append_of_pos hds]
  cases rest with
  | nil => simp
  | cons c rest => simp [stopsDigits_cons.mp hrest]

lemma dropWhile_digits (hds : Digits ds) (hrest : StopsDigits rest) :
    (ds ++ rest).dropWhile Char.isDigit = rest := by
  rw [List.dropWhile_append_of_pos hds]
  cases rest with
  | nil => rfl
  | cons c rest => simp [stopsDigits_cons.mp hrest]

/-- A text that starts with digits starts with no other character. -/
lemma Digits.append_ne_cons (hds : Digits ds) (hne : ds ≠ []) {mark : Char} {cs : List Char}
    (hmark : mark.isDigit = false) : ds ++ rest ≠ mark :: cs := by
  cases ds with
  | nil => exact absurd rfl hne
  | cons c ds =>
      intro heq
      exact ne_of_isDigit (digits_cons.mp hds).1 hmark (List.cons.inj heq).1

lemma Digits.takeWhile_eq (hds : Digits ds) : ds.takeWhile Char.isDigit = ds := by
  simpa using takeWhile_digits hds stopsDigits_nil

end Front

/-- No digit is white space. -/
lemma isBlank_of_isDigit {c : Char} (h : c.isDigit = true) : isBlank c = false := by
  obtain ⟨hlow, hhigh⟩ := Char.isDigit_iff_toNat.mp h
  have hlow : 48 ≤ c.toNat := hlow
  have hhigh : c.toNat ≤ 57 := hhigh
  simp only [isBlank, Ranges.contains, blankRanges, List.any_cons, List.any_nil, Bool.or_false,
    Bool.or_eq_false_iff, Bool.and_eq_false_iff, decide_eq_false_iff_not]
  omega

end Teller.Text
