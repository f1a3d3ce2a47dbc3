/-
Identifiers are read back as they were written.

* `Uuid.hexValue?_digitChar`, `Uuid.hexValues_toDigits`: hexadecimal digits and their values;
* `Uuid.joinGroups?_hyphenated`: hyphens are put between groups of digits and taken out again;
* `Uuid.parse?_toString`: the written form of an identifier denotes it.
-/
import Mathlib.Data.Nat.Digits.Lemmas
import Mathlib.Tactic.IntervalCases
import Teller.Identifier

namespace Teller

namespace Uuid

/-! ### Hexadecimal digits -/

lemma hexValue?_digitChar {n : ℕ} (h : n < 16) : hexValue? (Nat.digitChar n) = some n := by
  interval_cases n <;> rfl

/-- The digits of a number have the values that make up the number. -/
lemma hexValues_toDigits (n : ℕ) : ∃ values, (Nat.toDigits 16 n).mapM hexValue? = some values ∧
    values.foldl (fun n d => 16 * n + d) 0 = n := by
  induction n using Nat.strong_induction_on with
  | _ n ih =>
      by_cases hsmall : n < 16
      · rw [Nat.toDigits_of_lt_base hsmall]
        exact ⟨[n], by simp [hexValue?_digitChar hsmall], by simp⟩
      · obtain ⟨values, hvalues, hfold⟩ := ih (n / 16) (by omega)
        have hlast : hexValue? (Nat.digitChar (n % 16)) = some (n % 16) :=
          hexValue?_digitChar (by omega)
        rw [Nat.toDigits_of_base_le (by omega) (by omega)]
        refine ⟨values ++ [n % 16], by simp [List.mapM_append, hvalues, hlast], ?_⟩
        rw [List.foldl_append, hfold]
        simp only [List.foldl_cons, List.foldl_nil]
        omega

lemma length_hexDigits (u : Uuid) : u.hexDigits.length = 32 := by
  have hle : (Text.hexOf u.value).length ≤ 32 :=
    (Nat.length_toDigits_le_iff (by omega) (by omega)).mpr u.value_lt
  simp only [hexDigits, List.length_append, List.length_replicate]
  omega

/-- The digits of an identifier denote it. -/
lemma ofHexDigits?_hexDigits (u : Uuid) : ofHexDigits? u.hexDigits = some u := by
  obtain ⟨values, hvalues, hfold⟩ := hexValues_toDigits u.value
  have hzeros : ∀ k, (List.replicate k '0').mapM hexValue? = some (List.replicate k 0) := by
    intro k
    induction k with
    | zero => rfl
    | succ k ih => simp [List.replicate_succ, ih, show hexValue? '0' = some 0 from rfl]
  have hskip : ∀ k, (List.replicate k 0).foldl (fun n d => 16 * n + d) 0 = 0 := by
    intro k
    induction k with
    | zero => rfl
    | succ k ih => rw [List.replicate_succ, List.foldl_cons, Nat.mul_zero, Nat.add_zero, ih]
  have hvalue : ofNat? u.value = some u := dif_pos u.value_lt
  rw [ofHexDigits?, if_pos u.length_hexDigits, hexDigits, Text.hexOf, List.mapM_append]
  simp [hzeros, hvalues, List.foldl_append, hskip, hfold, hvalue]

/-! ### Groups -/

lemma length_hyphenated (sizes : List ℕ) (cs : List Char) (hne : sizes ≠ [])
    (h : sizes.sum = cs.length) :
    (hyphenated sizes cs).length = cs.length + (sizes.length - 1) := by
  induction sizes generalizing cs with
  | nil => exact absurd rfl hne
  | cons n sizes ih =>
      cases sizes with
      | nil => simp_all [hyphenated]
      | cons m sizes =>
          rw [List.sum_cons] at h
          have hrest : (m :: sizes).sum = (cs.drop n).length := by
            rw [List.length_drop]
            omega
          rw [hyphenated, List.length_append, List.length_cons, ih _ (by simp) hrest]
          simp only [List.length_take, List.length_drop, List.length_cons]
          omega
          · simp

/-- Hyphens are put between groups and taken out again. -/
lemma joinGroups?_hyphenated (sizes : List ℕ) (cs : List Char) (hne : sizes ≠ [])
    (h : sizes.sum = cs.length) : joinGroups? sizes (hyphenated sizes cs) = some cs := by
  induction sizes generalizing cs with
  | nil => exact absurd rfl hne
  | cons n sizes ih =>
      cases sizes with
      | nil =>
          obtain rfl : n = cs.length := by simpa using h
          simp [hyphenated, joinGroups?]
      | cons m sizes =>
          rw [List.sum_cons] at h
          have hrest : (m :: sizes).sum = (cs.drop n).length := by
            rw [List.length_drop]
            omega
          have htaken : (cs.take n).length = n := by
            rw [List.length_take]
            omega
          have hdrop : (hyphenated (n :: m :: sizes) cs).drop n
              = '-' :: hyphenated (m :: sizes) (cs.drop n) := by
            rw [hyphenated, List.drop_left' htaken]
            simp
          have htake : (hyphenated (n :: m :: sizes) cs).take n = cs.take n := by
            rw [hyphenated, List.take_left' htaken]
            simp
          rw [joinGroups?, hdrop]
          simp only [ih _ (List.cons_ne_nil _ _) hrest, htake, Option.map_some,
            List.take_append_drop]
          simp

/-- An identifier is read back. -/
theorem parse?_toString (u : Uuid) : parse? u.toString = some u := by
  have hsum : groupSizes.sum = u.hexDigits.length := by rw [length_hexDigits]; rfl
  have hlength : (hyphenated groupSizes u.hexDigits).length = 36 := by
    rw [length_hyphenated _ _ (by decide) hsum, length_hexDigits]
    rfl
  rw [parse?, toString, String.toList_ofList]
  simp only [hlength]
  rw [if_neg (by decide), if_pos trivial, ofHyphenated?,
    joinGroups?_hyphenated _ _ (by decide) hsum, Option.bind_some, ofHexDigits?_hexDigits]

end Uuid

lemma AccountId.parse?_toString (id : AccountId) : parse? (toString id) = some id := by
  have hread := id.uuid.parse?_toString
  rw [parse?, show toString id = id.uuid.toString from rfl, hread, Option.map_some]

lemma WalletId.parse?_toString (id : WalletId) : parse? (toString id) = some id := by
  have hread := id.uuid.parse?_toString
  rw [parse?, show toString id = id.uuid.toString from rfl, hread, Option.map_some]

lemma RecordId.parse?_toString (id : RecordId) : parse? (toString id) = some id := by
  have hread := id.uuid.parse?_toString
  rw [parse?, show toString id = id.uuid.toString from rfl, hread, Option.map_some]

lemma EventId.parse?_toString (id : EventId) : parse? (toString id) = some id := by
  have hread := id.uuid.parse?_toString
  rw [parse?, show toString id = id.uuid.toString from rfl, hread, Option.map_some]

end Teller
