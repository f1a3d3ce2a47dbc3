/-
Rounding of decimals: the nearest integer to a quotient.

* `halfEven`: that integer, a half going to the even neighbour;
* `halfUp`: that integer, a half going up;
* `halfEven_le` and `halfUp_le`: rounding a quotient never exceeds the dividend;
* `Decimal.fit?`: the fewest digits are dropped that let a mantissa of any size and scale into
  range;
* `Decimal.roundTo`: at most a given number of fraction digits.
-/
import Teller.Decimal.Basic

namespace Teller

/-- The integer nearest to `n / d`; a quotient half way between two integers goes to the even
one. -/
def halfEven (n d : Nat) : Nat :=
  let q := n / d
  let r := n % d
  if 2 * r < d then q
  else if d < 2 * r then q + 1
  else if q % 2 = 0 then q
  else q + 1

/-- The rounded quotient is one of the two integers around the quotient. -/
theorem halfEven_cases (n d : Nat) :
    halfEven n d = n / d ∨ (halfEven n d = n / d + 1 ∧ d ≤ 2 * (n % d)) := by
  unfold halfEven
  dsimp only
  split
  · exact .inl rfl
  · next h =>
    have h := Nat.le_of_not_lt h
    split
    · exact .inr ⟨rfl, h⟩
    · split
      · exact .inl rfl
      · exact .inr ⟨rfl, h⟩

/-- Rounding a quotient by a positive number never exceeds the dividend. -/
theorem halfEven_le (n d : Nat) (hd : 0 < d) : halfEven n d ≤ n := by
  rcases halfEven_cases n d with h | ⟨h, hr⟩
  · exact h ▸ Nat.div_le_self n d
  · have hn : d * (n / d) + n % d = n := Nat.div_add_mod n d
    have hpos : 0 < n % d := by omega
    have hq : n / d ≤ d * (n / d) := Nat.le_mul_of_pos_left _ hd
    omega

/-- The integer nearest to `n / d`; a quotient half way between two integers goes to the greater
one. -/
def halfUp (n d : Nat) : Nat :=
  (n + d / 2) / d

/-- Rounding a quotient by a positive number never exceeds the dividend. -/
theorem halfUp_le (n d : Nat) (hd : 0 < d) : halfUp n d ≤ n := by
  have hn : n ≤ d * n := Nat.le_mul_of_pos_left _ hd
  exact Nat.le_of_lt_succ ((Nat.div_lt_iff_lt_mul hd).2 (by
    rw [Nat.mul_comm, Nat.mul_succ]
    omega))

namespace Decimal

/-! ### Fitting a mantissa into range -/

/-- Dropping `k` digits of a mantissa with the given scale brings both into range. -/
def Fits (mantissa scale k : Nat) : Prop :=
  scale - k ≤ 28 ∧ halfEven mantissa (10 ^ k) < 2 ^ 96

instance (mantissa scale k : Nat) : Decidable (Fits mantissa scale k) :=
  inferInstanceAs (Decidable (_ ∧ _))

/-- The fewest digits, of the fraction digits only, whose loss brings the mantissa into range. -/
def droppedDigits? (mantissa scale : Nat) : Option Nat :=
  (List.range (scale + 1)).find? fun k => Fits mantissa scale k

/-- What `droppedDigits?` answers does bring the mantissa into range. -/
theorem fits_of_droppedDigits? {mantissa scale k : Nat}
    (h : droppedDigits? mantissa scale = some k) : Fits mantissa scale k := by
  have := List.find?_some h
  simpa using this

/-- The decimal nearest to a signed mantissa of any size at any scale, with the most digits that
fit, a half going to the even neighbour. There is none if the integer part is too large. The sign
stays when all digits are lost. -/
def fit? (negative : Bool) (mantissa scale : Nat) : Option Decimal :=
  match h : droppedDigits? mantissa scale with
  | none => none
  | some k =>
    let m := halfEven mantissa (10 ^ k)
    some ⟨negative, m, scale - k, (fits_of_droppedDigits? h).2,
      (fits_of_droppedDigits? h).1⟩

/-! ### Rounding to a number of places -/

/-- The decimal rounded to at most `places` fraction digits, a half going to the even neighbour. A
decimal with no more digits than that is unchanged. One that becomes zero loses its sign, and one
that is zero keeps it. -/
def roundTo (places : Nat) (d : Decimal) : Decimal :=
  if h : d.scale ≤ places then d
  else
    let m := halfEven d.mantissa (10 ^ (d.scale - places))
    { negative := d.negative && (m != 0 || d.isZero)
      mantissa := m
      scale := places
      mantissa_lt := Nat.lt_of_le_of_lt (halfEven_le _ _ (Nat.pow_pos (by decide))) d.mantissa_lt
      scale_le := Nat.le_trans (Nat.le_of_lt (Nat.lt_of_not_le h)) d.scale_le }

end Decimal

end Teller
