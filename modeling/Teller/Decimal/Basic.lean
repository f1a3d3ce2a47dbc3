/-
Decimal numbers with a written scale.

* `Decimal`: a sign, a mantissa below `2 ^ 96` and a scale of at most 28 fraction digits;
* `Decimal.toRat`: the rational number that a decimal denotes;
* `Decimal.SameValue` and the order compare that number and ignore the scale;
* `Decimal.minimalScale`: the scale left when zeros at the end of the fraction are struck.
-/
import Teller.Canonical

namespace Teller

/-- A decimal number as it is written: 10.50 keeps its last zero, and zero may carry a sign. -/
structure Decimal where
  negative : Bool
  mantissa : Nat
  scale : Nat
  mantissa_lt : mantissa < 2 ^ 96
  scale_le : scale ≤ 28
  deriving DecidableEq

namespace Decimal

/-- The most fraction digits a decimal can have. -/
def maxScale : Nat := 28

/-- Every mantissa lies below this number. -/
def mantissaLimit : Nat := 2 ^ 96

/-- Zero without fraction digits. -/
def zero : Decimal := ⟨false, 0, 0, by decide, by decide⟩

instance : Inhabited Decimal := ⟨zero⟩

/-- Does the decimal denote zero? -/
def isZero (d : Decimal) : Bool := d.mantissa == 0

/-! ### The number that is denoted -/

/-- The mantissa with its sign. -/
def coefficient (d : Decimal) : Int :=
  if d.negative then -(d.mantissa : Int) else d.mantissa

/-- The rational number that the decimal denotes. -/
def toRat (d : Decimal) : Rat :=
  mkRat d.coefficient (10 ^ d.scale)

/-! ### Order

Two decimals are compared by their coefficients at a common scale. -/

/-- The coefficient that `d` would have with `scale` more fraction digits. -/
def coefficientAt (d : Decimal) (scale : Nat) : Int :=
  d.coefficient * 10 ^ scale

instance : LT Decimal where
  lt a b := a.coefficientAt b.scale < b.coefficientAt a.scale

instance : LE Decimal where
  le a b := a.coefficientAt b.scale ≤ b.coefficientAt a.scale

instance (a b : Decimal) : Decidable (a < b) :=
  inferInstanceAs (Decidable (a.coefficientAt b.scale < b.coefficientAt a.scale))

instance (a b : Decimal) : Decidable (a ≤ b) :=
  inferInstanceAs (Decidable (a.coefficientAt b.scale ≤ b.coefficientAt a.scale))

/-- The two decimals denote the same number, whatever their scales and whatever the sign of zero. -/
def SameValue (a b : Decimal) : Prop :=
  a.coefficientAt b.scale = b.coefficientAt a.scale

instance (a b : Decimal) : Decidable (SameValue a b) :=
  inferInstanceAs (Decidable (a.coefficientAt b.scale = b.coefficientAt a.scale))

/-! ### Sign and scale -/

/-- The decimal with the other sign, also when it is zero. -/
def neg (d : Decimal) : Decimal :=
  { d with negative := !d.negative }

instance : Neg Decimal := ⟨neg⟩

/-- The decimal, without a sign if it is zero. -/
def withoutZeroSign (d : Decimal) : Decimal :=
  { d with negative := d.negative && !d.isZero }

/-- The fraction digits that remain of `scale` when zeros at the end of the mantissa are struck. -/
def strippedScale (mantissa : Nat) : Nat → Nat
  | 0 => 0
  | scale + 1 => if mantissa % 10 = 0 then strippedScale (mantissa / 10) scale else scale + 1

/-- The fewest fraction digits with which the number can be written. -/
def minimalScale (d : Decimal) : Nat :=
  strippedScale d.mantissa d.scale

/-- Striking zeros never adds a digit. -/
theorem strippedScale_le (mantissa scale : Nat) : strippedScale mantissa scale ≤ scale := by
  induction scale generalizing mantissa with
  | zero => simp [strippedScale]
  | succ s ih =>
    rw [strippedScale]
    split
    · exact Nat.le_succ_of_le (ih _)
    · exact Nat.le_refl _

/-- The same number with the zeros at the end of its fraction struck. -/
def normalize (d : Decimal) : Decimal where
  negative := d.negative && !d.isZero
  mantissa := d.mantissa / 10 ^ (d.scale - d.minimalScale)
  scale := d.minimalScale
  mantissa_lt := Nat.lt_of_le_of_lt (Nat.div_le_self _ _) d.mantissa_lt
  scale_le := Nat.le_trans (strippedScale_le _ _) d.scale_le

/-- The natural number `n`, if it is in range. -/
def ofNat? (n : Nat) : Option Decimal :=
  if h : n < 2 ^ 96 then some ⟨false, n, 0, h, by decide⟩ else none

end Decimal

end Teller
