/-
Sums and products of decimals.

* `Decimal.add?`: the exact sum at the larger scale, fitted into range;
* `Decimal.mul?`: the exact product at the sum of the scales, fitted into range;
* `Arithmetic`: how a ledger forms its sums; by `Decimal.add?` where nothing else is said.

Sum and product are `none` when the integer part of the result is out of range.
-/
import Teller.Decimal.Rounding

namespace Teller

namespace Decimal

/-- The sum. A zero operand leaves the other operand as it is written. -/
def add? (a b : Decimal) : Option Decimal :=
  if a.isZero then some b
  else if b.isZero then some a
  else
    let scale := max a.scale b.scale
    let sum := a.coefficientAt (scale - a.scale) + b.coefficientAt (scale - b.scale)
    fit? (decide (sum < 0)) sum.natAbs scale

/-- Is the mantissa below `2 ^ 32`? -/
def isShort (d : Decimal) : Bool := d.mantissa < 2 ^ 32

/-- The product. It is a plain zero if a factor is zero. Two short factors give a plain zero also
when their scales add up to more than 47, and a zero without a sign when rounding leaves no digit;
other factors give a zero with their sign then. -/
def mul? (a b : Decimal) : Option Decimal :=
  let scale := a.scale + b.scale
  let product := fit? (a.negative != b.negative) (a.mantissa * b.mantissa) scale
  if a.isZero || b.isZero then some zero
  else if a.isShort && b.isShort then
    if 47 < scale then some zero else product.map withoutZeroSign
  else product

end Decimal

/-- How a ledger forms its sums. -/
class Arithmetic where
  /-- The sum of two amounts, if it has a result. -/
  sum? : Decimal → Decimal → Option Decimal

/-- The sums of decimals. -/
instance Arithmetic.decimal : Arithmetic := ⟨Decimal.add?⟩

end Teller
