/-
Binary floating-point numbers of 64 bits, in exact arithmetic.

* `Binary64`: a mantissa below `2 ^ 53` and a power of two;
* `Binary64.nearest?`: the number nearest to a quotient, a half going to the even mantissa;
* `Binary64.shift?`: a number times a power of ten, where the power is rounded before it is used;
* `Binary64.shortest`: the fewest decimal digits that are read back as the same number, and of those
  the nearest;
* `Binary64.plainText`: these digits in positional notation.

Signs are kept outside.
-/
import Teller.Decimal.Rounding
import Teller.Text.Digits

namespace Teller

/-- The number `mantissa * 2 ^ exponent`. -/
structure Binary64 where
  mantissa : Nat
  exponent : Int
  deriving DecidableEq

namespace Binary64

/-- The least power of two. -/
def minExponent : Int := -1074

/-- The greatest power of two. -/
def maxExponent : Int := 971

/-- Zero. -/
def zero : Binary64 := ⟨0, minExponent⟩

/-- The quotient of `n / d` by a power of two, as a pair of integers. -/
def ratioAt (n d : Nat) (exponent : Int) : Nat × Nat :=
  match exponent with
  | .ofNat k => (n, d * 2 ^ k)
  | .negSucc k => (n * 2 ^ (k + 1), d)

/-- The power of two with which the mantissa of `n / d` has 53 bits, or the least one. -/
def exponentOf (n d : Nat) : Int :=
  let guess : Int := (n.log2 : Int) - (d.log2 : Int) - 52
  let ratio := ratioAt n d guess
  max minExponent (if ratio.1 / ratio.2 < 2 ^ 52 then guess - 1 else guess)

/-- The number nearest to `n / d`, unless it is too large. -/
def nearest? (n d : Nat) : Option Binary64 :=
  if n = 0 then some zero
  else
    let exponent := exponentOf n d
    let ratio := ratioAt n d exponent
    let mantissa := halfEven ratio.1 ratio.2
    let rounded : Binary64 :=
      if mantissa < 2 ^ 53 then ⟨mantissa, exponent⟩ else ⟨2 ^ 52, exponent + 1⟩
    if maxExponent < rounded.exponent then none else some rounded

/-- The number as a quotient of integers. -/
def ratio (x : Binary64) : Nat × Nat :=
  match x.exponent with
  | .ofNat k => (x.mantissa * 2 ^ k, 1)
  | .negSucc k => (x.mantissa, 2 ^ (k + 1))

/-- The nearest number to the product. -/
def mul? (x y : Binary64) : Option Binary64 :=
  nearest? (x.ratio.1 * y.ratio.1) (x.ratio.2 * y.ratio.2)

/-- The nearest number to the quotient. -/
def div? (x y : Binary64) : Option Binary64 :=
  nearest? (x.ratio.1 * y.ratio.2) (x.ratio.2 * y.ratio.1)

/-- The greatest power of ten that is a number. -/
def maxPower : Nat := 308

/-- The number divided by a power of ten, in steps of at most the greatest one. -/
def unscale? (x : Binary64) (power : Nat) : Option Binary64 :=
  if power ≤ maxPower then (nearest? (10 ^ power) 1).bind x.div?
  else if x.mantissa = 0 then some x
  else ((nearest? (10 ^ maxPower) 1).bind x.div?).bind fun y => y.unscale? (power - maxPower)
termination_by power
decreasing_by simp_all [maxPower]; omega

/-- The number times a power of ten, unless it is too large. -/
def shift? (x : Binary64) : Int → Option Binary64
  | .ofNat power =>
    if x.mantissa = 0 then some x
    else if power ≤ maxPower then (nearest? (10 ^ power) 1).bind x.mul?
    else none
  | .negSucc power => x.unscale? (power + 1)

/-! ### The shortest decimal digits -/

/-- Digits of a decimal and the power of ten of the last of them. -/
structure Digits where
  digits : Nat
  power : Int

/-- The point of the decimal grid with step `10 ^ power` that is nearest to the number, if the grid
has a point that is read back as the number. Quarters of the last binary place are counted, so that
the bounds of what is read back are whole: half a place to each side, or a quarter below a power of
two, where the places are finer. The bounds belong to it when the mantissa is even. Of two points
that are equally near, the greater one is taken. -/
def gridPoint? (x : Binary64) (power : Int) : Option Digits :=
  let below := if x.mantissa = 2 ^ 52 ∧ minExponent < x.exponent then 1 else 2
  let unit := ratioAt 1 1 (2 - x.exponent)
  let step : Nat × Nat :=
    match power with
    | .ofNat k => (1, 10 ^ k)
    | .negSucc k => (10 ^ (k + 1), 1)
  let scaled (quarters : Nat) : Nat := quarters * unit.1 * step.1
  let one := unit.2 * step.2
  let value := scaled (4 * x.mantissa)
  let low := scaled (4 * x.mantissa - below)
  let high := scaled (4 * x.mantissa + 2)
  let inside (n : Nat) : Bool :=
    if x.mantissa % 2 = 0 then low ≤ n * one ∧ n * one ≤ high
    else low < n * one ∧ n * one < high
  let floor := value / one
  let lowGap := value - floor * one
  let highGap := (floor + 1) * one - value
  let ordered := if lowGap < highGap then [floor, floor + 1] else [floor + 1, floor]
  (ordered.find? inside).map fun n => ⟨n, power⟩

/-- The first grid that has a point, among `count` grids from the given one to finer ones. -/
def shortestFrom (x : Binary64) (power : Int) : (count : Nat) → Digits
  | 0 => ⟨0, 0⟩
  | count + 1 =>
    match gridPoint? x power with
    | some d => d
    | none => shortestFrom x (power - 1) count

/-- The fewest digits that are read back as the number. The first grid that is tried is coarser than
the number, and seventeen digits are always enough. -/
def shortest (x : Binary64) : Digits :=
  if x.mantissa = 0 then ⟨0, 0⟩
  else
    let whole := (Text.digitsOf (x.ratio.1 / x.ratio.2)).length
    let leading : Int :=
      if x.ratio.2 ≤ x.ratio.1 then whole
      else 1 - ((Text.digitsOf (x.ratio.2 / x.ratio.1)).length : Int)
    shortestFrom x (leading + 1) 20

/-- Digits in positional notation. -/
def Digits.plainText (d : Digits) : List Char :=
  match d.power with
  | .ofNat k => Text.digitsOf (d.digits * 10 ^ k)
  | .negSucc k =>
    let cs := Text.padded (k + 2) d.digits
    cs.take (cs.length - (k + 1)) ++ '.' :: cs.drop (cs.length - (k + 1))

/-- The shortest digits of the number in positional notation. -/
def plainText (x : Binary64) : List Char := x.shortest.plainText

end Binary64

end Teller
