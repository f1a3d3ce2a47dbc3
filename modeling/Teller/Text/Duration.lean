/-
The written form of durations.

* `DurationUnit`: nanoseconds, microseconds, milliseconds, seconds;
* `durationText`: a duration in its largest unit with a whole part that is not zero, with up to nine
  fraction digits and no zero at the end of them.
-/
import Teller.Text.Digits

namespace Teller.Text

/-- A unit of time: how many nanoseconds it has, as a power of ten, and its mark. -/
structure DurationUnit where
  exponent : Nat
  mark : String

/-- The units from the largest to the smallest. -/
def durationUnits : List DurationUnit :=
  [⟨9, "s"⟩, ⟨6, "ms"⟩, ⟨3, "µs"⟩, ⟨0, "ns"⟩]

/-- The fraction digits of `rest` out of `10 ^ exponent`, with a point, or nothing if it is zero. -/
def fractionText (rest exponent : Nat) : List Char :=
  if rest = 0 then []
  else '.' :: ((padded exponent rest).reverse.dropWhile (· == '0')).reverse

/-- The written form of a duration of so many nanoseconds. -/
def durationText (nanos : Nat) : String :=
  let unit := (durationUnits.find? fun u => 10 ^ u.exponent ≤ nanos).getD ⟨0, "ns"⟩
  let size := 10 ^ unit.exponent
  String.ofList (digitsOf (nanos / size) ++ fractionText (nanos % size) unit.exponent) ++ unit.mark

end Teller.Text
