/-
Values of JSON.

* `Json`: the values; an object keeps its members in their order, with those that repeat a name;
* `Json.Number`: a number as it is written, and `Json.Number.toDecimal?`, the decimal that it
  stands for.
-/
import Teller.Binary64
import Teller.Decimal.Text

namespace Teller

/-- A number as it is written: sign, whole digits, fraction digits and exponent. Without a point
there are no fraction digits. -/
structure Json.Number where
  negative : Bool
  whole : List Char
  fraction : List Char
  exponent : Option Int
  deriving DecidableEq

/-- A value of JSON. -/
inductive Json where
  | null
  | bool (value : Bool)
  | number (value : Json.Number)
  | string (value : String)
  | array (items : List Json)
  | object (members : List (String × Json))
  /-- Well-formed, but not to be used: a text with half of a surrogate pair, or an object with such
  a name in it. -/
  | unusable

namespace Json.Number

/-- Digits are taken into a number below `2 ^ 64` as long as there is room; the number, and how many
digits are left over. -/
def takeDigits (n : Nat) : List Char → Nat × Nat
  | [] => (n, 0)
  | c :: cs =>
    let next := 10 * n + Text.digitValue c
    if next < 2 ^ 64 then takeDigits next cs else (n, cs.length + 1)

/-- The floating-point number that is read: as many digits as have room, times a power of ten. -/
def toBinary64? (n : Number) : Option Binary64 :=
  let whole := takeDigits 0 n.whole
  let all := takeDigits whole.1 n.fraction
  let shift : Int := whole.2 - ((n.fraction.length : Int) - all.2) + n.exponent.getD 0
  (Binary64.nearest? all.1 1).bind fun x => x.shift? shift

/-- Is the number written without point and exponent? -/
def isInteger (n : Number) : Bool := n.fraction.isEmpty && n.exponent.isNone

/-- The decimal that the number stands for. An integer of 64 bits is taken exactly; anything else is
read as a floating-point number, and its shortest digits are taken. -/
def toDecimal? (n : Number) : Option Decimal :=
  let value := Text.valueOf n.whole
  if n.isInteger ∧ value < (if n.negative then 2 ^ 63 + 1 else 2 ^ 64) then
    (Decimal.ofNat? value).map fun d => if n.negative ∧ value ≠ 0 then -d else d
  else
    n.toBinary64?.bind fun x =>
      let sign := if n.negative then ['-'] else []
      Decimal.parse? (String.ofList (sign ++ x.plainText))

end Json.Number

end Teller
