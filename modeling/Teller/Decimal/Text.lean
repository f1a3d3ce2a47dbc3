/-
The written form of decimals.

* `Decimal.toString`: an optional minus sign, the integer part and exactly `scale` fraction digits;
* `Decimal.parse?`: an optional sign, digits with at most one point and with underscores after the
  first digit; fraction digits beyond the range are rounded off, a half going up;
* `Decimal.parseScientific?`: such a numeral, the letter e in either case, and an exponent.
-/
import Teller.Decimal.Arithmetic
import Teller.Text.Digits

namespace Teller.Decimal

/-! ### Writing -/

/-- The characters of the number without its sign. -/
def unsignedChars (d : Decimal) : List Char :=
  let ds := Text.padded (d.scale + 1) d.mantissa
  let whole := ds.length - d.scale
  if d.scale = 0 then ds else ds.take whole ++ '.' :: ds.drop whole

/-- The written form: all digits of the scale, and a minus sign also before a negative zero. -/
def toString (d : Decimal) : String :=
  String.ofList (if d.negative then '-' :: d.unsignedChars else d.unsignedChars)

instance : ToString Decimal := ⟨toString⟩

/-! ### Reading -/

/-- A numeral that is being read: the digits so far, how many of them stand after the point, and
whether a digit or the point has been seen. -/
structure Numeral where
  mantissa : Nat
  scale : Nat
  point : Bool
  digits : Bool

/-- The decimal with this sign, mantissa and scale, if they are in range. Zero has no sign. -/
def build? (negative : Bool) (mantissa scale : Nat) : Option Decimal :=
  if h : mantissa < 2 ^ 96 ∧ scale ≤ 28 then
    some ⟨negative && mantissa != 0, mantissa, scale, h.1, h.2⟩
  else none

/-- What may stand after the last digit that has room; none of it is looked at. -/
def isOverhang (c : Char) : Bool := c.isDigit || c == '_'

/-- The numeral ends before a fraction digit that has no room: a digit of five or more raises the
last place. If the mantissa is then out of range it gives up its last digit. -/
def roundOff? (negative : Bool) (mantissa scale digit : Nat) : Option Decimal :=
  if digit < 5 then build? negative mantissa scale
  else if mantissa + 1 < mantissaLimit then build? negative (mantissa + 1) scale
  else if scale = 0 then none
  else build? negative ((mantissa + 5) / 10) (scale - 1)

/-- A numeral is long when what stands before its last digit has reached this. -/
def longFrom : Nat := 2 ^ 64 / 10 - 255

/-- Is the numeral long? -/
def Numeral.isLong (n : Numeral) : Bool := longFrom ≤ n.mantissa / 10

/-- Reads the rest of a numeral. An underscore in the place after the last possible one is passed
over in a long numeral; in a short one it counts as a zero that is rounded off. -/
def readDigits? (negative : Bool) (n : Numeral) : List Char → Option Decimal
  | [] => if n.digits then build? negative n.mantissa n.scale else none
  | c :: rest =>
    let full := n.point && n.scale == maxScale
    let rounded (digit : Nat) : Option Decimal :=
      if rest.all isOverhang then roundOff? negative n.mantissa n.scale digit else none
    if c = '_' then
      if !n.digits then none
      else if full && !n.isLong then rounded 0
      else readDigits? negative n rest
    else if c = '.' then
      if n.point then none else readDigits? negative { n with point := true } rest
    else if c.isDigit then
      let digit := Text.digitValue c
      let mantissa := 10 * n.mantissa + digit
      if n.point then
        if !full && mantissa < mantissaLimit then
          readDigits? negative ⟨mantissa, n.scale + 1, true, true⟩ rest
        else rounded digit
      else if mantissa < mantissaLimit then
        readDigits? negative ⟨mantissa, 0, false, true⟩ rest
      else none
    else none

/-- The decimal that a text denotes. -/
def parse? (s : String) : Option Decimal :=
  match s.toList with
  | '-' :: rest => readDigits? true ⟨0, 0, false, false⟩ rest
  | '+' :: rest => readDigits? false ⟨0, 0, false, false⟩ rest
  | cs => readDigits? false ⟨0, 0, false, false⟩ cs

/-! ### Scientific form -/

/-- The decimal with its point moved `places` to the left; digits that have no room then are rounded
off, a half going away from zero. The sign stays when all digits are lost. -/
def pointLeft (d : Decimal) (places : Nat) : Decimal :=
  let lost := 10 ^ (d.scale + places - maxScale)
  ⟨d.negative, halfUp d.mantissa lost, min (d.scale + places) maxScale,
    Nat.lt_of_le_of_lt (halfUp_le _ _ (Nat.pow_pos (by decide))) d.mantissa_lt,
    Nat.min_le_right _ _⟩

/-- The decimal with its point moved `places` to the right, without zeros at the end of a fraction
once the point has passed all digits. -/
def pointRight? (d : Decimal) (places : Nat) : Option Decimal :=
  if places ≤ d.scale then
    some ⟨d.negative, d.mantissa, d.scale - places, d.mantissa_lt,
      Nat.le_trans (Nat.sub_le _ _) d.scale_le⟩
  else if places ≤ maxScale then
    (build? d.negative (d.mantissa * 10 ^ (places - d.scale)) 0).map normalize
  else none

/-- A decimal in scientific form: a numeral, e or E, and an exponent of at most 28 in size. -/
def parseScientific? (s : String) : Option Decimal :=
  let isMark (c : Char) : Bool := c == 'e' || c == 'E'
  let cs := s.toList
  match cs.dropWhile (fun c => !isMark c) with
  | [] => none
  | _ :: exponent =>
    (parse? (String.ofList (cs.takeWhile (fun c => !isMark c)))).bind fun base =>
      match exponent with
      | '-' :: size =>
        ((Text.unsigned? (2 ^ 32) (String.ofList size)).filter (· ≤ maxScale)).map base.pointLeft
      | size => (Text.unsigned? (2 ^ 32) (String.ofList size)).bind base.pointRight?

/-- A decimal in either written form. -/
def ofText? (s : String) : Option Decimal :=
  (parse? s).or (parseScientific? s)

end Teller.Decimal
