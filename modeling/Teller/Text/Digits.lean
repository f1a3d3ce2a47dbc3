/-
Decimal digits: numerals as lists of characters.

* `digitsOf` and `padded`: the decimal numeral of a number, plain or filled with zeros to a width;
* `valueOf`: the number that a list of digit characters denotes;
* `unsigned?`: an unsigned numeral below a limit, with an optional plus sign in front.
-/
import Teller.Canonical

namespace Teller.Text

/-! ### Writing -/

/-- The decimal numeral of `n`, without leading zeros. -/
def digitsOf (n : Nat) : List Char :=
  Nat.toDigits 10 n

/-- The decimal numeral of `n`, filled with zeros on the left to at least `width` digits. -/
def padded (width n : Nat) : List Char :=
  let ds := digitsOf n
  List.replicate (width - ds.length) '0' ++ ds

/-! ### Reading -/

/-- The value of a digit character; other characters count as their distance from zero. -/
def digitValue (c : Char) : Nat :=
  c.toNat - '0'.toNat

/-- The number that a list of digit characters denotes, the most significant digit first. -/
def valueOf (cs : List Char) : Nat :=
  cs.foldl (fun n c => 10 * n + digitValue c) 0

/-- A numeral of one or more ASCII digits. -/
def numeral? (cs : List Char) : Option Nat :=
  if cs ≠ [] ∧ cs.all Char.isDigit then some (valueOf cs) else none

/-- An unsigned number below `limit`: ASCII digits after an optional plus sign, nothing else. -/
def unsigned? (limit : Nat) (s : String) : Option Nat :=
  let digits := match s.toList with
    | '+' :: rest => rest
    | cs => cs
  (numeral? digits).filter (· < limit)

end Teller.Text
