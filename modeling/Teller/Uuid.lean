/-
Universally unique identifiers: 128 bits with a written form.

* `Uuid.toString`: five groups of lower-case hexadecimal digits joined by hyphens;
* `Uuid.parse?`: that form, plain digits, braces around it, or a URN, in any letter case;
* `Uuid.version`: the digit that says how an identifier was made;
* `Uuid.random` and `Uuid.timeOrdered`: identifiers of version 4 and 7 made from a serial number.
-/
import Teller.Text.Quoted

namespace Teller

/-- An identifier of 128 bits. -/
structure Uuid where
  value : Nat
  value_lt : value < 2 ^ 128
  deriving DecidableEq

namespace Uuid

/-! ### Writing -/

/-- The 32 hexadecimal digits. -/
def hexDigits (u : Uuid) : List Char :=
  let ds := Text.hexOf u.value
  List.replicate (32 - ds.length) '0' ++ ds

/-- The sizes of the groups of digits. -/
def groupSizes : List Nat := [8, 4, 4, 4, 12]

/-- The list cut into groups of the given sizes, joined by hyphens. -/
def hyphenated : List Nat → List Char → List Char
  | [], _ => []
  | [n], cs => cs.take n
  | n :: sizes, cs => cs.take n ++ '-' :: hyphenated sizes (cs.drop n)

/-- The written form. -/
def toString (u : Uuid) : String :=
  String.ofList (hyphenated groupSizes u.hexDigits)

instance : ToString Uuid := ⟨toString⟩

/-! ### Reading -/

/-- The value of a hexadecimal digit in either letter case. -/
def hexValue? (c : Char) : Option Nat :=
  if c.isDigit then some (c.toNat - '0'.toNat)
  else if 'a' ≤ c ∧ c ≤ 'f' then some (c.toNat - 'a'.toNat + 10)
  else if 'A' ≤ c ∧ c ≤ 'F' then some (c.toNat - 'A'.toNat + 10)
  else none

/-- The identifier with this value, if it has no more than 128 bits. -/
def ofNat? (n : Nat) : Option Uuid :=
  if h : n < 2 ^ 128 then some ⟨n, h⟩ else none

/-- Exactly 32 hexadecimal digits. -/
def ofHexDigits? (cs : List Char) : Option Uuid :=
  if cs.length = 32 then
    (cs.mapM hexValue?).bind fun ds => ofNat? (ds.foldl (fun n d => 16 * n + d) 0)
  else none

/-- The list without the hyphens between groups of the given sizes; none if they stand elsewhere. -/
def joinGroups? : List Nat → List Char → Option (List Char)
  | [], _ => none
  | [n], cs => if cs.length = n then some cs else none
  | n :: sizes, cs =>
    match cs.drop n with
    | '-' :: rest => (joinGroups? sizes rest).map (cs.take n ++ ·)
    | _ => none

/-- The form with hyphens. -/
def ofHyphenated? (cs : List Char) : Option Uuid :=
  (joinGroups? groupSizes cs).bind ofHexDigits?

/-- The mark in front of an identifier that is written as a URN; its letters may be of either
case. -/
def urnMark : List Char := "urn:uuid:".toList

/-- The identifier that a text denotes in one of the four forms. -/
def parse? (s : String) : Option Uuid :=
  let cs := s.toList
  if cs.length = 32 then ofHexDigits? cs
  else if cs.length = 36 then ofHyphenated? cs
  else if cs.length = 38 then
    if cs.head? = some '\x7b' ∧ cs.getLast? = some '\x7d' then ofHyphenated? (cs.drop 1).dropLast
    else none
  else if cs.length = 45 ∧ (cs.take 9).map Char.toLower = urnMark then ofHyphenated? (cs.drop 9)
  else none

/-! ### Making identifiers -/

/-- The version digit. -/
def version (u : Uuid) : Nat :=
  u.value / 2 ^ 76 % 16

/-- The bits of the variant that both made versions share. -/
def variantBits : Nat := 2 ^ 63

/-- An identifier of version 4 whose free low bits hold the serial number. -/
def random (serial : Nat) : Uuid :=
  ⟨4 * 2 ^ 76 + variantBits + serial % 2 ^ 62, by unfold variantBits; omega⟩

/-- An identifier of version 7: the milliseconds since the epoch, then the serial number. Later
serial numbers of one millisecond give larger identifiers. -/
def timeOrdered (millis serial : Nat) : Uuid :=
  ⟨millis % 2 ^ 48 * 2 ^ 80 + 7 * 2 ^ 76 + variantBits + serial % 2 ^ 62, by
    unfold variantBits
    omega⟩

end Uuid

end Teller
