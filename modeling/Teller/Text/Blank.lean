/-
White space.

* `blankRanges`: the code points with the property White_Space;
* `isBlank`: membership in the table;
* `trim`: a text without white space at its two ends.
-/
import Teller.Text.Ranges

namespace Teller.Text

/-- The code points with the property White_Space. -/
def blankRanges : Ranges := [
  (0x9, 0xD), (0x20, 0x20), (0x85, 0x85), (0xA0, 0xA0), (0x1680, 0x1680), (0x2000, 0x200A),
  (0x2028, 0x2029), (0x202F, 0x202F), (0x205F, 0x205F), (0x3000, 0x3000)]

/-- Is the character white space? -/
def isBlank (c : Char) : Bool := blankRanges.contains c

/-- The text without white space at its two ends. -/
def trim (s : String) : String :=
  String.ofList ((s.toList.dropWhile isBlank).reverse.dropWhile isBlank).reverse

end Teller.Text
