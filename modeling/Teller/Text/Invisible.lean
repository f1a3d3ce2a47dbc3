/-
The characters without a visible form of their own: controls, format characters, separators other
than the space, fillers and other characters that are ignored when a text is shown, and private-use
characters.

* `invisibleRanges`: the code points;
* `isInvisible`: membership in the table.
-/
import Teller.Text.Ranges

namespace Teller.Text

/-- The code points without a visible form. -/
def invisibleRanges : Ranges := [
  (0x0, 0x1F), (0x7F, 0xA0), (0xAD, 0xAD), (0x600, 0x605), (0x61C, 0x61C), (0x6DD, 0x6DD),
  (0x70F, 0x70F), (0x890, 0x891), (0x8E2, 0x8E2), (0x115F, 0x1160), (0x1680, 0x1680),
  (0x180E, 0x180E), (0x2000, 0x200F), (0x2028, 0x202F), (0x205F, 0x206F), (0x3000, 0x3000),
  (0x3164, 0x3164), (0xE000, 0xF8FF), (0xFEFF, 0xFEFF), (0xFFA0, 0xFFA0), (0xFFF0, 0xFFFB),
  (0x110BD, 0x110BD), (0x110CD, 0x110CD), (0x13430, 0x1343F), (0x1BCA0, 0x1BCA3),
  (0x1D173, 0x1D17A), (0xE0000, 0xE00FF), (0xE01F0, 0xE0FFF), (0xF0000, 0xFFFFD),
  (0x100000, 0x10FFFD)]

/-- Is the character without a visible form? -/
def isInvisible (c : Char) : Bool := invisibleRanges.contains c

end Teller.Text
