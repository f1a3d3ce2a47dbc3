/-
Text in quotation marks, for messages: what cannot be seen is written as an escape.

* `quoteChar`: the form of one character between the marks;
* `quoted`: a whole text between quotation marks;
* `hexOf`: the hexadecimal numeral of a number in lower case.
-/
import Teller.Text.Combining
import Teller.Text.Invisible
import Teller.Text.Unassigned

namespace Teller.Text

/-- The hexadecimal numeral of `n`, in lower case and without leading zeros. -/
def hexOf (n : Nat) : List Char :=
  Nat.toDigits 16 n

/-- The form of a character in a quoted text. -/
def quoteChar (c : Char) : List Char :=
  match c with
  | '\x00' => ['\\', '0']
  | '\t' => ['\\', 't']
  | '\r' => ['\\', 'r']
  | '\n' => ['\\', 'n']
  | '"' => ['\\', '"']
  | '\\' => ['\\', '\\']
  | c =>
    if isCombining c || isInvisible c || isUnassigned c then
      ['\\', 'u', '\x7b'] ++ hexOf c.toNat ++ ['\x7d']
    else [c]

/-- The text between quotation marks. -/
def quoted (s : String) : String :=
  String.ofList ('"' :: s.toList.flatMap quoteChar ++ ['"'])

end Teller.Text
