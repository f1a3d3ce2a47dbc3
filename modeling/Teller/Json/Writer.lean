/-
Writing of JSON.

* `Json.write`: the text of a value, without blanks;
* `Json.writeString`: a string in quotes; quotes, backslashes and the characters below the blank are
  escaped, and all others are written as they are.
-/
import Teller.Json.Basic

namespace Teller.Json

/-- One hexadecimal digit in lower case. -/
def hexDigit (n : Nat) : Char :=
  Nat.digitChar n

/-- One character inside a string. -/
def writeChar (c : Char) : List Char :=
  match c with
  | '"' => ['\\', '"']
  | '\\' => ['\\', '\\']
  | '\x08' => ['\\', 'b']
  | '\x0c' => ['\\', 'f']
  | '\n' => ['\\', 'n']
  | '\r' => ['\\', 'r']
  | '\t' => ['\\', 't']
  | c =>
    if c.toNat < 0x20 then
      ['\\', 'u', '0', '0', hexDigit (c.toNat / 16), hexDigit (c.toNat % 16)]
    else [c]

/-- A string in quotes. -/
def writeString (s : String) : List Char :=
  '"' :: s.toList.flatMap writeChar ++ ['"']

/-- A number as it is written. -/
def Number.write (n : Number) : List Char :=
  let sign := if n.negative then ['-'] else []
  let fraction := if n.fraction.isEmpty then [] else '.' :: n.fraction
  let exponent := match n.exponent with
    | none => []
    | some (.ofNat e) => 'e' :: Text.digitsOf e
    | some (.negSucc e) => 'e' :: '-' :: Text.digitsOf (e + 1)
  sign ++ n.whole ++ fraction ++ exponent

mutual

/-- The characters of a value. What is unusable is written as null. -/
def writeChars : Json → List Char
  | null => "null".toList
  | bool true => "true".toList
  | bool false => "false".toList
  | number n => n.write
  | string s => writeString s
  | array items => '[' :: writeItems items ++ [']']
  | object members => '{' :: writeMembers members ++ ['}']
  | unusable => "null".toList

/-- Items with commas between them. -/
def writeItems : List Json → List Char
  | [] => []
  | [item] => writeChars item
  | item :: items => writeChars item ++ ',' :: writeItems items

/-- Members with commas between them. -/
def writeMembers : List (String × Json) → List Char
  | [] => []
  | [(name, value)] => writeString name ++ ':' :: writeChars value
  | (name, value) :: members =>
    writeString name ++ ':' :: writeChars value ++ ',' :: writeMembers members

end

/-- The text of a value. -/
def write (value : Json) : String := String.ofList (writeChars value)

end Teller.Json
