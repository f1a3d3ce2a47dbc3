/-
Reading of JSON.

* `Json.read?`: the value of a text, which holds nothing else but blanks;
* every other function reads from the front of a list of characters and gives the rest.

Nesting is not limited. Numbers are not judged by their size here, and halves of surrogate pairs are
let through as `Json.unusable`, so that both matter only where a value is used.
-/
import Teller.Json.Basic
import Teller.Uuid

namespace Teller.Json

/-- A blank between the parts of a value. -/
def isBlank (c : Char) : Bool :=
  c == ' ' || c == '\n' || c == '\r' || c == '\t'

/-- The text after its blanks. -/
def skipBlanks (cs : List Char) : List Char := cs.dropWhile isBlank

/-- The rest of the text after exactly these characters. -/
def readWord? (word cs : List Char) : Option (List Char) :=
  if cs.take word.length = word then some (cs.drop word.length) else none

/-! ### Numbers -/

/-- The digits in front, which must be one at least. -/
def readDigits? (cs : List Char) : Option (List Char × List Char) :=
  match cs.takeWhile Char.isDigit with
  | [] => none
  | digits => some (digits, cs.dropWhile Char.isDigit)

/-- The whole digits of a number: a zero stands alone. -/
def readWhole? : List Char → Option (List Char × List Char)
  | '0' :: cs => if (cs.head?.map Char.isDigit).getD false then none else some (['0'], cs)
  | cs => readDigits? cs

/-- The fraction digits of a number, if there is a point. -/
def readFraction? : List Char → Option (List Char × List Char)
  | '.' :: cs => readDigits? cs
  | cs => some ([], cs)

/-- The exponent of a number, after its mark and sign. -/
def readExponentDigits? (negative : Bool) (cs : List Char) : Option (Option Int × List Char) :=
  (readDigits? cs).map fun (digits, rest) =>
    let size : Int := Text.valueOf digits
    (some (if negative then -size else size), rest)

/-- The exponent of a number, if there is one. -/
def readExponent? : List Char → Option (Option Int × List Char)
  | c :: cs =>
    if c = 'e' ∨ c = 'E' then
      match cs with
      | '+' :: cs => readExponentDigits? false cs
      | '-' :: cs => readExponentDigits? true cs
      | cs => readExponentDigits? false cs
    else some (none, c :: cs)
  | [] => some (none, [])

/-- A number, with its sign if it has one. -/
def readNumber? (cs : List Char) : Option (Json.Number × List Char) := do
  let (negative, cs) := match cs with
    | '-' :: cs => (true, cs)
    | cs => (false, cs)
  let (whole, cs) ← readWhole? cs
  let (fraction, cs) ← readFraction? cs
  let (exponent, cs) ← readExponent? cs
  return (⟨negative, whole, fraction, exponent⟩, cs)

/-! ### Strings

A string is read as numbers, one for each character and for each escape, before halves of surrogate
pairs are put together. -/

/-- The number of four hexadecimal digits. -/
def readHex? : List Char → Option (Nat × List Char)
  | a :: b :: c :: d :: cs => do
    let a ← Uuid.hexValue? a
    let b ← Uuid.hexValue? b
    let c ← Uuid.hexValue? c
    let d ← Uuid.hexValue? d
    return (((a * 16 + b) * 16 + c) * 16 + d, cs)
  | _ => none

/-- The character that an escape of one letter stands for. -/
def escaped? : Char → Option Char
  | '"' => some '"'
  | '\\' => some '\\'
  | '/' => some '/'
  | 'b' => some '\x08'
  | 'f' => some '\x0c'
  | 'n' => some '\n'
  | 'r' => some '\r'
  | 't' => some '\t'
  | _ => none

/-- The numbers of a string up to its closing quote. Characters below the blank are refused. -/
def readUnits? : (fuel : Nat) → List Char → Option (List Nat × List Char)
  | 0, _ => none
  | _, [] => none
  | _ + 1, '"' :: cs => some ([], cs)
  | fuel + 1, '\\' :: 'u' :: cs => do
    let (unit, cs) ← readHex? cs
    let (units, cs) ← readUnits? fuel cs
    return (unit :: units, cs)
  | fuel + 1, '\\' :: c :: cs => do
    let c ← escaped? c
    let (units, cs) ← readUnits? fuel cs
    return (c.toNat :: units, cs)
  | fuel + 1, c :: cs =>
    if c = '\\' ∨ c.toNat < 0x20 then none
    else do
      let (units, cs) ← readUnits? fuel cs
      return (c.toNat :: units, cs)

/-- Is the number the first half of a surrogate pair? -/
def isHigh (unit : Nat) : Bool := 0xD800 ≤ unit && unit < 0xDC00

/-- Is the number the second half of a surrogate pair? -/
def isLow (unit : Nat) : Bool := 0xDC00 ≤ unit && unit < 0xE000

/-- The characters of a string, unless a half of a surrogate pair stands alone. -/
def ofUnits? : List Nat → Option (List Char)
  | [] => some []
  | high :: low :: units =>
    if isHigh high ∧ isLow low then
      let code := 0x10000 + (high - 0xD800) * 0x400 + (low - 0xDC00)
      (ofUnits? units).map (Char.ofNat code :: ·)
    else if isHigh high ∨ isLow high then none
    else (ofUnits? (low :: units)).map (Char.ofNat high :: ·)
  | [unit] => if isHigh unit ∨ isLow unit then none else some [Char.ofNat unit]

/-- A string after its opening quote; none of its text if that is unusable. -/
def readString? (cs : List Char) : Option (Option String × List Char) :=
  (readUnits? (cs.length + 1) cs).map fun (units, rest) =>
    ((ofUnits? units).map String.ofList, rest)

/-! ### Values -/

/-- The value of a string. -/
def ofString? : Option String → Json
  | some s => string s
  | none => unusable

/-- The value of an object, if all its names are usable. -/
def ofMembers (members : List (Option String × Json)) : Json :=
  match members.mapM fun (name, value) => name.map fun n => (n, value) with
  | some members => object members
  | none => unusable

mutual

/-- A value, after blanks. -/
def readValue? : (fuel : Nat) → List Char → Option (Json × List Char)
  | 0, _ => none
  | fuel + 1, cs =>
    match skipBlanks cs with
    | '"' :: cs => (readString? cs).map fun (s, rest) => (ofString? s, rest)
    | '[' :: cs =>
      match skipBlanks cs with
      | ']' :: cs => some (array [], cs)
      | cs => (readItems? fuel cs).map fun (items, rest) => (array items, rest)
    | '{' :: cs =>
      match skipBlanks cs with
      | '}' :: cs => some (object [], cs)
      | cs => (readMembers? fuel cs).map fun (members, rest) => (ofMembers members, rest)
    | 'n' :: cs => (readWord? "ull".toList cs).map fun rest => (null, rest)
    | 't' :: cs => (readWord? "rue".toList cs).map fun rest => (bool true, rest)
    | 'f' :: cs => (readWord? "alse".toList cs).map fun rest => (bool false, rest)
    | cs => (readNumber? cs).map fun (n, rest) => (number n, rest)

/-- The items of an array that is not empty, and its closing bracket. -/
def readItems? : (fuel : Nat) → List Char → Option (List Json × List Char)
  | 0, _ => none
  | fuel + 1, cs => do
    let (item, cs) ← readValue? fuel cs
    match skipBlanks cs with
    | ']' :: cs => return ([item], cs)
    | ',' :: cs => do
      let (items, cs) ← readItems? fuel cs
      return (item :: items, cs)
    | _ => none

/-- The members of an object that is not empty, and its closing brace. -/
def readMembers? : (fuel : Nat) → List Char → Option (List (Option String × Json) × List Char)
  | 0, _ => none
  | fuel + 1, cs =>
    match skipBlanks cs with
    | '"' :: cs => do
      let (name, cs) ← readString? cs
      match skipBlanks cs with
      | ':' :: cs => do
        let (value, cs) ← readValue? fuel cs
        match skipBlanks cs with
        | '}' :: cs => return ([(name, value)], cs)
        | ',' :: cs => do
          let (members, cs) ← readMembers? fuel cs
          return ((name, value) :: members, cs)
        | _ => none
      | _ => none
    | _ => none

end

/-- The value of a text that holds nothing else but blanks around it. Every step of the reading
takes a character, at most two steps are nested for each, and so the length bounds them. -/
def read? (s : String) : Option Json :=
  match readValue? (2 * s.length + 2) s.toList with
  | some (value, rest) => if (skipBlanks rest).isEmpty then some value else none
  | none => none

end Teller.Json
