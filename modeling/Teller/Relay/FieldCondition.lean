/-
Conditions on the fields of the lines of a log.

* `FieldCondition`: a field by its name, and whether it must also have a certain value;
* `FieldCondition.read`: the condition of a text, or what is wrong with the value in it.

A value is a number or a pattern.
-/
import Teller.Pattern.Check
import Teller.Text.Digits

namespace Teller

/-- A field that lines must have. -/
structure FieldCondition where
  name : String
  /-- Must the field also have a certain value? -/
  hasValue : Bool
  deriving DecidableEq

namespace FieldCondition

/-- Is the text an exponent: nothing, or the letter e and digits after an optional sign? -/
def isExponent : List Char → Bool
  | [] => true
  | e :: cs =>
    let digits := if cs.head? = some '+' ∨ cs.head? = some '-' then cs.tail else cs
    (e == 'e' || e == 'E') && (Text.numeral? digits).isSome

/-- Is the text a number without a sign? The names of infinity and of what is no number count as
numbers. -/
def isUnsignedNumber (cs : List Char) : Bool :=
  let whole := cs.takeWhile Char.isDigit
  let rest := cs.drop whole.length
  let fraction := if rest.head? = some '.' then rest.tail.takeWhile Char.isDigit else []
  let rest := if rest.head? = some '.' then rest.tail.drop fraction.length else rest
  String.ofList (cs.map Char.toLower) ∈ ["inf", "infinity", "nan"] ||
    !(whole ++ fraction).isEmpty && isExponent rest

/-- What is wrong with a value. A number behind a plus sign can be used though it is no pattern. -/
def valueFault? : List Char → Option Pattern.Fault
  | '+' :: cs => if isUnsignedNumber cs then none else Pattern.fault? ('+' :: cs)
  | cs => Pattern.fault? cs

/-- The condition of a text: a name, and a value up to a second equals sign. -/
def read (cs : List Char) : Except Pattern.Fault FieldCondition :=
  let name := cs.takeWhile (· ≠ '=')
  match cs.drop name.length with
  | [] => .ok ⟨String.ofList name, false⟩
  | _ :: rest =>
    match valueFault? (rest.takeWhile (· ≠ '=')) with
    | none => .ok ⟨String.ofList name, true⟩
    | some fault => .error fault

end FieldCondition

end Teller
