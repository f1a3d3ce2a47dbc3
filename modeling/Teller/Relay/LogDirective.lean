/-
Directives for a log: from which level on the lines of a kind are written.

* `LogDirective`: the kind, given by a target, a span and a field, and the level;
* `LogDirective.read`: the directive of a text, or what is wrong with the text.

A text is a level; or a target, a span with a field in square brackets, or both, and an equals sign
with a level. White space at its two ends does not count for the form, but the parts are cut out of
the text as it stands, at the places that they have without the white space in front.
-/
import Teller.Relay.FieldCondition
import Teller.Relay.LogLine
import Teller.Text.Alphanumeric
import Teller.Text.Blank
import Teller.Text.Bytes
import Teller.Text.Digits

namespace Teller

/-- What is wrong with the text of a directive. -/
inductive DirectiveFault where
  | form
  | level
  /-- The value of a field is neither a number nor a pattern that can be used. -/
  | field (fault : Pattern.Fault)
  deriving DecidableEq

/-- The wording of a fault. -/
def DirectiveFault.message : DirectiveFault → String
  | form => "invalid filter directive"
  | level =>
    "error parsing level filter: expected one of \"off\", \"error\", \"warn\", " ++
      "\"info\", \"debug\", \"trace\", or a number 0-5"
  | field fault => "invalid field filter: " ++ fault.message

/-- Lines up to a rank are written: of one target or of all, within one span or anywhere, with a
field or whatever their fields. Nothing is written at rank zero. -/
structure LogDirective where
  target : Option String
  span : Option String
  field : Option FieldCondition
  rank : Nat
  deriving DecidableEq

namespace LogDirective

/-- Everything is written. -/
def everything : LogDirective := ⟨none, none, none, LogLevel.trace.rank⟩

/-! ### Levels -/

/-- The rank of a level by its number, or by its name in any letter case. -/
def rank? (cs : List Char) : Option Nat :=
  let name := String.ofList (cs.map Char.toUpper)
  ((Text.unsigned? (2 ^ 64) (String.ofList cs)).filter (· ≤ LogLevel.trace.rank)).or
    (if name = "OFF" then some 0
      else (LogLevel.all.find? fun l => l.name == name).map LogLevel.rank)

/-- The rank after an equals sign; everything is written if nothing stands there. -/
def readRank (cs : List Char) : Except DirectiveFault Nat :=
  if cs = [] then .ok LogLevel.trace.rank
  else
    match rank? cs with
    | some rank => .ok rank
    | none => .error .level

/-! ### Reading

Readers go along a text without the white space at its ends; `start` is the place that they have
come to, and parts are cut out of `given`, the text as it stands. -/

/-- The part of a text between two places. -/
def part (given : List Char) (start stop : Nat) : List Char :=
  Text.takeBytes (stop - start) (Text.dropBytes start given)

/-- After the target or the square brackets: nothing, or an equals sign and a level. -/
def readLevel (d : LogDirective) (given : List Char) (start : Nat) :
    List Char → Except DirectiveFault LogDirective
  | [] => .ok d
  | '=' :: _ => do return { d with rank := ← readRank (Text.dropBytes (start + 1) given) }
  | _ => .error .form

/-- After an opening brace: a condition on a field, and the end of the brackets. -/
def readField (d : LogDirective) (given : List Char) (start : Nat) (cs : List Char) :
    Except DirectiveFault LogDirective :=
  let condition := cs.takeWhile (· ≠ '\x7d')
  let stop := start + Text.byteLength condition
  match condition, cs.drop condition.length with
  | _ :: _, _ :: rest => do
    let field ← (FieldCondition.read (part given start stop)).mapError .field
    match rest with
    | ']' :: rest => readLevel { d with field := some field } given (stop + 2) rest
    | _ => .error .form
  | _, _ => .error .form

/-- After an opening bracket: the name of a span, which may be missing before a brace. -/
def readSpan (d : LogDirective) (given : List Char) (start : Nat) (cs : List Char) :
    Except DirectiveFault LogDirective :=
  let name := cs.takeWhile fun c => c ≠ ']' ∧ c ≠ '\x7b'
  let stop := start + Text.byteLength name
  let span := String.ofList (part given start stop)
  match cs.drop name.length with
  | ']' :: rest => readLevel { d with span := some span } given (stop + 1) rest
  | '\x7b' :: rest =>
    readField { d with span := if name = [] then none else some span } given (stop + 1) rest
  | _ => .error .form

/-- Can the character be the first of a target or a level? -/
def isFirstChar (c : Char) : Bool :=
  Text.isAlphanumeric c || c == '-' || c == ':' || c == '_'

/-- The directive of a text, or what is wrong with it. -/
def read (s : String) : Except DirectiveFault LogDirective :=
  let given := s.toList
  match (Text.trim s).toList with
  | [] => .error .form
  | '[' :: rest => readSpan everything given 1 rest
  | c :: cs =>
    let name := (c :: cs).takeWhile fun c => c ≠ '=' ∧ c ≠ '['
    let stop := Text.byteLength name
    let named := { everything with target := some (String.ofList (part given 0 stop)) }
    if !isFirstChar c then .error .form
    else
      match (c :: cs).drop name.length with
      | [] =>
        match rank? given with
        | some rank => .ok { everything with rank }
        | none => .ok { everything with target := some s }
      | '[' :: rest => readSpan named given (stop + 1) rest
      | rest => readLevel named given stop rest

/-! ### Lines -/

/-- Does the directive speak of lines outside of spans? One with a span, or with a value for a
field, does not. -/
def isGeneral (d : LogDirective) : Bool :=
  d.span.isNone && (d.field.all fun field => !field.hasValue)

/-- Does the directive speak of the line? -/
def covers (d : LogDirective) (line : LogLine) : Bool :=
  d.isGeneral && (d.target.all fun start => start.toList.isPrefixOf line.target.toList) &&
    d.field.all fun field => line.hasField field.name

/-- How specific a directive is: by the length of its target, then by whether it has a field, then
by the name of that. -/
def weight (d : LogDirective) : List Nat :=
  let target := match d.target with
    | none => 0
    | some target => target.length + 1
  let field := match d.field with
    | none => []
    | some field => 1 :: field.name.toList.map Char.toNat
  target :: field

end LogDirective

end Teller
