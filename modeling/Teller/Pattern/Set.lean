/-
Sets of characters in square brackets.

* `OpenSet`: a set up to a place, and `Mode.openSet?`, its beginning;
* `Mode.readRange?`: a single member, or a range of them;
* `Mode.readSet?`: a set up to its closing bracket, with the sets inside it, and its depth.

Sets can be nested, and joined by operators of two equal characters. Only their members, and the
negation of bytes, decide whether they can be used: where letter case does not count, a set is of
use as long as it has no members.
-/
import Teller.Pattern.Basic
import Teller.Pattern.Nesting

namespace Teller.Pattern

/-- The names of sets that are written between colons. -/
def setNames : List String :=
  ["alnum", "alpha", "ascii", "blank", "cntrl", "digit", "graph", "lower", "print", "punct",
    "space", "upper", "word", "xdigit"]

/-- A named set, without its opening bracket: is it negated, and what comes after it? -/
def readNamed? : List Char → Option (Bool × List Char)
  | ':' :: cs =>
    let negated := cs.head? == some '^'
    let cs := if negated then cs.tail else cs
    let name := cs.takeWhile (· ≠ ':')
    match cs.drop name.length with
    | ':' :: ']' :: rest =>
      if String.ofList name ∈ setNames then some (negated, rest) else none
    | _ => none
  | _ => none

/-- A set up to a place. -/
structure OpenSet where
  /-- The depth of all that stands in front of the last operator, if there is one. -/
  operand : Option Nat
  /-- What stands behind it. -/
  row : Row
  deriving DecidableEq

namespace OpenSet

/-- One member more, of this depth. -/
def push (s : OpenSet) (depth : Nat) : OpenSet := { s with row := s.row.push depth }

/-- The depth of what is inside the brackets. -/
def depth (s : OpenSet) : Nat := joined s.operand s.row.depth

/-- After an operator. -/
def afterOperator (s : OpenSet) : OpenSet := ⟨some s.depth, .empty⟩

end OpenSet

namespace Mode

/-- Can a set be used if its members can? A byte that is not in a set could be a part of a
character. -/
def allowsSet (m : Mode) (negated : Bool) : Bool := m.unicode || !negated

/-- Can a set be used that goes by one of the names? -/
def allowsNamed (m : Mode) (negated : Bool) : Bool :=
  if m.unicode then !m.anyCase else !negated

/-- The hyphens at the front of a set: how many, and what comes after them. -/
def readHyphens (m : Mode) : List Char → Nat × List Char
  | '-' :: rest =>
    let (count, rest) := m.readHyphens (m.skip rest)
    (count + 1, rest)
  | cs => (0, cs)
termination_by cs => cs.length
decreasing_by exact Nat.lt_succ_of_le (m.length_skip_le _)

/-- The members at the front of a set, where hyphens or else a closing bracket stand for themselves:
how many, and what comes after them. -/
def readFront (m : Mode) (cs : List Char) : Nat × List Char :=
  match m.readHyphens cs with
  | (0, ']' :: rest) => (1, rest)
  | front => front

/-- After the opening bracket of a set: it may be negated. -/
def openSet? (m : Mode) (cs : List Char) : Option (OpenSet × List Char) :=
  let (negated, cs) := match m.skip cs with
    | '^' :: rest => (true, m.skip rest)
    | cs => (false, cs)
  let (count, rest) := m.readFront cs
  if m.allowsSet negated ∧ (count = 0 ∨ m.allowsInSet (.char '-' false)) then
    some ((List.replicate count 0).foldl OpenSet.push ⟨none, .empty⟩, rest)
  else none

/-- One end of a range. -/
def readMember? (m : Mode) : List Char → Option (Atom × List Char)
  | [] => none
  | '\\' :: rest => m.readEscape? rest
  | c :: rest => some (.char c false, rest)

/-- The character that tells whether the hyphen in front of a text makes a range. Where white space
is passed over, so is the sign of a comment, but not what the comment says. -/
def peek? (m : Mode) (cs : List Char) : Option Char :=
  if m.spaced then
    match cs.dropWhile Text.isBlank with
    | '#' :: comment => (comment.dropWhile Text.isBlank).head?
    | rest => rest.head?
  else cs.head?

/-- A member of a set, or two of them around a hyphen, of which the first may not come after the
second. -/
def readRange? (m : Mode) (cs : List Char) : Option (List Char) :=
  (m.readMember? cs).bind fun (first, rest) =>
    let rest := m.skip rest
    let single := if m.allowsInSet first then some rest else none
    match rest with
    | '-' :: after =>
      if m.peek? after ∈ [some ']', some '-'] then single
      else
        (m.readMember? (m.skip after)).bind fun (last, rest) =>
          match first, last with
          | .char a _, .char b _ =>
            if m.allowsInSet first ∧ m.allowsInSet last ∧ a ≤ b then some rest else none
          | _, _ => none
    | _ => single

/-- After the beginning of a set, with others around it: the depth of the outermost, and what comes
after it. -/
def readMembers? (m : Mode) :
    (fuel : Nat) → OpenSet → (outer : List OpenSet) → List Char → Option (Nat × List Char)
  | 0, _, _, _ => none
  | fuel + 1, s, outer, cs =>
    match m.skip cs with
    | [] => none
    | ']' :: rest =>
      match outer with
      | [] => some (s.depth + 1, rest)
      | around :: outer => m.readMembers? fuel (around.push (s.depth + 1)) outer rest
    | '[' :: rest =>
      match readNamed? rest with
      | some (negated, rest) =>
        if m.allowsNamed negated then m.readMembers? fuel (s.push 0) outer rest else none
      | none =>
        (m.openSet? rest).bind fun (inner, rest) => m.readMembers? fuel inner (s :: outer) rest
    | '&' :: '&' :: rest => m.readMembers? fuel s.afterOperator outer rest
    | '-' :: '-' :: rest => m.readMembers? fuel s.afterOperator outer rest
    | '~' :: '~' :: rest => m.readMembers? fuel s.afterOperator outer rest
    | cs => (m.readRange? cs).bind (m.readMembers? fuel (s.push 0) outer)

/-- A set, without its opening bracket: its depth, and what comes after it, if it can be used. -/
def readSet? (m : Mode) (cs : List Char) : Option (Nat × List Char) :=
  (m.openSet? cs).bind fun (s, rest) => m.readMembers? (cs.length + 1) s [] rest

end Mode

end Teller.Pattern
