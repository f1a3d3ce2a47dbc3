/-
Which patterns can be used.

* `Pattern.Opening`: what an opening parenthesis begins;
* `Pattern.OpenGroup` and `Pattern.Scan`: a group and a pattern up to a place; `Scan.step?` goes on
  by one item;
* `Pattern.fault?`: what is wrong with a pattern, if anything is.

Counted repetitions are not read, so that an opening brace is refused.
-/
import Teller.Pattern.Set
import Teller.Text.Alphanumeric

namespace Teller.Pattern

/-- What is wrong with a pattern. -/
inductive Fault where
  | malformed
  /-- It asks for the edges of words, which are not looked for. -/
  | wordEdge
  deriving DecidableEq

/-- The wording of a fault. -/
def Fault.message : Fault → String
  | malformed => "error building NFA"
  | wordEdge =>
    "unsupported regex feature for DFAs: cannot build DFAs for regexes with Unicode word " ++
      "boundaries; switch to ASCII word boundaries, or heuristically enable Unicode word " ++
      "boundaries or use a different regex engine"

/-! ### Groups -/

/-- What an opening parenthesis begins. -/
inductive Opening where
  /-- A group with a mode of its own, and a name if it has one. -/
  | group (mode : Mode) (name : Option (List Char))
  /-- Nothing: the mode of what follows is set. -/
  | setting (mode : Mode)
  deriving DecidableEq

/-- Can these characters be the name of a group? It begins with a letter or an underscore. -/
def isName : List Char → Bool
  | [] => false
  | c :: cs =>
    (c == '_' || Text.isAlphabetic c) &&
      cs.all fun c => Text.isAlphanumeric c || c ∈ ['_', '.', '[', ']']

/-- Flags, each at most once, with at most one hyphen and none at the end. -/
def areFlags (flags : List Char) : Bool :=
  (flags.all fun c => c ∈ ['i', 'm', 's', 'U', 'u', 'R', 'x', '-']) && decide flags.Nodup &&
    flags.getLast? != some '-'

/-- After the question mark of a parenthesis: flags, and a colon in front of a group. -/
def Mode.readFlags? (m : Mode) (cs : List Char) : Option (Opening × List Char) :=
  let flags := cs.takeWhile fun c => c ≠ ':' ∧ c ≠ ')'
  if !areFlags flags then none
  else
    match cs.drop flags.length with
    | ':' :: rest => some (.group (m.withFlags flags) none, rest)
    | ')' :: rest => if flags = [] then none else some (.setting (m.withFlags flags), rest)
    | _ => none

/-- After the opening bracket of a name. -/
def Mode.readName? (m : Mode) (cs : List Char) : Option (Opening × List Char) :=
  let name := cs.takeWhile (· ≠ '>')
  match cs.drop name.length with
  | '>' :: rest => if isName name then some (.group m (some name), rest) else none
  | _ => none

/-- After an opening parenthesis. -/
def Mode.readOpening? (m : Mode) (cs : List Char) : Option (Opening × List Char) :=
  match m.skip cs with
  | '?' :: 'P' :: '<' :: rest => m.readName? rest
  | '?' :: '<' :: rest => m.readName? rest
  | '?' :: rest => m.readFlags? rest
  | rest => some (.group m none, rest)

/-! ### The whole -/

/-- A group up to a place, without those inside it. -/
structure OpenGroup where
  /-- How what follows is understood. -/
  mode : Mode
  /-- The depth of the deepest of the alternatives before the last, if there are several. -/
  branches : Option Nat
  /-- The last alternative. -/
  row : Row
  deriving DecidableEq

namespace OpenGroup

/-- The beginning of a group. -/
def start (mode : Mode) : OpenGroup := ⟨mode, none, .empty⟩

/-- One item more, of this depth. -/
def push (g : OpenGroup) (depth : Nat) : OpenGroup := { g with row := g.row.push depth }

/-- The depth of what is inside the group. -/
def depth (g : OpenGroup) : Nat := joined g.branches g.row.depth

/-- After a bar, where the next alternative begins. -/
def afterBar (g : OpenGroup) : OpenGroup :=
  { g with branches := some (max (g.branches.getD 0) g.row.depth), row := .empty }

end OpenGroup

/-- A pattern up to a place. -/
structure Scan where
  /-- The innermost group. -/
  group : OpenGroup
  /-- The groups around it, from the inside out. -/
  outer : List OpenGroup
  /-- The names of groups. -/
  names : List (List Char)
  /-- Does something stand in front that can be repeated? -/
  repeatable : Bool
  /-- Has the pattern asked for the edge of a word? -/
  hasWordEdge : Bool
  deriving DecidableEq

namespace Scan

/-- The beginning of a pattern. -/
def start : Scan := ⟨.start .standard, [], [], false, false⟩

/-- After an item that can be repeated. -/
def afterItem (s : Scan) (depth : Nat) : Scan :=
  { s with group := s.group.push depth, repeatable := true }

/-- After an atom, if it can be used. -/
def afterAtom? (s : Scan) (a : Atom) : Option Scan :=
  if s.group.mode.allows a then
    let edge := a == .wordEdge && s.group.mode.unicode
    some { s.afterItem 0 with hasWordEdge := s.hasWordEdge || edge }
  else none

/-- After an opening parenthesis, if the name of the group is new. -/
def afterOpening? (s : Scan) : Opening → Option Scan
  | .setting mode => some { s with group := { s.group.push 0 with mode }, repeatable := false }
  | .group mode name =>
    let s := { s with group := .start mode, outer := s.group :: s.outer, repeatable := false }
    match name with
    | none => some s
    | some name => if name ∈ s.names then none else some { s with names := name :: s.names }

/-- After a closing parenthesis, if one is open. -/
def afterClosing? (s : Scan) : Option Scan :=
  match s.outer with
  | [] => none
  | around :: outer => some ({ s with group := around, outer } |>.afterItem (s.group.depth + 1))

/-- After a sign of repetition, if something can be repeated. -/
def afterRepetition? (s : Scan) : Option Scan :=
  if s.repeatable then some { s with group := { s.group with row := s.group.row.wrapLast } }
  else none

/-- The next item of a pattern, of which the first character is given apart. -/
def step? (s : Scan) (c : Char) (rest : List Char) : Option (Scan × List Char) :=
  if c = '(' then
    (s.group.mode.readOpening? rest).bind fun (opening, rest) =>
      (s.afterOpening? opening).map fun s => (s, rest)
  else if c = ')' then s.afterClosing?.map fun s => (s, rest)
  else if c = '|' then some ({ s with group := s.group.afterBar, repeatable := false }, rest)
  else if c = '[' then
    (s.group.mode.readSet? rest).map fun (depth, rest) => (s.afterItem depth, rest)
  else if c ∈ ['?', '*', '+'] then
    s.afterRepetition?.map fun s => (s, if rest.head? = some '?' then rest.tail else rest)
  else if c = '\x7b' then none
  else if c = '\\' then
    (s.group.mode.readEscape? rest).bind fun (a, rest) => (s.afterAtom? a).map fun s => (s, rest)
  else
    let a := if c = '.' then .dot else if c = '^' ∨ c = '$' then .anchor else .char c false
    (s.afterAtom? a).map fun s => (s, rest)

/-- All items of a pattern, at most so many. -/
def run? : (fuel : Nat) → Scan → List Char → Option Scan
  | 0, _, _ => none
  | fuel + 1, s, cs =>
    match s.group.mode.skip cs with
    | [] => some s
    | c :: rest => (s.step? c rest).bind fun (s, rest) => run? fuel s rest

end Scan

/-- What is wrong with a pattern, if anything is. -/
def fault? (cs : List Char) : Option Fault :=
  match Scan.start.run? (cs.length + 1) cs with
  | none => some .malformed
  | some s =>
    if s.outer ≠ [] ∨ mostLevels < s.group.depth then some .malformed
    else if s.hasWordEdge then some .wordEdge
    else none

end Teller.Pattern
