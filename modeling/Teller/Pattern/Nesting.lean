/-
How deep a pattern is nested.

* `Pattern.Row`: parts that stand side by side; `Row.push` adds one, and `Row.wrapLast` makes a
  repetition of the last one;
* `Row.depth`: a single part counts by itself, and several are one level more;
* `Pattern.joined`: the depth of parts that stand behind others and are joined with them;
* `Pattern.mostLevels`: no pattern may be nested deeper.

Of the parts of a pattern only their depths are kept: nothing else matters once they could be read.
-/
namespace Teller.Pattern

/-- Parts of a pattern that stand side by side. -/
structure Row where
  count : Nat
  /-- The depth of the deepest part in front of the last one. -/
  deepest : Nat
  /-- The depth of the last part. -/
  last : Nat
  deriving DecidableEq

namespace Row

/-- No parts. -/
def empty : Row := ⟨0, 0, 0⟩

/-- One part more, of this depth. -/
def push (r : Row) (depth : Nat) : Row := ⟨r.count + 1, max r.deepest r.last, depth⟩

/-- The last part is repeated, which is a level around it. -/
def wrapLast (r : Row) : Row := { r with last := r.last + 1 }

/-- The depth of the whole row. -/
def depth (r : Row) : Nat :=
  match r.count with
  | 0 => 0
  | 1 => r.last
  | _ => 1 + max r.deepest r.last

end Row

/-- The depth of a part that is joined with what stands in front, if something does. -/
def joined (front : Option Nat) (depth : Nat) : Nat :=
  match front with
  | none => depth
  | some front => 1 + max front depth

/-- No pattern may be nested deeper. -/
def mostLevels : Nat := 250

end Teller.Pattern
