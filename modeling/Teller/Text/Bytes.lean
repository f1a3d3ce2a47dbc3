/-
Places in a text, counted in bytes.

* `byteLength`: the number of bytes of a text;
* `takeBytes` and `dropBytes`: a text up to a place, and from a place on.

A place within a character counts as the place after it.
-/
namespace Teller.Text

/-- The number of bytes of a text. -/
def byteLength (cs : List Char) : Nat := cs.foldl (fun size c => size + c.utf8Size) 0

/-- The text up to a place. -/
def takeBytes : (count : Nat) → List Char → List Char
  | _, [] => []
  | 0, _ :: _ => []
  | count + 1, c :: cs => c :: takeBytes (count + 1 - c.utf8Size) cs

/-- The text from a place on. -/
def dropBytes : (count : Nat) → List Char → List Char
  | _, [] => []
  | 0, c :: cs => c :: cs
  | count + 1, c :: cs => dropBytes (count + 1 - c.utf8Size) cs

end Teller.Text
