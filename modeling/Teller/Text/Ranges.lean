/-
Sets of characters, given by their code points.

* `Ranges`: ranges of code points with both ends, in increasing order;
* `Ranges.contains`: membership.
-/
import Teller.Canonical

namespace Teller.Text

/-- Ranges of code points with both ends. -/
abbrev Ranges := List (Nat × Nat)

/-- Does the code point of the character lie in one of the ranges? -/
def Ranges.contains (ranges : Ranges) (c : Char) : Bool :=
  ranges.any fun (first, last) => first ≤ c.toNat && c.toNat ≤ last

end Teller.Text
