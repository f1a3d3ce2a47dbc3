/-
Patterns: texts that describe sets of texts. They are read here as far as it takes to tell which of
them can be used.

* `Pattern.Mode`: how the characters of a pattern are understood;
* `Pattern.Atom`: what one place of a pattern stands for, and `Mode.allows`, when it can be used;
* `Mode.readEscape?`: what stands behind a backslash.

A match is made of whole characters, and there is no table of letter case or of the properties of
characters. So atoms that need such a table, or that could match a part of a character, cannot be
used.
-/
import Teller.Text.Blank
import Teller.Uuid

namespace Teller.Pattern

/-- How the characters of a pattern are understood. -/
structure Mode where
  /-- Does letter case not count? -/
  anyCase : Bool
  /-- Does the pattern speak of characters and not of bytes? -/
  unicode : Bool
  /-- Are white space and comments passed over? -/
  spaced : Bool
  deriving DecidableEq

namespace Mode

/-- Every character counts as it stands. -/
def standard : Mode := ⟨false, true, false⟩

/-- The mode after some flags, of which those behind a hyphen are taken back. -/
def withFlags (m : Mode) (flags : List Char) : Mode :=
  let raised := flags.takeWhile (· ≠ '-')
  let state (flag : Char) (before : Bool) : Bool :=
    if flag ∈ raised then true else before && !flags.contains flag
  ⟨state 'i' m.anyCase, state 'u' m.unicode, state 'x' m.spaced⟩

/-- A text after white space and comments, which go from a number sign to the end of a line. -/
def skipSpace : (inComment : Bool) → List Char → List Char
  | _, [] => []
  | true, c :: cs => skipSpace (c ≠ '\n') cs
  | false, c :: cs =>
    if Text.isBlank c then skipSpace false cs
    else if c = '#' then skipSpace true cs
    else c :: cs

/-- What is left of a pattern after what is passed over. -/
def skip (m : Mode) (cs : List Char) : List Char :=
  if m.spaced then skipSpace false cs else cs

/-- A text does not grow when white space and comments are taken from its front. -/
theorem length_skipSpace_le (inComment : Bool) (cs : List Char) :
    (skipSpace inComment cs).length ≤ cs.length := by
  induction cs generalizing inComment with
  | nil => simp [skipSpace]
  | cons c cs ih =>
    cases inComment with
    | true => exact Nat.le_succ_of_le (ih _)
    | false =>
      rw [skipSpace]
      split
      · exact Nat.le_succ_of_le (ih _)
      · split
        · exact Nat.le_succ_of_le (ih _)
        · exact Nat.le_refl _

/-- A pattern does not grow by what is passed over. -/
theorem length_skip_le (m : Mode) (cs : List Char) : (m.skip cs).length ≤ cs.length := by
  unfold skip
  split
  · exact length_skipSpace_le false cs
  · exact Nat.le_refl _

end Mode

/-- What one place of a pattern stands for. -/
inductive Atom where
  /-- A character; one that was written by two hexadecimal digits can mean a byte. -/
  | char (c : Char) (canBeByte : Bool)
  /-- A digit, a white space or a part of a word, or anything but such. -/
  | kind (negated : Bool)
  /-- Any character. -/
  | dot
  /-- The beginning or end of a text or line. -/
  | anchor
  /-- The edge of a word, or a place that is none. -/
  | wordEdge
  deriving DecidableEq

namespace Mode

/-- Can the atom be used outside of sets? -/
def allows (m : Mode) : Atom → Bool
  | .char c canBeByte => if m.unicode then !m.anyCase else !canBeByte || c.toNat < 0x80
  | .kind negated => !m.unicode && !negated
  | .dot => m.unicode
  | .anchor => true
  | .wordEdge => true

/-- Can the atom be used in a set? -/
def allowsInSet (m : Mode) : Atom → Bool
  | .char c _ => if m.unicode then !m.anyCase else c.toNat < 0x80
  | .kind negated => !m.unicode && !negated
  | _ => false

/-! ### Escapes -/

/-- A character by so many hexadecimal digits. -/
def readHex? (m : Mode) : (digits : Nat) → (value : Nat) → List Char → Option (Char × List Char)
  | 0, value, cs => if value.isValidChar then some (Char.ofNat value, m.skip cs) else none
  | digits + 1, value, cs =>
    match m.skip cs with
    | [] => none
    | c :: rest =>
      (Uuid.hexValue? c).bind fun digit => m.readHex? digits (16 * value + digit) rest

/-- The control characters that have a letter, with it. -/
def controls : List (Char × Char) :=
  [('a', '\x07'), ('f', '\x0c'), ('t', '\t'), ('n', '\n'), ('r', '\r'), ('v', '\x0b')]

/-- Does the character stand for itself behind a backslash? -/
def escapesItself (c : Char) : Bool :=
  c.toNat < 0x80 && !c.isAlphanum && c != '<' && c != '>'

/-- What stands behind a backslash, if it can be understood. -/
def readEscape? (m : Mode) : List Char → Option (Atom × List Char)
  | [] => none
  | c :: rest =>
    let hex (digits : Nat) (canBeByte : Bool) : Option (Atom × List Char) :=
      (m.readHex? digits 0 rest).map fun (c, rest) => (.char c canBeByte, rest)
    if c = 'x' then hex 2 true
    else if c = 'u' then hex 4 false
    else if c = 'U' then hex 8 false
    else if c ∈ ['d', 's', 'w'] then some (.kind false, rest)
    else if c ∈ ['D', 'S', 'W'] then some (.kind true, rest)
    else if c ∈ ['A', 'z'] then some (.anchor, rest)
    else if c ∈ ['b', 'B', '<', '>'] then some (.wordEdge, rest)
    else if escapesItself c then some (.char c false, rest)
    else (controls.lookup c).map fun c => (.char c false, rest)

end Mode

end Teller.Pattern
