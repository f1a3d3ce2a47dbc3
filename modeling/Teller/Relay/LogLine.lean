/-
The lines of a log.

* `LogLevel`: how grave a line is;
* `LogLine`: a level, the target that the line speaks of, and its fields; `LogLine.text` is its JSON
  text.
-/
import Teller.Json.Writer

namespace Teller

/-- How grave a line is. -/
inductive LogLevel where
  | error
  | warn
  | info
  | debug
  | trace
  deriving DecidableEq

namespace LogLevel

/-- The levels, the gravest first. -/
def all : List LogLevel := [error, warn, info, debug, trace]

/-- The name of a level. -/
def name : LogLevel → String
  | error => "ERROR"
  | warn => "WARN"
  | info => "INFO"
  | debug => "DEBUG"
  | trace => "TRACE"

/-- The number of levels up to this one. -/
def rank : LogLevel → Nat
  | error => 1
  | warn => 2
  | info => 3
  | debug => 4
  | trace => 5

end LogLevel

/-- A line of a log. -/
structure LogLine where
  level : LogLevel
  target : String
  fields : List (String × String)
  deriving DecidableEq

namespace LogLine

/-- Has the line a field of this name? -/
def hasField (l : LogLine) (name : String) : Bool :=
  l.fields.any fun field => field.1 == name

/-- The JSON text of a line. -/
def text (l : LogLine) : String :=
  Json.write (.object [
    ("level", .string l.level.name),
    ("fields", .object (l.fields.map fun (name, value) => (name, .string value))),
    ("target", .string l.target)])

end LogLine

end Teller
