/-
Which lines of a log are written.

* `LogFilter`: directives; `LogFilter.ofText` reads them from a text, separated by commas;
* `LogFilter.refused`: the parts of a text that are no directives;
* `LogFilter.allows`: the most specific directive for a line decides.
-/
import Teller.Relay.LogDirective

namespace Teller

/-- Directives, of which a later one takes the place of an earlier one for the same lines. -/
structure LogFilter where
  directives : List LogDirective
  deriving DecidableEq

namespace LogFilter

/-- The parts of a text between commas, without empty ones. -/
def parts (s : String) : List String :=
  (s.splitOn ",").filter fun part => !part.isEmpty

/-- The parts of a text that are no directives, and what is wrong with them. -/
def refused (s : String) : List (String × DirectiveFault) :=
  (parts s).filterMap fun part =>
    match LogDirective.read part with
    | .ok _ => none
    | .error fault => some (part, fault)

/-- Only errors are written. -/
def errorsOnly : LogFilter := ⟨[{ LogDirective.everything with rank := LogLevel.error.rank }]⟩

/-- The directives of a text; what is none is passed over, and without any only errors are
written. -/
def ofText (s : String) : LogFilter :=
  match (parts s).filterMap fun part => (LogDirective.read part).toOption with
  | [] => errorsOnly
  | directives => ⟨directives⟩

/-- The directive that decides about a line: the most specific, and of these the last. -/
def decisive? (f : LogFilter) (line : LogLine) : Option LogDirective :=
  (f.directives.filter fun d => d.covers line).foldl
    (fun best d =>
      match best with
      | none => some d
      | some b => if b.weight ≤ d.weight then some d else some b)
    none

/-- Is the line written? -/
def allows (f : LogFilter) (line : LogLine) : Bool :=
  match f.decisive? line with
  | some d => line.level.rank ≤ d.rank
  | none => false

end LogFilter

end Teller
