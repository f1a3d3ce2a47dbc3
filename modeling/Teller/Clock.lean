/-
The clock, and what is waited for.

* `Clock`: the present instant, and the instant up to which alarms have rung;
* `Clock.advance`, `Clock.ring`, `Clock.jump`: how a clock goes on;
* `Clock.hasRung` and `Clock.isOver`: is a wait for an instant over?
* `Wait`: what is waited for before an answer.

Instants and spans are in milliseconds. No alarm rings while somebody has a turn: a clock that is
moved in the middle of a round of turns is ahead of its alarms until the round is over. So ends of
waits are computed from the present instant, and compared with the last alarm.
-/
namespace Teller

/-- A clock with alarms. -/
structure Clock where
  /-- The present instant. -/
  now : Nat
  /-- All alarms up to this instant have rung. -/
  rung : Nat
  rung_le_now : rung ≤ now
  deriving DecidableEq

namespace Clock

/-- The clock at an instant, when all alarms up to it have rung. -/
def atRest (now : Nat) : Clock := ⟨now, now, Nat.le_refl now⟩

/-- The clock is moved while somebody has a turn. -/
def advance (c : Clock) (millis : Nat) : Clock :=
  ⟨c.now + millis, c.rung, Nat.le_add_right_of_le c.rung_le_now⟩

/-- All alarms that are due ring. -/
def ring (c : Clock) : Clock := atRest c.now

/-- Time passes up to an instant, unless it has come already, and all alarms ring. -/
def jump (c : Clock) (instant : Nat) : Clock := atRest (max c.now instant)

/-- Has the alarm at an instant rung? -/
def hasRung (c : Clock) (instant : Nat) : Bool := instant ≤ c.rung

/-- Is a wait over that may last for ever? -/
def isOver (c : Clock) : Option Nat → Bool
  | some instant => c.hasRung instant
  | none => false

/-- No sleep is longer: thirty years of 365 days. -/
def longestSleep : Nat := 30 * 365 * 24 * 60 * 60 * 1000

/-- The instant at which a sleep ends that begins at an instant. -/
def sleepEnd (now millis : Nat) : Nat := now + min millis longestSleep

end Clock

/-- The earlier of two instants that may never come. -/
def earlier : Option Nat → Option Nat → Option Nat
  | some a, some b => some (min a b)
  | some a, none => some a
  | none, b => b

/-- What is waited for before an answer. -/
inductive Wait where
  /-- Nothing: the answer comes at once. -/
  | nothing
  /-- The alarm at an instant. -/
  | alarm (instant : Nat)
  /-- What never comes. -/
  | forever
  deriving DecidableEq

namespace Wait

/-- A sleep that begins at an instant, if there is one. -/
def sleep (now : Nat) : Option Nat → Wait
  | some millis => alarm (Clock.sleepEnd now millis)
  | none => nothing

/-- Is the wait over? -/
def isOver (w : Wait) (c : Clock) : Bool :=
  match w with
  | nothing => true
  | alarm instant => c.hasRung instant
  | forever => false

/-- The alarm that is waited for. -/
def instant? : Wait → Option Nat
  | alarm instant => some instant
  | nothing => none
  | forever => none

end Wait

end Teller
