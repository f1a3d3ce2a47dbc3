/-
Scripts: commands one after the other.

* `Session.settle`: a command goes on whenever it can, and the clock moves to the next instant at
  which it can, until it comes to its end;
* `Session.run`: a script, with the clock after each command and, where an account is watched, with
  what is committed for it.
-/
import Teller.Session.Round

namespace Teller

/-- What is committed for a watched account. -/
structure Watched where
  balances : Balances
  records : Nat
  events : Nat
  deriving DecidableEq

/-- What comes of a command, the clock after it, and what is watched. -/
structure StepReport where
  result : CommandResult
  instant : Nat
  watched : Option Watched

namespace Session

/-- Turns of an activity and moves of the clock, at most so many, until it comes to its end. Alarms
ring after each turn; time passes only when the activity cannot go on. -/
def settleWithin (s : Session) (a : Activity) : (fuel : Nat) → Session × CommandResult
  | 0 => (s, .error .stuck)
  | fuel + 1 =>
    if a.isReady s.bank then
      match s.resume a with
      | (s, .waiting a) => (s.withClock s.bank.clock.ring).settleWithin a fuel
      | (s, .done result) => (s, result)
    else
      match a.wakesAt with
      | none => (s, .error .stuck)
      | some instant => (s.withClock (s.bank.clock.jump instant)).settleWithin a fuel

/-- More turns and moves of the clock than any script needs. -/
def manyTurns : Nat := 10 ^ 12

/-- A command from its start to its end. -/
def settle (s : Session) (c : Command) : Session × CommandResult :=
  match s.start c with
  | (s, .waiting a) => (s.withClock s.bank.clock.ring).settleWithin a manyTurns
  | (s, .done result) => (s, result)

/-- What is committed for an account. -/
def watch (s : Session) (account : AccountId) : Watched where
  balances := s.bank.store.readBalances account
  records := (s.bank.store.transactionRecords account).length
  events := s.bank.store.eventCount

/-- Does the script end here? -/
def endsScript : CommandResult → Bool
  | .ok _ => false
  | .error trouble => trouble.isFatal

/-- The reports of a script, in its order, up to trouble that ends it. -/
def run (s : Session) (watching : Option AccountId) : List Command → List StepReport
  | [] => []
  | command :: commands =>
    let (s, result) := s.settle command
    ⟨result, s.now, watching.map s.watch⟩ ::
      if endsScript result then [] else s.run watching commands

end Session

end Teller
