/-
Commands that wait.

* `Activity`: a command that waits;
* `Task`: a command among others side by side, which waits or has come to its end;
* `Activity.isReady` and `Activity.wakesAt`: when an activity can go on.
-/
import Teller.Session.Command

namespace Teller

mutual

/-- A command that waits. -/
inductive Activity where
  | delayed (startAt : Nat) (command : Command)
  | calling (call : Call)
  | adjusting (wait : AdjustWait)
  | provisioning (wait : ProvisionWait)
  | asking (query : RateQuery) (fetch : Fetch)
  | reading (query : RateQuery) (fetch : Fetch)
  | publishing (publisher : Publisher Sink) (wait : BatchWait) (giveUpAt : Option Nat)
  /-- The loop of a publisher; its end is told when the last signal has been sent. -/
  | relaying (relay : Relay Sink) (lastSignal : Nat)
  /-- Nothing is left to do but to answer at an instant. -/
  | ending (answer : Answer) (instant : Nat)
  | together (tasks : List Task)

/-- A command among others: it waits or has come to its end. -/
inductive Task where
  | waiting (activity : Activity)
  | done (timed : Timed)

end

mutual

/-- The instant at which an activity goes on whatever the others do, if there is one. -/
def Activity.wakesAt : Activity → Option Nat
  | .delayed startAt _ => some startAt
  | .calling call => call.wakesAt
  | .adjusting wait => some wait.giveUpAt
  | .provisioning wait => some wait.giveUpAt
  | .asking _ fetch => fetch.wakesAt
  | .reading _ fetch => fetch.wakesAt
  | .publishing _ wait giveUpAt => earlier wait.wait.instant? giveUpAt
  | .relaying relay _ => relay.wakesAt
  | .ending _ instant => some instant
  | .together tasks => Task.firstWakesAt tasks

/-- The instant at which a task goes on whatever the others do, if there is one. -/
def Task.wakesAt : Task → Option Nat
  | .waiting activity => activity.wakesAt
  | .done _ => none

/-- The instant at which the first of some tasks goes on, if there is one. -/
def Task.firstWakesAt : List Task → Option Nat
  | [] => none
  | task :: tasks => earlier task.wakesAt (Task.firstWakesAt tasks)

end

mutual

/-- Can the activity go on now? -/
def Activity.isReady (b : Bank SimulatedProvider) : Activity → Bool
  | .delayed startAt _ => b.clock.hasRung startAt
  | .calling call => call.isReady b
  | .adjusting wait =>
    b.clock.hasRung wait.giveUpAt || b.store.holds wait.row.tx wait.row.key
  | .provisioning wait =>
    b.clock.hasRung wait.giveUpAt || b.store.holds wait.row.tx wait.row.key
  | .asking _ fetch => b.clock.isOver fetch.wakesAt
  | .reading _ fetch => b.clock.isOver fetch.wakesAt
  | .publishing _ wait giveUpAt => b.clock.isOver (earlier wait.wait.instant? giveUpAt)
  | .relaying relay _ => relay.isReady b.clock
  | .ending _ instant => b.clock.hasRung instant
  | .together tasks => Task.anyReady b tasks

/-- Can the task go on now? -/
def Task.isReady (b : Bank SimulatedProvider) : Task → Bool
  | .waiting activity => activity.isReady b
  | .done _ => false

/-- Can some of the tasks go on now? -/
def Task.anyReady (b : Bank SimulatedProvider) : List Task → Bool
  | [] => false
  | task :: tasks => task.isReady b || Task.anyReady b tasks

end

namespace Task

/-- The trouble of a task that ends the whole script. -/
def fatal? : Task → Option Trouble
  | done (.error trouble, _) => if trouble.isFatal then some trouble else none
  | _ => none

/-- What has come of tasks, if all have come to their end. -/
def results? (tasks : List Task) : Option (List Timed) :=
  tasks.mapM fun task =>
    match task with
    | waiting _ => none
    | done timed => some timed

end Task

end Teller
