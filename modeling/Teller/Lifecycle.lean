/-
The stages that an operation on wallets goes through.

* `Stage`: the stages, and which may follow which (`Stage.successors`);
* `Progress`: the stage of one operation; `Progress.advance` moves to a stage that may follow and
  refuses any other, in which case the stage stays (`Progress.request`);
* `Trail`: all the stages that one operation has asked for; `Trail.progress` is where they led it.
-/
import Teller.Operation

namespace Teller

/-- A stage of an operation. -/
inductive Stage where
  | start
  | acquireConnection
  | beginTx
  | mutate
  | audit
  | notify
  | commit
  | done
  | rollback
  | failed
  deriving DecidableEq

namespace Stage

/-- All stages. -/
def all : List Stage :=
  [start, acquireConnection, beginTx, mutate, audit, notify, commit, done, rollback, failed]

/-- The name of a stage in messages. -/
def name : Stage → String
  | start => "Start"
  | acquireConnection => "AcquireConnection"
  | beginTx => "BeginTx"
  | mutate => "Mutate"
  | audit => "Audit"
  | notify => "Notify"
  | commit => "Commit"
  | done => "Done"
  | rollback => "Rollback"
  | failed => "Failed"

/-- The name of a stage in data. -/
def tag : Stage → String
  | start => "START"
  | acquireConnection => "ACQUIRE_CONNECTION"
  | beginTx => "BEGIN_TX"
  | mutate => "MUTATE"
  | audit => "AUDIT"
  | notify => "NOTIFY"
  | commit => "COMMIT"
  | done => "DONE"
  | rollback => "ROLLBACK"
  | failed => "FAILED"

/-- The stage with exactly this name in data. -/
def ofTag? (s : String) : Option Stage :=
  all.find? fun stage => stage.tag == s

/-- The stages at which an operation has ended. -/
def isFinal : Stage → Bool
  | done => true
  | failed => true
  | _ => false

/-- The stages that may follow a stage. -/
def successors : Stage → List Stage
  | start => [acquireConnection, failed]
  | acquireConnection => [beginTx, failed]
  | beginTx => [mutate, rollback]
  | mutate => [mutate, audit, rollback]
  | audit => [notify, commit, rollback]
  | notify => [commit, rollback]
  | commit => [done, failed]
  | done => []
  | rollback => [failed]
  | failed => []

end Stage

/-! ### Progress of one operation -/

/-- A move between stages that is not allowed. -/
structure InvalidTransition where
  source : Stage
  target : Stage
  deriving DecidableEq

/-- The message about a move that is not allowed. -/
def InvalidTransition.message (e : InvalidTransition) : String :=
  "Invalid stage transition from " ++ e.source.name ++ " to " ++ e.target.name

/-- How far an operation has come. -/
structure Progress where
  kind : OperationKind
  stage : Stage
  deriving DecidableEq

namespace Progress

/-- An operation that has not done anything yet. -/
def start (kind : OperationKind) : Progress := ⟨kind, .start⟩

/-- Moves to a stage that may follow. -/
def advance (p : Progress) (target : Stage) : Except InvalidTransition Progress :=
  if target ∈ p.stage.successors then .ok { p with stage := target }
  else .error ⟨p.stage, target⟩

/-- Moves to a stage if it may follow, and else stays. -/
def request (p : Progress) (target : Stage) : Progress :=
  match p.advance target with
  | .ok moved => moved
  | .error _ => p

end Progress

/-! ### The trail of one operation -/

/-- The stages that an operation has asked for, the first in front. -/
structure Trail where
  kind : OperationKind
  requests : List Stage
  deriving DecidableEq

namespace Trail

/-- An operation that has not asked for anything yet. -/
def start (kind : OperationKind) : Trail := ⟨kind, []⟩

/-- The trail with one more request at its end. -/
def request (t : Trail) (stage : Stage) : Trail :=
  { t with requests := t.requests ++ [stage] }

/-- How far the operation has come. -/
def progress (t : Trail) : Progress :=
  t.requests.foldl Progress.request (.start t.kind)

end Trail

end Teller
