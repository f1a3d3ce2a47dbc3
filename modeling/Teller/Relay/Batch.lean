/-
Delivery of the outbox, batch by batch.

* `Batch`: the events that are still to be handed over, and those that were accepted;
* `Batch.answer`: the first event has been accepted or not;
* `Batch.finish`: the accepted events are marked, all at the end;
* `PublishError`: why an event is not accepted, or a batch fails.

An event is marked only after it was accepted, and an event that was not stays pending, so that
every event is delivered at least once.
-/
import Teller.Store.Basic

namespace Teller

/-- Why an event is not accepted, or a batch fails. -/
inductive PublishError where
  | rejected (id : EventId) (reason : String)
  | closed
  | store (error : LedgerError)
  deriving DecidableEq

/-- The wording of an error. -/
def PublishError.message : PublishError → String
  | rejected id reason => s!"Sink rejected event {id}: {reason}"
  | closed => "Sink is closed"
  | store error => error.message

/-- A batch that is being delivered. -/
structure Batch where
  left : List OutboxEvent
  accepted : List EventId
  deriving DecidableEq

namespace Batch

/-- A batch of the first pending events. -/
def start (s : Store) (size : Nat) : Batch := ⟨s.pendingEvents size, []⟩

/-- The batch after its first event has been accepted or not. -/
def answer (b : Batch) (accepted : Bool) : Batch :=
  match b.left with
  | [] => b
  | event :: left => ⟨left, if accepted then b.accepted ++ [event.id] else b.accepted⟩

/-- The accepted events are marked, and counted. -/
def finish (b : Batch) (s : Store) : Store × Nat :=
  (if b.accepted.isEmpty then s else s.markPublished b.accepted, b.accepted.length)

end Batch

end Teller
