/-
Where events are delivered to.

* `SinkAnswer`: what a sink says to an event;
* `EventSink`: a state that answers events, each answer after a time of its own;
* `Sink`: a sink with prepared answers, a queue of bounded length that nobody empties, or a sink
  that accepts everything;
* `Sink.fault?`: which sinks cannot be set up.
-/
import Teller.Clock
import Teller.Outbox

namespace Teller

/-- What a sink says to an event. -/
inductive SinkAnswer where
  | accepted
  | rejected
  | closed
  deriving DecidableEq

/-- An event as it was delivered. -/
structure Delivery where
  topic : String
  event : OutboxEvent
  deriving DecidableEq

/-- A taker of events, as a type of states. An event is seen twice: when it is handed over, to find
out what is waited for, and when it is answered. -/
class EventSink (σ : Type) where
  /-- An event is handed over at the given instant, and is answered after the wait in the result. -/
  handOver : σ → Nat → Delivery → σ × Wait
  /-- The answer, at the given instant, to an event whose wait is over. -/
  answer : σ → Nat → Delivery → σ × SinkAnswer

/-- An event that was answered, with the instant of the answer. -/
structure Attempt where
  instant : Nat
  topic : String
  id : EventId
  answer : SinkAnswer
  deriving DecidableEq

/-- Why a sink cannot be set up. -/
inductive SinkFault where
  /-- A queue without room would never take an event. -/
  | noRoom
  /-- A queue is longer than can be counted. -/
  | tooMuchRoom
  deriving DecidableEq

/-- A sink. -/
inductive Sink where
  /-- The answers are prepared, and a sleep may come before each; when they are used up, all is
  accepted. -/
  | prepared (answers : List SinkAnswer) (delay : Option Nat) (attempts : List Attempt)
  /-- A queue of a length. When nobody listens any more it is closed. -/
  | queue (capacity : Nat) (closed : Bool) (received : List Delivery)
  /-- Everything is accepted. -/
  | acceptAll
  deriving DecidableEq

namespace Sink

/-- What is waited for before an event is answered that is handed over at an instant. -/
def wait (s : Sink) (now : Nat) : Wait :=
  match s with
  | prepared _ delay _ => .sleep now delay
  | queue capacity closed received =>
    if closed ∨ received.length < capacity then .nothing else .forever
  | acceptAll => .nothing

/-- The answer to an event. -/
def take (s : Sink) (now : Nat) (d : Delivery) : Sink × SinkAnswer :=
  match s with
  | prepared answers delay attempts =>
    let answer := answers.head?.getD .accepted
    (prepared answers.tail delay (attempts ++ [⟨now, d.topic, d.event.id, answer⟩]), answer)
  | queue capacity closed received =>
    if closed then (s, .closed) else (queue capacity closed (received ++ [d]), .accepted)
  | acceptAll => (s, .accepted)

instance : EventSink Sink where
  handOver s now _ := (s, s.wait now)
  answer s now d := s.take now d

/-- The length of the longest queue. -/
def mostCapacity : Nat := 2 ^ 61 - 1

/-- Why a sink cannot be set up, if it cannot. -/
def fault? : Sink → Option SinkFault
  | queue capacity _ _ =>
    if capacity = 0 then some .noRoom
    else if mostCapacity < capacity then some .tooMuchRoom
    else none
  | _ => none

/-- The events that were answered. -/
def attempts : Sink → List Attempt
  | prepared _ _ attempts => attempts
  | _ => []

/-- The events that were received. -/
def received : Sink → List Delivery
  | queue _ _ received => received
  | _ => []

end Sink

end Teller
