/-
The publisher: batches are delivered to a sink, once or again and again until it is told to stop.

* `Publisher`: a sink, a topic and the size of batches;
* `BatchWait`: where a batch waits for the answer to its first event;
* `Publisher.startBatch` and `Publisher.resumeBatch`: one batch;
* `Relay`: the loop, with the instant of its next batch and what it has been told;
  `Relay.act` is one thing that it does, `Relay.start` and `Relay.resume` run it until it stops.

A batch that is under way is finished before the loop listens. When a batch is due and there is
something to hear, the loop may take up either; a loop that is run by `Relay.resume` takes up the
batch. A batch that is late by more than `lateness` moves all later ones. Who sends the signals has
a turn after each turn of the loop, and hangs up after the last of them, so that every loop stops.
-/
import Teller.Relay.Batch
import Teller.Relay.Sink
import Teller.Turn

namespace Teller

/-- What a publisher delivers to, under which topic, and how much at a time. -/
structure Publisher (σ : Type) where
  sink : σ
  topic : String
  batchSize : Nat
  deriving DecidableEq

/-- A batch whose first event is answered after a wait. -/
structure BatchWait where
  batch : Batch
  wait : Wait
  deriving DecidableEq

namespace Publisher

variable {σ : Type}

/-- The publisher and the store after a turn of a batch, which is finished if it is done. -/
def afterBatch (s : Store) :
    Publisher σ × Turn BatchWait Batch → (Publisher σ × Store) × Turn BatchWait Nat
  | (p, .waiting wait) => ((p, s), .waiting wait)
  | (p, .done batch) =>
    let (s, count) := batch.finish s
    ((p, s), .done count)

variable [EventSink σ]

/-- The answer to an event, and the publisher after it. -/
def take (p : Publisher σ) (now : Nat) (event : OutboxEvent) : Publisher σ × Bool :=
  let (sink, answer) := EventSink.answer p.sink now ⟨p.topic, event⟩
  ({ p with sink }, answer == .accepted)

/-- Events are handed over until one has to be waited for. -/
def deliver (p : Publisher σ) (clock : Clock) :
    (left : List OutboxEvent) → (accepted : List EventId) → Publisher σ × Turn BatchWait Batch
  | [], accepted => (p, .done ⟨[], accepted⟩)
  | event :: left, accepted =>
    let (sink, wait) := EventSink.handOver p.sink clock.now ⟨p.topic, event⟩
    let p := { p with sink }
    if wait.isOver clock then
      let (p, isAccepted) := p.take clock.now event
      deliver p clock left (Batch.answer ⟨event :: left, accepted⟩ isAccepted).accepted
    else (p, .waiting ⟨⟨event :: left, accepted⟩, wait⟩)

/-- A batch starts. -/
def startBatch (p : Publisher σ) (clock : Clock) (s : Store) :
    (Publisher σ × Store) × Turn BatchWait Nat :=
  afterBatch s (p.deliver clock (Batch.start s p.batchSize).left [])

/-- A batch looks at the answer that it waits for. -/
def resumeBatch (p : Publisher σ) (clock : Clock) (s : Store) (wait : BatchWait) :
    (Publisher σ × Store) × Turn BatchWait Nat :=
  if wait.wait.isOver clock then
    match wait.batch.left with
    | [] => afterBatch s (p, .done wait.batch)
    | event :: _ =>
      let (p, isAccepted) := p.take clock.now event
      let batch := wait.batch.answer isAccepted
      afterBatch s (p.deliver clock batch.left batch.accepted)
  else ((p, s), .waiting wait)

end Publisher

/-! ### The loop -/

/-- What the loop is told. -/
inductive Signal where
  /-- It shall stop, or it shall not. -/
  | shutdown (stop : Bool)
  /-- Nobody will tell it anything any more. -/
  | hangUp
  deriving DecidableEq

/-- What the loop has been told since it last listened: the last word counts. -/
structure Orders where
  stop : Bool
  unheard : Bool
  hungUp : Bool
  deriving DecidableEq

namespace Orders

/-- Nothing has been said. -/
def none : Orders := ⟨false, false, false⟩

/-- The orders after one more signal. -/
def tell (o : Orders) : Signal → Orders
  | .shutdown stop => { o with stop, unheard := true }
  | .hangUp => { o with hungUp := true }

/-- Has the loop something to hear? -/
def isReady (o : Orders) : Bool := o.unheard || o.hungUp

/-- Does the loop stop when it listens? What has been said is heard before the hanging up. -/
def stops (o : Orders) : Bool := if o.unheard then o.stop else o.hungUp

/-- The orders after the loop has listened. -/
def heard (o : Orders) : Orders := { o with unheard := false }

end Orders

/-- A signal and the instant at which it is sent. -/
structure SentSignal where
  instant : Nat
  signal : Signal
  deriving DecidableEq

/-- What a loop takes up when a batch is due and there is something to hear. -/
inductive Pick where
  | batch
  | orders
  deriving DecidableEq

/-- The loop of a publisher, between two turns. -/
structure Relay (σ : Type) where
  publisher : Publisher σ
  interval : Nat
  /-- The instant at which the next batch is due. -/
  nextTick : Nat
  /-- The batch that is under way. -/
  batch : Option BatchWait
  orders : Orders
  /-- The signals that are still to be sent, one after the other. -/
  signals : List SentSignal
  deriving DecidableEq

namespace Relay

variable {σ : Type}

/-- By how much a batch may be late without moving the later ones, in milliseconds. -/
def lateness : Nat := 5

/-- The instant of the batch after one that was due at `due` and starts now. -/
def tickAfter (now due interval : Nat) : Nat :=
  if due + lateness < now then now + interval else due + interval

/-- The loop at its start: the first batch is due at once. -/
def start (publisher : Publisher σ) (now interval : Nat) (signals : List SentSignal) : Relay σ :=
  ⟨publisher, interval, now, none, .none,
    signals.map fun s => { s with instant := now + s.instant }⟩

/-- The loop after the signals have been sent whose alarms have rung, in their order; after the last
of them nobody is left who could send one. -/
def post (r : Relay σ) (clock : Clock) : Relay σ :=
  let (sent, signals) := r.signals.span fun s => clock.hasRung s.instant
  let orders := sent.foldl (fun o s => o.tell s.signal) r.orders
  { r with orders := if signals.isEmpty then orders.tell .hangUp else orders, signals }

/-- Can the loop itself go on, with what it has been told so far? -/
def canGoOn (r : Relay σ) (clock : Clock) : Bool :=
  match r.batch with
  | some wait => wait.wait.isOver clock
  | none => clock.hasRung r.nextTick || r.orders.isReady

/-- Can the loop go on, or is there a signal to be sent? -/
def isReady (r : Relay σ) (clock : Clock) : Bool :=
  r.canGoOn clock || clock.isOver (r.signals.head?.map (·.instant))

/-- The instant at which the loop goes on or a signal is sent, if there is one. -/
def wakesAt (r : Relay σ) : Option Nat :=
  let goesOn := match r.batch with
    | some wait => wait.wait.instant?
    | none => some r.nextTick
  earlier goesOn (r.signals.head?.map (·.instant))

/-- The store and the loop after a turn of its batch. -/
def afterBatch (r : Relay σ) :
    (Publisher σ × Store) × Turn BatchWait Nat → Store × Turn (Relay σ) (Publisher σ)
  | ((publisher, s), .waiting wait) => (s, .waiting { r with publisher, batch := some wait })
  | ((publisher, s), .done _) => (s, .waiting { r with publisher, batch := none })

variable [EventSink σ]

/-- One thing that the loop does, if there is anything: it goes on with its batch, begins the batch
that is due, or listens. -/
def act (clock : Clock) (pick : Pick) (r : Relay σ) (s : Store) :
    Store × Turn (Relay σ) (Publisher σ) :=
  match r.batch with
  | some wait => r.afterBatch (r.publisher.resumeBatch clock s wait)
  | none =>
    if clock.hasRung r.nextTick ∧ (pick = .batch ∨ !r.orders.isReady) then
      let tick := { r with nextTick := tickAfter clock.now r.nextTick r.interval }
      tick.afterBatch (r.publisher.startBatch clock s)
    else if !r.orders.isReady then (s, .waiting r)
    else if r.orders.stops then (s, .done r.publisher)
    else (s, .waiting { r with orders := r.orders.heard })

/-- The loop goes on, one thing for each pick, unless it hears before that it shall stop. -/
def goOn (clock : Clock) : List Pick → Relay σ → Store → Store × Turn (Relay σ) (Publisher σ)
  | [], r, s => (s, .waiting r)
  | pick :: picks, r, s =>
    match r.act clock pick s with
    | (s, .waiting r) => goOn clock picks r s
    | (s, .done publisher) => (s, .done publisher)

/-- What a loop picks that always takes up a batch first. It never does more in one turn: a batch is
finished, one batch begins for each instant by which a batch may be late, and the loop listens,
twice if it is told to go on by someone who hangs up. -/
def batchesFirst : List Pick := List.replicate (lateness + 5) .batch

/-- One turn: the loop goes on, and then it is sent the signals that are due, which it hears in its
next turn. -/
def resume (r : Relay σ) (clock : Clock) (s : Store) : Store × Turn (Relay σ) (Publisher σ) :=
  match goOn clock batchesFirst r s with
  | (s, .waiting r) => (s, .waiting (r.post clock))
  | (s, .done publisher) => (s, .done publisher)

end Relay

end Teller
