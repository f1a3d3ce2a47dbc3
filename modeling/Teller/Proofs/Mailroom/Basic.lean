/-
Publishers beside transactions that commit events.

* `Mailroom`: a vault, the batches and loops that are under way, and a log of all that sinks have
  been handed and have answered;
* `Mailroom.Event`: something happens to the vault, a batch or a loop starts, goes on or is given
  up, a sink changes by itself; `Mailroom.step` and `Mailroom.run` follow any list of events;
* `Mailroom.Turns`, `Mailroom.Rests`: what one event comes to, a turn of a courier or none;
* `Mailroom.IsSound`: the invariant of every run: all that a courier has had accepted is flagged or
  will be, unless the courier is given up.

A sink may answer as it likes, at once or after a wait. While it lets a batch wait, everything else
can happen. A loop that can begin a batch and can hear something picks either, so that it may also
stop while a batch is due.
-/
import Teller.Proofs.Relay.Accounting
import Teller.Proofs.Trace
import Teller.Proofs.Vault.Basic

namespace Teller

variable {σ : Type}

/-- A publisher whose sink takes notes. -/
def Publisher.noted (p : Publisher σ) : Publisher (Noted σ) := ⟨⟨p.sink, []⟩, p.topic, p.batchSize⟩

/-- What the sink of a publisher has noted since it was another. -/
def Publisher.notesSince (p before : Publisher (Noted σ)) : List Handover :=
  p.sink.notes.drop before.sink.notes.length

lemma Publisher.Adds.notesSince_eq {p p' : Publisher (Noted σ)} {notes : List Handover}
    (h : p.Adds p' notes) : p'.notesSince p = notes := by
  rw [notesSince, h.notes, List.drop_left]

/-- Who delivers events. -/
inductive Courier (σ : Type) where
  /-- A single batch, which waits for an answer. -/
  | batch (publisher : Publisher (Noted σ)) (wait : BatchWait)
  /-- The loop of a publisher. -/
  | loop (relay : Relay (Noted σ))

namespace Courier

/-- The publisher. -/
def publisher : Courier σ → Publisher (Noted σ)
  | batch publisher _ => publisher
  | loop relay => relay.publisher

/-- The batch that is under way. -/
def batch? : Courier σ → Option Batch
  | batch _ wait => some wait.batch
  | loop relay => relay.batch?

/-- Does it deliver a single batch? -/
def isSingle : Courier σ → Bool
  | batch .. => true
  | loop _ => false

/-- The sink has changed by itself. -/
def withSink (sink : σ) : Courier σ → Courier σ
  | batch p wait => batch { p with sink := { p.sink with sink } } wait
  | loop r => loop { r with
      publisher := { r.publisher with sink := { r.publisher.sink with sink } } }

end Courier

/-- A batch that has been finished. -/
structure Finish where
  id : Nat
  /-- The size of the batch at most. -/
  size : Nat
  /-- The number that it has returned. -/
  count : Nat
  deriving DecidableEq

/-- A vault and those who deliver the events that are committed to it. -/
structure Mailroom (σ : Type) where
  vault : Vault
  /-- The number of batches and loops so far. -/
  started : Nat
  couriers : Table Nat (Courier σ)
  /-- What sinks have been handed and have answered, the oldest first, and for whom. -/
  log : List (Nat × Handover)
  /-- The single batches that have been finished. -/
  finished : List Finish
  /-- The loops that have stopped because they were told to. -/
  stopped : List Nat

namespace Mailroom

/-- What can happen in a mailroom. -/
inductive Event (σ : Type) where
  | vault (event : Vault.Event)
  /-- A single batch starts. -/
  | publish (publisher : Publisher σ)
  /-- A loop starts, which is to be sent these signals. -/
  | relay (publisher : Publisher σ) (interval : Nat) (signals : List SentSignal)
  /-- A batch has a turn, or a loop does one thing: it goes on with its batch, starts one, or
  listens; this is what it takes up if it can do both. -/
  | resume (id : Nat) (pick : Pick)
  /-- A loop is sent the signals that are due. -/
  | post (id : Nat)
  | giveUp (id : Nat)
  | resink (id : Nat) (sink : σ)

/-- A mailroom where nothing has happened. -/
def fresh (clock : Clock) (lockTimeout : Nat) (ids : IdSupply) : Mailroom σ :=
  ⟨.fresh clock lockTimeout ids, 0, .empty, [], [], []⟩

/-- The store. -/
def store (m : Mailroom σ) : Store := m.vault.store

/-- The batch that a courier has under way. -/
def underWay (m : Mailroom σ) (id : Nat) : Option Batch := (m.couriers.get? id).bind (·.batch?)

/-- What the sink of a courier has been handed and has answered. -/
def notesOf (m : Mailroom σ) (id : Nat) : List Handover :=
  m.log.filterMap fun entry => if entry.1 = id then some entry.2 else none

/-- The events of a courier that have been accepted. -/
def acceptedFor (m : Mailroom σ) (id : Nat) : List OutboxEvent :=
  (m.notesOf id).filterMap (·.accepted?)

/-- The mailroom after a turn of a courier: the notes of the sink are collected, and the courier
goes on or has come to an end. -/
def after (m : Mailroom σ) (id : Nat) (store : Store) (notes : List Handover)
    (courier : Option (Courier σ)) : Mailroom σ :=
  { m with
    vault := { m.vault with store }
    log := m.log ++ notes.map fun note => (id, note)
    couriers :=
      match courier with
      | some c => m.couriers.insert id c
      | none => m.couriers.erase id }

/-- The mailroom after a turn of a single batch of a publisher. -/
def afterBatch (m : Mailroom σ) (id : Nat) (before : Publisher (Noted σ)) :
    (Publisher (Noted σ) × Store) × Turn BatchWait Nat → Mailroom σ
  | ((p, store), .waiting wait) => m.after id store (p.notesSince before) (some (.batch p wait))
  | ((p, store), .done count) =>
    { m.after id store (p.notesSince before) none with
      finished := m.finished ++ [⟨id, p.batchSize, count⟩] }

/-- The mailroom after a turn of the loop of a publisher. -/
def afterLoop (m : Mailroom σ) (id : Nat) (before : Publisher (Noted σ)) :
    Store × Turn (Relay (Noted σ)) (Publisher (Noted σ)) → Mailroom σ
  | (store, .waiting r) =>
    m.after id store (r.publisher.notesSince before) (some (.loop r))
  | (store, .done p) =>
    { m.after id store (p.notesSince before) none with stopped := m.stopped ++ [id] }

/-- The mailroom with one more number taken. -/
def receive (m : Mailroom σ) : Mailroom σ := { m with started := m.started + 1 }

section Steps

variable [EventSink σ]

/-- What happens in a mailroom. -/
def step [Arithmetic] (m : Mailroom σ) : Event σ → Mailroom σ
  | .vault event => { m with vault := m.vault.step event }
  | .publish publisher =>
    m.receive.afterBatch m.started publisher.noted
      (publisher.noted.startBatch m.vault.clock m.store)
  | .relay publisher interval signals =>
    let relay := Relay.start publisher.noted m.vault.clock.now interval signals
    { m.receive with couriers := m.couriers.insert m.started (.loop relay) }
  | .resume id pick =>
    match m.couriers.get? id with
    | none => m
    | some (.batch publisher wait) =>
      m.afterBatch id publisher (publisher.resumeBatch m.vault.clock m.store wait)
    | some (.loop relay) =>
      m.afterLoop id relay.publisher (relay.act m.vault.clock pick m.store)
  | .post id =>
    match m.couriers.get? id with
    | some (.loop relay) =>
      { m with couriers := m.couriers.insert id (.loop (relay.post m.vault.clock)) }
    | _ => m
  | .giveUp id => { m with couriers := m.couriers.erase id }
  | .resink id sink =>
    match m.couriers.get? id with
    | none => m
    | some courier => { m with couriers := m.couriers.insert id (courier.withSink sink) }

/-- All that happens in a mailroom. -/
def run [Arithmetic] (m : Mailroom σ) (events : List (Event σ)) : Mailroom σ :=
  events.foldl step m

lemma run_take_succ [Arithmetic] {m : Mailroom σ} {events : List (Event σ)} {event : Event σ}
    {n : ℕ} (hevent : events[n]? = some event) :
    m.run (events.take (n + 1)) = (m.run (events.take n)).step event :=
  Trace.foldl_take_succ hevent

lemma run_take_succ_of_none [Arithmetic] {m : Mailroom σ} {events : List (Event σ)} {n : ℕ}
    (hevent : events[n]? = none) : m.run (events.take (n + 1)) = m.run (events.take n) :=
  Trace.foldl_take_succ_of_none hevent

end Steps

/-! ### What one event comes to -/

variable {m m' : Mailroom σ} {id other : Nat} {notes : List Handover} {note : Handover}
  {c c' : Courier σ}

/-- Two couriers that differ in their sinks at most. -/
structure Alike (c c' : Courier σ) : Prop where
  batch : c'.batch? = c.batch?
  batchSize : c'.publisher.batchSize = c.publisher.batchSize
  isSingle : c'.isSingle = c.isSingle

/-- A courier has had a turn, and its sink has noted this. -/
structure Turns (m m' : Mailroom σ) (id : Nat) (notes : List Handover) : Prop where
  live : (∃ c, m.couriers.get? id = some c) ∨ m.started ≤ id
  delivers : Relay.Delivers m.store (m.underWay id) notes m'.store (m'.underWay id)
  vault : m'.vault = { m.vault with store := m'.store }
  log : m'.log = m.log ++ notes.map fun note => (id, note)
  started : m.started ≤ m'.started
  lt : id < m'.started
  others {other : Nat} : other ≠ id → m'.couriers.get? other = m.couriers.get? other
  single {c : Courier σ} {b : Batch} : m'.couriers.get? id = some c → c.isSingle = true →
    c.batch? = some b → b.accepted.length = (m'.acceptedFor id).length ∧
      b.left.length + b.accepted.length ≤ c.publisher.batchSize
  finished {f : Finish} : f ∈ m'.finished → f ∈ m.finished ∨ f.id = id ∧
    m'.couriers.get? id = none ∧ f.count = (m'.acceptedFor id).length ∧ f.count ≤ f.size
  stopped {other : Nat} : other ∈ m'.stopped → other ∈ m.stopped ∨ other = id ∧
    m'.couriers.get? id = none

/-- No courier has had a turn. One may have been given up, or may have come. -/
structure Rests (m m' : Mailroom σ) : Prop where
  vault : m'.vault.IsSound
  lasts : m.store.Lasts m'.store
  events : m.store.outbox.map (·.event) ⊆ m'.store.outbox.map (·.event)
  flagged {row : OutboxRow} : row ∈ m'.store.outbox → row.published = true →
    row ∈ m.store.outbox
  log : m'.log = m.log
  finished : m'.finished = m.finished
  stopped : m'.stopped = m.stopped
  started : m.started ≤ m'.started
  couriers {id : Nat} {c' : Courier σ} : m'.couriers.get? id = some c' →
    (∃ c, m.couriers.get? id = some c ∧ Alike c c') ∨
      m.started ≤ id ∧ id < m'.started ∧ c'.batch? = none ∧ c'.isSingle = false

/-- The invariant of a mailroom. -/
structure IsSound (m : Mailroom σ) : Prop where
  vault : m.vault.IsSound
  courier {id : Nat} {c : Courier σ} : m.couriers.get? id = some c →
    id < m.started ∧ Relay.Accounts m.store (m.notesOf id) c.batch?
  single {id : Nat} {c : Courier σ} {b : Batch} : m.couriers.get? id = some c →
    c.isSingle = true → c.batch? = some b → b.accepted.length = (m.acceptedFor id).length ∧
      b.left.length + b.accepted.length ≤ c.publisher.batchSize
  noted {id : Nat} {note : Handover} : note ∈ m.notesOf id →
    id < m.started ∧ note.event ∈ m.store.outbox.map (·.event)
  flagged {row : OutboxRow} : row ∈ m.store.outbox → row.published = true →
    ∃ id event, .answered event true ∈ m.notesOf id ∧ event.id = row.event.id
  finished {f : Finish} : f ∈ m.finished → f.id < m.started ∧ m.couriers.get? f.id = none ∧
    f.count = (m.acceptedFor f.id).length ∧ f.count ≤ f.size
  stopped {id : Nat} : id ∈ m.stopped → id < m.started ∧ m.couriers.get? id = none ∧
    ∀ event, .answered event true ∈ m.notesOf id → m.store.isFlagged event = true

/-! ### Notes -/

lemma mem_notesOf : note ∈ m.notesOf id ↔ (id, note) ∈ m.log := by
  simp only [notesOf, List.mem_filterMap]
  constructor
  · rintro ⟨⟨other, note'⟩, hmem, heq⟩
    split at heq
    · next h =>
      obtain rfl := Option.some.inj heq
      exact h ▸ hmem
    · simp at heq
  · exact fun hmem => ⟨_, hmem, if_pos rfl⟩

lemma notesOf_of_log (h : m'.log = m.log ++ notes.map fun note => (id, note)) :
    m'.notesOf id = m.notesOf id ++ notes := by
  rw [notesOf, h, List.filterMap_append, List.filterMap_map, ← notesOf]
  congr 1
  simp

lemma acceptedFor_of_log (h : m'.log = m.log ++ notes.map fun note => (id, note)) :
    (m'.acceptedFor id).length
      = (m.acceptedFor id).length + (notes.filterMap (·.accepted?)).length := by
  rw [acceptedFor, notesOf_of_log h, List.filterMap_append, List.length_append, acceptedFor]

lemma Turns.notesOf_of_ne (h : m.Turns m' id notes) (hne : other ≠ id) :
    m'.notesOf other = m.notesOf other := by
  rw [notesOf, h.log, List.filterMap_append, List.filterMap_map, ← notesOf]
  simp [hne.symm]

lemma IsSound.notesOf_eq_nil (hm : m.IsSound) (h : m.started ≤ id) : m.notesOf id = [] :=
  List.eq_nil_iff_forall_not_mem.mpr fun _ hn => absurd (hm.noted hn).1 (Nat.not_lt.mpr h)

lemma isSound_fresh (clock : Clock) (lockTimeout : Nat) (ids : IdSupply) :
    (fresh clock lockTimeout ids : Mailroom σ).IsSound where
  vault := Vault.isSound_fresh clock lockTimeout ids
  courier := by simp [fresh]
  single := by simp [fresh]
  noted := by simp [fresh, notesOf]
  flagged := by simp [fresh, store, Vault.fresh, Store.empty]
  finished := by simp [fresh]
  stopped := by simp [fresh]

end Mailroom

end Teller
