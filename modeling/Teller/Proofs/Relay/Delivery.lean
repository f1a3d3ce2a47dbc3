/-
What a publisher does to the outbox, turn by turn.

* `Handover`: an event is handed to a sink, or answered; `Noted`: a sink that notes both;
* `Batch.Goes`: events of a batch are handed over and answered, one after the other;
* `Publisher.Came`: what a turn of a batch comes to: it waits for an answer, or it is finished;
  `came_startBatch` and `came_resumeBatch` say that every turn comes to this;
* `Relay.Delivers`: batches start, go on and are finished, one after the other; `Relay.came_act`
  and `Relay.came_goOn` say that this is all that a loop does, whatever it picks.
-/
import Mathlib.Tactic
import Teller.Relay.Publisher

namespace Teller

/-- What happens between a publisher and a sink. -/
inductive Handover where
  | handed (event : OutboxEvent)
  | answered (event : OutboxEvent) (isAccepted : Bool)
  deriving DecidableEq

/-- The event that is handed over or answered. -/
def Handover.event : Handover → OutboxEvent
  | handed event => event
  | answered event _ => event

/-- The event, if it has been accepted. -/
def Handover.accepted? : Handover → Option OutboxEvent
  | answered event true => some event
  | _ => none

lemma Handover.accepted?_eq_some {h : Handover} {event : OutboxEvent} :
    h.accepted? = some event ↔ h = answered event true := by
  cases h with
  | handed => simp [accepted?]
  | answered event isAccepted => cases isAccepted <;> simp [accepted?]

/-- A sink with notes of what it has been handed and what it has answered. -/
structure Noted (σ : Type) where
  sink : σ
  notes : List Handover

variable {σ : Type}

instance [EventSink σ] : EventSink (Noted σ) where
  handOver s now d :=
    let (sink, wait) := EventSink.handOver s.sink now d
    (⟨sink, s.notes ++ [.handed d.event]⟩, wait)
  answer s now d :=
    let (sink, answer) := EventSink.answer s.sink now d
    (⟨sink, s.notes ++ [.answered d.event (answer == .accepted)]⟩, answer)

/-! ### Within a batch -/

namespace Batch

/-- Events of a batch are handed over and answered. -/
inductive Goes : Batch → List Handover → Batch → Prop where
  | refl (b : Batch) : Goes b [] b
  | hand {event : OutboxEvent} {left : List OutboxEvent} {accepted : List EventId}
      {notes : List Handover} {b : Batch} (h : Goes ⟨event :: left, accepted⟩ notes b) :
      Goes ⟨event :: left, accepted⟩ (.handed event :: notes) b
  | answer {event : OutboxEvent} {left : List OutboxEvent} {accepted : List EventId}
      {notes : List Handover} {b : Batch} (isAccepted : Bool)
      (h : Goes (answer ⟨event :: left, accepted⟩ isAccepted) notes b) :
      Goes ⟨event :: left, accepted⟩ (.answered event isAccepted :: notes) b

variable {b b' : Batch} {notes : List Handover} {event : OutboxEvent}

/-- The identifiers of accepted events are collected in their order. -/
lemma Goes.accepted_eq (h : Goes b notes b') :
    b'.accepted = b.accepted ++ (notes.filterMap (·.accepted?)).map (·.id) := by
  induction h with
  | refl => simp
  | hand _ ih => simpa [Handover.accepted?] using ih
  | answer isAccepted _ ih =>
      rw [ih]
      cases isAccepted <;> simp [Batch.answer, Handover.accepted?]

/-- No event is taken up that was not in the batch. -/
lemma Goes.left_subset (h : Goes b notes b') : b'.left ⊆ b.left := by
  induction h with
  | refl => exact List.Subset.refl _
  | hand _ ih => exact ih
  | answer isAccepted _ ih => exact fun e he => List.mem_cons_of_mem _ (ih he)

lemma Goes.mem_left (h : Goes b notes b') {note : Handover} (hnote : note ∈ notes) :
    note.event ∈ b.left := by
  induction h with
  | refl => simp at hnote
  | hand _ ih =>
      rcases List.mem_cons.mp hnote with rfl | hnote
      · exact List.mem_cons_self
      · exact ih hnote
  | answer isAccepted _ ih =>
      rcases List.mem_cons.mp hnote with rfl | hnote
      · exact List.mem_cons_self
      · exact List.mem_cons_of_mem _ (ih hnote)

/-- An event is accepted at most once. -/
lemma Goes.length_le (h : Goes b notes b') :
    b'.left.length + b'.accepted.length ≤ b.left.length + b.accepted.length := by
  induction h with
  | refl => exact le_rfl
  | hand _ ih => exact ih
  | answer isAccepted _ ih =>
      cases isAccepted with
      | false =>
          simp only [Batch.answer, List.length_cons] at ih ⊢
          simp only [Bool.false_eq_true, if_false] at ih
          omega
      | true =>
          simp only [Batch.answer, if_true, List.length_append, List.length_cons,
            List.length_nil] at ih ⊢
          omega

end Batch

/-! ### Turns of a batch -/

namespace Publisher

/-- What a turn of a batch comes to, in which these notes are taken. -/
inductive Came (s : Store) (b : Batch) (notes : List Handover) :
    Store → Turn BatchWait Nat → Prop where
  | waits {w : BatchWait} (h : b.Goes notes w.batch) : Came s b notes s (.waiting w)
  | ends {b' : Batch} (h : b.Goes notes b') (hleft : b'.left = []) :
      Came s b notes (b'.finish s).1 (.done (b'.finish s).2)

lemma Came.cases {s s' : Store} {b : Batch} {notes : List Handover} {turn : Turn BatchWait Nat}
    (h : Came s b notes s' turn) :
    (∃ w, b.Goes notes w.batch ∧ s' = s ∧ turn = .waiting w) ∨
      ∃ b', b.Goes notes b' ∧ b'.left = [] ∧ s' = (b'.finish s).1 ∧
        turn = .done (b'.finish s).2 := by
  cases h with
  | waits hgoes => exact .inl ⟨_, hgoes, rfl, rfl⟩
  | ends hgoes hleft => exact .inr ⟨_, hgoes, hleft, rfl, rfl⟩

/-- The first event has been answered before. -/
lemma Came.answer {s s' : Store} {event : OutboxEvent} {left : List OutboxEvent}
    {accepted : List EventId} {isAccepted : Bool} {notes : List Handover}
    {turn : Turn BatchWait Nat}
    (h : Came s (Batch.answer ⟨event :: left, accepted⟩ isAccepted) notes s' turn) :
    Came s ⟨event :: left, accepted⟩ (.answered event isAccepted :: notes) s' turn := by
  cases h with
  | waits hgoes => exact .waits (.answer _ hgoes)
  | ends hgoes hleft => exact .ends (.answer _ hgoes) hleft

/-- The sink of the publisher has noted this. -/
structure Adds (p p' : Publisher (Noted σ)) (notes : List Handover) : Prop where
  notes : p'.sink.notes = p.sink.notes ++ notes
  batchSize : p'.batchSize = p.batchSize

variable {p p' p'' : Publisher (Noted σ)} {s s' : Store} {b : Batch} {notes notes' : List Handover}
  {turn : Turn BatchWait Nat}

lemma Adds.refl (p : Publisher (Noted σ)) : p.Adds p [] := ⟨(List.append_nil _).symm, rfl⟩

lemma Adds.trans (h : p.Adds p' notes) (h' : p'.Adds p'' notes') : p.Adds p'' (notes ++ notes') :=
  ⟨by rw [h'.notes, h.notes, List.append_assoc], h'.batchSize.trans h.batchSize⟩

variable [EventSink σ]

lemma adds_handOver (p : Publisher (Noted σ)) (now : Nat) (event : OutboxEvent) :
    p.Adds { p with sink := (EventSink.handOver p.sink now ⟨p.topic, event⟩).1 }
      [.handed event] := ⟨rfl, rfl⟩

lemma adds_take (p : Publisher (Noted σ)) (now : Nat) (event : OutboxEvent) :
    p.Adds (p.take now event).1 [.answered event (p.take now event).2] := ⟨rfl, rfl⟩

/-- Events are handed over until one has to be waited for, or none is left. -/
lemma goes_deliver (p : Publisher (Noted σ)) (clock : Clock) (left : List OutboxEvent)
    (accepted : List EventId) :
    ∃ notes, p.Adds (p.deliver clock left accepted).1 notes ∧
      ((∃ b, (p.deliver clock left accepted).2 = .done b ∧ b.left = [] ∧
          Batch.Goes ⟨left, accepted⟩ notes b) ∨
        ∃ w, (p.deliver clock left accepted).2 = .waiting w ∧
          Batch.Goes ⟨left, accepted⟩ notes w.batch) := by
  induction left generalizing p accepted with
  | nil => exact ⟨[], .refl p, .inl ⟨_, rfl, rfl, .refl _⟩⟩
  | cons event left ih =>
      have hhand := p.adds_handOver clock.now event
      rw [deliver]
      dsimp only
      split
      · have htake := adds_take { p with
          sink := (EventSink.handOver p.sink clock.now ⟨p.topic, event⟩).1 } clock.now event
        obtain ⟨notes, hadds, hturn⟩ := ih _ _
        refine ⟨_, (hhand.trans htake).trans hadds, hturn.imp ?_ ?_⟩
        · rintro ⟨b, hdone, hleft, hgoes⟩
          exact ⟨b, hdone, hleft, .hand (.answer _ hgoes)⟩
        · rintro ⟨w, hwaits, hgoes⟩
          exact ⟨w, hwaits, .hand (.answer _ hgoes)⟩
      · exact ⟨_, hhand, .inr ⟨_, rfl, .hand (.refl _)⟩⟩

/-- Events are handed over, and if none is left the batch is finished. -/
lemma came_afterBatch (p : Publisher (Noted σ)) (clock : Clock) (s : Store) (b : Batch) :
    ∃ notes, p.Adds (afterBatch s (p.deliver clock b.left b.accepted)).1.1 notes ∧
      Came s b notes (afterBatch s (p.deliver clock b.left b.accepted)).1.2
        (afterBatch s (p.deliver clock b.left b.accepted)).2 := by
  obtain ⟨notes, hadds, hturn⟩ := p.goes_deliver clock b.left b.accepted
  refine ⟨notes, ?_⟩
  revert hadds hturn
  generalize p.deliver clock b.left b.accepted = result
  obtain ⟨p', turn⟩ := result
  rintro hadds (⟨b', rfl, hleft, hgoes⟩ | ⟨w, rfl, hgoes⟩)
  · exact ⟨hadds, .ends hgoes hleft⟩
  · exact ⟨hadds, .waits hgoes⟩

/-- A batch starts. -/
lemma came_startBatch (p : Publisher (Noted σ)) (clock : Clock) (s : Store) :
    ∃ notes, p.Adds (p.startBatch clock s).1.1 notes ∧
      Came s (Batch.start s p.batchSize) notes (p.startBatch clock s).1.2
        (p.startBatch clock s).2 :=
  p.came_afterBatch clock s (Batch.start s p.batchSize)

/-- A batch goes on. -/
lemma came_resumeBatch (p : Publisher (Noted σ)) (clock : Clock) (s : Store) (w : BatchWait) :
    ∃ notes, p.Adds (p.resumeBatch clock s w).1.1 notes ∧
      Came s w.batch notes (p.resumeBatch clock s w).1.2 (p.resumeBatch clock s w).2 := by
  obtain ⟨⟨left, accepted⟩, wait⟩ := w
  rw [resumeBatch]
  split
  · cases left with
    | nil => exact ⟨[], .refl p, .ends (.refl _) rfl⟩
    | cons event left =>
        obtain ⟨notes, hadds, hcame⟩ := came_afterBatch (p.take clock.now event).1 clock s
          (Batch.answer ⟨event :: left, accepted⟩ (p.take clock.now event).2)
        exact ⟨_, (p.adds_take clock.now event).trans hadds, hcame.answer⟩
  · exact ⟨[], .refl p, .waits (.refl _)⟩

end Publisher

/-! ### Turns of a loop -/

namespace Relay

/-- Batches start, go on and are finished, one after the other, and these notes are taken. -/
inductive Delivers : Store → Option Batch → List Handover → Store → Option Batch → Prop where
  | refl (s : Store) (b : Option Batch) : Delivers s b [] s b
  | start (s : Store) (size : Nat) : Delivers s none [] s (some (Batch.start s size))
  | goes {s : Store} {b b' : Batch} {notes : List Handover} (h : b.Goes notes b') :
      Delivers s (some b) notes s (some b')
  | finish {s : Store} {b : Batch} (hleft : b.left = []) :
      Delivers s (some b) [] (b.finish s).1 none
  | trans {s s' s'' : Store} {b b' b'' : Option Batch} {notes notes' : List Handover}
      (h : Delivers s b notes s' b') (h' : Delivers s' b' notes' s'' b'') :
      Delivers s b (notes ++ notes') s'' b''

/-- The batch that is under way after a turn. -/
def batchAfter : Turn BatchWait Nat → Option Batch
  | .waiting w => some w.batch
  | .done _ => none

lemma delivers_of_came {s s' : Store} {b : Batch} {notes : List Handover}
    {turn : Turn BatchWait Nat} (h : Publisher.Came s b notes s' turn) :
    Delivers s (some b) notes s' (batchAfter turn) := by
  cases h with
  | waits hgoes => exact .goes hgoes
  | ends hgoes hleft =>
      have h := (Delivers.goes (s := s) hgoes).trans (.finish hleft)
      rwa [List.append_nil] at h

/-- The batch of the loop. -/
def batch? (r : Relay σ) : Option Batch := r.batch.map (·.batch)

/-- The publisher of the loop, also after its end. -/
def publisherAfter : Turn (Relay σ) (Publisher σ) → Publisher σ
  | .waiting r => r.publisher
  | .done p => p

/-- The batch of the loop, none after its end. -/
def batchAfterTurn : Turn (Relay σ) (Publisher σ) → Option Batch
  | .waiting r => r.batch?
  | .done _ => none

/-- What a turn of a loop comes to, which starts with this publisher and this batch. -/
def Came (p : Publisher (Noted σ)) (s : Store) (b : Option Batch)
    (result : Store × Turn (Relay (Noted σ)) (Publisher (Noted σ))) : Prop :=
  ∃ notes, p.Adds (publisherAfter result.2) notes ∧
    Delivers s b notes result.1 (batchAfterTurn result.2)

/-- A loop that waits has come so far. -/
lemma came_waiting (r : Relay (Noted σ)) (s : Store) :
    Came r.publisher s r.batch? (s, .waiting r) := ⟨[], .refl _, .refl _ _⟩

/-- After a turn of its batch a loop has come as far as that. -/
lemma came_afterBatch {r : Relay (Noted σ)} {p : Publisher (Noted σ)} {s : Store}
    {b : Option Batch} {notes : List Handover}
    {turn : (Publisher (Noted σ) × Store) × Turn BatchWait Nat} (hadds : p.Adds turn.1.1 notes)
    (hdelivers : Delivers s b notes turn.1.2 (batchAfter turn.2)) :
    Came p s b (r.afterBatch turn) := by
  obtain ⟨⟨p', s'⟩, turn⟩ := turn
  cases turn with
  | waiting w => exact ⟨notes, hadds, hdelivers⟩
  | done count => exact ⟨notes, hadds, hdelivers⟩

variable [EventSink σ]

/-- A loop does one thing, whichever it picks. -/
lemma came_act (clock : Clock) (pick : Pick) (r : Relay (Noted σ)) (s : Store) :
    Came r.publisher s r.batch? (r.act clock pick s) := by
  rw [act]
  split
  · next w hw =>
    obtain ⟨notes, hadds, hcame⟩ := r.publisher.came_resumeBatch clock s w
    rw [batch?, hw]
    exact came_afterBatch hadds (delivers_of_came hcame)
  · next hw =>
    have hbatch : r.batch? = none := by rw [batch?, hw, Option.map_none]
    split
    · obtain ⟨notes, hadds, hcame⟩ := r.publisher.came_startBatch clock s
      rw [hbatch]
      exact came_afterBatch hadds ((Delivers.start s _).trans (delivers_of_came hcame))
    · split
      · exact came_waiting r s
      · split
        · rw [hbatch]
          exact ⟨[], .refl _, .refl _ _⟩
        · exact ⟨[], .refl _, .refl _ _⟩

/-- The loop goes on, one thing after the other. -/
theorem came_goOn (clock : Clock) (picks : List Pick) (r : Relay (Noted σ)) (s : Store) :
    Came r.publisher s r.batch? (goOn clock picks r s) := by
  induction picks generalizing r s with
  | nil => exact came_waiting r s
  | cons pick picks ih =>
      obtain ⟨notes, hadds, hdelivers⟩ := r.came_act clock pick s
      rw [goOn]
      revert hadds hdelivers
      generalize r.act clock pick s = result
      obtain ⟨s', turn⟩ := result
      intro hadds hdelivers
      cases turn with
      | waiting r' =>
          obtain ⟨notes', hadds', hdelivers'⟩ := ih r' s'
          exact ⟨_, hadds.trans hadds', hdelivers.trans hdelivers'⟩
      | done p => exact ⟨notes, hadds, hdelivers⟩

end Relay

end Teller
