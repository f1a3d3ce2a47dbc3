/-
Events that are never accepted do not hold up the others.

* `Store.pending`: the events that are still to be delivered; `Store.pending_markPublished`: what
  marks leave of them;
* `EventSink.Later`: what becomes of a sink that is handed events; `EventSink.Refuses`: a sink
  accepts all events but certain ones, however long it is asked;
* `Publisher.Finishes`: a batch is finished with this count; `Publisher.exists_finishes`: every
  batch is, if every answer comes at some time;
* `Publisher.Series`: batches are finished one after the other; `Publisher.exists_series`;
* `Publisher.Finishes.clears`: what one batch makes of the pending events;
  `Publisher.Series.exists_clears`: what several batches make of them;
* `Publisher.clears_series`: with fewer refused events than a batch has room for, enough batches
  deliver all the others, in their order.
-/
import Mathlib.Algebra.Order.Floor.Div
import Teller.Proofs.Relay.Accounting

namespace Teller

/-! ### Pending events -/

namespace Store

/-- The committed events that have not been delivered, in the order of their commits. -/
def pending (s : Store) : List OutboxEvent :=
  (s.outbox.filter fun row => !row.published).map (·.event)

variable {s : Store}

/-- A batch takes up the first of them. -/
lemma pendingEvents_eq_take (limit : ℕ) : s.pendingEvents limit = s.pending.take limit :=
  List.map_take

/-- Marked events are not pending any more, and all others are as they were. -/
lemma pending_markPublished (s : Store) (ids : List EventId) :
    (s.markPublished ids).pending = s.pending.filter fun event => !ids.contains event.id := by
  rw [pending, pending, markPublished]
  induction s.outbox with
  | nil => rfl
  | cons row rows ih =>
      by_cases hmem : row.event.id ∈ ids <;> by_cases hp : row.published = true <;>
        simpa [hmem, hp] using ih

end Store

/-! ### Sinks -/

namespace EventSink

variable {σ : Type} [EventSink σ] {sink sink' sink'' : σ} {refused : OutboxEvent → Bool}

/-- What a sink may have become after events have been handed over and answered. -/
inductive Later (sink : σ) : σ → Prop
  | refl : Later sink sink
  | handOver {sink' : σ} (now : ℕ) (d : Delivery) (h : Later sink sink') :
      Later sink (EventSink.handOver sink' now d).1
  | answer {sink' : σ} (now : ℕ) (d : Delivery) (h : Later sink sink') :
      Later sink (EventSink.answer sink' now d).1

lemma Later.trans (h : Later sink sink') (h' : Later sink' sink'') : Later sink sink'' := by
  induction h' with
  | refl => exact h
  | handOver now d _ ih => exact .handOver now d ih
  | answer now d _ ih => exact .answer now d ih

/-- From now on the sink accepts all events but the refused ones, and no answer is waited for for
ever. -/
structure Refuses (sink : σ) (refused : OutboxEvent → Bool) : Prop where
  accepts {sink' : σ} (h : Later sink sink') (now : ℕ) (d : Delivery) :
    (EventSink.answer sink' now d).2 = .accepted ↔ refused d.event = false
  answers {sink' : σ} (h : Later sink sink') (now : ℕ) (d : Delivery) :
    (EventSink.handOver sink' now d).2 ≠ .forever

lemma Refuses.later (h : Refuses sink refused) (hlater : Later sink sink') :
    Refuses sink' refused where
  accepts h' := h.accepts (hlater.trans h')
  answers h' := h.answers (hlater.trans h')

end EventSink

/-- A sink that answers at once, and refuses certain events. -/
structure Sieve where
  refused : OutboxEvent → Bool

instance : EventSink Sieve where
  handOver sink _ _ := (sink, .nothing)
  answer sink _ d := (sink, if sink.refused d.event then .rejected else .accepted)

/-- Whichever events are to be refused, there is a sink that does so. -/
lemma Sieve.refuses (sink : Sieve) : EventSink.Refuses sink sink.refused := by
  have hsame : ∀ sink', EventSink.Later sink sink' → sink' = sink := fun sink' h => by
    induction h with
    | refl => rfl
    | handOver _ _ _ ih => exact ih
    | answer _ _ _ ih => exact ih
  refine ⟨fun {sink'} h now d => ?_, fun _ _ _ => by simp [EventSink.handOver]⟩
  rw [hsame sink' h]
  show (if sink.refused d.event = true then SinkAnswer.rejected else .accepted) = .accepted ↔ _
  cases sink.refused d.event <;> simp

/-- Of an event that is answered the note says what the sink does. -/
def Handover.IsTrue (refused : OutboxEvent → Bool) : Handover → Prop
  | handed _ => True
  | answered event isAccepted => isAccepted = !refused event

namespace Noted

variable {σ : Type} [EventSink σ] {sink sink' : Noted σ} {refused : OutboxEvent → Bool}

/-- A sink with notes becomes what it would become without them. -/
lemma later_sink (h : EventSink.Later sink sink') : EventSink.Later sink.sink sink'.sink := by
  induction h with
  | refl => exact .refl
  | handOver now d _ ih => exact .handOver now d ih
  | answer now d _ ih => exact .answer now d ih

/-- Notes make no difference to what is refused. -/
lemma refuses (hsink : EventSink.Refuses sink.sink refused) : EventSink.Refuses sink refused where
  accepts h := hsink.accepts (later_sink h)
  answers h := hsink.answers (later_sink h)

/-- Later notes are about what the sink does. -/
lemma exists_notes (hsink : EventSink.Refuses sink.sink refused) (h : EventSink.Later sink sink') :
    ∃ notes, sink'.notes = sink.notes ++ notes ∧ ∀ note ∈ notes, note.IsTrue refused := by
  induction h with
  | refl => exact ⟨[], (List.append_nil _).symm, by simp⟩
  | @handOver sink' now d _ ih =>
      obtain ⟨notes, hnotes, htrue⟩ := ih
      refine ⟨notes ++ [.handed d.event], ?_, ?_⟩
      · rw [← List.append_assoc, ← hnotes]
        rfl
      · rw [List.forall_mem_append, List.forall_mem_singleton]
        exact ⟨htrue, trivial⟩
  | @answer sink' now d hlater ih =>
      obtain ⟨notes, hnotes, htrue⟩ := ih
      refine ⟨notes ++ [.answered d.event ((EventSink.answer sink'.sink now d).2 == .accepted)],
        ?_, ?_⟩
      · rw [← List.append_assoc, ← hnotes]
        rfl
      · rw [List.forall_mem_append, List.forall_mem_singleton]
        refine ⟨htrue, ?_⟩
        have haccepts := hsink.accepts (later_sink hlater) now d
        rw [Handover.IsTrue, Bool.eq_iff_iff, beq_iff_eq, haccepts, Bool.not_eq_true']

end Noted

/-! ### Batches -/

namespace Batch

variable {b b' b'' : Batch} {notes notes' : List Handover} {refused : OutboxEvent → Bool}

lemma Goes.trans (h : Goes b notes b') (h' : Goes b' notes' b'') :
    Goes b (notes ++ notes') b'' := by
  induction h with
  | refl => exact h'
  | hand _ ih => exact .hand (ih h')
  | answer isAccepted _ ih => exact .answer isAccepted (ih h')

/-- What is accepted of a batch is what is not refused of it. -/
lemma Goes.filter_eq (h : Goes b notes b') (htrue : ∀ note ∈ notes, note.IsTrue refused) :
    b.left.filter (fun event => !refused event)
      = notes.filterMap (·.accepted?) ++ b'.left.filter fun event => !refused event := by
  induction h with
  | refl => rfl
  | hand _ ih =>
      rw [List.forall_mem_cons] at htrue
      exact ih htrue.2
  | @answer event left accepted notes b isAccepted _ ih =>
      rw [List.forall_mem_cons] at htrue
      obtain ⟨rfl, hrest⟩ := htrue
      have hleft := ih hrest
      cases hevent : refused event <;>
        simpa [Batch.answer, Handover.accepted?, hevent] using hleft

/-- What a batch has had accepted is not pending any more when it is finished. -/
lemma pending_finish (b : Batch) (s : Store) :
    (b.finish s).1.pending = s.pending.filter fun event => !b.accepted.contains event.id := by
  rcases Relay.finish_cases b s with ⟨hnil, hsame⟩ | hmarked
  · rw [hsame, hnil]
    exact (List.filter_eq_self.mpr fun _ _ => rfl).symm
  · rw [hmarked, Store.pending_markPublished]

end Batch

namespace Publisher

variable {σ : Type}

/-- A turn of a batch leads to its end, with this publisher, this store and this count. Between two
turns the outbox stays as it is. -/
inductive Finishes [EventSink σ] :
    (Publisher σ × Store) × Turn BatchWait ℕ → Publisher σ → Store → ℕ → Prop
  | done {p : Publisher σ} {s : Store} {count : ℕ} : Finishes ((p, s), .done count) p s count
  | waiting {p p' : Publisher σ} {s s₁ s' : Store} {wait : BatchWait} {count : ℕ} (clock : Clock)
      (hsame : s₁.outbox = s.outbox) (h : Finishes (p.resumeBatch clock s₁ wait) p' s' count) :
      Finishes ((p, s), .waiting wait) p' s' count

/-- Batches are finished one after the other, with these counts. Between them the outbox stays as it
is. -/
inductive Series [EventSink σ] : Publisher σ → Store → List ℕ → Publisher σ → Store → Prop
  | nil {p : Publisher σ} {s : Store} : Series p s [] p s
  | cons {p p' p'' : Publisher σ} {s s₁ s' s'' : Store} {clock : Clock} {count : ℕ}
      {counts : List ℕ} (hsame : s₁.outbox = s.outbox)
      (h : Finishes (p.startBatch clock s₁) p' s' count) (hrest : Series p' s' counts p'' s'') :
      Series p s (count :: counts) p'' s''

section Later

variable [EventSink σ] {p p' : Publisher σ} {s s' : Store} {count : ℕ} {counts : List ℕ}
  {refused : OutboxEvent → Bool} {result : (Publisher σ × Store) × Turn BatchWait ℕ}

lemma later_take (p : Publisher σ) (now : ℕ) (event : OutboxEvent) :
    EventSink.Later p.sink (p.take now event).1.sink := .answer now _ .refl

lemma later_deliver (p : Publisher σ) (clock : Clock) (left : List OutboxEvent)
    (accepted : List EventId) : EventSink.Later p.sink (p.deliver clock left accepted).1.sink := by
  induction left generalizing p accepted with
  | nil => exact .refl
  | cons event left ih =>
      have hhand : EventSink.Later p.sink
          (EventSink.handOver p.sink clock.now ⟨p.topic, event⟩).1 := .handOver _ _ .refl
      rw [deliver]
      dsimp only
      split
      · exact (hhand.trans (later_take { p with
          sink := (EventSink.handOver p.sink clock.now ⟨p.topic, event⟩).1 } clock.now event)).trans
            (ih _ _)
      · exact hhand

omit [EventSink σ] in
lemma publisher_afterBatch (s : Store) (result : Publisher σ × Turn BatchWait Batch) :
    (afterBatch s result).1.1 = result.1 := by
  obtain ⟨p, turn⟩ := result
  cases turn <;> rfl

lemma later_startBatch (p : Publisher σ) (clock : Clock) (s : Store) :
    EventSink.Later p.sink (p.startBatch clock s).1.1.sink := by
  rw [startBatch, publisher_afterBatch]
  exact later_deliver p clock _ _

lemma later_resumeBatch (p : Publisher σ) (clock : Clock) (s : Store) (wait : BatchWait) :
    EventSink.Later p.sink (p.resumeBatch clock s wait).1.1.sink := by
  rw [resumeBatch]
  split
  · split
    · exact .refl
    · rw [publisher_afterBatch]
      exact (later_take p clock.now _).trans (later_deliver _ clock _ _)
  · exact .refl

lemma Finishes.later (h : Finishes result p' s' count) :
    EventSink.Later result.1.1.sink p'.sink := by
  induction h with
  | done => exact .refl
  | waiting _ _ _ ih => exact (later_resumeBatch _ _ _ _).trans ih

/-- A batch of events that are still to be handed over is finished. -/
lemma exists_finishes_deliver (hsink : EventSink.Refuses p.sink refused) (s : Store) (clock : Clock)
    (left : List OutboxEvent) (accepted : List EventId) :
    ∃ p' s' count, Finishes (afterBatch s (p.deliver clock left accepted)) p' s' count := by
  induction left generalizing p clock accepted with
  | nil => exact ⟨_, _, _, .done⟩
  | cons event left ih =>
      have hhand := hsink.later (.handOver clock.now ⟨p.topic, event⟩ .refl)
      have hsome := hsink.answers .refl clock.now ⟨p.topic, event⟩
      rw [deliver]
      dsimp only
      split
      · exact ih (hhand.later (.answer clock.now _ .refl)) clock _
      · -- the answer is there when its alarm has rung
        obtain ⟨clock', hover⟩ : ∃ clock' : Clock,
            (EventSink.handOver p.sink clock.now ⟨p.topic, event⟩).2.isOver clock' = true := by
          cases hwait : (EventSink.handOver p.sink clock.now ⟨p.topic, event⟩).2 with
          | nothing => exact ⟨clock, rfl⟩
          | alarm instant => exact ⟨.atRest instant, decide_eq_true le_rfl⟩
          | forever => exact absurd hwait hsome
        set handed : Publisher σ :=
          { p with sink := (EventSink.handOver p.sink clock.now ⟨p.topic, event⟩).1 }
        obtain ⟨p', s', count, hfinishes⟩ :=
          ih (hhand.later (later_take handed clock'.now event)) clock' _
        refine ⟨p', s', count, .waiting clock' rfl ?_⟩
        rw [resumeBatch, if_pos hover]
        exact hfinishes

/-- **Every batch is finished**, if every answer comes at some time. -/
theorem exists_finishes (hsink : EventSink.Refuses p.sink refused) (clock : Clock) (s : Store) :
    ∃ p' s' count, Finishes (p.startBatch clock s) p' s' count :=
  exists_finishes_deliver hsink s clock _ _

/-- So many batches are finished one after the other. -/
theorem exists_series (hsink : EventSink.Refuses p.sink refused) (s : Store) (n : ℕ) :
    ∃ counts p' s', counts.length = n ∧ Series p s counts p' s' := by
  induction n generalizing p s with
  | zero => exact ⟨[], p, s, rfl, .nil⟩
  | succ n ih =>
      obtain ⟨p', s', count, hfinishes⟩ := exists_finishes hsink (.atRest 0) s
      have hlater := (later_startBatch p (.atRest 0) s).trans hfinishes.later
      obtain ⟨counts, p'', s'', hlength, hseries⟩ := ih (hsink.later hlater) s'
      exact ⟨count :: counts, p'', s'', by rw [List.length_cons, hlength],
        .cons rfl hfinishes hseries⟩

end Later

/-! ### What batches clear -/

section Clears

variable [EventSink σ] {p p' : Publisher (Noted σ)} {s s₀ s' : Store} {count size : ℕ}
  {counts : List ℕ} {refused : OutboxEvent → Bool} {clock : Clock} {notes : List Handover}
  {b : Batch} {result : (Publisher (Noted σ) × Store) × Turn BatchWait ℕ}

/-- A batch that is finished has had all its events answered, and marks them in the outbox as it
was. -/
lemma Finishes.exists_goes (h : Finishes result p' s' count) (hadds : p.Adds result.1.1 notes)
    (hcame : Came s₀ b notes result.1.2 result.2) :
    ∃ b' notes' s₁, p.Adds p' notes' ∧ b.Goes notes' b' ∧ b'.left = [] ∧
      s₁.outbox = s₀.outbox ∧ s' = (b'.finish s₁).1 ∧ count = (b'.finish s₁).2 := by
  induction h generalizing p s₀ b notes with
  | done =>
      cases hcame with
      | ends hgoes hleft => exact ⟨_, notes, s₀, hadds, hgoes, hleft, rfl, rfl, rfl⟩
  | @waiting p₁ p' s s₁ s' wait count clock hsame _ ih =>
      cases hcame with
      | waits hgoes =>
          obtain ⟨notes', hadds', hcame'⟩ := p₁.came_resumeBatch clock s₁ wait
          obtain ⟨b', notes'', s₂, hadds'', hgoes', hleft, hsame', hs', hcount⟩ := ih hadds' hcame'
          exact ⟨b', notes ++ notes'', s₂, hadds.trans hadds'', hgoes.trans hgoes', hleft,
            hsame'.trans hsame, hs', hcount⟩

/-- What marking the events of a batch that are not refused leaves pending: its refused events stay
at the head. -/
lemma filter_not_contains_take {l : List OutboxEvent} (hids : (l.map (·.id)).Nodup) (size : ℕ) :
    (l.filter fun event =>
        !(((l.take size).filter fun event => !refused event).map (·.id)).contains event.id)
      = (l.take size).filter refused ++ l.drop size := by
  have hmem : ∀ event ∈ l,
      event.id ∈ ((l.take size).filter fun event => !refused event).map (·.id) ↔
        event ∈ l.take size ∧ refused event = false := by
    intro event he
    rw [List.mem_map]
    constructor
    · rintro ⟨event', he', heq⟩
      obtain ⟨htake, hnot⟩ := List.mem_filter.mp he'
      obtain rfl := List.inj_on_of_nodup_map hids (List.mem_of_mem_take htake) he heq
      exact ⟨htake, by simpa using hnot⟩
    · rintro ⟨htake, hnot⟩
      exact ⟨event, List.mem_filter.mpr ⟨htake, by simpa using hnot⟩, rfl⟩
  have hdisjoint : ∀ event ∈ l.drop size, event ∉ l.take size := fun event hdrop htake =>
    List.disjoint_take_drop hids.of_map le_rfl htake hdrop
  conv_lhs => rw [← List.take_append_drop size l, List.filter_append]
  rw [List.take_append_drop]
  congr 1
  · refine List.filter_congr fun event htake => ?_
    have := hmem event (List.mem_of_mem_take htake)
    cases hr : refused event <;> simp_all
  · refine List.filter_eq_self.mpr fun event hdrop => ?_
    have := hmem event (List.mem_of_mem_drop hdrop)
    simp_all

/-- A batch has room for so many events that are not refused. -/
lemma min_le_length_filter_take (refused : OutboxEvent → Bool) (l : List OutboxEvent) (size : ℕ) :
    min (l.filter fun event => !refused event).length (size - (l.filter refused).length)
      ≤ ((l.take size).filter fun event => !refused event).length := by
  have hall := List.length_eq_length_filter_add (l := l) refused
  have htake := List.length_eq_length_filter_add (l := l.take size) refused
  have hfewer := ((List.take_sublist size l).filter refused).length_le
  rw [List.length_take] at htake
  omega

/-- **One batch**: of its events those that are not refused are accepted, in their order, marked and
counted, and the refused ones stay at the head of the pending events. -/
theorem Finishes.clears (hsink : EventSink.Refuses p.sink.sink refused)
    (hids : (s.pending.map (·.id)).Nodup) (h : Finishes (p.startBatch clock s) p' s' count) :
    ∃ notes, p.Adds p' notes ∧
      notes.filterMap (·.accepted?)
        = (s.pending.take p.batchSize).filter (fun event => !refused event) ∧
      count = (notes.filterMap (·.accepted?)).length ∧
      s'.pending = (s.pending.take p.batchSize).filter refused ++ s.pending.drop p.batchSize := by
  obtain ⟨notes, hadds, hcame⟩ := p.came_startBatch clock s
  obtain ⟨b, notes', s₁, hadds', hgoes, hleft, hsame, hs', hcount⟩ := h.exists_goes hadds hcame
  obtain ⟨notes'', hnotes, htrue⟩ :=
    Noted.exists_notes hsink ((later_startBatch p clock s).trans h.later)
  obtain rfl : notes' = notes'' := List.append_cancel_left (hadds'.notes.symm.trans hnotes)
  -- a sink that refuses by event accepts just the others of those that were taken
  have hfilter : notes'.filterMap (·.accepted?)
      = (s.pending.take p.batchSize).filter fun event => !refused event := by
    have hall := hgoes.filter_eq htrue
    rw [hleft, List.filter_nil, List.append_nil] at hall
    rw [← hall, Batch.start, Store.pendingEvents_eq_take]
  have haccepted : b.accepted = (notes'.filterMap (·.accepted?)).map (·.id) := hgoes.accepted_eq
  have hpending : s₁.pending = s.pending := by rw [Store.pending, hsame, ← Store.pending]
  refine ⟨notes', hadds', hfilter, ?_, ?_⟩
  · rw [hcount, Batch.finish, haccepted, List.length_map]
  · rw [hs', Batch.pending_finish, hpending, haccepted, hfilter, filter_not_contains_take hids]

/-- What several batches clear. -/
structure Clears (p : Publisher (Noted σ)) (s : Store) (refused : OutboxEvent → Bool)
    (counts : List ℕ) (p' : Publisher (Noted σ)) (s' : Store) (notes : List Handover) : Prop where
  adds : p.Adds p' notes
  others : s.pending.filter (fun event => !refused event)
    = notes.filterMap (·.accepted?) ++ s'.pending.filter fun event => !refused event
  stay : s'.pending.filter refused = s.pending.filter refused
  sum : counts.sum = (notes.filterMap (·.accepted?)).length
  least : min (s.pending.filter fun event => !refused event).length
    (counts.length * (p.batchSize - (s.pending.filter refused).length)) ≤ counts.sum

/-- **Several batches**: together they deliver pending events that are not refused in their order,
each as many as it has room for beside the refused ones, which all stay. -/
theorem Series.exists_clears (hsink : EventSink.Refuses p.sink.sink refused)
    (hids : (s.pending.map (·.id)).Nodup) (h : Series p s counts p' s') :
    ∃ notes, Clears p s refused counts p' s' notes := by
  -- on the batches: the first of them clears its own, and the rest go on from what it leaves
  induction h with
  | @nil p s => exact ⟨[], .refl p, rfl, rfl, rfl, by simp⟩
  | @cons p p' p'' s s₁ s' s'' clock count counts hsame hfinishes _ ih =>
      have hpending : s₁.pending = s.pending := by rw [Store.pending, hsame, ← Store.pending]
      obtain ⟨notes, hadds, hnotes, hcount, hs'⟩ :=
        hfinishes.clears hsink (hpending ▸ hids)
      rw [hpending] at hnotes hs'
      have hsink' := hsink.later
        (Noted.later_sink ((later_startBatch p clock s₁).trans hfinishes.later))
      -- nothing comes to be pending, so identifiers are still apart
      have hsub : s'.pending.Sublist s.pending := by
        conv_rhs => rw [← List.take_append_drop p.batchSize s.pending]
        rw [hs']
        exact List.filter_sublist.append (List.Sublist.refl _)
      obtain ⟨notes', hclears⟩ := ih hsink' (hids.sublist (hsub.map _))
      have hstay : s'.pending.filter refused = s.pending.filter refused := by
        conv_rhs => rw [← List.take_append_drop p.batchSize s.pending]
        rw [hs', List.filter_append, List.filter_append, List.filter_filter]
        simp only [Bool.and_self]
      have hothers : s.pending.filter (fun event => !refused event)
          = notes.filterMap (·.accepted?) ++ s'.pending.filter fun event => !refused event := by
        conv_lhs => rw [← List.take_append_drop p.batchSize s.pending]
        rw [hs', hnotes, List.filter_append, List.filter_append, List.filter_filter]
        simp
      have hleast := min_le_length_filter_take refused s.pending p.batchSize
      refine ⟨notes ++ notes', hadds.trans hclears.adds, ?_, hclears.stay.trans hstay, ?_, ?_⟩
      · rw [hothers, hclears.others, List.filterMap_append, List.append_assoc]
      · rw [List.sum_cons, hcount, hclears.sum, List.filterMap_append, List.length_append]
      · have hrest := hclears.least
        rw [hstay, hadds.batchSize] at hrest
        rw [← hnotes, ← hcount] at hleast
        rw [List.sum_cons, List.length_cons, Nat.succ_mul, hothers, List.length_append] at *
        omega

end Clears

/-- **Refused events do not hold up the others**: a sink accepts all events but the refused ones, of
which fewer are pending than a batch has room for. Then batches can be finished one after the other
as often as one likes, and whenever there have been enough of them, all other events have been
delivered once and in their order, the counts add up to their number, and the refused events alone
are pending, in their order. -/
theorem clears_series [EventSink σ] {p : Publisher (Noted σ)} {s : Store}
    {refused : OutboxEvent → Bool} (hsink : EventSink.Refuses p.sink.sink refused)
    (hids : (s.pending.map (·.id)).Nodup)
    (hfew : (s.pending.filter refused).length < p.batchSize) :
    (∀ n, ∃ counts p' s', counts.length = n ∧ Series p s counts p' s') ∧
    ∀ counts p' s', Series p s counts p' s' →
      (s.pending.filter fun event => !refused event).length
          ⌈/⌉ (p.batchSize - (s.pending.filter refused).length) ≤ counts.length →
        (∃ notes, p'.sink.notes = p.sink.notes ++ notes ∧
          notes.filterMap (·.accepted?) = s.pending.filter fun event => !refused event) ∧
        counts.sum = (s.pending.filter fun event => !refused event).length ∧
        s'.pending = s.pending.filter refused := by
  refine ⟨exists_series (Noted.refuses hsink) s, fun counts p' s' hseries hmany => ?_⟩
  obtain ⟨notes, hclears⟩ := hseries.exists_clears hsink hids
  have hothers := hclears.others
  have hlength := congrArg List.length hothers
  have hleast := hclears.least
  rw [ceilDiv_le_iff_le_mul (by omega)] at hmany
  rw [List.length_append, ← hclears.sum] at hlength
  rw [Nat.mul_comm] at hleast
  -- enough room for all is used
  have hnone : s'.pending.filter (fun event => !refused event) = [] :=
    List.eq_nil_of_length_eq_zero (by omega)
  rw [hnone, List.append_nil] at hothers
  refine ⟨⟨notes, hclears.adds.notes, hothers.symm⟩, by rw [hclears.sum, hothers], ?_⟩
  rw [← hclears.stay, List.filter_eq_self.mpr]
  intro event hevent
  have := List.filter_eq_nil_iff.mp hnone event hevent
  simpa using this

/-- The first of three events is always refused; two batches of two events deliver the others. -/
theorem clears_series_of_three_events :
    let first : OutboxEvent := ⟨⟨.random 1⟩, .deposit, ⟨.random 0⟩, "", .ofEpochMillis 0⟩
    let second : OutboxEvent := ⟨⟨.random 2⟩, .withdraw, ⟨.random 0⟩, "", .ofEpochMillis 0⟩
    let third : OutboxEvent := ⟨⟨.random 3⟩, .deposit, ⟨.random 0⟩, "", .ofEpochMillis 0⟩
    let s : Store := { Store.empty Store.standardLockTimeout .fresh with
      outbox := [⟨first, false⟩, ⟨second, false⟩, ⟨third, false⟩] }
    let p : Publisher (Noted Sieve) := ⟨⟨⟨fun event => event.id = first.id⟩, []⟩, "events", 2⟩
    ∃ counts p' s', counts.length = 2 ∧ Series p s counts p' s' ∧
      p'.sink.notes.filterMap (·.accepted?) = [second, third] ∧ counts.sum = 2 ∧
      s'.pending = [first] := by
  intro first second third s p
  obtain ⟨hexists, hall⟩ := clears_series (p := p) (s := s) (Sieve.refuses _) (by decide +kernel)
    (by decide +kernel)
  obtain ⟨counts, p', s', hlength, hseries⟩ := hexists 2
  obtain ⟨⟨notes, hnotes, haccepted⟩, hsum, hpending⟩ :=
    hall counts p' s' hseries (by rw [hlength]; decide +kernel)
  refine ⟨counts, p', s', hlength, hseries, ?_, hsum.trans (by decide +kernel),
    hpending.trans (by decide +kernel)⟩
  rw [hnotes]
  exact haccepted.trans (by decide +kernel)

end Publisher

end Teller
