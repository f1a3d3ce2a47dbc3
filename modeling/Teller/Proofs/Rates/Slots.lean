/-
Every question has a slot of its own.

* `Board.asking`: what an event makes the source be asked; `IsSingle.filter_step` says that it is
  asked just that, if calls are not repeated;
* `Board.Alike`: two boards agree about a question; `Alike.run` says that they go on to do so if at
  one of them only this question is read.
-/
import Teller.Proofs.Rates.Board
import Teller.Proofs.Rates.Script

namespace Teller

/-! ### Two caches that agree about a question -/

namespace RateCache

/-- Two caches have the same slot for a question, and clients that agree about it. -/
structure Alike (q : RateQuery) (c c' : RateCache (Recorded Script)) : Prop where
  ttl : c.ttl = c'.ttl
  slot : c.slot q = c'.slot q
  client : c.client.Agrees q c'.client

/-- A read has had the same turn at two caches, in which the same has been noted. -/
structure Matches (q : RateQuery) (c c' : RateCache (Recorded Script))
    (read read' : RateCache (Recorded Script) × Turn Fetch (Except RateError (Observed q.Answer))) :
    Prop where
  turn : read.2 = read'.2
  alike : read.1.Alike q read'.1
  notes : read.1.notesSince c = read'.1.notesSince c'

variable {c c' : RateCache (Recorded Script)} {q other : RateQuery} {point : Fetch}

lemma Alike.served?_eq (h : c.Alike q c') (now : ℕ) : c.served? now q = c'.served? now q := by
  rw [served?, served?, h.slot]

lemma slotAfter_eq (httl : c.ttl = c'.ttl) (hslot : c.slot q = c'.slot q) (now : ℕ)
    (turn : Turn Fetch (Except RateError (Observed q.Answer))) :
    c.slotAfter now q turn = c'.slotAfter now q turn := by
  rcases turn with fetch | (e | a)
  · exact hslot
  · exact hslot
  · simp only [slotAfter, httl]

/-- What two caches make of the same turn of their clients. -/
lemma Matches.of_follows {step step' : RateClient.Step (Recorded Script) q} {now : ℕ}
    {turn turn' : RateCache (Recorded Script) × Turn Fetch (Except RateError (Observed q.Answer))}
    (h : c.Alike q c') (hm : c.client.Matches q c'.client step step')
    (hfollows : c.Follows now q step turn.1 turn.2)
    (hfollows' : c'.Follows now q step' turn'.1 turn'.2) : c.Matches q c' turn turn' := by
  have hturn : turn.2 = turn'.2 := by rw [hfollows.turn_eq, hfollows'.turn_eq, hm.turn]
  refine ⟨hturn, ⟨?_, ?_, ?_⟩, ?_⟩
  · rw [hfollows.ttl, hfollows'.ttl, h.ttl]
  · rw [hfollows.slot_self, hfollows'.slot_self, hturn, slotAfter_eq h.ttl h.slot]
  · rw [hfollows.client, hfollows'.client]
    exact hm.agrees
  · obtain ⟨notes, hnotes, hnotes'⟩ := hm.notes
    rw [notesSince, notesSince, hfollows.client, hfollows'.client, hnotes, hnotes', List.drop_left,
      List.drop_left]

/-- A turn for another question makes no difference. -/
lemma Alike.of_follows {step : RateClient.Step (Recorded Script) other} {now : ℕ}
    {turn : RateCache (Recorded Script) × Turn Fetch (Except RateError (Observed other.Answer))}
    (h : c.Alike q c') (hne : other ≠ q) (hstep : step.1.Agrees q c'.client)
    (hfollows : c.Follows now other step turn.1 turn.2) : turn.1.Alike q c' where
  ttl := hfollows.ttl.trans h.ttl
  slot := (hfollows.slot_of_ne hne.symm).trans h.slot
  client := hfollows.client ▸ hstep

/-- Two caches that agree about a question read it alike. -/
theorem Alike.read (h : c.Alike q c') (clock : Clock) :
    c.Matches q c' (c.read clock q) (c'.read clock q) := by
  cases hserved : c.served? clock.now q with
  | some a =>
      rw [read_of_served hserved, read_of_served (h.served?_eq clock.now ▸ hserved)]
      exact ⟨rfl, ⟨h.ttl, h.slot, h.client⟩, by simp [notesSince]⟩
  | none =>
      exact .of_follows h (h.client.fetch clock) (follows_read hserved)
        (follows_read (h.served?_eq clock.now ▸ hserved))

theorem Alike.resume (h : c.Alike q c') (clock : Clock) (hpoint : point.IsSingle) :
    c.Matches q c' (c.resume clock q point) (c'.resume clock q point) :=
  .of_follows h (h.client.resume clock hpoint) (follows_afterStep ..) (follows_afterStep ..)

/-- Reads of another question make no difference. -/
theorem Alike.read_of_ne (h : c.Alike q c') (clock : Clock) (hne : other ≠ q) :
    (c.read clock other).1.Alike q c' := by
  cases hserved : c.served? clock.now other with
  | some a =>
      rw [read_of_served hserved]
      exact ⟨h.ttl, h.slot, h.client⟩
  | none => exact h.of_follows hne (h.client.fetch_of_ne clock hne) (follows_read hserved)

theorem Alike.resume_of_ne (h : c.Alike q c') (clock : Clock) (hne : other ≠ q)
    (hpoint : point.IsSingle) : (c.resume clock other point).1.Alike q c' :=
  h.of_follows hne (h.client.resume_of_ne clock hpoint) (follows_afterStep ..)

end RateCache

namespace Board

/-! ### Calls that are not repeated -/

section Asking

variable {σ : Type} {b b' : Board σ} {r : Reading} {event : Event σ} {notes : List Consultation}
  {turn : Turn Fetch (Except RateError (Observed r.query.Answer))}

/-- The client of a board does not repeat its calls. -/
structure IsSingle (b : Board σ) : Prop where
  retry : b.cache.client.retry = none
  waiting {r : Reading} {fetch : Fetch} : b.waiting.get? r = some fetch → fetch.IsSingle

lemma isSingle_fresh (clock : Clock) (provider : σ) (ttl : ℕ) :
    (fresh clock ⟨provider, none⟩ ttl).IsSingle where
  retry := rfl
  waiting := by simp [fresh]

/-- It is noted that a source is asked. -/
def Entry.isAsked : Entry → Bool
  | noted _ _ note => note.isAsked
  | ended .. => false

/-- What a turn adds to what has been asked. -/
lemma Turns.filter_log (h : b.Turns r notes turn b') :
    b'.log.filter (·.isAsked)
      = b.log.filter (·.isAsked) ++ (notes.filter (·.isAsked)).map (.noted r b.clock.now) := by
  have hend : (noteEnd r b.clock.now turn).filter (·.isAsked) = [] := by
    cases turn <;> rfl
  rw [h.log, List.filter_append, List.filter_append, hend, List.append_nil, List.filter_map]
  rfl

/-- What an event makes the source be asked: a new read that is not served asks. -/
def asking (b : Board σ) : Event σ → List Entry
  | .start r =>
    if r ∈ b.started ∨ (b.cache.served? b.clock.now r.query).isSome then []
    else [.noted r b.clock.now (.asked r.query)]
  | _ => []

/-- Where no read has a turn nobody is asked. -/
lemma Rests.asking_eq (h : b.Rests event b') : b.asking event = [] := by
  cases event with
  | start r => exact if_pos (.inl (h.old rfl))
  | _ => rfl

variable [RateProvider σ]

/-- Every event keeps this. -/
theorem IsSingle.step (hb : b.IsSingle) (event : Event σ) : (b.step event).IsSingle := by
  rcases b.step_cases event with h | ⟨r, a, h⟩ | ⟨r, step, notes, turn, h⟩
  · exact ⟨h.retry.trans hb.retry, fun hw => hb.waiting (h.waiting hw)⟩
  · refine ⟨(congrArg _ h.client).trans hb.retry, fun {r' fetch} hw => ?_⟩
    by_cases hne : r' = r
    · subst hne
      exact absurd (h.turns.get?_waiting.mp hw) (by simp)
    · exact hb.waiting (h.turns.get?_waiting_of_ne hne ▸ hw)
  · refine ⟨h.follows.client ▸ h.consults.retry.trans hb.retry, fun {r' fetch} hw => ?_⟩
    by_cases hne : r' = r
    · subst hne
      have hwaiting : step.2 = .waiting fetch := by
        have hturn := h.follows.turn_eq.symm.trans (h.turns.get?_waiting.mp hw)
        split at hturn
        · next heq => exact heq.trans (congrArg _ (Turn.waiting.inj hturn))
        · simp at hturn
      cases h.fetches with
      | start => exact RateClient.isSingle_of_fetch hb.retry hwaiting
      | resume hold => exact RateClient.isSingle_of_resume hb.retry (hb.waiting hold) hwaiting
    · exact hb.waiting (h.turns.get?_waiting_of_ne hne ▸ hw)

/-- A turn of a fetch asks if it is the first. -/
lemma HasTurn.filter_log {step : RateClient.Step (Recorded σ) r.query} (hb : b.IsSingle)
    (h : b.HasTurn r event step notes turn b') :
    b'.log.filter (·.isAsked) = b.log.filter (·.isAsked) ++ b.asking event := by
  rw [h.turns.filter_log]
  have hnotes := congrArg (List.filter (·.isAsked)) h.consults.notes_eq
  rw [List.filter_append] at hnotes
  cases h.fetches with
  | start hnew hmiss =>
      rw [RateClient.filter_fetch hb.retry] at hnotes
      rw [← List.append_cancel_left hnotes, asking, if_neg (by simp [hnew, hmiss])]
      rfl
  | resume hw =>
      rw [RateClient.filter_resume hb.retry _ _ (hb.waiting hw)] at hnotes
      rw [List.self_eq_append_right.mp hnotes]
      rfl

/-- Sources are asked for new reads that are not served, once, and for nothing else. -/
theorem IsSingle.filter_step (hb : b.IsSingle) (event : Event σ) :
    (b.step event).log.filter (·.isAsked) = b.log.filter (·.isAsked) ++ b.asking event := by
  rcases b.step_cases event with h | ⟨r, a, h⟩ | ⟨r, step, notes, turn, h⟩
  · rw [h.log, h.asking_eq, List.append_nil]
  · rw [h.turns.filter_log, h.event_eq, asking, if_pos (.inr (by simp [h.served]))]
    rfl
  · exact h.filter_log hb

/-- Every run keeps this. -/
lemma IsSingle.run (hb : b.IsSingle) (events : List (Event σ)) : (b.run events).IsSingle :=
  List.foldlRecOn events Board.step hb fun _ hb event _ => hb.step event

end Asking

/-! ### Two boards that agree about a question -/

/-- An event is about a read of this question, or about no read. -/
def Event.concerns {σ : Type} (q : RateQuery) (event : Event σ) : Bool :=
  event.reading?.all fun r => r.query = q

/-- The question that an entry is about. -/
def Entry.query : Entry → RateQuery
  | noted r _ _ => r.query
  | ended r _ _ => r.query

/-- Two boards agree about a question; at the second nothing else has been read. -/
structure Alike (q : RateQuery) (b b' : Board Script) : Prop where
  cache : b.cache.Alike q b'.cache
  clock : b.clock = b'.clock
  started {i : ℕ} : ⟨q, i⟩ ∈ b.started ↔ ⟨q, i⟩ ∈ b'.started
  waiting {i : ℕ} : b.waiting.get? ⟨q, i⟩ = b'.waiting.get? ⟨q, i⟩
  log : b.log.filter (·.query = q) = b'.log

section Alike

variable {q : RateQuery} {b b' : Board Script} {i : ℕ} {r : Reading}

lemma alike_fresh (clock : Clock) (script : Script) (ttl : ℕ) (q : RateQuery) :
    (fresh clock ⟨script, none⟩ ttl).Alike q (fresh clock ⟨script, none⟩ ttl) where
  cache := ⟨rfl, rfl, rfl, rfl, rfl, rfl, rfl⟩
  clock := rfl
  started := .rfl
  waiting := rfl
  log := rfl

/-- What a turn of a read adds to the log is about its question. -/
lemma filter_added {notes : List Consultation} {instant : ℕ}
    {turn : Turn Fetch (Except RateError (Observed r.query.Answer))} :
    (notes.map (Entry.noted r instant) ++ noteEnd r instant turn).filter (·.query = q)
      = if r.query = q then notes.map (Entry.noted r instant) ++ noteEnd r instant turn
        else [] := by
  have hquery : ∀ entry ∈ notes.map (Entry.noted r instant) ++ noteEnd r instant turn,
      entry.query = r.query := by
    intro entry hmem
    rcases List.mem_append.mp hmem with hmem | hmem
    · obtain ⟨note, -, rfl⟩ := List.mem_map.mp hmem
      rfl
    · obtain ⟨result, -, rfl⟩ := mem_noteEnd hmem
      rfl
  split
  · next heq => exact List.filter_eq_self.mpr fun entry hmem => by simp [hquery entry hmem, heq]
  · next hne => exact List.filter_eq_nil_iff.mpr fun entry hmem => by simp [hquery entry hmem, hne]

/-- The same turn for the question at both boards. -/
lemma Alike.after
    {read read' : RateCache (Recorded Script) × Turn Fetch (Except RateError (Observed q.Answer))}
    (h : b.Alike q b') (hread : b.cache.Matches q b'.cache read read') :
    (b.after ⟨q, i⟩ read).Alike q (b'.after ⟨q, i⟩ read') where
  cache := hread.alike
  clock := h.clock
  started := h.started
  waiting {j} := by
    simp only [Board.after, waitingAfter, hread.turn]
    cases read'.2 <;> simp only [Table.get?_insert, Table.get?_erase, h.waiting]
  log := by
    simp only [Board.after, hread.turn, hread.notes, List.append_assoc, h.clock]
    rw [List.filter_append, h.log, filter_added, if_pos rfl]

/-- A turn for another question at the first. -/
lemma Alike.after_of_ne
    {read : RateCache (Recorded Script) × Turn Fetch (Except RateError (Observed r.query.Answer))}
    (h : b.Alike q b') (hne : r.query ≠ q) (hread : read.1.Alike q b'.cache) :
    (b.after r read).Alike q b' where
  cache := hread
  clock := h.clock
  started := h.started
  waiting {j} := by
    have hr : r ≠ ⟨q, j⟩ := fun heq => hne (heq ▸ rfl)
    simp only [Board.after, waitingAfter]
    cases read.2 <;> simp only [Table.get?_insert, Table.get?_erase, if_neg hr, h.waiting]
  log := by
    simp only [Board.after, List.append_assoc]
    rw [List.filter_append, h.log, filter_added, if_neg hne, List.append_nil]

/-- One more read has been started at both boards. -/
lemma Alike.start (h : b.Alike q b') (i : ℕ) :
    Alike q { b with started := b.started ++ [⟨q, i⟩] }
      { b' with started := b'.started ++ [⟨q, i⟩] } :=
  ⟨h.cache, h.clock, by simp [h.started], h.waiting, h.log⟩

/-- Or one of another question at the first. -/
lemma Alike.start_of_ne (h : b.Alike q b') (hne : r.query ≠ q) :
    Alike q { b with started := b.started ++ [r] } b' where
  cache := h.cache
  clock := h.clock
  started {i} := by
    have hr : ⟨q, i⟩ ≠ r := fun heq => hne (heq ▸ rfl)
    simp [h.started, hr]
  waiting := h.waiting
  log := h.log

/-- Two boards go on to agree if the same happens to the question at both. -/
theorem Alike.step (hb : b.IsSingle) (h : b.Alike q b') {event : Event Script}
    (hevent : event.concerns q) : (b.step event).Alike q (b'.step event) := by
  cases event with
  | start r =>
      obtain ⟨query, i⟩ := r
      obtain rfl : query = q := by simpa [Event.concerns, Event.reading?] using hevent
      by_cases hold : ⟨query, i⟩ ∈ b.started
      · simpa only [Board.step, if_pos hold, if_pos (h.started.mp hold)] using h
      · have hnew : ⟨query, i⟩ ∉ b'.started := h.started.not.mp hold
        rw [Board.step, Board.step, if_neg hold, if_neg hnew]
        exact (h.start i).after (h.clock ▸ h.cache.read b.clock)
  | resume r =>
      obtain ⟨query, i⟩ := r
      obtain rfl : query = q := by simpa [Event.concerns, Event.reading?] using hevent
      simp only [Board.step, ← h.waiting, ← h.clock]
      split
      · exact h
      · next fetch hw => exact h.after (h.cache.resume b.clock (hb.waiting hw))
  | abandon r =>
      refine ⟨h.cache, h.clock, h.started, fun {j} => ?_, h.log⟩
      simp only [Board.step, Table.get?_erase, h.waiting]
  | invalidate => exact ⟨⟨h.cache.ttl, rfl, h.cache.client⟩, h.clock, h.started, h.waiting, h.log⟩
  | advance millis =>
      exact ⟨h.cache, congrArg (·.advance millis) h.clock, h.started, h.waiting, h.log⟩
  | ring => exact ⟨h.cache, congrArg Clock.ring h.clock, h.started, h.waiting, h.log⟩
  | change script =>
      have hclient := h.cache.client
      exact ⟨⟨h.cache.ttl, h.cache.slot, hclient.retry, hclient.retry', rfl, rfl, rfl⟩, h.clock,
        h.started, h.waiting, h.log⟩

/-- It makes no difference what happens to other questions at one of them. -/
theorem Alike.step_of_ne (hb : b.IsSingle) (h : b.Alike q b') {event : Event Script}
    (hevent : ¬ event.concerns q) : (b.step event).Alike q b' := by
  cases event with
  | start r =>
      have hne : r.query ≠ q := by simpa [Event.concerns, Event.reading?] using hevent
      rw [Board.step]
      split
      · exact h
      · exact (h.start_of_ne hne).after_of_ne hne (h.cache.read_of_ne b.clock hne)
  | resume r =>
      have hne : r.query ≠ q := by simpa [Event.concerns, Event.reading?] using hevent
      rw [Board.step]
      split
      · exact h
      · next fetch hw =>
        exact h.after_of_ne hne (h.cache.resume_of_ne b.clock hne (hb.waiting hw))
  | abandon r =>
      have hne : r.query ≠ q := by simpa [Event.concerns, Event.reading?] using hevent
      refine ⟨h.cache, h.clock, h.started, fun {j} => ?_, h.log⟩
      have hr : r ≠ ⟨q, j⟩ := fun heq => hne (heq ▸ rfl)
      simp only [Board.step, Table.get?_erase, if_neg hr, h.waiting]
  | _ => simp [Event.concerns, Event.reading?] at hevent

/-- A run of one board and the run of the other without the reads of other questions. -/
theorem Alike.run (hb : b.IsSingle) (h : b.Alike q b') (events : List (Event Script)) :
    (b.run events).Alike q (b'.run (events.filter (·.concerns q))) := by
  induction events generalizing b b' with
  | nil => exact h
  | cons event events ih =>
      rw [List.filter_cons]
      split
      · next hevent => exact ih (hb.step event) (h.step hb hevent)
      · next hevent => exact ih (hb.step event) (h.step_of_ne hb hevent)

end Alike

end Board

end Teller
