/-
Many reads of rates through one cache, in any order of their turns.

* `Reading`: names a read; `Board`: a cache and a clock, the reads that wait, and a log of what
  sources have been asked and have answered and of how reads have ended;
* `Board.Event`: a read starts, has a turn or is given up, all that is known is dropped, time
  passes, alarms ring, the source of rates changes; `Board.step` and `Board.run` follow any list of
  events;
* `Board.HasTurn`, `Board.Rests`: what one event comes to, a turn of a read or none;
* `Board.Ends`: each read ends once, and does not wait after that; `Board.Ends.run`.
-/
import Teller.Proofs.Rates.Consulting
import Teller.Proofs.Trace
import Teller.Table

namespace Teller

/-- Names a read: what it asks for, and which of the reads that ask for this it is. -/
structure Reading where
  query : RateQuery
  number : Nat
  deriving DecidableEq

/-- What is noted about a read. -/
inductive Board.Entry where
  /-- At an instant the source was asked for the read, or answered it. -/
  | noted (reading : Reading) (instant : Nat) (note : Consultation)
  | ended (reading : Reading) (instant : Nat)
      (result : Except RateError (Observed reading.query.Answer))

/-- A cache of rates and the reads through it. -/
structure Board (σ : Type) where
  cache : RateCache (Recorded σ)
  clock : Clock
  /-- The reads that wait. -/
  waiting : Table Reading Fetch
  /-- The reads so far. -/
  started : List Reading
  /-- What has been noted, the oldest entry first. -/
  log : List Board.Entry

/-- The client with a source that takes notes. -/
def RateClient.recorded {σ : Type} (c : RateClient σ) : RateClient (Recorded σ) :=
  ⟨⟨c.provider, []⟩, c.retry⟩

/-- What the source of a cache has noted since it was another. -/
def RateCache.notesSince {σ : Type} (c before : RateCache (Recorded σ)) : List Consultation :=
  c.client.provider.notes.drop before.client.provider.notes.length

namespace Board

variable {σ : Type}

/-- What can happen at a board. -/
inductive Event (σ : Type) where
  | start (reading : Reading)
  /-- A read that waits has a turn. -/
  | resume (reading : Reading)
  | abandon (reading : Reading)
  /-- All that is known is dropped. -/
  | invalidate
  | advance (millis : Nat)
  | ring
  /-- The source of rates changes by itself. -/
  | change (provider : σ)

/-- The read that an event is about. -/
def Event.reading? : Event σ → Option Reading
  | start r => some r
  | resume r => some r
  | abandon r => some r
  | _ => none

/-- A board that has just been set up, with nothing in its cache. -/
def fresh (clock : Clock) (client : RateClient σ) (ttl : Nat) : Board σ :=
  ⟨.empty client.recorded ttl, clock, .empty, [], []⟩

/-- A read that has ended is noted. -/
def noteEnd (r : Reading) (instant : Nat) :
    Turn Fetch (Except RateError (Observed r.query.Answer)) → List Entry
  | .waiting _ => []
  | .done result => [.ended r instant result]

/-- The reads that wait after a turn of one of them. -/
def waitingAfter (waiting : Table Reading Fetch) (r : Reading) :
    Turn Fetch (Except RateError (Observed r.query.Answer)) → Table Reading Fetch
  | .waiting fetch => waiting.insert r fetch
  | .done _ => waiting.erase r

/-- The board after a turn of a read. -/
def after (b : Board σ) (r : Reading)
    (turn : RateCache (Recorded σ) × Turn Fetch (Except RateError (Observed r.query.Answer))) :
    Board σ where
  cache := turn.1
  clock := b.clock
  waiting := waitingAfter b.waiting r turn.2
  started := b.started
  log := b.log ++ (turn.1.notesSince b.cache).map (.noted r b.clock.now)
    ++ noteEnd r b.clock.now turn.2

/-- The source of rates has changed. -/
def withProvider (b : Board σ) (provider : σ) : Board σ :=
  { b with cache := { b.cache with client := { b.cache.client with
      provider := { b.cache.client.provider with provider } } } }

section Steps

variable [RateProvider σ]

/-- What happens at a board. A read whose name is taken is passed over. -/
def step (b : Board σ) : Event σ → Board σ
  | .start r =>
    if r ∈ b.started then b
    else { b with started := b.started ++ [r] }.after r (b.cache.read b.clock r.query)
  | .resume r =>
    match b.waiting.get? r with
    | none => b
    | some fetch => b.after r (b.cache.resume b.clock r.query fetch)
  | .abandon r => { b with waiting := b.waiting.erase r }
  | .invalidate => { b with cache := b.cache.invalidate }
  | .advance millis => { b with clock := b.clock.advance millis }
  | .ring => { b with clock := b.clock.ring }
  | .change provider => b.withProvider provider

/-- All that happens at a board. -/
def run (b : Board σ) (events : List (Event σ)) : Board σ := events.foldl step b

lemma run_take_succ {b : Board σ} {events : List (Event σ)} {event : Event σ} {n : ℕ}
    (h : events[n]? = some event) :
    b.run (events.take (n + 1)) = (b.run (events.take n)).step event :=
  Trace.foldl_take_succ h

lemma run_take_succ_of_none {b : Board σ} {events : List (Event σ)} {n : ℕ}
    (h : events[n]? = none) : b.run (events.take (n + 1)) = b.run (events.take n) :=
  Trace.foldl_take_succ_of_none h

end Steps

/-! ### What one turn comes to -/

variable {b b' : Board σ} {r r' : Reading} {event : Event σ} {events : List (Event σ)}
  {notes : List Consultation} {n : ℕ}
  {turn : Turn Fetch (Except RateError (Observed r.query.Answer))}

/-- A read has had a turn, and this has been noted. -/
structure Turns (b : Board σ) (r : Reading) (notes : List Consultation)
    (turn : Turn Fetch (Except RateError (Observed r.query.Answer))) (b' : Board σ) : Prop where
  clock : b'.clock = b.clock
  log : b'.log = b.log ++ notes.map (.noted r b.clock.now) ++ noteEnd r b.clock.now turn
  waiting : b'.waiting = waitingAfter b.waiting r turn

/-- A new read is served from its slot. -/
structure Serves (b : Board σ) (r : Reading) (event : Event σ) (seen : Observed r.query.Answer)
    (b' : Board σ) : Prop where
  event_eq : event = .start r
  new : r ∉ b.started
  started : b'.started = b.started ++ [r]
  served : b.cache.served? b.clock.now r.query = some seen
  turns : b.Turns r [] (.done (.ok seen)) b'
  client : b'.cache.client = b.cache.client
  ttl : b'.cache.ttl = b.cache.ttl
  slot : b'.cache.slot = b.cache.slot

/-- No read has a turn. What is stored stays, or all is dropped. -/
structure Rests (b : Board σ) (event : Event σ) (b' : Board σ) : Prop where
  old {r : Reading} : event = .start r → r ∈ b.started
  log : b'.log = b.log
  started : b'.started = b.started
  ttl : b'.cache.ttl = b.cache.ttl
  retry : b'.cache.client.retry = b.cache.client.retry
  now_le : b.clock.now ≤ b'.clock.now
  slot : b'.cache.slot = b.cache.slot ∨ event = .invalidate ∧ ∀ q, b'.cache.slot q = none
  waiting {r : Reading} {fetch : Fetch} : b'.waiting.get? r = some fetch →
    b.waiting.get? r = some fetch

lemma turns_after (notes : List Consultation)
    {turn : RateCache (Recorded σ) × Turn Fetch (Except RateError (Observed r.query.Answer))}
    (hnotes : turn.1.client.provider.notes = b.cache.client.provider.notes ++ notes) :
    b.Turns r notes turn.2 (b.after r turn) where
  clock := rfl
  log := by rw [after, RateCache.notesSince, hnotes, List.drop_left]
  waiting := rfl

/-! ### Ends of reads -/

lemma mem_noteEnd {instant : ℕ} {entry : Entry} (h : entry ∈ noteEnd r instant turn) :
    ∃ result, turn = .done result ∧ entry = .ended r instant result := by
  cases turn with
  | waiting fetch => simp [noteEnd] at h
  | done result => exact ⟨result, rfl, List.mem_singleton.mp h⟩

/-- What a turn adds to the log, entry by entry. -/
lemma Turns.mem_log {entry : Entry} (h : b.Turns r notes turn b') : entry ∈ b'.log ↔
    entry ∈ b.log ∨ (∃ note ∈ notes, .noted r b.clock.now note = entry) ∨
      entry ∈ noteEnd r b.clock.now turn := by
  rw [h.log, List.mem_append, List.mem_append, List.mem_map, or_assoc]

/-- A read that ends in a turn has the end of that turn. -/
lemma Turns.mem_log_ended {t : ℕ} {result : Except RateError (Observed r'.query.Answer)}
    (h : b.Turns r notes turn b') : .ended r' t result ∈ b'.log ↔
      .ended r' t result ∈ b.log ∨ .ended r' t result ∈ noteEnd r b.clock.now turn := by
  rw [h.mem_log]
  refine or_congr_right ⟨fun h => h.resolve_left ?_, .inr⟩
  rintro ⟨note, -, heq⟩
  exact absurd heq (by simp)

/-- A turn of one read leaves all others where they wait. -/
lemma Turns.get?_waiting_of_ne (h : b.Turns r notes turn b') (hne : r' ≠ r) :
    b'.waiting.get? r' = b.waiting.get? r' := by
  rw [h.waiting]
  cases turn with
  | waiting fetch => exact (Table.get?_insert ..).trans (if_neg hne.symm)
  | done result => exact (Table.get?_erase ..).trans (if_neg hne.symm)

/-- The read whose turn it was waits where the turn left it, if it waits. -/
lemma Turns.get?_waiting (h : b.Turns r notes turn b') {fetch : Fetch} :
    b'.waiting.get? r = some fetch ↔ turn = .waiting fetch := by
  rw [h.waiting]
  cases turn with
  | waiting fetch' => simp [waitingAfter, Table.get?_insert]
  | done result => simp [waitingAfter, Table.get?_erase]

/-- Each read ends once, and does not wait after that. -/
structure Ends (b : Board σ) : Prop where
  waiting {r : Reading} {fetch : Fetch} : b.waiting.get? r = some fetch → r ∈ b.started
  ended {r : Reading} {t : ℕ} {result : Except RateError (Observed r.query.Answer)} :
    .ended r t result ∈ b.log → r ∈ b.started ∧ b.waiting.get? r = none
  unique {r : Reading} {t t' : ℕ}
      {result result' : Except RateError (Observed r.query.Answer)} :
    .ended r t result ∈ b.log → .ended r t' result' ∈ b.log → t = t' ∧ result = result'

lemma ends_fresh (clock : Clock) (client : RateClient σ) (ttl : ℕ) :
    (fresh clock client ttl).Ends where
  waiting := by simp [fresh]
  ended := by simp [fresh]
  unique := by simp [fresh]

/-- A turn of a read that has not ended leaves it ended at most once. -/
lemma Ends.turns (hb : b.Ends) (h : b.Turns r notes turn b') (hsub : b.started ⊆ b'.started)
    (hr : r ∈ b'.started)
    (hnot : ∀ (t : ℕ) (result : Except RateError (Observed r.query.Answer)),
      .ended r t result ∉ b.log) :
    b'.Ends where
  waiting {r' fetch} hw := by
    by_cases hne : r' = r
    · exact hne ▸ hr
    · rw [h.get?_waiting_of_ne hne] at hw
      exact hsub (hb.waiting hw)
  ended {r' t result} he := by
    rcases h.mem_log_ended.mp he with he | he
    · have hne : r' ≠ r := by
        rintro rfl
        exact hnot t result he
      rw [h.get?_waiting_of_ne hne]
      exact ⟨hsub (hb.ended he).1, (hb.ended he).2⟩
    · -- a read whose end is noted waits no longer
      obtain ⟨result', hturn, heq⟩ := mem_noteEnd he
      obtain ⟨rfl, -, -⟩ := Entry.ended.inj heq
      refine ⟨hr, Option.eq_none_iff_forall_ne_some.mpr fun fetch hw => ?_⟩
      rw [h.get?_waiting, hturn] at hw
      exact absurd hw (by simp)
  unique {r' t t' result result'} he he' := by
    -- an end noted before was not of this read, so that it ends once and not again
    rcases h.mem_log_ended.mp he with hold | hnew
    · rcases h.mem_log_ended.mp he' with hold' | hnew'
      · exact hb.unique hold hold'
      · obtain ⟨_, -, heq⟩ := mem_noteEnd hnew'
        obtain ⟨rfl, -, -⟩ := Entry.ended.inj heq
        exact absurd hold (hnot _ _)
    · obtain ⟨_, hturn, heq⟩ := mem_noteEnd hnew
      obtain ⟨rfl, rfl, hres⟩ := Entry.ended.inj heq
      obtain rfl := eq_of_heq hres
      rcases h.mem_log_ended.mp he' with hold' | hnew'
      · exact absurd hold' (hnot _ _)
      · obtain ⟨_, hturn', heq'⟩ := mem_noteEnd hnew'
        obtain ⟨-, rfl, hres'⟩ := Entry.ended.inj heq'
        obtain rfl := eq_of_heq hres'
        exact ⟨rfl, Turn.done.inj (hturn.symm.trans hturn')⟩

/-! ### What one event comes to -/

variable [RateProvider σ]

/-- A read starts or goes on with its fetch. -/
inductive Fetches (b : Board σ) (r : Reading) :
    Event σ → RateClient.Step (Recorded σ) r.query → Prop where
  | start (hnew : r ∉ b.started) (hmiss : b.cache.served? b.clock.now r.query = none) :
      Fetches b r (.start r) (b.cache.client.fetch b.clock r.query)
  | resume {fetch : Fetch} (hw : b.waiting.get? r = some fetch) :
      Fetches b r (.resume r) (b.cache.client.resume b.clock r.query fetch)

lemma Fetches.reading?_eq {step : RateClient.Step (Recorded σ) r.query}
    (h : b.Fetches r event step) :
    event.reading? = some r := by
  cases h <;> rfl

/-- In an event the call of a read that was not served has been answered like this. -/
def IsAnswered (b : Board σ) (event : Event σ) (r : Reading)
    (result : Except RateError r.query.Answer) : Prop :=
  ∃ client, b.Fetches r event (client, .done result)

/-- A read has a turn of its fetch. -/
structure HasTurn (b : Board σ) (r : Reading) (event : Event σ)
    (step : RateClient.Step (Recorded σ) r.query) (notes : List Consultation)
    (turn : Turn Fetch (Except RateError (Observed r.query.Answer))) (b' : Board σ) : Prop where
  fetches : b.Fetches r event step
  started : (event = .start r ∧ r ∉ b.started ∧ b'.started = b.started ++ [r]) ∨
    (event = .resume r ∧ (∃ fetch, b.waiting.get? r = some fetch) ∧ b'.started = b.started)
  turns : b.Turns r notes turn b'
  consults : b.cache.client.Consults r.query step notes
  follows : b.cache.Follows b.clock.now r.query step b'.cache turn

/-- A fetch that starts or goes on makes a turn of its read. -/
theorem Fetches.exists_turn {step : RateClient.Step (Recorded σ) r.query}
    (h : b.Fetches r event step) :
    ∃ notes turn, b.HasTurn r event step notes turn (b.step event) := by
  cases h with
  | start hnew hmiss =>
      obtain ⟨notes, hnotes⟩ := b.cache.client.consults_fetch b.clock r.query
      have hfollows := RateCache.follows_read hmiss
      rw [Board.step, if_neg hnew]
      refine ⟨notes, _, .start hnew hmiss, .inl ⟨rfl, hnew, rfl⟩, ⟨rfl, ?_, rfl⟩, hnotes, hfollows⟩
      exact (turns_after notes (hfollows.client ▸ hnotes.notes_eq)).log
  | @resume fetch hw =>
      obtain ⟨notes, hnotes⟩ := b.cache.client.consults_resume b.clock r.query fetch
      have hfollows := b.cache.follows_afterStep b.clock r.query
        (b.cache.client.resume b.clock r.query fetch)
      simp only [Board.step, hw]
      exact ⟨notes, _, .resume hw, .inr ⟨rfl, ⟨fetch, hw⟩, rfl⟩,
        turns_after notes (hfollows.client ▸ hnotes.notes_eq), hnotes, hfollows⟩

/-- A read is served, has a turn of its fetch, or no read has a turn. -/
theorem step_cases (b : Board σ) (event : Event σ) :
    b.Rests event (b.step event) ∨ (∃ r a, b.Serves r event a (b.step event)) ∨
      ∃ r step notes turn, b.HasTurn r event step notes turn (b.step event) := by
  cases event with
  | start r =>
      -- a read that was begun before does nothing; a new one is served, or it fetches
      by_cases hold : r ∈ b.started
      · rw [step, if_pos hold]
        exact .inl ⟨fun h => Event.start.inj h ▸ hold, rfl, rfl, rfl, rfl, le_rfl, .inl rfl, id⟩
      · cases hserved : b.cache.served? b.clock.now r.query with
        | some a =>
            rw [step, if_neg hold, RateCache.read_of_served hserved]
            refine .inr (.inl ⟨r, a, rfl, hold, rfl, hserved, ⟨rfl, ?_, rfl⟩, rfl, rfl, rfl⟩)
            exact (turns_after [] (List.append_nil _).symm).log
        | none => exact .inr (.inr ⟨r, _, (Fetches.start hold hserved).exists_turn⟩)
  | resume r =>
      cases hw : b.waiting.get? r with
      | none =>
          simp only [step, hw]
          exact .inl ⟨by simp, rfl, rfl, rfl, rfl, le_rfl, .inl rfl, id⟩
      | some fetch => exact .inr (.inr ⟨r, _, (Fetches.resume hw).exists_turn⟩)
  | abandon r =>
      refine .inl ⟨by simp, rfl, rfl, rfl, rfl, le_rfl, .inl rfl, fun {r' fetch} hw => ?_⟩
      rw [step, show Table.get? _ r' = _ from Table.get?_erase ..] at hw
      split at hw
      · simp at hw
      · exact hw
  | invalidate => exact .inl ⟨by simp, rfl, rfl, rfl, rfl, le_rfl, .inr ⟨rfl, fun _ => rfl⟩, id⟩
  | advance millis => exact .inl ⟨by simp, rfl, rfl, rfl, rfl, Nat.le_add_right _ _, .inl rfl, id⟩
  | ring => exact .inl ⟨by simp, rfl, rfl, rfl, rfl, le_rfl, .inl rfl, id⟩
  | change provider => exact .inl ⟨by simp, rfl, rfl, rfl, rfl, le_rfl, .inl rfl, id⟩

/-- Time does not go back. -/
lemma now_le_step (b : Board σ) (event : Event σ) : b.clock.now ≤ (b.step event).clock.now := by
  rcases b.step_cases event with h | ⟨r, a, h⟩ | ⟨r, step, notes, turn, h⟩
  · exact h.now_le
  · exact h.turns.clock ▸ le_rfl
  · exact h.turns.clock ▸ le_rfl

lemma ttl_step (b : Board σ) (event : Event σ) : (b.step event).cache.ttl = b.cache.ttl := by
  rcases b.step_cases event with h | ⟨r, a, h⟩ | ⟨r, step, notes, turn, h⟩
  · exact h.ttl
  · exact h.ttl
  · exact h.follows.ttl

lemma ttl_run (b : Board σ) (events : List (Event σ)) : (b.run events).cache.ttl = b.cache.ttl :=
  List.foldlRecOn (motive := fun b' => b'.cache.ttl = b.cache.ttl) events Board.step rfl
    fun _ h event _ => (ttl_step _ event).trans h

/-- Every event keeps the ends of reads. -/
theorem Ends.step (hb : b.Ends) (event : Event σ) : (b.step event).Ends := by
  rcases b.step_cases event with h | ⟨r, a, h⟩ | ⟨r, step, notes, turn, h⟩
  · refine ⟨fun hw => ?_, fun he => ?_, fun he he' => ?_⟩
    · exact h.started ▸ hb.waiting (h.waiting hw)
    · rw [h.log] at he
      refine ⟨h.started ▸ (hb.ended he).1, Option.eq_none_iff_forall_ne_some.mpr fun fetch hw => ?_⟩
      exact absurd ((hb.ended he).2.symm.trans (h.waiting hw)) (by simp)
    · rw [h.log] at he he'
      exact hb.unique he he'
  · exact hb.turns h.turns (by simp [h.started]) (by simp [h.started])
      fun t result he => h.new (hb.ended he).1
  · rcases h.started with ⟨-, hnew, hstarted⟩ | ⟨-, ⟨fetch, hw⟩, hstarted⟩
    · exact hb.turns h.turns (by simp [hstarted]) (by simp [hstarted])
        fun t result he => hnew (hb.ended he).1
    · refine hb.turns h.turns (by simp [hstarted]) (hstarted ▸ hb.waiting hw) fun t result he => ?_
      rw [(hb.ended he).2] at hw
      exact absurd hw (by simp)

/-- Every run keeps the ends of reads. -/
theorem Ends.run (hb : b.Ends) (events : List (Event σ)) : (b.run events).Ends :=
  List.foldlRecOn events Board.step hb fun _ hb event _ => hb.step event

end Board

end Teller
