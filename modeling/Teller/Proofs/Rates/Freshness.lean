/-
How old a rate may be that is read.

* `Board.HasHeard`: a good answer has been given by the source, and how long ago;
* `Board.IsSound`: what is stored has been answered, as long ago as its expiry says, and so has all
  that has been read; `Board.IsSound.run` says that every run keeps this;
* `Board.KeepsFresh`: no rate that is read is older than the span for which answers are served, and
  reads that fail are not covered up by what is stored;
* `Board.keepsFresh_run`: every run is like that.
-/
import Teller.Proofs.Rates.Board

namespace Teller.Board

variable {σ : Type} {b b' : Board σ} {r : Reading} {event : Event σ} {events : List (Event σ)}
  {notes : List Consultation} {n : ℕ}
  {turn : Turn Fetch (Except RateError (Observed r.query.Answer))}

/-- At an instant the source has given this answer, all of whose rates are above zero, and it was
observed then. -/
structure HasHeard (b : Board σ) (q : RateQuery) (seen : Observed q.Answer) (instant : ℕ) :
    Prop where
  isPositive : q.IsPositive seen.value
  observedAt : seen.observedAt = .ofEpochMillis instant
  noted : ∃ r, .noted r instant (.answered q (.ok seen.value)) ∈ b.log

lemma HasHeard.mono {q : RateQuery} {seen : Observed q.Answer} {t : ℕ} (h : b.HasHeard q seen t)
    (hlog : b.log ⊆ b'.log) : b'.HasHeard q seen t :=
  ⟨h.isPositive, h.observedAt, h.noted.imp fun _ hmem => hlog hmem⟩

/-- What is stored has been answered, as long ago as its expiry says; what has been read had been
answered, at that instant or not longer before it than answers are served. -/
structure IsSound (b : Board σ) : Prop where
  stored {q : RateQuery} {s : Slot q.Answer} : b.cache.slot q = some s →
    ∃ t₀ ≤ b.clock.now, b.HasHeard q s.answer t₀ ∧ s.expiresAt = t₀ + b.cache.ttl
  read {r : Reading} {t : ℕ} {seen : Observed r.query.Answer} : .ended r t (.ok seen) ∈ b.log →
    ∃ t₀ ≤ t, b.HasHeard r.query seen t₀ ∧ (t₀ = t ∨ t < t₀ + b.cache.ttl)

lemma isSound_fresh (clock : Clock) (client : RateClient σ) (ttl : ℕ) :
    (fresh clock client ttl).IsSound where
  stored := by simp [fresh, RateCache.empty]
  read := by simp [fresh]

/-- Where no read has a turn nothing is stored that was not before. -/
lemma IsSound.rests (hb : b.IsSound) (h : b.Rests event b') : b'.IsSound where
  stored {q s} hslot := by
    rcases h.slot with hsame | ⟨-, hnone⟩
    · rw [hsame] at hslot
      obtain ⟨t₀, hle, hheard, hexpires⟩ := hb.stored hslot
      exact ⟨t₀, hle.trans h.now_le, hheard.mono (by rw [h.log]; exact List.Subset.refl _),
        h.ttl ▸ hexpires⟩
    · rw [hnone] at hslot
      exact absurd hslot (by simp)
  read he := by
    rw [h.log] at he
    obtain ⟨t₀, hle, hheard, hrecent⟩ := hb.read he
    exact ⟨t₀, hle, hheard.mono (by rw [h.log]; exact List.Subset.refl _), h.ttl ▸ hrecent⟩

/-- A turn keeps what has been read, if this is so of what is stored and of what is read in it. -/
lemma IsSound.turns (hb : b.IsSound) (h : b.Turns r notes turn b')
    (httl : b'.cache.ttl = b.cache.ttl)
    (hstored : ∀ {q : RateQuery} {s : Slot q.Answer}, b'.cache.slot q = some s →
      b.cache.slot q = some s ∨
        b'.HasHeard q s.answer b.clock.now ∧ s.expiresAt = b.clock.now + b.cache.ttl)
    (hread : ∀ {seen}, turn = .done (.ok seen) → ∃ t₀ ≤ b.clock.now, b'.HasHeard r.query seen t₀ ∧
      (t₀ = b.clock.now ∨ b.clock.now < t₀ + b.cache.ttl)) : b'.IsSound := by
  have hlog : b.log ⊆ b'.log := fun entry hmem => h.mem_log.mpr (.inl hmem)
  refine ⟨fun {q s} hslot => ?_, fun {r' t a} he => ?_⟩
  · rw [h.clock, httl]
    rcases hstored hslot with hold | ⟨hheard, hexpires⟩
    · obtain ⟨t₀, hle, hheard, hexpires⟩ := hb.stored hold
      exact ⟨t₀, hle, hheard.mono hlog, hexpires⟩
    · exact ⟨b.clock.now, le_rfl, hheard, hexpires⟩
  · rw [httl]
    rcases h.mem_log_ended.mp he with hold | hnew
    · obtain ⟨t₀, hle, hheard, hrecent⟩ := hb.read hold
      exact ⟨t₀, hle, hheard.mono hlog, hrecent⟩
    · obtain ⟨result, hturn, heq⟩ := mem_noteEnd hnew
      obtain ⟨rfl, rfl, hresult⟩ := Entry.ended.inj heq
      exact hread (hturn.trans (congrArg _ (eq_of_heq hresult).symm))

variable [RateProvider σ]

/-- The answer with which a fetch ends well has been given in that turn. -/
lemma HasTurn.hasHeard {step : RateClient.Step (Recorded σ) r.query}
    (h : b.HasTurn r event step notes turn b') {seen : Observed r.query.Answer}
    (hturn : turn = .done (.ok seen)) : b'.HasHeard r.query seen b.clock.now := by
  have hdone := h.follows.turn_eq.symm.trans hturn
  split at hdone
  · simp at hdone
  · next result hresult =>
    obtain ⟨rfl, hpositive, hobserved⟩ := RateCache.eq_ok_of_verdict (Turn.done.inj hdone)
    exact ⟨hpositive, hobserved, r,
      h.turns.mem_log.mpr (.inr (.inl ⟨_, h.consults.answered hresult, rfl⟩))⟩

/-- Every event keeps what is stored and read recent. -/
theorem IsSound.step (hb : b.IsSound) (event : Event σ) : (b.step event).IsSound := by
  rcases b.step_cases event with h | ⟨r, a, h⟩ | ⟨r, step, notes, turn, h⟩
  · exact hb.rests h
  · refine hb.turns h.turns h.ttl (fun hslot => .inl (h.slot ▸ hslot)) fun {a'} hturn => ?_
    obtain rfl := Except.ok.inj (Turn.done.inj hturn)
    obtain ⟨s, hslot, hfresh, rfl⟩ := RateCache.served?_eq_some.mp h.served
    obtain ⟨t₀, hle, hheard, hexpires⟩ := hb.stored hslot
    refine ⟨t₀, hle, hheard.mono fun entry hmem => h.turns.mem_log.mpr (.inl hmem), .inr ?_⟩
    exact hexpires ▸ hfresh
  · refine hb.turns h.turns h.follows.ttl (fun {q s} hslot => ?_)
      fun hturn => ⟨_, le_rfl, h.hasHeard hturn, .inl rfl⟩
    by_cases hq : q = r.query
    · subst hq
      rw [h.follows.slot_self] at hslot
      rcases turn with fetch | (e | a)
      · exact .inl hslot
      · exact .inl hslot
      · obtain rfl := Option.some.inj hslot
        exact .inr ⟨h.hasHeard rfl, rfl⟩
    · exact .inl (h.follows.slot_of_ne hq ▸ hslot)

/-- Every run keeps what is stored and read recent. -/
theorem IsSound.run (hb : b.IsSound) (events : List (Event σ)) : (b.run events).IsSound :=
  List.foldlRecOn events Board.step hb fun _ hb event _ => hb.step event

/-! ### Reads that fail -/

/-- A turn changes a slot only when its read ends well. -/
lemma HasTurn.slot_eq {step : RateClient.Step (Recorded σ) r.query}
    (h : b.HasTurn r event step notes turn b') (hnot : ∀ a, turn ≠ .done (.ok a)) :
    b'.cache.slot = b.cache.slot := by
  funext q
  by_cases hq : q = r.query
  · subst hq
    rw [h.follows.slot_self]
    rcases turn with fetch | (e | a)
    · rfl
    · rfl
    · exact absurd rfl (hnot a)
  · exact h.follows.slot_of_ne hq

/-- A read whose call is answered badly ends in that event in an error. -/
lemma IsAnswered.ends {result : Except RateError r.query.Answer}
    (h : b.IsAnswered event r result) (hbad : ∀ a, result = .ok a → ¬ r.query.IsPositive a) :
    ∃ e, (b.step event).log.getLast? = some (.ended r b.clock.now (.error e)) := by
  obtain ⟨client, hfetches⟩ := h
  obtain ⟨notes, turn, hturn⟩ := hfetches.exists_turn
  have hverdict : turn = .done ((RateCache.verdict result).map (.ofEpochMillis b.clock.now)) :=
    hturn.follows.turn_eq
  cases hresult : RateCache.verdict result with
  | ok a =>
      obtain ⟨rfl, hpositive⟩ := RateCache.verdict_eq_ok hresult
      exact absurd hpositive (hbad a rfl)
  | error e =>
      refine ⟨e, ?_⟩
      rw [hturn.turns.log, hverdict, hresult, Except.map, noteEnd, List.getLast?_concat]

/-- A turn of a read that does not end well changes no slot. -/
lemma slot_step_eq (hread : event.reading? = some r)
    (hnot : ∀ t a, .ended r t (.ok a) ∉ (b.step event).log) :
    (b.step event).cache.slot = b.cache.slot := by
  rcases b.step_cases event with h | ⟨r', a, h⟩ | ⟨r', step, notes, turn, h⟩
  · rcases h.slot with hsame | ⟨rfl, -⟩
    · exact hsame
    · simp [Event.reading?] at hread
  · exact h.slot
  · obtain rfl := Option.some.inj (hread.symm.trans h.fetches.reading?_eq)
    refine h.slot_eq fun a hturn => hnot b.clock.now a (h.turns.mem_log.mpr (.inr (.inr ?_)))
    rw [hturn]
    exact List.mem_singleton_self _

/-- Logs only grow. -/
lemma log_prefix_step (b : Board σ) (event : Event σ) : b.log <+: (b.step event).log := by
  rcases b.step_cases event with h | ⟨r, a, h⟩ | ⟨r, step, notes, turn, h⟩
  · rw [h.log]
  · rw [h.turns.log, List.append_assoc]
    exact List.prefix_append _ _
  · rw [h.turns.log, List.append_assoc]
    exact List.prefix_append _ _

lemma log_prefix_run (b : Board σ) (events : List (Event σ)) : b.log <+: (b.run events).log :=
  List.foldlRecOn (motive := fun b' => b.log <+: b'.log) events Board.step (List.prefix_refl _)
    fun _ h event _ => h.trans (log_prefix_step _ event)

/-- What is noted in the first part of a run is noted at its end. -/
lemma mem_log_of_take {entry : Entry} (h : entry ∈ (b.run (events.take n)).log) :
    entry ∈ (b.run events).log := by
  have hrest := (b.run (events.take n)).log_prefix_run (events.drop n)
  rw [run, run, ← List.foldl_append, List.take_append_drop] at hrest
  exact hrest.subset h

/-- No rate that is read is older than the span for which answers are served, and reads that fail
are not covered up by what is stored. -/
structure KeepsFresh (b : Board σ) (events : List (Event σ)) : Prop where
  /-- What is read at an instant has only rates above zero, and the source has answered just this to
  the same question when it was observed, at that instant or not longer before it than answers are
  served. -/
  recent {r : Reading} {t : ℕ} {seen : Observed r.query.Answer} :
    .ended r t (.ok seen) ∈ (b.run events).log →
    r.query.IsPositive seen.value ∧ ∃ r' t₀,
      .noted r' t₀ (.answered r.query (.ok seen.value)) ∈ (b.run events).log ∧
      seen.observedAt = .ofEpochMillis t₀ ∧ t₀ ≤ t ∧ (t₀ = t ∨ t < t₀ + b.cache.ttl)
  /-- A read that is not served and whose call fails, or is answered with a rate that is not above
  zero, ends in an error then and there. -/
  refused {n : ℕ} {event : Event σ} {r : Reading} {result : Except RateError r.query.Answer} :
    events[n]? = some event → (b.run (events.take n)).IsAnswered event r result →
    (∀ a, result = .ok a → ¬ r.query.IsPositive a) →
    ∃ e, (b.run (events.take (n + 1))).log.getLast?
      = some (.ended r (b.run (events.take n)).clock.now (.error e))
  /-- A read that ends in an error, which it does once and for all, changes nothing that is stored,
  neither at its start nor in any other turn. -/
  untouched {r : Reading} {t : ℕ} {e : RateError} :
    .ended r t (.error e) ∈ (b.run events).log →
    (∀ t' a, .ended r t' (.ok a) ∉ (b.run events).log) ∧
      ∀ {n event}, events[n]? = some event → event.reading? = some r →
        (b.run (events.take (n + 1))).cache.slot = (b.run (events.take n)).cache.slot

/-- In every run rates are as fresh as that, whatever the source answers and when, whether its calls
are repeated or not, however reads overlap, and whatever is dropped or given up. -/
theorem keepsFresh_run (clock : Clock) (client : RateClient σ) (ttl : ℕ)
    (events : List (Event σ)) : (fresh clock client ttl).KeepsFresh events where
  recent {r t seen} hread := by
    obtain ⟨t₀, hle, ⟨hpositive, hobserved, r', hnoted⟩, hrecent⟩ :=
      ((isSound_fresh clock client ttl).run events).read hread
    exact ⟨hpositive, r', t₀, hnoted, hobserved, hle, ttl_run _ events ▸ hrecent⟩
  refused hget hanswered hbad := by
    rw [run_take_succ hget]
    exact hanswered.ends hbad
  untouched {r t e} herror := by
    have hnot : ∀ t' a, .ended r t' (.ok a) ∉ ((fresh clock client ttl).run events).log :=
      fun t' a hok =>
        absurd (((ends_fresh clock client ttl).run events).unique herror hok).2 (by simp)
    refine ⟨hnot, fun {n event} hget hreading => ?_⟩
    rw [run_take_succ hget]
    refine slot_step_eq hreading fun t' a hmem => hnot t' a ?_
    rw [← run_take_succ hget] at hmem
    exact mem_log_of_take hmem

end Teller.Board
