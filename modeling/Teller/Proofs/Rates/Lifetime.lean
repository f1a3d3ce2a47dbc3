/-
How long an answer is served, where reads do not overlap.

* `Board.IsSequential`: no read starts while another waits;
* `Board.Accepts`: a good answer comes to a read that was not served;
* `Board.Holds`: an answer is stored until an instant, and no read waits that could replace it;
  `Holds.run` says that it is kept until then, if what is known is not dropped;
* `Board.KeepsSlots`: each question has a slot of its own, and an answer is served from it for just
  as long as it should be; `Board.keepsSlots_run` says that every run is like that.
-/
import Teller.Proofs.Rates.Slots

namespace Teller.Board

section Lifetime

variable {σ : Type} {b b' : Board σ} {r : Reading} {event : Event σ} {events : List (Event σ)}
  {q : RateQuery} {a : q.Answer} {seen : Observed q.Answer} {limit m n : ℕ}

/-- A read that starts does so while no other waits. -/
def Admits (b : Board σ) (event : Event σ) : Prop :=
  ∀ r, event = .start r → r ∉ b.started → ∀ other, b.waiting.get? other = none

/-- At most one read waits. -/
def IsQuiet (b : Board σ) : Prop :=
  ∀ ⦃r r' fetch fetch'⦄, b.waiting.get? r = some fetch → b.waiting.get? r' = some fetch' → r = r'

lemma isQuiet_fresh (clock : Clock) (client : RateClient σ) (ttl : ℕ) :
    (fresh clock client ttl).IsQuiet :=
  fun _ _ _ _ hw => by simp [fresh] at hw

/-- An answer is stored until an instant, and no read waits that could replace it. -/
structure Holds (b : Board σ) (q : RateQuery) (seen : Observed q.Answer) (limit : ℕ) : Prop where
  slot : b.cache.slot q = some ⟨seen, limit⟩
  idle (i : ℕ) : b.waiting.get? ⟨q, i⟩ = none

/-- What is held is served until its instant. -/
lemma Holds.served?_eq (h : b.Holds q seen limit) (hnow : b.clock.now < limit) :
    b.cache.served? b.clock.now q = some seen :=
  RateCache.served?_eq_some.mpr ⟨_, h.slot, hnow, rfl⟩

variable [RateProvider σ]

/-- No read starts while another waits. -/
def IsSequential (b : Board σ) : List (Event σ) → Prop
  | [] => True
  | event :: events => b.Admits event ∧ (b.step event).IsSequential events

lemma IsSequential.admits (h : b.IsSequential events) (hget : events[n]? = some event) :
    (b.run (events.take n)).Admits event := by
  induction events generalizing b n with
  | nil => simp at hget
  | cons first events ih =>
      cases n with
      | zero =>
          obtain rfl := Option.some.inj hget
          exact h.1
      | succ n => exact ih h.2 hget

/-- After a turn of a read that is admitted no other waits. -/
lemma HasTurn.get?_waiting {step : RateClient.Step (Recorded σ) r.query} {notes : List Consultation}
    {turn : Turn Fetch (Except RateError (Observed r.query.Answer))} (hb : b.IsQuiet)
    (hadmits : b.Admits event)
    (h : b.HasTurn r event step notes turn b') {other : Reading} (hne : other ≠ r) :
    b'.waiting.get? other = none := by
  rw [h.turns.get?_waiting_of_ne hne]
  rcases h.started with ⟨hevent, hnew, -⟩ | ⟨-, ⟨fetch, hw⟩, -⟩
  · exact hadmits r hevent hnew other
  · exact Option.eq_none_iff_forall_ne_some.mpr fun fetch' hw' => hne (hb hw' hw)

/-- Where reads do not overlap at most one waits. -/
lemma IsQuiet.step (hb : b.IsQuiet) (hadmits : b.Admits event) : (b.step event).IsQuiet := by
  intro r r' fetch fetch' hw hw'
  rcases b.step_cases event with h | ⟨first, a, h⟩ | ⟨first, step, notes, turn, h⟩
  · exact hb (h.waiting hw) (h.waiting hw')
  · have hold : ∀ {r fetch}, (b.step event).waiting.get? r = some fetch →
        b.waiting.get? r = some fetch := fun {r fetch} hw => by
      rwa [h.turns.get?_waiting_of_ne] at hw
      rintro rfl
      exact absurd (h.turns.get?_waiting.mp hw) (by simp)
    exact hb (hold hw) (hold hw')
  · have honly : ∀ {r fetch}, (b.step event).waiting.get? r = some fetch → r = first :=
      fun {r fetch} hw => by_contra fun hne => by simp [h.get?_waiting hb hadmits hne] at hw
    exact (honly hw).trans (honly hw').symm

lemma IsSequential.isQuiet (h : b.IsSequential events) (hb : b.IsQuiet) (n : ℕ) :
    (b.run (events.take n)).IsQuiet := by
  induction n with
  | zero => exact hb
  | succ n ih =>
      cases hget : events[n]? with
      | none => rwa [run_take_succ_of_none hget]
      | some event =>
          rw [run_take_succ hget]
          exact ih.step (h.admits hget)

/-! ### What is stored, and for how long -/

/-- In an event a read that was not served gets an answer all of whose rates are above zero. -/
def Accepts (b : Board σ) (event : Event σ) (q : RateQuery) (a : q.Answer) : Prop :=
  q.IsPositive a ∧ ∃ i, b.IsAnswered event ⟨q, i⟩ (.ok a)

/-- An accepted answer is stored for its span, as observed then, and no other read of its question
waits. -/
lemma Accepts.holds (hb : b.IsQuiet) (hadmits : b.Admits event) (h : b.Accepts event q a) :
    (b.step event).Holds q (.ofEpochMillis b.clock.now a) (b.clock.now + b.cache.ttl) := by
  obtain ⟨hpositive, i, client, hfetches⟩ := h
  obtain ⟨notes, turn, hturn⟩ := hfetches.exists_turn
  have hverdict := RateCache.verdict_of_isPositive hpositive
  obtain rfl : turn = .done (.ok (.ofEpochMillis b.clock.now a)) :=
    hturn.follows.turn_eq.trans
      (congrArg (fun v => Turn.done (v.map (Observed.ofEpochMillis b.clock.now))) hverdict)
  refine ⟨hturn.follows.slot_self, fun j => ?_⟩
  by_cases hj : j = i
  · subst hj
    exact Option.eq_none_iff_forall_ne_some.mpr fun fetch hw =>
      absurd (hturn.turns.get?_waiting.mp hw) (by simp)
  · exact hturn.get?_waiting hb hadmits fun heq => hj (congrArg Reading.number heq)

/-- While an answer is held no read of its question fetches. -/
lemma Holds.not_fetches {seen : Observed r.query.Answer}
    {step : RateClient.Step (Recorded σ) r.query} (h : b.Holds r.query seen limit)
    (hnow : b.clock.now < limit) : ¬ b.Fetches r event step := by
  intro hfetches
  cases hfetches with
  | start _ hmiss => exact absurd ((h.served?_eq hnow).symm.trans hmiss) (by simp)
  | resume hw => exact absurd ((h.idle r.number).symm.trans hw) (by simp)

/-- What is held is still held after an event in which it is not dropped. -/
lemma Holds.step (h : b.Holds q seen limit) (hnow : b.clock.now < limit)
    (hkeep : event ≠ .invalidate) : (b.step event).Holds q seen limit := by
  rcases b.step_cases event with hr | ⟨r, a', hs⟩ | ⟨r, step, notes, turn, ht⟩
  · refine ⟨?_, fun i => Option.eq_none_iff_forall_ne_some.mpr fun fetch hw => ?_⟩
    · rw [hr.slot.resolve_right fun hdrop => hkeep hdrop.1, h.slot]
    · exact absurd ((h.idle i).symm.trans (hr.waiting hw)) (by simp)
  · refine ⟨hs.slot ▸ h.slot, fun i => ?_⟩
    by_cases hi : ⟨q, i⟩ = r
    · subst hi
      exact Option.eq_none_iff_forall_ne_some.mpr fun fetch hw =>
        absurd (hs.turns.get?_waiting.mp hw) (by simp)
    · rw [hs.turns.get?_waiting_of_ne hi, h.idle]
  · have hne : q ≠ r.query := by
      rintro rfl
      exact h.not_fetches hnow ht.fetches
    refine ⟨(ht.follows.slot_of_ne hne).trans h.slot, fun i => ?_⟩
    rw [ht.turns.get?_waiting_of_ne fun heq => hne (congrArg Reading.query heq), h.idle]

/-- Time does not go back. -/
lemma now_le_run_take (h : m ≤ n) :
    (b.run (events.take m)).clock.now ≤ (b.run (events.take n)).clock.now :=
  Trace.rel_foldl_take (I := fun _ => True) (fun b b' : Board σ => b.clock.now ≤ b'.clock.now)
    (fun _ _ h => h) (fun _ => le_rfl) le_trans (fun b event _ => b.now_le_step event) trivial h

/-- What is held is held until its instant, unless all that is known is dropped before. -/
theorem Holds.run (h : (b.run (events.take m)).Holds q seen limit) (hle : m ≤ n)
    (hkeep : ∀ i, m ≤ i → i < n → events[i]? ≠ some .invalidate)
    (hnow : (b.run (events.take n)).clock.now < limit) :
    (b.run (events.take n)).Holds q seen limit := by
  induction n, hle using Nat.le_induction with
  | base => exact h
  | succ n hle ih =>
      have hbefore : (b.run (events.take n)).clock.now < limit :=
        (now_le_run_take n.le_succ).trans_lt hnow
      have hheld := ih (fun i hi hlt => hkeep i hi (hlt.trans n.lt_succ_self)) hbefore
      cases hget : events[n]? with
      | none => rwa [run_take_succ_of_none hget]
      | some event =>
          rw [run_take_succ hget]
          exact hheld.step hbefore fun heq => hkeep n hle n.lt_succ_self (heq ▸ hget)

/-- Each question has a slot of its own, and an answer is served from it for just as long as it
should be. -/
structure KeepsSlots (b : Board Script) (events : List (Event Script)) : Prop where
  /-- Without the reads of all other questions everything that is asked, answered and read about a
  question is the same, at the same instants. -/
  independent (q : RateQuery) :
    (b.run (events.filter (·.concerns q))).log = (b.run events).log.filter (·.query = q)
  /-- The source is asked for a read that is not served, once and when it starts, and for nothing
  else. -/
  asked {n : ℕ} {event : Event Script} : events[n]? = some event →
    (b.run (events.take (n + 1))).log.filter (·.isAsked)
      = (b.run (events.take n)).log.filter (·.isAsked) ++ (b.run (events.take n)).asking event
  /-- Unless all that is known has been dropped in between, two answers to a question are accepted
  as far apart as an answer is served. -/
  spaced {m n : ℕ} {event event' : Event Script} {q : RateQuery} {a a' : q.Answer} :
    events[m]? = some event → (b.run (events.take m)).Accepts event q a →
    events[n]? = some event' → (b.run (events.take n)).Accepts event' q a' → m < n →
    (∀ i, m < i → i < n → events[i]? ≠ some .invalidate) →
    (b.run (events.take m)).clock.now + b.cache.ttl ≤ (b.run (events.take n)).clock.now
  /-- For that long, and unless all that is known has been dropped, a read ends in its first turn
  with the answer that was accepted, as observed when it was. -/
  served {m n i : ℕ} {event : Event Script} {q : RateQuery} {a : q.Answer} :
    events[m]? = some event → (b.run (events.take m)).Accepts event q a →
    events[n]? = some (.start ⟨q, i⟩) → ⟨q, i⟩ ∉ (b.run (events.take n)).started → m < n →
    (∀ j, m < j → j < n → events[j]? ≠ some .invalidate) →
    (b.run (events.take n)).clock.now < (b.run (events.take m)).clock.now + b.cache.ttl →
    (b.run (events.take (n + 1))).log = (b.run (events.take n)).log
      ++ [.ended ⟨q, i⟩ (b.run (events.take n)).clock.now
        (.ok (.ofEpochMillis (b.run (events.take m)).clock.now a))]

/-- Every run in which reads do not overlap is like that, by whatever script the source goes. -/
theorem keepsSlots_run (clock : Clock) (script : Script) (ttl : ℕ) (events : List (Event Script))
    (h : (fresh clock ⟨script, none⟩ ttl).IsSequential events) :
    (fresh clock ⟨script, none⟩ ttl).KeepsSlots events := by
  have hsingle := isSingle_fresh clock script ttl
  have hquiet := h.isQuiet (isQuiet_fresh clock ⟨script, none⟩ ttl)
  -- an answer that has been accepted is held from then on, until it is too old or forgotten
  have hheld : ∀ {m n : ℕ} {event : Event Script} {q : RateQuery} {a : q.Answer},
      events[m]? = some event →
      ((fresh clock ⟨script, none⟩ ttl).run (events.take m)).Accepts event q a → m < n →
      (∀ i, m < i → i < n → events[i]? ≠ some .invalidate) →
      ((fresh clock ⟨script, none⟩ ttl).run (events.take n)).clock.now
        < ((fresh clock ⟨script, none⟩ ttl).run (events.take m)).clock.now + ttl →
      ((fresh clock ⟨script, none⟩ ttl).run (events.take n)).Holds q
        (.ofEpochMillis ((fresh clock ⟨script, none⟩ ttl).run (events.take m)).clock.now a)
        (((fresh clock ⟨script, none⟩ ttl).run (events.take m)).clock.now + ttl) := by
    intro m n event q a hget haccepts hlt hkeep hnow
    have hstored := haccepts.holds (hquiet m) (h.admits hget)
    rw [← run_take_succ hget, ttl_run] at hstored
    exact hstored.run hlt hkeep hnow
  refine ⟨fun q => ?_, fun hget => ?_, ?_, ?_⟩
  · exact ((alike_fresh clock script ttl q).run hsingle events).log.symm
  · rw [run_take_succ hget]
    exact (hsingle.run _).filter_step _
  · -- the later answer was fetched, which nothing does while the earlier one is held
    intro m n event event' q a a' hget haccepts hget' haccepts' hlt hkeep
    by_contra hearly
    have hnow := not_le.mp hearly
    obtain ⟨-, i, client, hfetches⟩ := haccepts'
    exact (hheld hget haccepts hlt hkeep hnow).not_fetches hnow hfetches
  · intro m n i event q a hget haccepts hget' hnew hlt hkeep hnow
    have hserved := (hheld hget haccepts hlt hkeep hnow).served?_eq hnow
    rw [run_take_succ hget', Board.step, if_neg hnew, RateCache.read_of_served hserved]
    simp [Board.after, RateCache.notesSince, noteEnd]

/-- The dollar in euros is read, then the table, each after a wait, and the dollar in euros twice
more: while the answer is served, and after that. -/
theorem keepsSlots_run_of_four_reads :
    let cent : Decimal := ⟨false, 1, 2, by decide, by decide⟩
    let script : Script :=
      ⟨fun _ _ now => .alarm (now + 10),
        fun q _ => match q with
          | .table => .ok .empty
          | .pair _ => .ok cent,
        fun _ => 0⟩
    let euro : RateQuery := .pair ⟨.usd, .eur⟩
    let events : List (Event Script) :=
      [.start ⟨euro, 0⟩, .advance 10, .ring, .resume ⟨euro, 0⟩, .start ⟨.table, 0⟩, .advance 10,
        .ring, .resume ⟨.table, 0⟩, .start ⟨euro, 1⟩, .advance 5000, .start ⟨euro, 2⟩]
    (fresh (.atRest 0) ⟨script, none⟩ 5000).IsSequential events ∧
      (fresh (.atRest 0) ⟨script, none⟩ 5000).KeepsSlots events := by
  intro cent script euro events
  have hsequential : (fresh (.atRest 0) ⟨script, none⟩ 5000).IsSequential events := by
    have hstart {b : Board Script} {r : Reading} (hidle : b.waiting = .empty) :
        b.Admits (.start r) :=
      fun _ _ _ other => by rw [hidle, Table.get?_empty]
    have hother {b : Board Script} {event : Event Script} (hevent : ∀ r, event ≠ .start r) :
        b.Admits event := fun r heq => absurd heq (hevent r)
    exact ⟨hstart rfl, hother nofun, hother nofun, hother nofun, hstart rfl, hother nofun,
      hother nofun, hother nofun, hstart rfl, hother nofun, hstart rfl, trivial⟩
  exact ⟨hsequential, keepsSlots_run _ script 5000 events hsequential⟩

end Lifetime

end Teller.Board
