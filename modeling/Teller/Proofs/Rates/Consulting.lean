/-
What a read of rates does to the cache and to the source behind it, turn by turn.

* `RateQuery.IsPositive`: all rates of an answer are above zero; `fault?_eq_none_iff` says that this
  is what answers are accepted for;
* `Consultation`: a source of rates is asked, or answers; `Recorded`: a source that notes both;
* `RateClient.Consults`: what a turn of a fetch notes; `consults_fetch` and `consults_resume` say
  that every turn does this, so that what a fetch ends with has been answered in that turn;
* `RateCache.Follows`: what a turn of a read makes of a turn of its fetch: it waits, is refused, or
  a good answer is stored; `follows_read` and `follows_afterStep` say that every turn does this,
  unless the read is served (`read_of_served`).
-/
import Mathlib.Tactic
import Teller.Rates.Cache

namespace Teller

/-! ### Good answers -/

namespace RateQuery

/-- All rates of an answer are above zero. -/
def IsPositive : (q : RateQuery) → q.Answer → Prop
  | table, rates =>
    ∀ currency rate, CurrencyMap.get? rates currency = some rate → Decimal.zero < rate
  | pair _, rate => Decimal.zero < rate

lemma not_le_zero_iff {rate : Decimal} : ¬ rate ≤ Decimal.zero ↔ Decimal.zero < rate :=
  Int.not_le

/-- An answer is accepted if all of its rates are above zero. -/
theorem fault?_eq_none_iff {q : RateQuery} {a : q.Answer} :
    q.fault? a = none ↔ q.IsPositive a := by
  cases q with
  | pair p =>
      simp only [fault?, IsPositive, ite_eq_right_iff, reduceCtorEq, imp_false]
      exact not_le_zero_iff
  | table =>
      simp only [fault?, IsPositive, List.findSome?_eq_none_iff, CurrencyMap.toList, Prod.forall,
        List.mem_filterMap, Option.map_eq_some_iff, Prod.mk.injEq, ite_eq_right_iff, reduceCtorEq,
        imp_false, not_le_zero_iff]
      constructor
      · exact fun h currency rate hr =>
          h currency rate ⟨currency, currency.mem_all, rate, hr, rfl, rfl⟩
      · rintro h currency rate ⟨_, -, _, hr, rfl, rfl⟩
        exact h _ _ hr

end RateQuery

/-! ### Notes -/

/-- What happens between a client and a source of rates. -/
inductive Consultation where
  | asked (query : RateQuery)
  | answered (query : RateQuery) (result : Except RateError query.Answer)

/-- The question that is asked or answered. -/
def Consultation.query : Consultation → RateQuery
  | asked query => query
  | answered query _ => query

/-- A source of rates with notes of what it has been asked and what it has answered. -/
structure Recorded (σ : Type) where
  provider : σ
  notes : List Consultation

variable {σ : Type}

instance [RateProvider σ] : RateProvider (Recorded σ) where
  ask r now q :=
    let (provider, wait) := RateProvider.ask r.provider now q
    (⟨provider, r.notes ++ [.asked q]⟩, wait)
  answer r q :=
    let (provider, result) := RateProvider.answer r.provider q
    (⟨provider, r.notes ++ [.answered q result]⟩, result)

/-! ### Turns of a fetch -/

namespace RateClient

variable {c c' : RateClient (Recorded σ)} {q : RateQuery}
  {turn : Turn Fetch (Except RateError q.Answer)} {notes : List Consultation}

/-- A turn of a fetch notes only what is asked and answered about its question, and if the fetch
ends well, its answer is among that. -/
structure Consults (c : RateClient (Recorded σ)) (q : RateQuery) (step : Step (Recorded σ) q)
    (notes : List Consultation) : Prop where
  retry : step.1.retry = c.retry
  notes_eq : step.1.provider.notes = c.provider.notes ++ notes
  query {note : Consultation} : note ∈ notes → note.query = q
  answered {a : q.Answer} : step.2 = .done (.ok a) → .answered q (.ok a) ∈ notes

/-- What follows a turn that has noted something already. -/
lemma Consults.after {step : Step (Recorded σ) q} {note : Consultation}
    (h : c'.Consults q step notes)
    (hretry : c'.retry = c.retry) (hnote : c'.provider.notes = c.provider.notes ++ [note])
    (hquery : note.query = q) : c.Consults q step (note :: notes) where
  retry := h.retry.trans hretry
  notes_eq := by rw [h.notes_eq, hnote, List.append_assoc, List.singleton_append]
  query hmem := by
    rcases List.mem_cons.mp hmem with rfl | hmem
    · exact hquery
    · exact h.query hmem
  answered hdone := List.mem_cons_of_mem _ (h.answered hdone)

/-- A turn in which nothing is asked or answered, and which does not end well. -/
lemma consults_nil (hnot : ∀ a, turn ≠ .done (.ok a)) : c.Consults q (c, turn) [] where
  retry := rfl
  notes_eq := (List.append_nil _).symm
  query hmem := absurd hmem List.not_mem_nil
  answered hdone := absurd hdone (hnot _)

lemma consults_giveUp (c : RateClient (Recorded σ)) (e : RateError) :
    c.Consults q (giveUp q c e) [] :=
  consults_nil (by simp)

variable [RateProvider σ] {clock : Clock} {left : ℕ}

/-- A look at an attempt notes its answer, if there is one. -/
lemma consults_look (c : RateClient (Recorded σ)) (clock : Clock) (left : ℕ) (wait : Wait)
    (limit : Option ℕ) {onError : RateClient (Recorded σ) → RateError → Step (Recorded σ) q}
    (h : ∀ c e, ∃ notes, Consults c q (onError c e) notes) :
    ∃ notes, c.Consults q (c.look clock q left wait limit onError) notes := by
  rw [look]
  split
  · cases hanswer : RateProvider.answer c.provider.provider q with
    | mk provider result =>
        have hrecorded : RateProvider.answer c.provider q
            = (⟨provider, c.provider.notes ++ [.answered q result]⟩, result) := by
          simp only [RateProvider.answer, hanswer]
        rw [hrecorded]
        cases result with
        | ok a =>
            refine ⟨[.answered q (.ok a)], rfl, rfl, fun hmem => ?_, fun hdone => ?_⟩
            · rw [List.mem_singleton.mp hmem]
              rfl
            · obtain rfl := Except.ok.inj (Turn.done.inj hdone)
              exact List.mem_singleton_self _
        | error e =>
            obtain ⟨notes, hnotes⟩ :=
              h { c with provider := ⟨provider, c.provider.notes ++ [.answered q (.error e)]⟩ } e
            exact ⟨_, hnotes.after rfl rfl rfl⟩
  · split
    · exact h c c.timeoutError
    · exact ⟨[], consults_nil (by simp)⟩

/-- An attempt notes that it asks. -/
lemma consults_attempt {onError : RateClient (Recorded σ) → RateError → Step (Recorded σ) q}
    (h : ∀ c e, ∃ notes, Consults c q (onError c e) notes) :
    ∃ notes, c.Consults q (c.attempt clock q left onError) notes := by
  cases hask : RateProvider.ask c.provider.provider clock.now q with
  | mk provider wait =>
      have hrecorded : RateProvider.ask c.provider clock.now q
          = (⟨provider, c.provider.notes ++ [.asked q]⟩, wait) := by
        simp only [RateProvider.ask, hask]
      rw [attempt, hrecorded]
      obtain ⟨notes, hnotes⟩ :=
        consults_look { c with provider := ⟨provider, c.provider.notes ++ [.asked q]⟩ } clock left
          wait (c.limit clock.now) h
      exact ⟨_, hnotes.after rfl rfl rfl⟩

omit [RateProvider σ] in
lemma consults_pause {next : RateClient (Recorded σ) → Step (Recorded σ) q}
    (h : ∀ c, ∃ notes, Consults c q (next c) notes) :
    ∃ notes, c.Consults q (c.pause clock q left next) notes := by
  simp only [pause]
  split
  · exact h c
  · exact ⟨[], consults_nil (by simp)⟩

/-- Attempts note what they ask and are answered. -/
lemma consults_pursue (clock : Clock) (q : RateQuery) (left : ℕ) (c : RateClient (Recorded σ)) :
    ∃ notes, c.Consults q (pursue clock q left c) notes := by
  induction left generalizing c with
  | zero => exact consults_attempt fun c e => ⟨[], consults_giveUp c e⟩
  | succ left ih => exact consults_attempt fun c _ => consults_pause ih

lemma consults_afterError (clock : Clock) (q : RateQuery) (left : ℕ) (c : RateClient (Recorded σ))
    (e : RateError) : ∃ notes, c.Consults q (afterError clock q left c e) notes := by
  cases left with
  | zero => exact ⟨[], consults_giveUp c e⟩
  | succ left => exact consults_pause (consults_pursue clock q left)

/-- What the first turn of a fetch notes. -/
theorem consults_fetch (c : RateClient (Recorded σ)) (clock : Clock) (q : RateQuery) :
    ∃ notes, c.Consults q (c.fetch clock q) notes :=
  consults_pursue clock q _ c

/-- What any other turn of a fetch notes. -/
theorem consults_resume (c : RateClient (Recorded σ)) (clock : Clock) (q : RateQuery)
    (fetch : Fetch) : ∃ notes, c.Consults q (c.resume clock q fetch) notes := by
  cases fetch with
  | calling left wait limit =>
      exact consults_look c clock left wait limit (consults_afterError clock q left)
  | resting left wakeAt =>
      rw [resume]
      split
      · exact consults_pursue clock q left c
      · exact ⟨[], consults_nil (by simp)⟩

end RateClient

/-! ### Turns of a read -/

namespace RateCache

/-- The answer that is served for a question at an instant, if one is. -/
def served? (c : RateCache σ) (now : ℕ) (q : RateQuery) : Option (Observed q.Answer) :=
  (c.slot q).bind fun s => s.fresh? now

/-- The answer of a fetch, or why it is refused. -/
def verdict {q : RateQuery} : Except RateError q.Answer → Except RateError q.Answer
  | .error e => .error e
  | .ok a =>
    match q.fault? a with
    | some e => .error e
    | none => .ok a

lemma verdict_eq_ok {q : RateQuery} {result : Except RateError q.Answer} {a : q.Answer}
    (h : verdict result = .ok a) : result = .ok a ∧ q.IsPositive a := by
  cases result with
  | error e => simp [verdict] at h
  | ok b =>
      rw [verdict] at h
      split at h
      · simp at h
      · next hnone =>
        obtain rfl := Except.ok.inj h
        exact ⟨rfl, RateQuery.fault?_eq_none_iff.mp hnone⟩

/-- An answer that is accepted at an instant was given like that, and is observed then. -/
lemma eq_ok_of_verdict {q : RateQuery} {result : Except RateError q.Answer} {now : ℕ}
    {seen : Observed q.Answer} (h : (verdict result).map (.ofEpochMillis now) = .ok seen) :
    result = .ok seen.value ∧ q.IsPositive seen.value ∧
      seen.observedAt = .ofEpochMillis now := by
  cases hverdict : verdict result with
  | error e => simp [hverdict, Except.map] at h
  | ok a =>
      rw [hverdict] at h
      obtain rfl := Except.ok.inj h
      obtain ⟨rfl, hpositive⟩ := verdict_eq_ok hverdict
      exact ⟨rfl, hpositive, rfl⟩

/-- Without the instant an observed answer is the answer. -/
lemma map_value_ofEpochMillis {α : Type} (result : Except RateError α) (now : ℕ) :
    (result.map (Observed.ofEpochMillis now)).map (·.value) = result := by
  cases result <;> rfl

lemma timeless_fst {α : Type} (turn : RateCache σ × Turn Fetch (Except RateError (Observed α))) :
    (timeless turn).1 = turn.1 := by
  obtain ⟨c, fetch | result⟩ := turn <;> rfl

lemma timeless_eq_done {α : Type} {turn : RateCache σ × Turn Fetch (Except RateError (Observed α))}
    {result : Except RateError (Observed α)} (h : turn.2 = .done result) :
    (timeless turn).2 = .done (result.map (·.value)) := by
  obtain ⟨c, turn⟩ := turn
  obtain rfl : turn = .done result := h
  rfl

lemma verdict_of_isPositive {q : RateQuery} {a : q.Answer} (h : q.IsPositive a) :
    verdict (.ok a) = .ok a := by
  rw [verdict, RateQuery.fault?_eq_none_iff.mpr h]

lemma served?_eq_some {c : RateCache σ} {now : ℕ} {q : RateQuery} {seen : Observed q.Answer} :
    c.served? now q = some seen ↔
      ∃ s, c.slot q = some s ∧ now < s.expiresAt ∧ s.answer = seen := by
  rw [served?, Option.bind_eq_some_iff]
  refine exists_congr fun s => and_congr_right fun _ => ?_
  rw [Slot.fresh?]
  split <;> simp [*]

lemma slot_store (c : RateCache σ) (q : RateQuery) (s : Slot q.Answer) :
    (c.store q s).slot q = some s := dif_pos rfl

lemma slot_store_of_ne (c : RateCache σ) {q other : RateQuery} (s : Slot q.Answer)
    (hne : other ≠ q) : (c.store q s).slot other = c.slot other := dif_neg hne

/-- The slot of a question after a turn of a read of it: a good answer is stored. -/
def slotAfter (c : RateCache σ) (now : ℕ) (q : RateQuery) :
    Turn Fetch (Except RateError (Observed q.Answer)) → Option (Slot q.Answer)
  | .done (.ok seen) => some ⟨seen, now + c.ttl⟩
  | _ => c.slot q

/-- What a turn of a read comes to whose fetch has come to this: the slots stay as they are, unless
the fetch has ended with a good answer, which is stored as observed now. -/
structure Follows (c : RateCache σ) (now : ℕ) (q : RateQuery) (step : RateClient.Step σ q)
    (c' : RateCache σ) (turn : Turn Fetch (Except RateError (Observed q.Answer))) : Prop where
  client : c'.client = step.1
  ttl : c'.ttl = c.ttl
  turn_eq : turn = match step.2 with
    | .waiting fetch => .waiting fetch
    | .done result => .done ((verdict result).map (.ofEpochMillis now))
  slot_self : c'.slot q = c.slotAfter now q turn
  slot_of_ne {other : RateQuery} : other ≠ q → c'.slot other = c.slot other

lemma follows_afterStep (c : RateCache σ) (clock : Clock) (q : RateQuery)
    (step : RateClient.Step σ q) :
    c.Follows clock.now q step (c.afterStep clock q step).1 (c.afterStep clock q step).2 := by
  obtain ⟨client, turn⟩ := step
  cases turn with
  | waiting fetch => exact ⟨rfl, rfl, rfl, rfl, fun _ => rfl⟩
  | done result =>
      cases result with
      | error e => exact ⟨rfl, rfl, rfl, rfl, fun _ => rfl⟩
      | ok a =>
          simp only [afterStep, settle]
          split
          · next e he => exact ⟨rfl, rfl, by simp [verdict, he, Except.map], rfl, fun _ => rfl⟩
          · next he =>
            exact ⟨rfl, rfl, by simp [verdict, he, Except.map], slot_store ..,
              slot_store_of_ne _ _⟩

variable [RateProvider σ]

/-- A read that is not served fetches. -/
lemma follows_read {c : RateCache σ} {clock : Clock} {q : RateQuery}
    (h : c.served? clock.now q = none) :
    c.Follows clock.now q (c.client.fetch clock q) (c.read clock q).1 (c.read clock q).2 := by
  rw [read, show Option.bind _ _ = none from h]
  have hfollows :=
    follows_afterStep { c with misses := c.misses + 1 } clock q (c.client.fetch clock q)
  exact ⟨hfollows.client, hfollows.ttl, hfollows.turn_eq, hfollows.slot_self, hfollows.slot_of_ne⟩

/-- A read that is served changes no slot. -/
lemma read_of_served {c : RateCache σ} {clock : Clock} {q : RateQuery}
    {seen : Observed q.Answer} (h : c.served? clock.now q = some seen) :
    c.read clock q = ({ c with hits := c.hits + 1 }, .done (.ok seen)) := by
  rw [read, show Option.bind _ _ = some seen from h]

end RateCache

end Teller
