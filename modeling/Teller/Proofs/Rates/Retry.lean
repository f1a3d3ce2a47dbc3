/-
Repeated calls to a source of rates: how many are made, what comes of them, and when.

* `Behaviour`: how long the calls of a source take, and how they are answered; `Script.Behaves`: a
  source behaves so from now on;
* `RetryPolicy.lasts` and `RetryPolicy.verdict`: how long an attempt lasts, and what comes of it;
  `RetryPolicy.startsAt`: when it starts;
* `RateClient.EndsWith`: a fetch that gets its turns in time comes to this end;
* `RateClient.Course`: where a fetch stands after any of its turns; `Course.resume` says that the
  next turn leaves it there, `ranksBelow_resume` that it goes on when it wakes;
* `RetryPolicy.Honours`: the result, the number of calls and the instant of the end of a fetch are
  those of its policy, with a given pause between attempts; `RateClient.honours_fetch`: every fetch
  ends, and so.
-/
import Teller.Proofs.Rates.Script

namespace Teller

variable {q : RateQuery}

/-! ### Behaviours -/

/-- The wait lasts so long, or for ever. For no time at all there may be nothing to wait for. -/
def Wait.Lasts (wait : Wait) (now : ℕ) : Option ℕ → Prop
  | some delay => wait = .alarm (now + delay) ∨ (delay = 0 ∧ wait = .nothing)
  | none => wait = .forever

/-- How a source behaves when it is asked a question again and again. -/
structure Behaviour (q : RateQuery) where
  /-- The time after which a call is answered, if it ever is, by the number of calls before it. -/
  delay : ℕ → Option ℕ
  /-- The answer to a call, by the number of calls before it. -/
  outcome : ℕ → Except RateError q.Answer

namespace Script

/-- The next calls take as long and are answered as the behaviour says. -/
structure Behaves (s : Script) (b : Behaviour q) : Prop where
  waits (i now : ℕ) : (s.waits q (s.calls q + i) now).Lasts now (b.delay i)
  answers (i : ℕ) : s.answers q (s.calls q + i) = b.outcome i

/-- The source after so many more calls. -/
def after (s : Script) (q : RateQuery) (n : ℕ) : Script :=
  { s with calls := fun other => if other = q then s.calls q + n else s.calls other }

variable {s : Script} {n : ℕ}

lemma after_zero : s.after q 0 = s := by
  obtain ⟨waits, answers, calls⟩ := s
  rw [after]
  congr 1
  funext other
  by_cases h : other = q <;> simp [h]

lemma calls_after : (s.after q n).calls q = s.calls q + n := if_pos rfl

lemma count_after : (s.after q n).count q = s.after q (n + 1) := by
  rw [count, calls_after, after, after]
  congr 1
  funext other
  by_cases h : other = q <;> simp [h, Nat.add_assoc]

end Script

/-- A source that behaves so whenever it is asked this question. -/
def Behaviour.script (b : Behaviour q) : Script where
  waits _ i now :=
    match b.delay i with
    | some delay => .alarm (now + delay)
    | none => .forever
  answers other i := if h : other = q then h ▸ b.outcome i else .error (.provider .injected)
  calls _ := 0

/-- Every behaviour is that of some source. -/
lemma Behaviour.behaves_script (b : Behaviour q) : b.script.Behaves b where
  waits i now := by
    rw [script, Nat.zero_add]
    dsimp only
    cases b.delay i with
    | none => rfl
    | some delay => exact .inl rfl
  answers i := by
    rw [script, Nat.zero_add]
    exact dif_pos rfl

/-! ### Attempts -/

namespace RetryPolicy

/-- How long an attempt lasts: until it is answered, or given up. -/
def lasts (p : RetryPolicy) (b : Behaviour q) (i : ℕ) : ℕ :=
  match b.delay i with
  | some delay => min delay p.attemptTimeout
  | none => p.attemptTimeout

/-- What comes of an attempt: its answer, if that comes in time, be it at the last moment. -/
def verdict (p : RetryPolicy) (b : Behaviour q) (i : ℕ) : Except RateError q.Answer :=
  match b.delay i with
  | some delay =>
    if delay ≤ p.attemptTimeout then b.outcome i else .error (.timeout (p.attemptTimeout * 10 ^ 6))
  | none => .error (.timeout (p.attemptTimeout * 10 ^ 6))

/-- The attempts before this one have failed. -/
def FailsBefore (p : RetryPolicy) (b : Behaviour q) (k : ℕ) : Prop :=
  ∀ i < k, ∀ a, p.verdict b i ≠ .ok a

/-- The pause between attempts: no sleep is longer than the longest. -/
def pause (p : RetryPolicy) : ℕ := min p.backoff Clock.longestSleep

/-- The instant at which an attempt starts. -/
def startsAt (p : RetryPolicy) (b : Behaviour q) (start k : ℕ) : ℕ :=
  start + ∑ i ∈ Finset.range k, p.lasts b i + k * p.pause

/-- A fetch that has started at one instant and ended at another with this result, after so many
calls, has gone by its policy, with this pause between attempts. -/
structure Honours (p : RetryPolicy) (pause : ℕ) (b : Behaviour q) (start calls : ℕ)
    (result : Except RateError q.Answer) (instant : ℕ) : Prop where
  /-- The first answer in time that is no error is the result. -/
  recovered {k delay : ℕ} {a : q.Answer} : k < p.attempts → p.FailsBefore b k →
    b.delay k = some delay → delay ≤ p.attemptTimeout → b.outcome k = .ok a →
    result = .ok a ∧ calls = k + 1 ∧
      instant = start + ∑ i ∈ Finset.range k, p.lasts b i + delay + k * pause
  /-- Without such an answer the last error is in the result. -/
  exhausted {last : RateError} : p.FailsBefore b p.attempts →
    p.verdict b (p.attempts - 1) = .error last →
    result = .error (.retriesExhausted p.attempts last) ∧ calls = p.attempts ∧
      instant = start + ∑ i ∈ Finset.range p.attempts, p.lasts b i + (p.attempts - 1) * pause

variable {p : RetryPolicy} {b : Behaviour q} {start k : ℕ}

lemma attempts_pos (p : RetryPolicy) : 0 < p.attempts := by
  rw [attempts]
  omega

lemma startsAt_succ :
    p.startsAt b start (k + 1) = p.startsAt b start k + p.lasts b k + p.pause := by
  rw [startsAt, startsAt, Finset.sum_range_succ]
  ring

lemma FailsBefore.succ (h : p.FailsBefore b k) {e : RateError} (he : p.verdict b k = .error e) :
    p.FailsBefore b (k + 1) := by
  intro i hi
  rcases Nat.lt_succ_iff_lt_or_eq.mp hi with hlt | rfl
  · exact h i hlt
  · simp [he]

lemma verdict_of_le {delay : ℕ} (hdelay : b.delay k = some delay) (h : delay ≤ p.attemptTimeout) :
    p.verdict b k = b.outcome k := by
  rw [verdict, hdelay]
  exact if_pos h

lemma lasts_of_le {delay : ℕ} (hdelay : b.delay k = some delay) (h : delay ≤ p.attemptTimeout) :
    p.lasts b k = delay := by
  rw [lasts, hdelay]
  exact min_eq_left h

end RetryPolicy

/-! ### Turns -/

/-- The turns that may follow: two for each attempt that is left, one for its pause and one for its
answer. -/
def Fetch.rank : Fetch → ℕ
  | calling left _ _ => 2 * left
  | resting left _ => 2 * left + 1

namespace RateClient

section Turns

variable {σ : Type} [RateProvider σ] {clock : Clock} {left : ℕ} {c : RateClient σ}

/-- After any failed attempt it goes on as after a wait. -/
lemma pursue_eq : pursue clock q left c = c.attempt clock q left (afterError clock q left) := by
  cases left <;> rfl

/-- The fetch of a turn that waits ranks so low. -/
def Step.RanksBelow (step : Step σ q) (rank : ℕ) : Prop :=
  ∀ fetch, step.2 = .waiting fetch → fetch.rank < rank

/-- A look at an attempt that is over goes on as a failed attempt does. -/
lemma ranksBelow_look {wait : Wait} {limit : Option ℕ} {rank : ℕ}
    {onError : RateClient σ → RateError → Step σ q}
    (hover : wait.isOver clock = true ∨ clock.isOver limit = true ∨ 2 * left < rank)
    (h : ∀ c e, (onError c e).RanksBelow rank) :
    (c.look clock q left wait limit onError).RanksBelow rank := by
  intro fetch hfetch
  rw [look] at hfetch
  split at hfetch
  · split at hfetch
    · simp at hfetch
    · exact h _ _ fetch hfetch
  · next hwait =>
    split at hfetch
    · exact h _ _ fetch hfetch
    · next hlimit =>
      obtain rfl := Turn.waiting.inj hfetch
      exact (hover.resolve_left hwait).resolve_left hlimit

omit [RateProvider σ] in
lemma ranksBelow_pause {next : RateClient σ → Step σ q}
    (h : ∀ c, (next c).RanksBelow (2 * left + 1)) :
    (c.pause clock q left next).RanksBelow (2 * (left + 1)) := by
  intro fetch hfetch
  rw [pause] at hfetch
  split at hfetch
  · have := h _ fetch hfetch
    omega
  · obtain rfl := Turn.waiting.inj hfetch
    rw [Fetch.rank]
    omega

/-- Attempts that are made at once leave no more turns than there were. -/
lemma ranksBelow_pursue (clock : Clock) (q : RateQuery) (left : ℕ) (c : RateClient σ) :
    (pursue clock q left c).RanksBelow (2 * left + 1) := by
  induction left generalizing c with
  | zero => exact ranksBelow_look (.inr (.inr (by omega))) fun _ _ _ h => by simp [giveUp] at h
  | succ left ih =>
      refine ranksBelow_look (.inr (.inr (by omega))) fun c e fetch hfetch => ?_
      exact (ranksBelow_pause ih fetch hfetch).trans (by omega)

lemma ranksBelow_afterError (clock : Clock) (q : RateQuery) (left : ℕ) (c : RateClient σ)
    (e : RateError) : (afterError clock q left c e).RanksBelow (2 * left) := by
  cases left with
  | zero => exact fun fetch h => by simp [afterError, giveUp] at h
  | succ left => exact ranksBelow_pause (ranksBelow_pursue clock q left)

/-- **Progress**: a fetch that has its turn when it wakes goes on. -/
theorem ranksBelow_resume {fetch : Fetch} {wake : ℕ} (hwake : fetch.wakesAt = some wake)
    (c : RateClient σ) : (c.resume (.atRest wake) q fetch).RanksBelow fetch.rank := by
  cases fetch with
  | calling left wait limit =>
      -- at that instant the answer is there, or the limit has come, whichever is first
      refine ranksBelow_look ?_ (ranksBelow_afterError _ q left)
      rw [Fetch.wakesAt] at hwake
      cases wait with
      | nothing => exact .inl rfl
      | alarm instant =>
          cases limit with
          | none =>
              obtain rfl := Option.some.inj hwake
              exact .inl (by simp [Wait.isOver, Clock.hasRung, Clock.atRest])
          | some limit =>
              obtain rfl := Option.some.inj hwake
              rcases Nat.le_total instant limit with h | h
              · exact .inl (by simp [Wait.isOver, Clock.hasRung, Clock.atRest, h])
              · exact .inr (.inl (by simp [Clock.isOver, Clock.hasRung, Clock.atRest, h]))
      | forever =>
          cases limit with
          | none => simp [Wait.instant?, earlier] at hwake
          | some limit =>
              obtain rfl := Option.some.inj hwake
              exact .inr (.inl (by simp [Clock.isOver, Clock.hasRung, Clock.atRest]))
  | resting left wakeAt =>
      obtain rfl := Option.some.inj hwake
      rw [resume, if_pos (by simp [Clock.hasRung, Clock.atRest])]
      exact ranksBelow_pursue _ q left c

/-- A turn at an instant leads to this end of a fetch: its client, its result and its instant. Every
turn comes no earlier than the one before, and before time passes over the instant at which the
fetch is to go on. -/
inductive EndsWith (q : RateQuery) :
    ℕ → Step σ q → RateClient σ → Except RateError q.Answer → ℕ → Prop
  | done {now : ℕ} {c : RateClient σ} {result : Except RateError q.Answer} :
      EndsWith q now (c, .done result) c result now
  | waiting {now : ℕ} {c c' : RateClient σ} {fetch : Fetch} {clock : Clock}
      {result : Except RateError q.Answer} {instant : ℕ} (hlater : now ≤ clock.now)
      (htimely : ∀ wake, fetch.wakesAt = some wake → clock.now ≤ wake)
      (hrest : EndsWith q clock.now (c.resume clock q fetch) c' result instant) :
      EndsWith q now (c, .waiting fetch) c' result instant

end Turns

/-! ### The course of a fetch -/

/-- A fetch that has started at one instant stands so after a turn at another. -/
inductive Course (s : Script) (p : RetryPolicy) (b : Behaviour q) (start : ℕ) :
    ℕ → Step Script q → Prop
  /-- An attempt is under way. -/
  | calling {k left now : ℕ} {wait : Wait} (hk : k + left + 1 = p.attempts)
      (hfails : p.FailsBefore b k) (hwait : wait.Lasts (p.startsAt b start k) (b.delay k))
      (hsome : wait ≠ .nothing) (hnow : p.startsAt b start k ≤ now)
      (hlate : now ≤ p.startsAt b start k + p.lasts b k) :
      Course s p b start now (⟨s.after q (k + 1), some p⟩,
        .waiting (.calling left wait (some (p.startsAt b start k + p.attemptTimeout))))
  /-- The next attempt is waited for. -/
  | resting {k left now : ℕ} (hk : k + left + 1 = p.attempts) (hfails : p.FailsBefore b k)
      (hnow : now ≤ p.startsAt b start k) :
      Course s p b start now
        (⟨s.after q k, some p⟩, .waiting (.resting left (p.startsAt b start k)))
  /-- An attempt has succeeded. -/
  | recovered {k : ℕ} {a : q.Answer} (hk : k < p.attempts) (hfails : p.FailsBefore b k)
      (ha : p.verdict b k = .ok a) :
      Course s p b start (p.startsAt b start k + p.lasts b k)
        (⟨s.after q (k + 1), some p⟩, .done (.ok a))
  /-- All attempts have failed. -/
  | exhausted {k : ℕ} {e : RateError} (hk : k + 1 = p.attempts) (hfails : p.FailsBefore b k)
      (he : p.verdict b k = .error e) :
      Course s p b start (p.startsAt b start k + p.lasts b k)
        (⟨s.after q (k + 1), some p⟩, .done (.error (.retriesExhausted p.attempts e)))

section Course

variable {s : Script} {p : RetryPolicy} {b : Behaviour q} {start k left now : ℕ} {clock : Clock}
  {wait : Wait} {step : Step Script q}

/-- An answer that is found before its attempt has ended comes in time, and just then. -/
lemma exists_delay_of_isOver (hwait : wait.Lasts (p.startsAt b start k) (b.delay k))
    (hnow : p.startsAt b start k ≤ clock.now)
    (hlate : clock.now ≤ p.startsAt b start k + p.lasts b k) (hover : wait.isOver clock = true) :
    ∃ delay, b.delay k = some delay ∧ delay ≤ p.attemptTimeout ∧
      clock.now = p.startsAt b start k + delay := by
  have hrung := clock.rung_le_now
  rw [RetryPolicy.lasts] at hlate
  cases hdelay : b.delay k with
  | none =>
      rw [hdelay] at hwait
      obtain rfl : wait = .forever := hwait
      simp [Wait.isOver] at hover
  | some delay =>
      rw [hdelay] at hwait hlate
      refine ⟨delay, rfl, ?_⟩
      rcases hwait with rfl | ⟨rfl, rfl⟩
      · have : p.startsAt b start k + delay ≤ clock.rung := of_decide_eq_true hover
        dsimp only at hlate
        omega
      · dsimp only at hlate
        omega

/-- An attempt that is given up without an answer has come to its limit. -/
lemma verdict_of_limit (hwait : wait.Lasts (p.startsAt b start k) (b.delay k))
    (hlate : clock.now ≤ p.startsAt b start k + p.lasts b k) (hnot : ¬ wait.isOver clock = true)
    (hlimit : p.startsAt b start k + p.attemptTimeout ≤ clock.rung) :
    p.verdict b k = .error (.timeout (p.attemptTimeout * 10 ^ 6)) ∧
      clock.now = p.startsAt b start k + p.lasts b k := by
  have hrung := clock.rung_le_now
  rw [RetryPolicy.lasts, RetryPolicy.verdict] at *
  cases hdelay : b.delay k with
  | none =>
      rw [hdelay] at hlate
      dsimp only at hlate ⊢
      exact ⟨rfl, by omega⟩
  | some delay =>
      rw [hdelay] at hwait hlate
      -- an answer that came within the limit would have been looked at
      have hlong : p.attemptTimeout < delay := by
        by_contra hle
        refine hnot ?_
        rcases hwait with rfl | ⟨-, rfl⟩
        · exact decide_eq_true (by omega)
        · rfl
      dsimp only at hlate ⊢
      exact ⟨if_neg (by omega), by omega⟩

/-- A look at an attempt, if what follows a failure is a course. -/
lemma Course.look (hs : s.Behaves b) (hk : k + left + 1 = p.attempts) (hfails : p.FailsBefore b k)
    (hwait : wait.Lasts (p.startsAt b start k) (b.delay k))
    (hnow : p.startsAt b start k ≤ clock.now)
    (hlate : clock.now ≤ p.startsAt b start k + p.lasts b k)
    {onError : RateClient Script → RateError → Step Script q}
    (honError : ∀ e, p.verdict b k = .error e →
      clock.now = p.startsAt b start k + p.lasts b k →
      Course s p b start clock.now (onError ⟨s.after q (k + 1), some p⟩ e)) :
    Course s p b start clock.now (RateClient.look ⟨s.after q (k + 1), some p⟩ clock q left wait
      (some (p.startsAt b start k + p.attemptTimeout)) onError) := by
  rw [RateClient.look]
  split
  · next hover =>
    obtain ⟨delay, hdelay, hle, hend⟩ := exists_delay_of_isOver hwait hnow hlate hover
    have hverdict := RetryPolicy.verdict_of_le hdelay hle
    rw [← RetryPolicy.lasts_of_le hdelay hle] at hend
    -- the attempt under way has been counted already
    have hanswer : RateProvider.answer (s.after q (k + 1)) q
        = (s.after q (k + 1), b.outcome k) := by
      have hcalls : (s.after q (k + 1)).calls q - 1 = s.calls q + k := by
        rw [Script.calls_after]
        omega
      show (s.after q (k + 1), s.answers q ((s.after q (k + 1)).calls q - 1)) = _
      rw [hcalls, hs.answers]
    rw [hanswer]
    cases houtcome : b.outcome k with
    | ok a =>
        rw [hend]
        exact .recovered (by omega) hfails (hverdict.trans houtcome)
    | error e => exact honError e (hverdict.trans houtcome) hend
  · next hnot =>
    split
    · next hover =>
      obtain ⟨hverdict, hend⟩ := verdict_of_limit hwait hlate hnot (of_decide_eq_true hover)
      exact honError _ hverdict hend
    · refine .calling hk hfails hwait ?_ hnow hlate
      rintro rfl
      exact hnot rfl

/-- The pause in front of an attempt, if that attempt is a course. -/
lemma Course.pause (hk : k + 1 + left + 1 = p.attempts) (hfails : p.FailsBefore b (k + 1))
    (hend : clock.now = p.startsAt b start k + p.lasts b k)
    {next : RateClient Script → Step Script q}
    (hnext : clock.now = p.startsAt b start (k + 1) →
      Course s p b start clock.now (next ⟨s.after q (k + 1), some p⟩)) :
    Course s p b start clock.now
      (RateClient.pause ⟨s.after q (k + 1), some p⟩ clock q left next) := by
  have hwake : Clock.sleepEnd clock.now p.backoff = p.startsAt b start (k + 1) := by
    rw [Clock.sleepEnd, RetryPolicy.startsAt_succ, ← hend, RetryPolicy.pause]
  have hle : clock.now ≤ p.startsAt b start (k + 1) := by
    rw [← hwake, Clock.sleepEnd]
    omega
  rw [RateClient.pause, show RateClient.backoff ⟨s.after q (k + 1), some p⟩ = p.backoff from rfl,
    hwake]
  split
  · next hrung =>
    have hrung' : p.startsAt b start (k + 1) ≤ clock.rung := of_decide_eq_true hrung
    exact hnext (hle.antisymm (hrung'.trans clock.rung_le_now))
  · exact .resting hk hfails hle

/-- What follows a failed attempt, if the attempts that are left are a course. -/
lemma Course.afterError (hk : k + left + 1 = p.attempts) (hfails : p.FailsBefore b k)
    {e : RateError} (he : p.verdict b k = .error e)
    (hend : clock.now = p.startsAt b start k + p.lasts b k)
    (hpursue : ∀ fewer, left = fewer + 1 → clock.now = p.startsAt b start (k + 1) →
      Course s p b start clock.now
        (RateClient.pursue clock q fewer ⟨s.after q (k + 1), some p⟩)) :
    Course s p b start clock.now
      (RateClient.afterError clock q left ⟨s.after q (k + 1), some p⟩ e) := by
  cases left with
  | zero =>
      rw [hend]
      exact .exhausted hk hfails he
  | succ fewer => exact .pause (by omega) (hfails.succ he) hend (hpursue fewer rfl)

/-- An attempt asks once and is looked at. -/
lemma attempt_after (onError : RateClient Script → RateError → Step Script q) :
    RateClient.attempt ⟨s.after q k, some p⟩ clock q left onError
      = RateClient.look ⟨s.after q (k + 1), some p⟩ clock q left
          (s.waits q (s.calls q + k) clock.now) (some (clock.now + p.attemptTimeout)) onError := by
  have hask : RateProvider.ask (s.after q k) clock.now q
      = (s.after q (k + 1), s.waits q (s.calls q + k) clock.now) := by
    show ((s.after q k).count q, s.waits q ((s.after q k).calls q) clock.now) = _
    rw [Script.count_after, Script.calls_after]
  rw [attempt, hask]
  rfl

/-- The attempts from the present one on. -/
lemma Course.pursue (hs : s.Behaves b) (hk : k + left + 1 = p.attempts)
    (hfails : p.FailsBefore b k) (hnow : clock.now = p.startsAt b start k) :
    Course s p b start clock.now (RateClient.pursue clock q left ⟨s.after q k, some p⟩) := by
  induction left using Nat.strong_induction_on generalizing k with
  | _ left ih =>
      have hwait : (s.waits q (s.calls q + k) clock.now).Lasts (p.startsAt b start k)
          (b.delay k) := by
        rw [← hnow]
        exact hs.waits k clock.now
      rw [pursue_eq, attempt_after,
        show clock.now + p.attemptTimeout = p.startsAt b start k + p.attemptTimeout by rw [hnow]]
      refine .look hs hk hfails hwait hnow.ge (by omega) fun e he hend => ?_
      exact .afterError hk hfails he hend fun fewer hfewer hnext =>
        ih fewer (by omega) (by omega) (hfails.succ he) hnext

/-- The first turn of a fetch. -/
lemma Course.fetch (hs : s.Behaves b) (clock : Clock) :
    Course s p b clock.now clock.now (RateClient.fetch ⟨s, some p⟩ clock q) := by
  have hpos := p.attempts_pos
  have hnow : clock.now = p.startsAt b clock.now 0 := by simp [RetryPolicy.startsAt]
  rw [RateClient.fetch, show RateClient.attemptsLeft ⟨s, some p⟩ = p.attempts - 1 from rfl]
  have hfirst : Course s p b clock.now clock.now
      (RateClient.pursue clock q (p.attempts - 1) ⟨s.after q 0, some p⟩) :=
    .pursue hs (by omega) (fun i hi => absurd hi (Nat.not_lt_zero i)) hnow
  rwa [Script.after_zero] at hfirst

/-- An attempt that is under way wakes the fetch when it ends. -/
lemma wakesAt_calling (hwait : wait.Lasts (p.startsAt b start k) (b.delay k))
    (hsome : wait ≠ .nothing) :
    (Fetch.calling left wait (some (p.startsAt b start k + p.attemptTimeout))).wakesAt
      = some (p.startsAt b start k + p.lasts b k) := by
  rw [Fetch.wakesAt, RetryPolicy.lasts]
  cases hdelay : b.delay k with
  | none =>
      rw [hdelay] at hwait
      obtain rfl : wait = .forever := hwait
      rfl
  | some delay =>
      rw [hdelay] at hwait
      rcases hwait with rfl | ⟨-, rfl⟩
      · exact congrArg some (Nat.add_min_add_left _ _ _)
      · exact absurd rfl hsome

/-- **Any further turn**, if it comes in time. -/
theorem Course.resume (hs : s.Behaves b) {c : RateClient Script} {fetch : Fetch}
    (h : Course s p b start now (c, .waiting fetch)) (hlater : now ≤ clock.now)
    (htimely : ∀ wake, fetch.wakesAt = some wake → clock.now ≤ wake) :
    Course s p b start clock.now (c.resume clock q fetch) := by
  cases h with
  | @calling k left _ wait hk hfails hwait hsome hnow hlate =>
      have hle := htimely _ (wakesAt_calling hwait hsome)
      refine .look hs hk hfails hwait (hnow.trans hlater) hle fun e he hend => ?_
      exact .afterError hk hfails he hend fun fewer hfewer hnext =>
        .pursue hs (by omega) (hfails.succ he) hnext
  | @resting k left _ hk hfails hnow =>
      have hle := htimely _ rfl
      rw [RateClient.resume]
      split
      · next hrung =>
        have hrung' : p.startsAt b start k ≤ clock.rung := of_decide_eq_true hrung
        exact .pursue hs hk hfails (hle.antisymm (hrung'.trans clock.rung_le_now))
      · exact .resting hk hfails hle

/-- The end of a fetch is on its course. -/
theorem Course.endsWith (hs : s.Behaves b) {c : RateClient Script}
    {result : Except RateError q.Answer} {instant : ℕ} (h : Course s p b start now step)
    (hends : EndsWith q now step c result instant) :
    Course s p b start instant (c, .done result) := by
  -- on the turns up to the end
  induction hends with
  | done => exact h
  | waiting hlater htimely _ ih => exact ih (h.resume hs hlater htimely)

/-- A fetch on its course wakes at some time. -/
lemma Course.exists_wakesAt {c : RateClient Script} {fetch : Fetch}
    (h : Course s p b start now (c, .waiting fetch)) :
    ∃ wake, fetch.wakesAt = some wake ∧ now ≤ wake := by
  cases h with
  | calling _ _ hwait hsome _ hlate => exact ⟨_, wakesAt_calling hwait hsome, hlate⟩
  | resting _ _ hnow => exact ⟨_, rfl, hnow⟩

/-- A fetch on its course comes to an end. -/
theorem Course.exists_endsWith (hs : s.Behaves b) (h : Course s p b start now step) :
    ∃ c result instant, EndsWith q now step c result instant := by
  obtain ⟨c, turn⟩ := step
  cases turn with
  | done result => exact ⟨c, result, now, .done⟩
  | waiting fetch =>
      -- each turn at the right time leaves fewer turns
      induction hrank : fetch.rank using Nat.strong_induction_on generalizing now c fetch with
      | _ rank ih =>
          obtain ⟨wake, hwake, hnow⟩ := h.exists_wakesAt
          have htimely : ∀ wake', fetch.wakesAt = some wake' → (Clock.atRest wake).now ≤ wake' :=
            fun wake' hwake' => (Option.some.inj (hwake.symm.trans hwake')).le
          have hnext : Course s p b start wake (c.resume (.atRest wake) q fetch) :=
            h.resume hs hnow htimely
          have hlower := ranksBelow_resume (q := q) hwake c
          cases hresume : c.resume (.atRest wake) q fetch with
          | mk c' turn =>
              rw [hresume] at hnext hlower
              cases turn with
              | done result => exact ⟨c', result, wake, .waiting hnow htimely (hresume ▸ .done)⟩
              | waiting fetch' =>
                  obtain ⟨c'', result, instant, hends⟩ :=
                    ih fetch'.rank (hrank ▸ hlower fetch' rfl) c' fetch' hnext rfl
                  exact ⟨c'', result, instant, .waiting hnow htimely (hresume ▸ hends)⟩

/-- The end of a course is that which the policy says. -/
lemma Course.honours {c : RateClient Script} {result : Except RateError q.Answer}
    (h : Course s p b start now (c, .done result)) :
    ∃ calls, c = ⟨s.after q calls, some p⟩ ∧ p.Honours p.pause b start calls result now := by
  cases h with
  | @recovered k a hk hfails ha =>
      refine ⟨k + 1, rfl, fun {k' delay a'} hk' hfails' hdelay hle ha' => ?_, fun hall _ => ?_⟩
      · have hverdict' := (RetryPolicy.verdict_of_le hdelay hle).trans ha'
        -- there is one first attempt that succeeds
        obtain rfl : k = k' := by
          rcases Nat.lt_trichotomy k k' with hlt | rfl | hlt
          · exact absurd ha (hfails' k hlt a)
          · rfl
          · exact absurd hverdict' (hfails k' hlt a')
        obtain rfl := Except.ok.inj (ha.symm.trans hverdict')
        refine ⟨rfl, rfl, ?_⟩
        rw [RetryPolicy.startsAt, RetryPolicy.lasts_of_le hdelay hle]
        omega
      · exact absurd ha (hall k hk a)
  | @exhausted k e hk hfails he =>
      refine ⟨k + 1, rfl, fun {k' delay a'} hk' _ hdelay hle ha' => ?_, fun {last} _ hlast => ?_⟩
      · have hverdict' := (RetryPolicy.verdict_of_le hdelay hle).trans ha'
        exact absurd hverdict' (hfails.succ he k' (by omega) a')
      · obtain rfl : k = p.attempts - 1 := by omega
        obtain rfl := Except.error.inj (he.symm.trans hlast)
        refine ⟨rfl, hk, ?_⟩
        rw [← hk, Finset.sum_range_succ, RetryPolicy.startsAt, Nat.add_sub_cancel]
        omega

end Course

/-- **Repeated calls**: whatever the calls of a source come to, a fetch comes to an end, and every
end is that which its policy says, where the pause between attempts is no longer than the longest
sleep. -/
theorem honours_fetch (p : RetryPolicy) {s : Script} {b : Behaviour q} (hs : s.Behaves b)
    (clock : Clock) :
    (∃ c result instant,
      EndsWith q clock.now (fetch ⟨s, some p⟩ clock q) c result instant) ∧
    ∀ c result instant, EndsWith q clock.now (fetch ⟨s, some p⟩ clock q) c result instant →
      ∃ calls, c = ⟨s.after q calls, some p⟩ ∧
        p.Honours p.pause b clock.now calls result instant :=
  ⟨(Course.fetch hs clock).exists_endsWith hs,
    fun _ _ _ hends => ((Course.fetch hs clock).endsWith hs hends).honours⟩

/-- The first call is answered after 15 milliseconds, when it has been given up, the second at the
last moment. -/
theorem honours_fetch_second :
    let b : Behaviour (.pair ⟨.usd, .eur⟩) :=
      ⟨fun i => some (if i = 0 then 15 else 10), fun _ => .ok .zero⟩
    b.script.Behaves b ∧ ∃ c instant,
      EndsWith (.pair ⟨.usd, .eur⟩) 3
        (fetch ⟨b.script, some ⟨2, 10, 5⟩⟩ (.atRest 3) (.pair ⟨.usd, .eur⟩)) c (.ok .zero) instant ∧
        c.provider.calls (.pair ⟨.usd, .eur⟩) = 2 ∧ instant = 28 := by
  intro b
  obtain ⟨⟨c, result, instant, hends⟩, hall⟩ :=
    honours_fetch ⟨2, 10, 5⟩ b.behaves_script (.atRest 3)
  obtain ⟨calls, rfl, hhonours⟩ := hall c result instant hends
  have hfails : RetryPolicy.FailsBefore ⟨2, 10, 5⟩ b 1 := fun i hi => by
    obtain rfl : i = 0 := by omega
    simp [RetryPolicy.verdict, b]
  obtain ⟨rfl, rfl, rfl⟩ := hhonours.recovered (by decide) hfails rfl le_rfl rfl
  exact ⟨b.behaves_script, _, _, hends, rfl, rfl⟩

/-- The first call fails at once and the second succeeds, but a pause of more than thirty years in
between ends too early. -/
theorem not_honours_backoff :
    let p : RetryPolicy := ⟨2, 10, Clock.longestSleep + 1⟩
    let b : Behaviour .table :=
      ⟨fun _ => some 0, fun i => if i = 0 then .error (.provider .injected) else .ok .empty⟩
    b.script.Behaves b ∧ ¬ ∀ c result instant,
      EndsWith .table 0 (fetch ⟨b.script, some p⟩ (.atRest 0) .table) c result instant →
        ∃ calls, c = ⟨b.script.after .table calls, some p⟩ ∧
          p.Honours p.backoff b 0 calls result instant := by
  intro p b
  refine ⟨b.behaves_script, fun hall => ?_⟩
  have hcourse : Course b.script p b 0 0 (fetch ⟨b.script, some p⟩ (.atRest 0) .table) :=
    .fetch b.behaves_script (.atRest 0)
  obtain ⟨c, result, instant, hends⟩ := hcourse.exists_endsWith b.behaves_script
  obtain ⟨_, -, hpause⟩ := (hcourse.endsWith b.behaves_script hends).honours
  obtain ⟨_, -, hbackoff⟩ := hall c result instant hends
  have hfails : p.FailsBefore b 1 := fun i hi => by
    obtain rfl : i = 0 := by omega
    simp [RetryPolicy.verdict, p, b]
  obtain ⟨-, -, hinstant⟩ := hpause.recovered (by decide) hfails rfl (by decide) rfl
  obtain ⟨-, -, hinstant'⟩ := hbackoff.recovered (by decide) hfails rfl (by decide) rfl
  have hne : p.pause ≠ p.backoff := by decide
  omega

end RateClient

end Teller
