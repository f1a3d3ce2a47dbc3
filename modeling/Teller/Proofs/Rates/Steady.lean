/-
Sources that answer at once, and always alike.

* `RateProvider.IsSteady`: whatever has been asked before, a question about a pair is answered
  without a wait, and by the same rate or error;
* `RateClient.IsSteady`: the same of a client; `RateClient.isSteady_isPlain` says that it is so if
  its source is steady and calls are not repeated;
* `RateCache.IsSteady`: a cache of such a client stores no other rates than those; `IsSteady.read`
  and `IsSteady.resume` say that reads keep this, and `IsSteady.read_pair` that it makes no
  difference what is stored.
-/
import Teller.Proofs.Rates.Consulting

namespace Teller

/-- As long as a source is in one of these states it answers questions about pairs at once, and
always alike. -/
structure RateProvider.IsSteady {σ : Type} [RateProvider σ] (states : σ → Prop)
    (rate : CurrencyPair → Except RateError Decimal) : Prop where
  ask {p : σ} (now : ℕ) (q : RateQuery) : states p → states (ask p now q).1
  answer {p : σ} (q : RateQuery) : states p → states (answer p q).1
  atOnce {p : σ} (now : ℕ) (pair : CurrencyPair) :
    states p → (RateProvider.ask p now (.pair pair)).2 = .nothing
  alike {p : σ} (pair : CurrencyPair) :
    states p → (RateProvider.answer p (.pair pair)).2 = rate pair

/-- A good answer to a question about a pair is its rate. -/
def RateQuery.Agrees (rate : CurrencyPair → Except RateError Decimal) :
    (q : RateQuery) → q.Answer → Prop
  | table, _ => True
  | pair p, a => rate p = .ok a

variable {σ : Type} {states : σ → Prop} {rate : CurrencyPair → Except RateError Decimal}

/-! ### Clients -/

namespace RateClient

/-- As long as a client is in one of these states it answers questions about pairs at once, and
always alike. -/
structure IsSteady [RateProvider σ] (states : RateClient σ → Prop)
    (rate : CurrencyPair → Except RateError Decimal) : Prop where
  fetch {c : RateClient σ} (clock : Clock) (q : RateQuery) : states c → states (c.fetch clock q).1
  resume {c : RateClient σ} (clock : Clock) (q : RateQuery) (fetch : Fetch) :
    states c → states (c.resume clock q fetch).1
  atOnce {c : RateClient σ} (clock : Clock) (pair : CurrencyPair) :
    states c → (c.fetch clock (.pair pair)).2 = .done (rate pair)
  alike {c : RateClient σ} (clock : Clock) {pair : CurrencyPair} (fetch : Fetch) {a : Decimal} :
    states c → (c.resume clock (.pair pair) fetch).2 = .done (.ok a) → rate pair = .ok a

/-- The source of a client is in one of these states, and its calls are not repeated. -/
structure IsPlain (states : σ → Prop) (c : RateClient σ) : Prop where
  provider : states c.provider
  retry : c.retry = none

variable {c : RateClient σ} {q : RateQuery} {left : ℕ}

/-- A turn of a fetch leaves the client like that, and ends well with the rate only. -/
structure Keeps (states : σ → Prop) (rate : CurrencyPair → Except RateError Decimal)
    (step : Step σ q) : Prop where
  client : step.1.IsPlain states
  agrees {a : q.Answer} : step.2 = .done (.ok a) → q.Agrees rate a

lemma IsPlain.keeps_waiting (h : c.IsPlain states) (fetch : Fetch) :
    Keeps (q := q) states rate (c, .waiting fetch) :=
  ⟨h, by simp⟩

lemma IsPlain.keeps_giveUp (h : c.IsPlain states) (e : RateError) :
    Keeps states rate (giveUp q c e) :=
  ⟨h, by simp [giveUp]⟩

lemma IsPlain.keeps_pause (h : c.IsPlain states) (clock : Clock) {next : RateClient σ → Step σ q}
    (hnext : ∀ {c}, IsPlain states c → Keeps states rate (next c)) :
    Keeps states rate (c.pause clock q left next) := by
  simp only [pause]
  split
  · exact hnext h
  · exact h.keeps_waiting _

variable [RateProvider σ] (hp : RateProvider.IsSteady states rate)

include hp

lemma IsPlain.keeps_look (h : c.IsPlain states) (clock : Clock) (wait : Wait) (limit : Option ℕ)
    {onError : RateClient σ → RateError → Step σ q}
    (hnext : ∀ {c} e, IsPlain states c → Keeps states rate (onError c e)) :
    Keeps states rate (c.look clock q left wait limit onError) := by
  rw [look]
  split
  · have hafter := hp.answer q h.provider
    have hagrees : ∀ a, (RateProvider.answer c.provider q).2 = .ok a → q.Agrees rate a := by
      intro a ha
      cases q with
      | table => trivial
      | pair pair => exact (hp.alike pair h.provider).symm.trans ha
    cases hanswer : RateProvider.answer c.provider q with
    | mk provider result =>
        rw [hanswer] at hafter hagrees
        cases result with
        | ok a =>
            refine ⟨⟨hafter, h.retry⟩, fun {a'} ha => hagrees a' ?_⟩
            exact congrArg _ (Except.ok.inj (Turn.done.inj ha))
        | error e => exact hnext e ⟨hafter, h.retry⟩
  · split
    · exact hnext _ h
    · exact h.keeps_waiting _

lemma IsPlain.keeps_attempt (h : c.IsPlain states) (clock : Clock)
    {onError : RateClient σ → RateError → Step σ q}
    (hnext : ∀ {c} e, IsPlain states c → Keeps states rate (onError c e)) :
    Keeps states rate (c.attempt clock q left onError) := by
  have hasked : IsPlain states { c with provider := (RateProvider.ask c.provider clock.now q).1 } :=
    ⟨hp.ask clock.now q h.provider, h.retry⟩
  rw [attempt]
  exact hasked.keeps_look hp clock _ _ hnext

lemma IsPlain.keeps_pursue (h : c.IsPlain states) (clock : Clock) (q : RateQuery) (left : ℕ) :
    Keeps states rate (pursue clock q left c) := by
  induction left generalizing c with
  | zero => exact h.keeps_attempt hp clock fun e h => h.keeps_giveUp e
  | succ left ih => exact h.keeps_attempt hp clock fun _ h => h.keeps_pause clock ih

/-- What the first turn of a fetch keeps. -/
lemma IsPlain.keeps_fetch (h : c.IsPlain states) (clock : Clock) (q : RateQuery) :
    Keeps states rate (c.fetch clock q) :=
  h.keeps_pursue hp clock q _

/-- What any other turn of a fetch keeps. -/
lemma IsPlain.keeps_resume (h : c.IsPlain states) (clock : Clock) (q : RateQuery)
    (fetch : Fetch) : Keeps states rate (c.resume clock q fetch) := by
  cases fetch with
  | calling left wait limit =>
      refine h.keeps_look hp clock wait limit fun {c} e hc => ?_
      cases left with
      | zero => exact hc.keeps_giveUp e
      | succ left => exact hc.keeps_pause clock fun hc => hc.keeps_pursue hp clock q left
  | resting left wakeAt =>
      rw [resume]
      split
      · exact h.keeps_pursue hp clock q left
      · exact h.keeps_waiting _

/-- A question about a pair is answered in its first turn. -/
lemma IsPlain.fetch_pair (h : c.IsPlain states) (clock : Clock) (pair : CurrencyPair) :
    (c.fetch clock (.pair pair)).2 = .done (rate pair) := by
  obtain ⟨provider, retry⟩ := c
  obtain rfl : retry = none := h.retry
  have hatOnce := hp.atOnce clock.now pair h.provider
  have hanswer := hp.alike pair (hp.ask clock.now (.pair pair) h.provider)
  show (attempt _ clock (.pair pair) 0 (giveUp _)).2 = _
  cases hask : RateProvider.ask provider clock.now (.pair pair) with
  | mk asked wait =>
      rw [hask] at hanswer
      obtain rfl : wait = .nothing := (congrArg Prod.snd hask).symm.trans hatOnce
      simp only [attempt, hask, look, Wait.isOver, if_true]
      cases hresult : RateProvider.answer asked (.pair pair) with
      | mk after result =>
          obtain rfl : result = rate pair := (congrArg Prod.snd hresult).symm.trans hanswer
          cases rate pair <;> rfl

/-- A client of a steady source, whose calls are not repeated, is steady. -/
theorem isSteady_isPlain : IsSteady (IsPlain states) rate where
  fetch clock q h := (h.keeps_fetch hp clock q).client
  resume clock q fetch h := (h.keeps_resume hp clock q fetch).client
  atOnce clock pair h := h.fetch_pair hp clock pair
  alike clock _ fetch _ h hresult := (h.keeps_resume hp clock _ fetch).agrees hresult

end RateClient

/-! ### Caches -/

namespace RateCache

variable {states : RateClient σ → Prop}

/-- The client of a cache is in one of these states, and the cache stores no other rates than
those. -/
structure IsSteady (states : RateClient σ → Prop) (rate : CurrencyPair → Except RateError Decimal)
    (c : RateCache σ) : Prop where
  client : states c.client
  stored {q : RateQuery} {s : Slot q.Answer} : c.slot q = some s →
    q.Agrees rate s.answer.value ∧ q.IsPositive s.answer.value

variable {c : RateCache σ}

lemma isSteady_empty {client : RateClient σ} (h : states client) (ttl : ℕ) :
    (RateCache.empty client ttl).IsSteady states rate where
  client := h
  stored := by simp [RateCache.empty]

/-- A turn keeps a cache steady if it keeps its client so, and ends well with the rate only. -/
lemma IsSteady.follows (h : c.IsSteady states rate) {now : ℕ} {q : RateQuery}
    {step : RateClient.Step σ q} (hclient : states step.1)
    (hagrees : ∀ {a}, step.2 = .done (.ok a) → q.Agrees rate a) {c' : RateCache σ}
    {turn : Turn Fetch (Except RateError (Observed q.Answer))}
    (hfollows : c.Follows now q step c' turn) : c'.IsSteady states rate where
  client := hfollows.client ▸ hclient
  stored {other s} hslot := by
    by_cases hq : other = q
    · subst hq
      rw [hfollows.slot_self] at hslot
      rcases turn with fetch | (e | seen)
      · exact h.stored hslot
      · exact h.stored hslot
      · obtain rfl := Option.some.inj hslot
        have hturn := hfollows.turn_eq.symm
        split at hturn
        · simp at hturn
        · next result hresult =>
          obtain ⟨rfl, hpositive, -⟩ := eq_ok_of_verdict (Turn.done.inj hturn)
          exact ⟨hagrees hresult, hpositive⟩
    · exact h.stored ((hfollows.slot_of_ne hq).symm.trans hslot)

variable [RateProvider σ] (hc : RateClient.IsSteady states rate)

include hc

/-- Reads keep a cache steady. -/
theorem IsSteady.read (h : c.IsSteady states rate) (clock : Clock) (q : RateQuery) :
    (c.read clock q).1.IsSteady states rate := by
  cases hserved : c.served? clock.now q with
  | some a =>
      rw [read_of_served hserved]
      exact ⟨h.client, h.stored⟩
  | none =>
      refine h.follows (hc.fetch clock q h.client) (fun {a} hresult => ?_) (follows_read hserved)
      cases q with
      | table => trivial
      | pair pair => exact Turn.done.inj ((hc.atOnce clock pair h.client).symm.trans hresult)

theorem IsSteady.resume (h : c.IsSteady states rate) (clock : Clock) (q : RateQuery)
    (fetch : Fetch) : (c.resume clock q fetch).1.IsSteady states rate := by
  refine h.follows (hc.resume clock q fetch h.client) (fun {a} hresult => ?_)
    (follows_afterStep ..)
  cases q with
  | table => trivial
  | pair pair => exact hc.alike clock fetch h.client hresult

/-- Whatever is stored, a pair is read in one turn, and always alike but for when it was
observed. -/
theorem IsSteady.read_pair (h : c.IsSteady states rate) (clock : Clock) (pair : CurrencyPair) :
    (timeless (c.read clock (.pair pair))).2 = .done (verdict (q := .pair pair) (rate pair)) := by
  cases hserved : c.served? clock.now (.pair pair) with
  | some seen =>
      obtain ⟨s, hslot, -, rfl⟩ := served?_eq_some.mp hserved
      obtain ⟨hagrees, hpositive⟩ := h.stored hslot
      rw [read_of_served hserved, show rate pair = .ok s.answer.value from hagrees,
        verdict_of_isPositive hpositive]
      rfl
  | none =>
      have hturn := (follows_read hserved).turn_eq
      rw [hc.atOnce clock pair h.client] at hturn
      rw [timeless_eq_done hturn, map_value_ofEpochMillis]

end RateCache

/-! ### Rates that are set by hand -/

namespace SimulatedProvider

/-- No call is made to fail or to wait, and these are the rates of pairs. -/
structure Quotes (pairs : CurrencyPair → Option Decimal) (p : SimulatedProvider) : Prop where
  failuresLeft : p.failuresLeft = 0
  delay : p.delay = none
  pairs : p.pairs = pairs

/-- A source on which nothing is set but its rates is steady. -/
theorem isSteady_quotes (pairs : CurrencyPair → Option Decimal) :
    RateProvider.IsSteady (Quotes pairs) fun pair =>
      match pairs pair with
      | some rate => .ok rate
      | none => .error (.notAvailable pair) where
  ask now q h := by cases q <;> exact ⟨h.failuresLeft, h.delay, h.pairs⟩
  answer q h := by
    simp only [RateProvider.answer, h.failuresLeft]
    exact h
  atOnce now pair h := by simp only [RateProvider.ask, h.delay, Wait.sleep]
  alike {p} pair h := by
    have hpair : p.pairs pair = pairs pair := congrFun h.pairs pair
    cases hrate : pairs pair <;> simp [RateProvider.answer, h.failuresLeft, find, hpair, hrate]

end SimulatedProvider

end Teller
