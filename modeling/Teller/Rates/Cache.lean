/-
A cache of rates in front of a client.

* `RateCache`: one slot for the table and one for each pair, and counters;
* `RateCache.read` and `RateCache.resume`: a read is served from a slot that has not expired, and
  else fetched, checked and stored with the instant;
* `RateCache.invalidate`: every slot is emptied.

An error is never answered from a slot, and never stored in one.
-/
import Teller.Rates.Fetch

namespace Teller

/-- A stored answer and the instant from which on it is no longer served. -/
structure Slot (α : Type) where
  answer : Observed α
  expiresAt : Nat

/-- The answer of a slot that has not expired. -/
def Slot.fresh? {α : Type} (s : Slot α) (now : Nat) : Option (Observed α) :=
  if now < s.expiresAt then some s.answer else none

/-- A cache in front of a client. -/
structure RateCache (σ : Type) where
  client : RateClient σ
  /-- How long an answer is served, in milliseconds. -/
  ttl : Nat
  slot : (q : RateQuery) → Option (Slot q.Answer)
  hits : Nat
  misses : Nat
  providerErrors : Nat

namespace RateCache

variable {σ : Type}

/-- Five seconds. -/
def standardTtl : Nat := 5000

/-- An empty cache. -/
def empty (client : RateClient σ) (ttl : Nat) : RateCache σ :=
  ⟨client, ttl, fun _ => none, 0, 0, 0⟩

/-- The cache with one slot filled. -/
def store (c : RateCache σ) (q : RateQuery) (s : Slot q.Answer) : RateCache σ :=
  { c with slot := fun other => if h : other = q then some (h ▸ s) else c.slot other }

/-- The cache with every slot emptied. -/
def invalidate (c : RateCache σ) : RateCache σ :=
  { c with slot := fun _ => none }

/-- The number of pairs whose slot is filled, expired or not. -/
def cachedPairs (c : RateCache σ) : Nat :=
  CurrencyPair.all.countP fun p => (c.slot (.pair p)).isSome

/-- The end of a read that had to fetch: a good answer counts as observed now, is stored and given,
and anything else is counted and given as an error. -/
def settle (c : RateCache σ) (now : Nat) (q : RateQuery) :
    Except RateError q.Answer → RateCache σ × Except RateError (Observed q.Answer)
  | .error e => ({ c with providerErrors := c.providerErrors + 1 }, .error e)
  | .ok a =>
    match q.fault? a with
    | some e => ({ c with providerErrors := c.providerErrors + 1 }, .error e)
    | none =>
      let seen := Observed.ofEpochMillis now a
      (c.store q ⟨seen, now + c.ttl⟩, .ok seen)

/-- The cache after a turn of a fetch. -/
def afterStep (c : RateCache σ) (clock : Clock) (q : RateQuery) (step : RateClient.Step σ q) :
    RateCache σ × Turn Fetch (Except RateError (Observed q.Answer)) :=
  let c := { c with client := step.1 }
  match step.2 with
  | .waiting fetch => (c, .waiting fetch)
  | .done result =>
    let settled := c.settle clock.now q result
    (settled.1, .done settled.2)

/-- A turn of a read for somebody who does not ask when the answer was observed. -/
def timeless {α : Type} : RateCache σ × Turn Fetch (Except RateError (Observed α)) →
    RateCache σ × Turn Fetch (Except RateError α)
  | (c, .waiting fetch) => (c, .waiting fetch)
  | (c, .done result) => (c, .done (result.map (·.value)))

variable [RateProvider σ]

/-- A read starts. -/
def read (c : RateCache σ) (clock : Clock) (q : RateQuery) :
    RateCache σ × Turn Fetch (Except RateError (Observed q.Answer)) :=
  match (c.slot q).bind fun s => s.fresh? clock.now with
  | some a => ({ c with hits := c.hits + 1 }, .done (.ok a))
  | none =>
    let c := { c with misses := c.misses + 1 }
    c.afterStep clock q (c.client.fetch clock q)

/-- A read goes on from where its fetch waits. -/
def resume (c : RateCache σ) (clock : Clock) (q : RateQuery) (fetch : Fetch) :
    RateCache σ × Turn Fetch (Except RateError (Observed q.Answer)) :=
  c.afterStep clock q (c.client.resume clock q fetch)

end RateCache

end Teller
