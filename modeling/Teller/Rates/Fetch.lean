/-
Calls to a source of rates, repeated on failure.

* `RetryPolicy`: how often, how long and after what pause a call is tried;
* `Fetch`: the point at which a fetch waits, for an answer or for the end of a pause;
* `RateClient.fetch` and `RateClient.resume`: a fetch from its start to its result.

When the answer and the limit of its attempt come at the same time, the answer counts.
-/
import Teller.Rates.Provider
import Teller.Turn

namespace Teller

/-- How often a call is tried, how long an attempt may take, and the pause before the next one, both
in milliseconds. -/
structure RetryPolicy where
  maxAttempts : Nat
  attemptTimeout : Nat
  backoff : Nat
  deriving DecidableEq

/-- Three attempts of two seconds, a tenth of a second apart. -/
def RetryPolicy.standard : RetryPolicy := ⟨3, 2000, 100⟩

/-- The number of attempts: one at least. -/
def RetryPolicy.attempts (p : RetryPolicy) : Nat := max 1 p.maxAttempts

/-- Where a fetch waits; `left` attempts may follow the present one. -/
inductive Fetch where
  /-- An attempt is under way: it is answered after a wait, and given up at `limit`. -/
  | calling (left : Nat) (wait : Wait) (limit : Option Nat)
  /-- The next attempt starts at this instant. -/
  | resting (left : Nat) (wakeAt : Nat)
  deriving DecidableEq

/-- The instant at which a fetch goes on, if there is one. -/
def Fetch.wakesAt : Fetch → Option Nat
  | calling _ wait limit => earlier wait.instant? limit
  | resting _ wakeAt => some wakeAt

/-- A source of rates and how its calls are repeated, if they are. -/
structure RateClient (σ : Type) where
  provider : σ
  retry : Option RetryPolicy

namespace RateClient

variable {σ : Type} [RateProvider σ]

/-- A turn of a fetch, and the client after it. -/
abbrev Step (σ : Type) (q : RateQuery) : Type :=
  RateClient σ × Turn Fetch (Except RateError q.Answer)

/-- The number of attempts that may follow the first. -/
def attemptsLeft (c : RateClient σ) : Nat :=
  match c.retry with
  | some policy => policy.attempts - 1
  | none => 0

/-- The error of a fetch whose last attempt has failed. -/
def finalError (c : RateClient σ) (last : RateError) : RateError :=
  match c.retry with
  | some policy => .retriesExhausted policy.attempts last
  | none => last

/-- The pause between attempts. -/
def backoff (c : RateClient σ) : Nat :=
  match c.retry with
  | some policy => policy.backoff
  | none => 0

/-- The instant at which an attempt is given up that starts at an instant. -/
def limit (c : RateClient σ) (now : Nat) : Option Nat :=
  c.retry.map fun policy => now + policy.attemptTimeout

/-- The error of an attempt that took too long. -/
def timeoutError (c : RateClient σ) : RateError :=
  .timeout ((c.retry.map (·.attemptTimeout)).getD 0 * 10 ^ 6)

/-- An attempt is looked at: it is answered, given up, or waits on. What follows a failed attempt is
left to `onError`. -/
def look (c : RateClient σ) (clock : Clock) (q : RateQuery) (left : Nat) (wait : Wait)
    (limit : Option Nat) (onError : RateClient σ → RateError → Step σ q) : Step σ q :=
  if wait.isOver clock then
    match RateProvider.answer c.provider q with
    | (provider, .ok a) => ({ c with provider }, .done (.ok a))
    | (provider, .error e) => onError { c with provider } e
  else if clock.isOver limit then onError c c.timeoutError
  else (c, .waiting (.calling left wait limit))

/-- An attempt starts and is looked at once. -/
def attempt (c : RateClient σ) (clock : Clock) (q : RateQuery) (left : Nat)
    (onError : RateClient σ → RateError → Step σ q) : Step σ q :=
  match RateProvider.ask c.provider clock.now q with
  | (provider, wait) => look { c with provider } clock q left wait (c.limit clock.now) onError

/-- The end of a fetch whose last attempt has failed. -/
def giveUp (q : RateQuery) (c : RateClient σ) (e : RateError) : Step σ q :=
  (c, .done (.error (c.finalError e)))

/-- The pause in front of the last `left + 1` attempts, which are left to `next`. -/
def pause (c : RateClient σ) (clock : Clock) (q : RateQuery) (left : Nat)
    (next : RateClient σ → Step σ q) : Step σ q :=
  let wakeAt := Clock.sleepEnd clock.now c.backoff
  if clock.hasRung wakeAt then next c else (c, .waiting (.resting left wakeAt))

/-- Attempts are made until one has to be waited for, one succeeds, or none is left; `left` may
follow the first. -/
def pursue (clock : Clock) (q : RateQuery) : (left : Nat) → RateClient σ → Step σ q
  | 0, c => c.attempt clock q 0 (giveUp q)
  | left + 1, c =>
    c.attempt clock q (left + 1) fun c _ => c.pause clock q left (pursue clock q left)

/-- What follows a failed attempt after which `left` more may be made. -/
def afterError (clock : Clock) (q : RateQuery) :
    (left : Nat) → RateClient σ → RateError → Step σ q
  | 0, c, e => giveUp q c e
  | left + 1, c, _ => c.pause clock q left (pursue clock q left)

/-- A fetch starts. -/
def fetch (c : RateClient σ) (clock : Clock) (q : RateQuery) : Step σ q :=
  pursue clock q c.attemptsLeft c

/-- A fetch goes on from where it waits. -/
def resume (c : RateClient σ) (clock : Clock) (q : RateQuery) : Fetch → Step σ q
  | .calling left wait limit => c.look clock q left wait limit (afterError clock q left)
  | .resting left wakeAt =>
    if clock.hasRung wakeAt then pursue clock q left c else (c, .waiting (.resting left wakeAt))

end RateClient

end Teller
