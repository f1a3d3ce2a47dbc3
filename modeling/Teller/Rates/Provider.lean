/-
Sources of rates.

* `RateProvider`: a state that answers questions, each answer after a time of its own;
* `SimulatedProvider`: rates set by hand, with failures and a delay on demand and with its calls
  counted.
-/
import Teller.Clock
import Teller.Rates.Basic

namespace Teller

/-- A source of rates, as a type of states. A call looks at the state twice: when it starts, to
find out what is waited for, and when it is answered. -/
class RateProvider (σ : Type) where
  /-- A call starts at the given instant, and is answered after the wait in the result. -/
  ask : σ → Nat → RateQuery → σ × Wait
  /-- The answer to a call whose wait is over. -/
  answer : σ → (q : RateQuery) → σ × Except RateError q.Answer

/-- Rates set by hand. -/
structure SimulatedProvider where
  name : String
  rates : RateTable
  pairs : CurrencyPair → Option Decimal
  /-- So many calls are still made to fail. -/
  failuresLeft : Nat
  /-- How long a call sleeps that starts now, if it does. -/
  delay : Option Nat
  tableCalls : Nat
  pairCalls : Nat

namespace SimulatedProvider

/-- A source without any rate. -/
def named (name : String) : SimulatedProvider := ⟨name, .empty, fun _ => none, 0, none, 0, 0⟩

/-- The source with one rate of its table replaced. -/
def setRate (p : SimulatedProvider) (currency : Currency) (rate : Decimal) : SimulatedProvider :=
  { p with rates := p.rates.insert currency rate }

/-- The source with the rate of one pair replaced. -/
def setPair (p : SimulatedProvider) (pair : CurrencyPair) (rate : Decimal) : SimulatedProvider :=
  { p with pairs := fun other => if other = pair then some rate else p.pairs other }

/-- The source after one more call has started. -/
def count (p : SimulatedProvider) : RateQuery → SimulatedProvider
  | .table => { p with tableCalls := p.tableCalls + 1 }
  | .pair _ => { p with pairCalls := p.pairCalls + 1 }

/-- What the source knows about a question. -/
def find (p : SimulatedProvider) : (q : RateQuery) → Except RateError q.Answer
  | .table => .ok p.rates
  | .pair pair =>
    match p.pairs pair with
    | some rate => .ok rate
    | none => .error (.notAvailable pair)

instance : RateProvider SimulatedProvider where
  ask p now q := (p.count q, .sleep now p.delay)
  answer p q :=
    match p.failuresLeft with
    | 0 => (p, p.find q)
    | left + 1 => ({ p with failuresLeft := left }, .error (.provider .injected))

end SimulatedProvider

end Teller
