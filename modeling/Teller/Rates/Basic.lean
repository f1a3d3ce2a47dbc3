/-
Rates: what can be asked about them, why they cannot be given, and amounts converted at them.

* `RateError`: the causes, and `RateError.message`, the wording of each; `RateError.toLedgerError`
  is the same failure as an operation on wallets reports it;
* `RateQuery`: what can be asked, and `RateQuery.Answer`, the type of what is answered;
* `Observed`: an answer with the instant at which it was observed;
* `RateQuery.fault?`: why an answer is refused; a rate must be above zero;
* `PairQuote.convert`: the product of amount and rate, rounded to the target's smallest unit.
-/
import Teller.Money
import Teller.Text.Duration
import Teller.Timestamp

namespace Teller

/-! ### Errors -/

/-- What a provider complains of, or what its answer is refused for. -/
inductive ProviderTrouble where
  /-- The call was made to fail. -/
  | injected
  /-- The table holds a rate of zero or less. -/
  | nonPositive (currency : Currency) (rate : Decimal)
  /-- Anything else. -/
  | other (reason : String)
  deriving DecidableEq

/-- The wording of a provider's trouble. -/
def ProviderTrouble.message : ProviderTrouble → String
  | injected => "injected failure"
  | nonPositive currency rate => s!"non-positive rate {rate} for {currency}"
  | other reason => reason

/-- Why a rate cannot be given. -/
inductive RateError where
  | notAvailable (pair : CurrencyPair)
  | provider (trouble : ProviderTrouble)
  /-- A call took longer than the given time in nanoseconds. -/
  | timeout (nanos : Nat)
  | invalidRate (pair : CurrencyPair) (rate : Decimal)
  /-- So many attempts have failed, the last of them with the given error. -/
  | retriesExhausted (attempts : Nat) (last : RateError)
  deriving DecidableEq

namespace RateError

/-- The wording of an error. -/
def message : RateError → String
  | notAvailable pair => s!"Rate not available for {pair}"
  | provider trouble => "Rate provider error: " ++ trouble.message
  | timeout nanos => "Rate provider timed out after " ++ Text.durationText nanos
  | invalidRate pair rate => s!"Invalid rate {rate} for {pair}"
  | retriesExhausted attempts last =>
    s!"Rate provider failed after {attempts} attempts: " ++ last.message

/-- The failure of a rate as an operation on wallets reports it. -/
def toLedgerError (e : RateError) : LedgerError := .rateUnavailable e.message

end RateError

/-! ### Questions and answers -/

/-- A rate for each of some currencies. -/
abbrev RateTable := CurrencyMap Decimal

/-- A question about rates. -/
inductive RateQuery where
  /-- All rates that are known. -/
  | table
  /-- The rate of one pair. -/
  | pair (pair : CurrencyPair)
  deriving DecidableEq

namespace RateQuery

/-- What is answered to a question. -/
abbrev Answer : RateQuery → Type
  | table => RateTable
  | pair _ => Decimal

/-- Why an answer is refused: it holds a rate of zero or less. In a table the first such rate, in
the order of the currencies, is named. -/
def fault? : (q : RateQuery) → q.Answer → Option RateError
  | table, rates =>
    (CurrencyMap.toList rates).findSome? fun (currency, rate) =>
      if rate ≤ Decimal.zero then some (.provider (.nonPositive currency rate)) else none
  | pair p, rate => if rate ≤ Decimal.zero then some (.invalidRate p rate) else none

end RateQuery

/-- A value and the instant at which it was observed. -/
structure Observed (α : Type) where
  value : α
  observedAt : Timestamp
  deriving DecidableEq

namespace Observed

variable {α β : Type}

/-- Where the instant does not matter the value stands for itself. -/
instance : CoeOut (Observed α) α := ⟨value⟩

/-- A value that is observed so many milliseconds after the start of 1970. -/
def ofEpochMillis (millis : Nat) (value : α) : Observed α := ⟨value, .ofEpochMillis millis⟩

/-- Something else about the value, observed at the same instant. -/
def map (f : α → β) (o : Observed α) : Observed β := ⟨f o.value, o.observedAt⟩

end Observed

/-! ### Conversion -/

/-- The rate of a pair: one unit of the source costs so much of the target. Conversion does not ask
when it was observed, so that reads give it as an `Observed` one. -/
structure PairQuote where
  pair : CurrencyPair
  rate : Decimal
  deriving DecidableEq

/-- The amount in the target currency, rounded to its smallest unit. Only an amount of the source
currency can be converted, and only if the product stays in the range of decimals. -/
def PairQuote.convert (quote : PairQuote) (amount : Money) : Except LedgerError Money :=
  if amount.currency = quote.pair.source then
    match amount.value.mul? quote.rate with
    | some value => .ok (Money.round ⟨value, quote.pair.target⟩)
    | none =>
      .error (.validation
        (.conversionOverflow amount.value amount.currency quote.rate quote.pair.target))
  else
    .error (.validation (.wrongSource quote.pair amount.currency))

end Teller
