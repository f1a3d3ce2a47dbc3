/-
What operations on wallets give.

* `ExchangeReceipt`: the two sides of an exchange, its rate and the balances after it;
* `IntegrityReport`: balances beside the sums of the journal, and the currencies in which the two
  differ.
-/
import Teller.Snapshot

namespace Teller

/-- The receipt of an exchange. -/
structure ExchangeReceipt where
  snapshot : WalletSnapshot
  rate : Decimal
  source : Money
  target : Money
  message : String
  deriving DecidableEq

/-- The receipt with its message. -/
def ExchangeReceipt.of (snapshot : WalletSnapshot) (rate : Decimal) (source target : Money) :
    ExchangeReceipt :=
  ⟨snapshot, rate, source, target, s!"Exchanged {source} for {target} at rate {rate}"⟩

instance : Json.Coding ExchangeReceipt where
  encode r := .object [
    ("snapshot", Json.Coding.encode r.snapshot),
    ("rate", Json.Coding.encode r.rate),
    ("source", Json.Coding.encode r.source),
    ("target", Json.Coding.encode r.target),
    ("message", Json.Coding.encode r.message)]
  decode? value :=
    match Json.fields? ["snapshot", "rate", "source", "target", "message"] value with
    | some [snapshot, rate, source, target, message] => do
      let snapshot ← Json.required? snapshot
      let rate ← Json.required? rate
      let source ← Json.required? source
      let target ← Json.required? target
      let message ← Json.required? message
      return ⟨snapshot, rate, source, target, message⟩
    | _ => none

/-- The balances of an account beside the sums of its journal. -/
structure IntegrityReport where
  account : AccountId
  balances : Balances
  audited : Balances
  mismatches : List Currency
  deriving DecidableEq

namespace IntegrityReport

/-- The report: first the currencies whose balance differs from their sum, where no sum counts as
zero, then those with a sum and no balance. -/
def of (account : AccountId) (balances audited : Balances) : IntegrityReport :=
  let differing := balances.toList.filter fun (currency, balance) =>
    !((audited.get? currency).getD .zero).SameValue balance
  let unbacked := audited.toList.filter fun (currency, _) => (balances.get? currency).isNone
  ⟨account, balances, audited, (differing ++ unbacked).map (·.1)⟩

/-- Does no currency differ? -/
def isConsistent (r : IntegrityReport) : Bool := r.mismatches.isEmpty

end IntegrityReport

instance : Json.Coding IntegrityReport where
  encode r := .object [
    ("account_id", Json.Coding.encode r.account),
    ("balances", Json.Coding.encode r.balances),
    ("audited", Json.Coding.encode r.audited),
    ("mismatches", Json.Coding.encode r.mismatches)]
  decode? value :=
    match Json.fields? ["account_id", "balances", "audited", "mismatches"] value with
    | some [account, balances, audited, mismatches] => do
      let account ← Json.required? account
      let balances ← Json.required? balances
      let audited ← Json.required? audited
      let mismatches ← Json.required? mismatches
      return ⟨account, balances, audited, mismatches⟩
    | _ => none

end Teller
