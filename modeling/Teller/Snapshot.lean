/-
What an adjustment of a wallet shows.

* `WalletSnapshot`: the wallet that was adjusted and the balances of its account after that;
* `AdjustOutcome`: such a snapshot, or the refusal of a debit above the balance.
-/
import Teller.Json.Coding

namespace Teller

/-- A wallet and the balances of its account, as a transaction sees them. -/
structure WalletSnapshot where
  account : AccountId
  wallet : WalletId
  currency : Currency
  balances : Balances
  deriving DecidableEq

/-- The balance of the wallet. -/
def WalletSnapshot.balance (s : WalletSnapshot) : Decimal :=
  (s.balances.get? s.currency).getD .zero

/-- What became of an adjustment. -/
inductive AdjustOutcome where
  | applied (snapshot : WalletSnapshot)
  | insufficientFunds
  deriving DecidableEq

/-- Was the adjustment made? -/
def AdjustOutcome.isApplied : AdjustOutcome → Bool
  | applied _ => true
  | insufficientFunds => false

instance : Json.Coding WalletSnapshot where
  encode s := .object [
    ("account_id", Json.Coding.encode s.account),
    ("wallet_id", Json.Coding.encode s.wallet),
    ("currency", Json.Coding.encode s.currency),
    ("balances", Json.Coding.encode s.balances)]
  decode? value :=
    match Json.fields? ["account_id", "wallet_id", "currency", "balances"] value with
    | some [account, wallet, currency, balances] => do
      let account ← Json.required? account
      let wallet ← Json.required? wallet
      let currency ← Json.required? currency
      let balances ← Json.required? balances
      return ⟨account, wallet, currency, balances⟩
    | _ => none

end Teller
