/-
The journal: what has been done to wallets, one record for each change.

* `TransactionRecord`: a change of one wallet; `signedAmount` is what it adds to the balance;
* `netBalances?`: for each currency the sum of the signed amounts, in the order of the records.
-/
import Teller.Json.Coding

namespace Teller

/-- A change of one wallet. A transfer names the wallet on its other side. -/
structure TransactionRecord where
  id : RecordId
  wallet : WalletId
  currency : Currency
  amount : Decimal
  direction : Direction
  kind : OperationKind
  counterparty : Option WalletId
  createdAt : Timestamp
  deriving DecidableEq

/-- What the record adds to the balance of its wallet. -/
def TransactionRecord.signedAmount (r : TransactionRecord) : Decimal :=
  r.direction.signed r.amount

/-- The sums with one more record, unless a sum leaves the range of decimals. -/
def addRecord? [Arithmetic] (net : Balances) (r : TransactionRecord) : Option Balances :=
  (Arithmetic.sum? ((net.get? r.currency).getD .zero) r.signedAmount).map (net.insert r.currency)

/-- For each currency that occurs the sum of the signed amounts, unless one leaves the range of
decimals on the way. -/
def netBalances? [Arithmetic] (records : List TransactionRecord) : Option Balances :=
  records.foldlM addRecord? .empty

instance : Json.Coding TransactionRecord where
  encode r := .object [
    ("id", Json.Coding.encode r.id),
    ("wallet_id", Json.Coding.encode r.wallet),
    ("currency", Json.Coding.encode r.currency),
    ("amount", Json.Coding.encode r.amount),
    ("direction", Json.Coding.encode r.direction),
    ("kind", Json.Coding.encode r.kind),
    ("counterparty_wallet_id", (r.counterparty.map Json.Coding.encode).getD .null),
    ("created_at", Json.Coding.encode r.createdAt)]
  decode? value :=
    match Json.fields? ["id", "wallet_id", "currency", "amount", "direction", "kind",
        "counterparty_wallet_id", "created_at"] value with
    | some [id, wallet, currency, amount, direction, kind, counterparty, createdAt] => do
      let id ← Json.required? id
      let wallet ← Json.required? wallet
      let currency ← Json.required? currency
      let amount ← Json.required? amount
      let direction ← Json.required? direction
      let kind ← Json.required? kind
      let counterparty ← Json.optional? counterparty
      let createdAt ← Json.required? createdAt
      return ⟨id, wallet, currency, amount, direction, kind, counterparty, createdAt⟩
    | _ => none

end Teller
