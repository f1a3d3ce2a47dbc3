/-
The bank: a store, a cache of rates and a clock, and the calls that are made to it.

* `Bank`: the state that all calls share;
* `Request` and `Reply`: what is asked for and what is given;
* `Phase`: the points at which a call waits; `Phase.wakesAt` and `Phase.isReady` say for what;
* `Outcome`: the end of a call, with the trail of stages that it left.
-/
import Teller.Clock
import Teller.Rates.Cache
import Teller.Receipt
import Teller.Store.Transaction
import Teller.Store.Waiting

namespace Teller

/-- The amounts from which on notifications are sent. -/
structure Thresholds where
  /-- For deposits and withdrawals. -/
  deposit : Decimal
  /-- For exchanges, in the target currency. -/
  exchange : Decimal
  deriving DecidableEq

/-- One unit for a deposit or withdrawal, two for an exchange. -/
def Thresholds.standard : Thresholds where
  deposit := { Decimal.zero with mantissa := 1, mantissa_lt := by decide }
  exchange := { Decimal.zero with mantissa := 2, mantissa_lt := by decide }

/-- The state that all calls share. -/
structure Bank (σ : Type) where
  clock : Clock
  store : Store
  rates : RateCache σ
  thresholds : Thresholds

/-- What can be asked of a bank. -/
inductive Request where
  | openAccount (account : AccountId)
  | deposit (account : AccountId) (currency : Currency) (amount : Decimal)
  | withdraw (account : AccountId) (currency : Currency) (amount : Decimal)
  | exchange (account : AccountId) (source target : Currency) (amount : Decimal)
  | balance (account : AccountId)
  | rates
  | pairRate (source target : Currency)
  | history (account : AccountId)
  | verify (account : AccountId)
  deriving DecidableEq

/-- What a bank gives. -/
inductive Reply where
  | balances (balances : Balances)
  | snapshot (snapshot : WalletSnapshot)
  | receipt (receipt : ExchangeReceipt)
  | rates (rates : Observed RateTable)
  | quote (quote : Observed PairQuote)
  | records (records : List TransactionRecord)
  | report (report : IntegrityReport)
  deriving DecidableEq

/-- The end of a call. A mutation that came as far as its transaction leaves a trail. -/
structure Outcome where
  result : Except Failure Reply
  trail : Option Trail

/-- An exchange that has been priced and has a transaction. -/
structure Exchange where
  tx : TxId
  account : AccountId
  source : Money
  target : Money
  rate : Decimal
  deriving DecidableEq

/-- Where a call waits. -/
inductive Phase where
  /-- The wallets of a new account are added, row by row. -/
  | provisioning (wait : ProvisionWait)
  /-- A deposit or withdrawal waits for its row. -/
  | adjusting (trail : Trail) (money : Money) (wait : AdjustWait)
  /-- An exchange waits for its rate; nothing has been touched. -/
  | pricing (account : AccountId) (source : Money) (target : Currency) (fetch : Fetch)
  /-- An exchange waits for the row of its target. -/
  | crediting (trail : Trail) (exchange : Exchange) (wait : AdjustWait)
  /-- An exchange whose target has been credited waits for the row of its source. -/
  | debiting (trail : Trail) (exchange : Exchange) (credited : WalletSnapshot) (wait : AdjustWait)
  /-- The table of rates is fetched. -/
  | readingTable (fetch : Fetch)
  /-- The rate of a pair is fetched. -/
  | readingPair (pair : CurrencyPair) (fetch : Fetch)
  deriving DecidableEq

namespace Phase

/-- The row that a call waits for, if it waits for one. -/
def row? : Phase → Option RowWait
  | provisioning wait => some wait.row
  | adjusting _ _ wait => some wait.row
  | crediting _ _ wait => some wait.row
  | debiting _ _ _ wait => some wait.row
  | pricing .. => none
  | readingTable _ => none
  | readingPair .. => none

/-- The instant at which a call goes on whatever the others do, if there is one. -/
def wakesAt : Phase → Option Nat
  | provisioning wait => some wait.giveUpAt
  | adjusting _ _ wait => some wait.giveUpAt
  | crediting _ _ wait => some wait.giveUpAt
  | debiting _ _ _ wait => some wait.giveUpAt
  | pricing _ _ _ fetch => fetch.wakesAt
  | readingTable fetch => fetch.wakesAt
  | readingPair _ fetch => fetch.wakesAt

/-- Can the call go on now? -/
def isReady {σ : Type} (b : Bank σ) (p : Phase) : Bool :=
  b.clock.isOver p.wakesAt || (p.row?.map fun w => b.store.holds w.tx w.key).getD false

end Phase

/-- A turn of a call, and the bank after it. -/
abbrev Bank.Step (σ : Type) : Type := Bank σ × Turn Phase Outcome

namespace Bank

variable {σ : Type}

/-- The bank with another store. -/
def withStore (b : Bank σ) (store : Store) : Bank σ := { b with store }

/-- The end of a call that leaves no trail. -/
def reply (b : Bank σ) (result : Except Failure Reply) : Step σ :=
  (b, .done ⟨result, none⟩)

/-- The end of a call that is refused before it has a transaction. -/
def refuse (b : Bank σ) (e : LedgerError) : Step σ :=
  b.reply (.error (.refused e))

end Bank

end Teller
