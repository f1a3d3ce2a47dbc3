/-
The store: wallets, the journal and the outbox, and the transactions that change them.

* `Store`: what has been committed, the open transactions and the locks of rows;
* `Store.readBalances`, `Store.transactionRecords`, `Store.pendingEvents`: reads of what has been
  committed;
* `Store.markPublished`: rows of the outbox are marked as delivered;
* `Store.takeFault?`: an injected fault strikes once.
-/
import Teller.Journal
import Teller.Outbox
import Teller.Snapshot
import Teller.Store.RowLock
import Teller.Table

namespace Teller

/-- Names a row: the wallet of an account in a currency. -/
structure WalletKey where
  account : AccountId
  currency : Currency
  deriving DecidableEq

/-- A committed row. -/
structure Wallet where
  id : WalletId
  balance : Decimal
  deriving DecidableEq

/-- A row of the outbox, and whether it has been delivered. -/
structure OutboxRow where
  event : OutboxEvent
  published : Bool
  deriving DecidableEq

/-- What a transaction is about to change. -/
structure Transaction where
  /-- What is added to balances. -/
  deltas : Table WalletKey Decimal
  /-- New wallets. -/
  provisioned : Table WalletKey WalletId
  records : List TransactionRecord
  events : List OutboxEvent

/-- A transaction that changes nothing yet. -/
def Transaction.fresh : Transaction := ⟨.empty, .empty, [], []⟩

/-- Why a call has no result. -/
inductive Failure where
  /-- The call ends with this error. -/
  | refused (error : LedgerError)
  /-- A sum left the range of decimals, and the call is abandoned where it stands. -/
  | overflow
  /-- A balance would have been committed below zero, and the call is abandoned where it stands. -/
  | overdrawn
  deriving DecidableEq

/-- A store of wallets, journal and outbox. -/
structure Store where
  wallets : Table WalletKey Wallet
  /-- The committed journal, the oldest record first. -/
  journal : List TransactionRecord
  /-- The committed outbox, the oldest row first. -/
  outbox : List OutboxRow
  transactions : Table TxId Transaction
  locks : Table WalletKey RowLock
  /-- Faults that are still to strike. -/
  faults : List FaultPoint
  /-- How long a transaction waits for a row, in milliseconds. -/
  lockTimeout : Nat
  /-- The number of transactions so far. -/
  begun : Nat
  ids : IdSupply

namespace Store

/-- Five seconds. -/
def standardLockTimeout : Nat := 5000

/-- An empty store. -/
def empty (lockTimeout : Nat) (ids : IdSupply) : Store :=
  ⟨.empty, [], [], .empty, .empty, [], lockTimeout, 0, ids⟩

/-! ### Faults -/

/-- The store with one more fault that is to strike. -/
def inject (s : Store) (point : FaultPoint) : Store :=
  { s with faults := s.faults ++ [point] }

/-- The store after a fault has struck, if one was to strike at this point. -/
def takeFault? (s : Store) (point : FaultPoint) : Option Store :=
  if point ∈ s.faults then some { s with faults := s.faults.erase point } else none

/-! ### What has been committed -/

/-- The committed wallets of an account. -/
def walletsOf (s : Store) (account : AccountId) : CurrencyMap Wallet :=
  .ofFn fun c => s.wallets.get? ⟨account, c⟩

/-- The committed balances of an account, none if it has no wallets. -/
def readBalances (s : Store) (account : AccountId) : Balances :=
  (s.walletsOf account).map (·.balance)

/-- The committed records about the wallets of an account. -/
def transactionRecords (s : Store) (account : AccountId) : List TransactionRecord :=
  let ids := (s.walletsOf account).toList.map fun (_, wallet) => wallet.id
  s.journal.filter fun r => ids.contains r.wallet

/-- The first committed events that have not been delivered. -/
def pendingEvents (s : Store) (limit : Nat) : List OutboxEvent :=
  ((s.outbox.filter fun row => !row.published).take limit).map (·.event)

/-- The store after the events with these identifiers have been marked as delivered. -/
def markPublished (s : Store) (ids : List EventId) : Store :=
  { s with outbox := s.outbox.map fun row =>
      if ids.contains row.event.id then { row with published := true } else row }

/-- The number of committed events. -/
def eventCount (s : Store) : Nat := s.outbox.length

/-! ### Identifiers -/

/-- A record that is made now, with an identifier of its own. -/
def newRecord (s : Store) (now : Nat) (wallet : WalletId) (currency : Currency) (amount : Decimal)
    (direction : Direction) (kind : OperationKind) (counterparty : Option WalletId) :
    Store × TransactionRecord :=
  let (id, ids) := s.ids.record now
  ({ s with ids },
    ⟨id, wallet, currency, amount, direction, kind, counterparty, .ofEpochMillis now⟩)

/-- A notification that is made now, with an identifier of its own. -/
def newNotification (s : Store) (now : Nat) (kind : OperationKind) (account : AccountId)
    (amount : Decimal) (currency : Currency) (balanceAfter : Balances) :
    Store × NotificationEvent :=
  let (id, ids) := s.ids.event now
  ({ s with ids }, ⟨id, kind, account, amount, currency, balanceAfter, .ofEpochMillis now⟩)

/-! ### Open transactions -/

/-- What an open transaction is about to change. -/
def transaction (s : Store) (tx : TxId) : Transaction :=
  (s.transactions.get? tx).getD .fresh

/-- The store with the changes of an open transaction replaced. -/
def setTransaction (s : Store) (tx : TxId) (t : Transaction) : Store :=
  { s with transactions := s.transactions.insert tx t }

/-- The lock of a row. -/
def lock (s : Store) (key : WalletKey) : RowLock :=
  (s.locks.get? key).getD .free

/-- Does the transaction hold the row? -/
def holds (s : Store) (tx : TxId) (key : WalletKey) : Bool :=
  (s.lock key).holder == some tx

/-- The wallet of a row as a transaction sees it: its own new one, or else the committed one. -/
def walletId? (s : Store) (tx : TxId) (key : WalletKey) : Option WalletId :=
  ((s.transaction tx).provisioned.get? key).or ((s.wallets.get? key).map (·.id))

/-- The balance of a row before the changes of a transaction: the committed one, or zero in a new
wallet. -/
def baseBalance? (s : Store) (tx : TxId) (key : WalletKey) : Option Decimal :=
  ((s.wallets.get? key).map (·.balance)).or
    (((s.transaction tx).provisioned.get? key).map fun _ => .zero)

/-- The balance of a row as a transaction sees it, if it has one. It is missing on the outside if
the sum leaves the range of decimals. -/
def visibleBalance? [Arithmetic] (s : Store) (tx : TxId) (key : WalletKey) :
    Option (Option Decimal) :=
  match (s.transaction tx).deltas.get? key with
  | none => some (s.baseBalance? tx key)
  | some delta => (Arithmetic.sum? ((s.baseBalance? tx key).getD .zero) delta).map some

/-- The balances of an account as a transaction sees them, unless a sum leaves the range of
decimals. -/
def visibleBalances? [Arithmetic] (s : Store) (tx : TxId) (account : AccountId) :
    Option Balances := do
  let usd ← s.visibleBalance? tx ⟨account, .usd⟩
  let eur ← s.visibleBalance? tx ⟨account, .eur⟩
  let rub ← s.visibleBalance? tx ⟨account, .rub⟩
  return ⟨usd, eur, rub⟩

end Store

end Teller
