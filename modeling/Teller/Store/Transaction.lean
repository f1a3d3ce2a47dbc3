/-
The life of a transaction, apart from the changes that wait for a row.

* `Store.begin`: a transaction is opened;
* `Store.append` and `Store.enqueue`: a record or an event joins its changes;
* `Store.commit`: all its changes are made, and every row that it held is given up;
* `Store.rollback` and `Store.discard`: none is made, and the rows are given up all the same.

A fault that strikes at one of these points takes its place; at a commit or a rollback it ends the
transaction too. A commit that would leave a balance below zero, or beyond the range of decimals,
stops where it stands: the wallets stay as it left them, no record and no event is added, and the
transaction has ended.
-/
import Teller.Store.Basic

namespace Teller.Store

/-- A transaction is opened. -/
def begin (s : Store) : Store × Except LedgerError TxId :=
  match s.takeFault? .begin with
  | some s => (s, .error (.storeUnavailable (.injected .begin)))
  | none =>
    let tx : TxId := ⟨s.begun⟩
    ({ s.setTransaction tx .fresh with begun := s.begun + 1 }, .ok tx)

/-- A transaction ends without having changed anything. -/
def discard (s : Store) (tx : TxId) : Store :=
  { s with transactions := s.transactions.erase tx, locks := s.locks.map fun l => l.leave tx }

/-- A record joins the changes of a transaction. -/
def append (s : Store) (tx : TxId) (record : TransactionRecord) : Store × Except LedgerError Unit :=
  match s.takeFault? .appendRecord with
  | some s => (s, .error (.storeUnavailable (.injected .appendRecord)))
  | none =>
    let t := s.transaction tx
    (s.setTransaction tx { t with records := t.records ++ [record] }, .ok ())

/-- An event joins the changes of a transaction. -/
def enqueue (s : Store) (tx : TxId) (event : OutboxEvent) : Store × Except LedgerError Unit :=
  match s.takeFault? .enqueueEvent with
  | some s => (s, .error (.notificationEnqueueFailed FaultPoint.enqueueEvent.message))
  | none =>
    let t := s.transaction tx
    (s.setTransaction tx { t with events := t.events ++ [event] }, .ok ())

/-! ### Commit -/

/-- The wallets with a new one added, whose balance is zero. -/
def addWallet (wallets : Table WalletKey Wallet) (entry : WalletKey × WalletId) :
    Table WalletKey Wallet :=
  wallets.insert entry.1 ⟨entry.2, .zero⟩

/-- The wallets with a change of one balance made. A balance that leaves the range of decimals or
falls below zero stops the commit; a row that does not exist is passed over. -/
def addDelta [Arithmetic] (wallets : Table WalletKey Wallet) (entry : WalletKey × Decimal) :
    Except Failure (Table WalletKey Wallet) :=
  match wallets.get? entry.1 with
  | none => .ok wallets
  | some wallet =>
    match Arithmetic.sum? wallet.balance entry.2 with
    | none => .error .overflow
    | some balance =>
      if balance < .zero then .error .overdrawn
      else .ok (wallets.insert entry.1 { wallet with balance })

/-- The wallets after a transaction: first its new ones are added, then its changes are made. -/
def committedWallets [Arithmetic] (wallets : Table WalletKey Wallet) (t : Transaction) :
    Except Failure (Table WalletKey Wallet) :=
  t.deltas.toList.foldlM addDelta (t.provisioned.toList.foldl addWallet wallets)

/-- What is written of a change of one balance: one that falls below zero is written before it is
found to be so. -/
def writeDelta [Arithmetic] (wallets : Table WalletKey Wallet) (entry : WalletKey × Decimal) :
    Table WalletKey Wallet :=
  match wallets.get? entry.1 with
  | none => wallets
  | some wallet =>
    match Arithmetic.sum? wallet.balance entry.2 with
    | none => wallets
    | some balance => wallets.insert entry.1 { wallet with balance }

/-- The wallets after changes of balances, up to the first that stops the commit. -/
def writeUntilStopped [Arithmetic] :
    List (WalletKey × Decimal) → Table WalletKey Wallet → Table WalletKey Wallet
  | [], wallets => wallets
  | entry :: rest, wallets =>
    match addDelta wallets entry with
    | .ok wallets => writeUntilStopped rest wallets
    | .error _ => writeDelta wallets entry

/-- The wallets that a transaction leaves whose commit is stopped. -/
def stoppedWallets [Arithmetic] (wallets : Table WalletKey Wallet) (t : Transaction) :
    Table WalletKey Wallet :=
  writeUntilStopped t.deltas.toList (t.provisioned.toList.foldl addWallet wallets)

/-- All changes of a transaction are made at once, and it ends. -/
def commit [Arithmetic] (s : Store) (tx : TxId) : Store × Except Failure Unit :=
  match s.takeFault? .commit with
  | some s => (s.discard tx, .error (.refused (.storeUnavailable (.injected .commit))))
  | none =>
    let t := s.transaction tx
    match committedWallets s.wallets t with
    | .error f => ({ s.discard tx with wallets := stoppedWallets s.wallets t }, .error f)
    | .ok wallets =>
      ({ s.discard tx with
          wallets
          journal := s.journal ++ t.records
          outbox := s.outbox ++ t.events.map fun event => ⟨event, false⟩ }, .ok ())

/-- A transaction ends on request without having changed anything. -/
def rollback (s : Store) (tx : TxId) : Store × Except LedgerError Unit :=
  match s.takeFault? .rollback with
  | some s => (s.discard tx, .error (.storeUnavailable (.injected .rollback)))
  | none => (s.discard tx, .ok ())

end Teller.Store
