/-
Deposits and withdrawals, and what all mutations share.

* `Bank.beginCall`, `Bank.failCall`, `Bank.commitCall`: a transaction from its beginning to its end;
* `Bank.startAdjustment` and `Bank.afterAdjustment`: a deposit or withdrawal up to its row, and from
  there on.

A failure inside the transaction rolls it back. When the rollback fails as well, the first error
stays on top; a commit that fails is not rolled back.
-/
import Teller.Bank.Basic

namespace Teller.Bank

variable {σ : Type}

/-- The error of a call after its transaction has been rolled back. -/
def rollBack (b : Bank σ) (tx : TxId) (e : LedgerError) : Bank σ × LedgerError :=
  match b.store.rollback tx with
  | (store, .ok ()) => (b.withStore store, e)
  | (store, .error trouble) => (b.withStore store, e.withRollbackFailure trouble)

/-- The transaction of a mutation is begun. -/
def beginCall (b : Bank σ) (kind : OperationKind)
    (next : Bank σ → TxId → Trail → Step σ) : Step σ :=
  let trail := (Trail.start kind).request .acquireConnection
  match b.store.begin with
  | (store, .ok tx) => next (b.withStore store) tx (trail.request .beginTx)
  | (store, .error e) =>
    (b.withStore store, .done ⟨.error (.refused e), some (trail.request .failed)⟩)

/-- A mutation fails inside its transaction. -/
def failCall (b : Bank σ) (tx : TxId) (trail : Trail) : Failure → Step σ
  | .refused e =>
    let (b, e) := b.rollBack tx e
    (b, .done ⟨.error (.refused e), some ((trail.request .rollback).request .failed)⟩)
  | f => (b.withStore (b.store.discard tx), .done ⟨.error f, some trail⟩)

/-- A mutation has made its changes, and its transaction is committed. A commit that is stopped asks
for no further stage. -/
def commitCall [Arithmetic] (b : Bank σ) (tx : TxId) (trail : Trail) (reply : Reply) : Step σ :=
  let trail := trail.request .commit
  match b.store.commit tx with
  | (store, .ok ()) => (b.withStore store, .done ⟨.ok reply, some (trail.request .done)⟩)
  | (store, .error (.refused e)) =>
    (b.withStore store, .done ⟨.error (.refused e), some (trail.request .failed)⟩)
  | (store, .error f) => (b.withStore store, .done ⟨.error f, some trail⟩)

/-- The snapshot of an adjustment that was made. -/
def applied (money : Money) : Except Failure AdjustOutcome → Except Failure WalletSnapshot
  | .error f => .error f
  | .ok (.applied snapshot) => .ok snapshot
  | .ok .insufficientFunds => .error (.refused (.insufficientFunds money.currency money.value))

/-- A notification about a mutation joins its transaction. -/
def notify (b : Bank σ) (tx : TxId) (kind : OperationKind) (account : AccountId) (money : Money)
    (balanceAfter : Balances) : Bank σ × Except LedgerError Unit :=
  let (store, event) :=
    b.store.newNotification b.clock.now kind account money.value money.currency balanceAfter
  let (store, result) := store.enqueue tx (.ofNotification event)
  (b.withStore store, result)

/-- A deposit or withdrawal whose row has been adjusted: the record, the notification if the amount
calls for one, and the commit. -/
def recordAdjustment [Arithmetic] (b : Bank σ) (tx : TxId) (trail : Trail) (money : Money)
    (snapshot : WalletSnapshot) : Step σ :=
  let trail := trail.request .audit
  let (store, record) := b.store.newRecord b.clock.now snapshot.wallet money.currency money.value
    trail.kind.direction trail.kind none
  match store.append tx record with
  | (store, .error e) => (b.withStore store).failCall tx trail (.refused e)
  | (store, .ok ()) =>
    let b := b.withStore store
    if b.thresholds.deposit ≤ money.value then
      let trail := trail.request .notify
      match b.notify tx trail.kind snapshot.account money snapshot.balances with
      | (b, .error e) => b.failCall tx trail (.refused e)
      | (b, .ok ()) => b.commitCall tx trail (.snapshot snapshot)
    else b.commitCall tx trail (.snapshot snapshot)

/-- A deposit or withdrawal after a turn at its row. -/
def afterAdjustment [Arithmetic] (b : Bank σ) (tx : TxId) (trail : Trail) (money : Money) :
    Store × Turn AdjustWait (Except Failure AdjustOutcome) → Step σ
  | (store, .waiting wait) => (b.withStore store, .waiting (.adjusting trail money wait))
  | (store, .done result) =>
    match applied money result with
    | .error f => (b.withStore store).failCall tx trail f
    | .ok snapshot => (b.withStore store).recordAdjustment tx trail money snapshot

/-- A deposit or withdrawal starts. -/
def startAdjustment [Arithmetic] (b : Bank σ) (kind : OperationKind) (account : AccountId)
    (money : Money) : Step σ :=
  b.beginCall kind fun b tx trail =>
    b.afterAdjustment tx (trail.request .mutate) money
      (b.store.adjust b.clock ⟨tx, ⟨account, money.currency⟩, money.value, kind.direction⟩)

/-- A deposit or withdrawal looks at its row again. -/
def resumeAdjustment [Arithmetic] (b : Bank σ) (trail : Trail) (money : Money)
    (wait : AdjustWait) : Step σ :=
  b.afterAdjustment wait.adjustment.tx trail money (b.store.resumeAdjust b.clock wait)

end Teller.Bank
