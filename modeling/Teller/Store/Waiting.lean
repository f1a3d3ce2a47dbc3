/-
Changes that wait for a row.

* `RowWait`: a transaction that waits for a row until an instant at most;
* `Store.requestRow` and `Store.lookRow`: the row is asked for, and looked at again;
* `Adjustment`: a change of one balance, made by `Store.adjust` and `Store.resumeAdjust`;
* `Store.provision` and `Store.resumeProvision`: the wallets of a new account, one row after the
  other.

A row that is granted is taken, also when the alarm at the end of the wait has rung.
-/
import Teller.Clock
import Teller.Store.Basic
import Teller.Turn

namespace Teller

/-- A transaction that waits for a row. -/
structure RowWait where
  tx : TxId
  key : WalletKey
  giveUpAt : Nat
  deriving DecidableEq

/-- A change of one balance by a transaction. -/
structure Adjustment where
  tx : TxId
  key : WalletKey
  amount : Decimal
  direction : Direction
  deriving DecidableEq

/-- Where an adjustment waits; its wallet has been found already. -/
structure AdjustWait where
  adjustment : Adjustment
  wallet : WalletId
  giveUpAt : Nat
  deriving DecidableEq

/-- Where the provisioning of an account waits, and the currencies that come after. -/
structure ProvisionWait where
  tx : TxId
  account : AccountId
  currency : Currency
  rest : List Currency
  giveUpAt : Nat
  deriving DecidableEq

/-- The row that an adjustment waits for. -/
def AdjustWait.row (w : AdjustWait) : RowWait := ⟨w.adjustment.tx, w.adjustment.key, w.giveUpAt⟩

/-- The row that a provisioning waits for. -/
def ProvisionWait.row (w : ProvisionWait) : RowWait := ⟨w.tx, ⟨w.account, w.currency⟩, w.giveUpAt⟩

namespace Store

/-! ### Rows -/

/-- What a look at a row finds. -/
inductive RowLook where
  | granted
  | waiting
  | timedOut
  deriving DecidableEq

/-- The store after a transaction has asked for a row. -/
def requestRow (s : Store) (tx : TxId) (key : WalletKey) : Store :=
  { s with locks := s.locks.insert key ((s.lock key).request tx) }

/-- The store after a transaction has given up a row or its place in the queue. -/
def leaveRow (s : Store) (tx : TxId) (key : WalletKey) : Store :=
  { s with locks := s.locks.insert key ((s.lock key).leave tx) }

/-- Is the row granted, still to be waited for, or not to be waited for any longer? -/
def lookRow (s : Store) (clock : Clock) (w : RowWait) : RowLook :=
  if s.holds w.tx w.key then .granted
  else if clock.hasRung w.giveUpAt then .timedOut
  else .waiting

/-- The error of a wait that took too long. -/
def rowWaitError (key : WalletKey) : LedgerError :=
  .storeUnavailable (.rowWait key.account key.currency)

/-! ### Adjustments -/

/-- The balance that an adjustment would leave, unless it is above the largest. -/
def nextBalance? [Arithmetic] (current delta : Decimal) : Option Decimal :=
  (Arithmetic.sum? current delta).filter (· ≤ Money.maxValue)

/-- An adjustment of a row that the transaction holds. -/
def adjustHeld [Arithmetic] (s : Store) (a : Adjustment) (wallet : WalletId) :
    Store × Except Failure AdjustOutcome :=
  match s.visibleBalances? a.tx a.key.account with
  | none => (s, .error .overflow)
  | some balances =>
    let current := (balances.get? a.key.currency).getD .zero
    if a.direction = .debit ∧ current < a.amount then (s, .ok .insufficientFunds)
    else
      let delta := a.direction.signed a.amount
      if (nextBalance? current delta).isNone then
        (s, .error (.refused (.validation
          (.balanceRange a.key.currency current a.direction a.amount))))
      else
        let t := s.transaction a.tx
        match Arithmetic.sum? ((t.deltas.get? a.key).getD .zero) delta with
        | none => (s, .error .overflow)
        | some total =>
          let s := s.setTransaction a.tx { t with deltas := t.deltas.insert a.key total }
          match s.visibleBalances? a.tx a.key.account with
          | none => (s, .error .overflow)
          | some balances =>
            (s, .ok (.applied ⟨a.key.account, wallet, a.key.currency, balances⟩))

/-- An adjustment looks at its row: it is made, given up, or waits on. -/
def resumeAdjust [Arithmetic] (s : Store) (clock : Clock) (w : AdjustWait) :
    Store × Turn AdjustWait (Except Failure AdjustOutcome) :=
  match s.lookRow clock w.row with
  | .granted =>
    let adjusted := s.adjustHeld w.adjustment w.wallet
    (adjusted.1, .done adjusted.2)
  | .waiting => (s, .waiting w)
  | .timedOut =>
    (s.leaveRow w.adjustment.tx w.adjustment.key,
      .done (.error (.refused (rowWaitError w.adjustment.key))))

/-- An adjustment starts. The wallet is looked for before the row is asked for. -/
def adjust [Arithmetic] (s : Store) (clock : Clock) (a : Adjustment) :
    Store × Turn AdjustWait (Except Failure AdjustOutcome) :=
  match s.walletId? a.tx a.key with
  | none => (s, .done (.error (.refused (.walletNotFound a.key.account a.key.currency))))
  | some wallet =>
    (s.requestRow a.tx a.key).resumeAdjust clock ⟨a, wallet, clock.now + s.lockTimeout⟩

/-! ### New wallets -/

/-- A wallet is added to a row that the transaction holds, unless there is one. -/
def provisionHeld (s : Store) (now : Nat) (tx : TxId) (key : WalletKey) :
    Store × Except LedgerError Unit :=
  match s.walletId? tx key with
  | some _ => (s, .error (.walletsAlreadyProvisioned key.account))
  | none =>
    let (id, ids) := s.ids.wallet now
    let t := s.transaction tx
    ({ s.setTransaction tx { t with provisioned := t.provisioned.insert key id } with ids }, .ok ())

/-- A wallet is added in one currency as soon as its row is granted; what comes after is left to
`next`. -/
def provisionRow (s : Store) (clock : Clock) (w : ProvisionWait)
    (next : Store → Store × Turn ProvisionWait (Except LedgerError Unit)) :
    Store × Turn ProvisionWait (Except LedgerError Unit) :=
  match s.lookRow clock w.row with
  | .granted =>
    match s.provisionHeld clock.now w.tx w.row.key with
    | (s, .error e) => (s, .done (.error e))
    | (s, .ok ()) => next s
  | .waiting => (s, .waiting w)
  | .timedOut => (s.leaveRow w.tx w.row.key, .done (.error (rowWaitError w.row.key)))

/-- Wallets are added in the given currencies, one after the other. -/
def provisionFrom (clock : Clock) (tx : TxId) (account : AccountId) :
    List Currency → Store → Store × Turn ProvisionWait (Except LedgerError Unit)
  | [], s => (s, .done (.ok ()))
  | currency :: rest, s =>
    (s.requestRow tx ⟨account, currency⟩).provisionRow clock
      ⟨tx, account, currency, rest, clock.now + s.lockTimeout⟩
      (provisionFrom clock tx account rest)

/-- Wallets are added in all currencies. -/
def provision (s : Store) (clock : Clock) (tx : TxId) (account : AccountId) :
    Store × Turn ProvisionWait (Except LedgerError Unit) :=
  provisionFrom clock tx account Currency.all s

/-- A provisioning looks at its row again. -/
def resumeProvision (s : Store) (clock : Clock) (w : ProvisionWait) :
    Store × Turn ProvisionWait (Except LedgerError Unit) :=
  s.provisionRow clock w (provisionFrom clock w.tx w.account w.rest)

end Store

end Teller
