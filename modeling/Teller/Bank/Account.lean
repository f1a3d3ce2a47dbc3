/-
New accounts, and the reconciliation of accounts with their journal.

* `Bank.startProvisioning` and `Bank.afterProvisioning`: the wallets of a new account;
* `Store.reconcile`: the balances of an account beside the sums of its records.
-/
import Teller.Bank.Mutation

namespace Teller

/-- The balances of an account beside the sums of its records. -/
def Store.reconcile [Arithmetic] (s : Store) (account : AccountId) :
    Except Failure IntegrityReport :=
  let balances := s.readBalances account
  if balances.isEmpty then .error (.refused (.accountNotFound account))
  else
    match netBalances? (s.transactionRecords account) with
    | none => .error .overflow
    | some audited => .ok (.of account balances audited)

namespace Bank

variable {σ : Type}

/-- The provisioning of an account after a turn at one of its rows. -/
def afterProvisioning [Arithmetic] (b : Bank σ) (tx : TxId) (account : AccountId) :
    Store × Turn ProvisionWait (Except LedgerError Unit) → Step σ
  | (store, .waiting wait) => (b.withStore store, .waiting (.provisioning wait))
  | (store, .done (.error e)) =>
    let (b, e) := (b.withStore store).rollBack tx e
    b.refuse e
  | (store, .done (.ok ())) =>
    match store.commit tx with
    | (store, .error f) => (b.withStore store).reply (.error f)
    | (store, .ok ()) => (b.withStore store).reply (.ok (.balances (store.readBalances account)))

/-- The provisioning of an account starts. -/
def startProvisioning [Arithmetic] (b : Bank σ) (account : AccountId) : Step σ :=
  match b.store.begin with
  | (store, .error e) => (b.withStore store).refuse e
  | (store, .ok tx) => (b.withStore store).afterProvisioning tx account
      (store.provision b.clock tx account)

/-- The provisioning of an account looks at its row again. -/
def resumeProvisioning [Arithmetic] (b : Bank σ) (wait : ProvisionWait) : Step σ :=
  b.afterProvisioning wait.tx wait.account (b.store.resumeProvision b.clock wait)

end Bank

end Teller
