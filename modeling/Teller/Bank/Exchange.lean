/-
Exchanges of one currency into another.

An exchange is priced before its transaction begins, so that a rate that cannot be had touches
nothing. Then the target is credited, the source is debited, and the two records name each other's
wallet.

* `Bank.startExchange`, `Bank.afterPricing`: up to the beginning of the transaction;
* `Bank.afterCredit`, `Bank.afterDebit`: from row to row;
* `Bank.recordExchange`: the two records, the notification if the target calls for one, the commit.
-/
import Teller.Bank.Mutation

namespace Teller.Bank

variable {σ : Type}

/-- The two records of an exchange: the credit of the target, then the debit of the source. -/
def exchangeRecords (b : Bank σ) (e : Exchange) (credited debited : WalletSnapshot) :
    Store × TransactionRecord × TransactionRecord :=
  let now := b.clock.now
  let (store, credit) := b.store.newRecord now credited.wallet e.target.currency e.target.value
    .credit .transfer (some debited.wallet)
  let (store, debit) := store.newRecord now debited.wallet e.source.currency e.source.value
    .debit .transfer (some credited.wallet)
  (store, credit, debit)

/-- The receipt: the balances after the debit, shown at the wallet that was credited. -/
def exchangeReceipt (e : Exchange) (credited debited : WalletSnapshot) : ExchangeReceipt :=
  .of { debited with wallet := credited.wallet, currency := credited.currency }
    e.rate e.source e.target

/-- An exchange both of whose rows have been adjusted. Its notification tells of a withdrawal of the
target amount, with the balances seen right after the credit. -/
def recordExchange [Arithmetic] (b : Bank σ) (trail : Trail) (e : Exchange)
    (credited debited : WalletSnapshot) : Step σ :=
  let trail := trail.request .audit
  let reply := Reply.receipt (exchangeReceipt e credited debited)
  let (store, credit, debit) := b.exchangeRecords e credited debited
  match store.append e.tx credit with
  | (store, .error error) => (b.withStore store).failCall e.tx trail (.refused error)
  | (store, .ok ()) =>
    match store.append e.tx debit with
    | (store, .error error) => (b.withStore store).failCall e.tx trail (.refused error)
    | (store, .ok ()) =>
      let b := b.withStore store
      if b.thresholds.exchange ≤ e.target.value then
        let trail := trail.request .notify
        match b.notify e.tx .withdraw e.account e.target credited.balances with
        | (b, .error error) => b.failCall e.tx trail (.refused error)
        | (b, .ok ()) => b.commitCall e.tx trail reply
      else b.commitCall e.tx trail reply

/-- An exchange after a turn at the row of its source. -/
def afterDebit [Arithmetic] (b : Bank σ) (trail : Trail) (e : Exchange)
    (credited : WalletSnapshot) :
    Store × Turn AdjustWait (Except Failure AdjustOutcome) → Step σ
  | (store, .waiting wait) => (b.withStore store, .waiting (.debiting trail e credited wait))
  | (store, .done result) =>
    match applied e.source result with
    | .error f => (b.withStore store).failCall e.tx trail f
    | .ok debited => (b.withStore store).recordExchange trail e credited debited

/-- An exchange after a turn at the row of its target. -/
def afterCredit [Arithmetic] (b : Bank σ) (trail : Trail) (e : Exchange) :
    Store × Turn AdjustWait (Except Failure AdjustOutcome) → Step σ
  | (store, .waiting wait) => (b.withStore store, .waiting (.crediting trail e wait))
  | (store, .done result) =>
    match applied e.target result with
    | .error f => (b.withStore store).failCall e.tx trail f
    | .ok credited =>
      (b.withStore store).afterDebit (trail.request .mutate) e credited
        (store.adjust b.clock ⟨e.tx, ⟨e.account, e.source.currency⟩, e.source.value, .debit⟩)

/-- An exchange that has been priced: it is converted, and its transaction begins. -/
def startTransfer [Arithmetic] (b : Bank σ) (account : AccountId) (source : Money)
    (quote : PairQuote) : Step σ :=
  match quote.convert source with
  | .error e => b.refuse e
  | .ok target =>
    if target.isPositive then
      b.beginCall .transfer fun b tx trail =>
        b.afterCredit (trail.request .mutate) ⟨tx, account, source, target, quote.rate⟩
          (b.store.adjust b.clock ⟨tx, ⟨account, target.currency⟩, target.value, .credit⟩)
    else
      b.refuse (.validation
        (.convertsToNothing source.value source.currency quote.rate quote.pair.target))

/-- An exchange after a turn of the fetch of its rate. -/
def afterPricing [Arithmetic] (b : Bank σ) (account : AccountId) (source : Money)
    (target : Currency) :
    RateCache σ × Turn Fetch (Except RateError Decimal) → Step σ
  | (rates, .waiting fetch) =>
    ({ b with rates }, .waiting (.pricing account source target fetch))
  | (rates, .done (.error e)) => ({ b with rates } : Bank σ).refuse e.toLedgerError
  | (rates, .done (.ok rate)) =>
    ({ b with rates } : Bank σ).startTransfer account source ⟨⟨source.currency, target⟩, rate⟩

variable [RateProvider σ]

/-- An exchange starts. -/
def startExchange [Arithmetic] (b : Bank σ) (account : AccountId) (source : Money)
    (target : Currency) : Step σ :=
  b.afterPricing account source target
    (RateCache.timeless (b.rates.read b.clock (.pair ⟨source.currency, target⟩)))

/-- An exchange looks at the fetch of its rate again. -/
def resumePricing [Arithmetic] (b : Bank σ) (account : AccountId) (source : Money)
    (target : Currency) (fetch : Fetch) : Step σ :=
  b.afterPricing account source target
    (RateCache.timeless (b.rates.resume b.clock (.pair ⟨source.currency, target⟩) fetch))

end Teller.Bank
