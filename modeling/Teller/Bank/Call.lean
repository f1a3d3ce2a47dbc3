/-
Calls to a bank, from their start to their end.

* `Bank.start` and `Bank.resume`: a call without a deadline;
* `Bank.abandon`: a call is given up where it waits, and nothing of it remains;
* `Call`: a call that waits, with its deadline; `Bank.startCall` and `Bank.resumeCall` give it up
  when it still waits at its deadline.

The checks of arguments come first. When a call can end at its deadline, it ends.
-/
import Teller.Bank.Account
import Teller.Bank.Exchange

namespace Teller

namespace Bank

variable {σ : Type}

/-- A call is given up where it waits: its transaction, if it has one, ends without a change. -/
def abandon (b : Bank σ) (p : Phase) : Bank σ :=
  match p.row? with
  | some wait => b.withStore (b.store.discard wait.tx)
  | none => b

/-- The reading of all rates after a turn of its fetch. -/
def afterTable (b : Bank σ) :
    RateCache σ × Turn Fetch (Except RateError (Observed RateTable)) → Step σ
  | (rates, .waiting fetch) => ({ b with rates }, .waiting (.readingTable fetch))
  | (rates, .done (.error e)) => ({ b with rates } : Bank σ).refuse e.toLedgerError
  | (rates, .done (.ok table)) => ({ b with rates } : Bank σ).reply (.ok (.rates table))

/-- The reading of a pair's rate after a turn of its fetch. -/
def afterPair (b : Bank σ) (pair : CurrencyPair) :
    RateCache σ × Turn Fetch (Except RateError (Observed Decimal)) → Step σ
  | (rates, .waiting fetch) => ({ b with rates }, .waiting (.readingPair pair fetch))
  | (rates, .done (.error e)) => ({ b with rates } : Bank σ).refuse e.toLedgerError
  | (rates, .done (.ok rate)) =>
    ({ b with rates } : Bank σ).reply (.ok (.quote (rate.map (PairQuote.mk pair))))

/-- A deposit or withdrawal of any amount starts; one that no operation may move is refused. -/
def startChecked [Arithmetic] (b : Bank σ) (kind : OperationKind) (account : AccountId)
    (currency : Currency) (amount : Decimal) : Step σ :=
  match Money.positive amount currency with
  | .error e => b.refuse e
  | .ok money => b.startAdjustment kind account money

variable [RateProvider σ]

/-- A call starts. -/
def start [Arithmetic] (b : Bank σ) : Request → Step σ
  | .openAccount account => b.startProvisioning account
  | .deposit account currency amount => b.startChecked .deposit account currency amount
  | .withdraw account currency amount => b.startChecked .withdraw account currency amount
  | .exchange account source target amount =>
    if source = target then b.refuse (.validation (.sameCurrency source))
    else
      match Money.positive amount source with
      | .error e => b.refuse e
      | .ok money => b.startExchange account money target
  | .balance account => b.reply (.ok (.balances (b.store.readBalances account)))
  | .rates => b.afterTable (b.rates.read b.clock .table)
  | .pairRate source target =>
    if source = target then b.refuse (.validation (.noOwnRate source))
    else b.afterPair ⟨source, target⟩ (b.rates.read b.clock (.pair ⟨source, target⟩))
  | .history account => b.reply (.ok (.records (b.store.transactionRecords account)))
  | .verify account => b.reply ((b.store.reconcile account).map .report)

/-- A call goes on from where it waits. -/
def resume [Arithmetic] (b : Bank σ) : Phase → Step σ
  | .provisioning wait => b.resumeProvisioning wait
  | .adjusting trail money wait => b.resumeAdjustment trail money wait
  | .pricing account source target fetch => b.resumePricing account source target fetch
  | .crediting trail exchange wait =>
    b.afterCredit trail exchange (b.store.resumeAdjust b.clock wait)
  | .debiting trail exchange credited wait =>
    b.afterDebit trail exchange credited (b.store.resumeAdjust b.clock wait)
  | .readingTable fetch => b.afterTable (b.rates.resume b.clock .table fetch)
  | .readingPair pair fetch => b.afterPair pair (b.rates.resume b.clock (.pair pair) fetch)

end Bank

/-! ### Deadlines -/

/-- A call that waits, and the instant until which it may. -/
structure Call where
  phase : Phase
  deadline : Option Nat
  deriving DecidableEq

namespace Call

/-- The instant at which the call goes on or is given up whatever the others do. -/
def wakesAt (c : Call) : Option Nat := earlier c.phase.wakesAt c.deadline

/-- Can the call go on, or is it to be given up? -/
def isReady {σ : Type} (b : Bank σ) (c : Call) : Bool :=
  c.phase.isReady b || b.clock.isOver c.deadline

end Call

namespace Bank

variable {σ : Type}

/-- A turn of a call under a deadline: if it still waits when the deadline has come, it is given
up. -/
def underDeadline (deadline : Option Nat) : Step σ → Bank σ × Turn Call Outcome
  | (b, .done outcome) => (b, .done outcome)
  | (b, .waiting phase) =>
    if b.clock.isOver deadline then
      (b.abandon phase, .done ⟨.error (.refused .deadlineExceeded), none⟩)
    else (b, .waiting ⟨phase, deadline⟩)

variable [RateProvider σ]

/-- A call under a deadline starts. -/
def startCall [Arithmetic] (b : Bank σ) (deadline : Option Nat) (request : Request) :
    Bank σ × Turn Call Outcome :=
  underDeadline deadline (b.start request)

/-- A call under a deadline goes on from where it waits. -/
def resumeCall [Arithmetic] (b : Bank σ) (c : Call) : Bank σ × Turn Call Outcome :=
  underDeadline c.deadline (b.resume c.phase)

end Bank

end Teller
