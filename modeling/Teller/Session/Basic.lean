/-
Sessions: the use of one bank by a script.

* `Session`: the bank, and what the script has given names to;
* `Session.wallet?`, `Session.event?`, `Session.deadline?`: what names stand for;
* `Session.afterCall` and its kin: the session after a turn of something that may wait.
-/
import Teller.Session.Activity

namespace Teller

/-- The use of one bank by a script. -/
structure Session where
  bank : Bank SimulatedProvider
  /-- The open transactions that the script has begun. -/
  transactions : Table String TxId
  /-- The deadlines of contexts. -/
  contexts : Table String (Option Nat)
  /-- The wallets that snapshots have shown. -/
  seen : Table WalletKey WalletId
  /-- The last list of pending events. -/
  pending : List EventId

namespace Session

/-- A session over a bank. -/
def ofBank (bank : Bank SimulatedProvider) : Session := ⟨bank, .empty, .empty, .empty, []⟩

/-- A turn of an activity, and the session after it. -/
abbrev Turned : Type := Session × Turn Activity CommandResult

/-- The present instant. -/
def now (s : Session) : Nat := s.bank.clock.now

/-- The session with another clock. -/
def withClock (s : Session) (clock : Clock) : Session :=
  { s with bank := { s.bank with clock } }

/-- The session with another store. -/
def withStore (s : Session) (store : Store) : Session :=
  { s with bank := s.bank.withStore store }

/-- The session with another source of rates. -/
def withProvider (s : Session) (provider : SimulatedProvider) : Session :=
  let client := { s.bank.rates.client with provider }
  { s with bank := { s.bank with rates := { s.bank.rates with client } } }

/-- A command ends with an answer. -/
def answer (s : Session) (a : Answer) : Turned := (s, .done (.ok a))

/-- A command ends in trouble. -/
def trouble (s : Session) (t : Trouble) : Turned := (s, .done (.error t))

/-- A command ends with an error of the ledger. -/
def refuse (s : Session) (e : LedgerError) : Turned := s.trouble (.failure (.refused e))

/-- The session after a snapshot has been shown. -/
def see (s : Session) (snapshot : WalletSnapshot) : Session :=
  { s with seen := s.seen.insert ⟨snapshot.account, snapshot.currency⟩ snapshot.wallet }

/-- The session after a reply has been shown. -/
def seeReply (s : Session) : Reply → Session
  | .snapshot snapshot => s.see snapshot
  | .receipt receipt => s.see receipt.snapshot
  | _ => s

/-- The session without a name for a transaction. -/
def forget (s : Session) (tx : String) : Session :=
  { s with transactions := s.transactions.erase tx }

/-! ### What names stand for -/

/-- What a transaction's name stands for. -/
def withTx (s : Session) (name : String) (next : TxId → Turned) : Turned :=
  match s.transactions.get? name with
  | some tx => next tx
  | none => s.trouble (.unknown name)

/-- The wallet that is meant. -/
def wallet? (s : Session) : WalletRef → Option WalletId
  | .id id => some id
  | .seen key => s.seen.get? key

/-- The event that is meant. -/
def event? (s : Session) : EventRef → Option EventId
  | .id id => some id
  | .pending index => s.pending[index]?

/-- The deadline of a call that starts now. The outer level is missing for an unknown context. -/
def deadline? (s : Session) : Limit → Option (Option Nat)
  | .none => some none
  | .within millis => some (some (s.now + millis))
  | .context name => s.contexts.get? name

/-! ### After a turn -/

/-- A call after a turn. -/
def afterCall (s : Session) : Bank SimulatedProvider × Turn Call Outcome → Turned
  | (bank, .waiting call) => ({ s with bank }, .waiting (.calling call))
  | (bank, .done outcome) =>
    match outcome.result with
    | .ok reply => (({ s with bank } : Session).seeReply reply).answer (.reply reply)
    | .error f => ({ s with bank } : Session).trouble (.failure f)

/-- An adjustment after a turn. -/
def afterAdjust (s : Session) : Store × Turn AdjustWait (Except Failure AdjustOutcome) → Turned
  | (store, .waiting wait) => (s.withStore store, .waiting (.adjusting wait))
  | (store, .done (.ok outcome)) =>
    let s := s.withStore store
    match outcome with
    | .applied snapshot => (s.see snapshot).answer (.adjusted outcome)
    | .insufficientFunds => s.answer (.adjusted outcome)
  | (store, .done (.error f)) => (s.withStore store).trouble (.failure f)

/-- A provisioning after a turn. -/
def afterProvision (s : Session) : Store × Turn ProvisionWait (Except LedgerError Unit) → Turned
  | (store, .waiting wait) => (s.withStore store, .waiting (.provisioning wait))
  | (store, .done (.ok ())) => (s.withStore store).answer .nothing
  | (store, .done (.error e)) => (s.withStore store).refuse e

/-- The answer of the source of rates itself. -/
def rateAnswer : (q : RateQuery) → q.Answer → Answer
  | .table, rates => .rates rates
  | .pair _, rate => .rate rate

/-- The answer of the cache; when it was observed is not told. -/
def quoteAnswer : (q : RateQuery) → Observed q.Answer → Answer
  | .table, rates => .rates rates.value
  | .pair pair, rate => .quote ⟨pair, rate.value⟩

/-- A question to the source of rates after a turn. -/
def afterAsk (s : Session) (q : RateQuery) (step : RateClient.Step SimulatedProvider q) : Turned :=
  let rates := { s.bank.rates with client := step.1 }
  let s := { s with bank := { s.bank with rates } }
  match step.2 with
  | .waiting fetch => (s, .waiting (.asking q fetch))
  | .done (.ok a) => s.answer (rateAnswer q a)
  | .done (.error e) => s.trouble (.rate e)

/-- A question to the cache after a turn. -/
def afterRead (s : Session) (q : RateQuery)
    (step : RateCache SimulatedProvider × Turn Fetch (Except RateError (Observed q.Answer))) :
    Turned :=
  let s := { s with bank := { s.bank with rates := step.1 } }
  match step.2 with
  | .waiting fetch => (s, .waiting (.reading q fetch))
  | .done (.ok a) => s.answer (quoteAnswer q a)
  | .done (.error e) => s.trouble (.rate e)

/-- What is told about a batch. -/
def publishedBy (publisher : Publisher Sink) (delivered : Option Nat) : Answer :=
  .published ⟨delivered, publisher.sink.attempts, publisher.sink.received⟩

/-- A batch after a turn; if it still waits when it is given up, it is abandoned. -/
def afterPublish (s : Session) (giveUpAt : Option Nat) :
    (Publisher Sink × Store) × Turn BatchWait Nat → Turned
  | ((publisher, store), .done count) =>
    (s.withStore store).answer (publishedBy publisher (some count))
  | ((publisher, store), .waiting wait) =>
    let s := s.withStore store
    if s.bank.clock.isOver giveUpAt then s.answer (publishedBy publisher none)
    else (s, .waiting (.publishing publisher wait giveUpAt))

/-- A command answers as soon as the alarm at an instant has rung. -/
def answerAt (s : Session) (instant : Nat) (a : Answer) : Turned :=
  if s.bank.clock.hasRung instant then s.answer a else (s, .waiting (.ending a instant))

/-- The loop after a turn. -/
def afterRelay (s : Session) (lastSignal : Nat) :
    Store × Turn (Relay Sink) (Publisher Sink) → Turned
  | (store, .waiting relay) => (s.withStore store, .waiting (.relaying relay lastSignal))
  | (store, .done publisher) =>
    (s.withStore store).answerAt lastSignal (.attempts publisher.sink.attempts)

/-- A change of an open transaction that does not wait. -/
def afterChange (s : Session) : Store × Except LedgerError Unit → Turned
  | (store, .ok ()) => (s.withStore store).answer .nothing
  | (store, .error e) => (s.withStore store).refuse e

/-- The end of a transaction. -/
def afterEnd (s : Session) : Store × Except Failure Unit → Turned
  | (store, .ok ()) => (s.withStore store).answer .nothing
  | (store, .error f) => (s.withStore store).trouble (.failure f)

/-- A task after a turn of its activity. -/
def taskAfter : Turned → Session × Task
  | (s, .waiting activity) => (s, .waiting activity)
  | (s, .done result) => (s, .done (result, s.now))

/-- Tasks side by side after a turn of some of them. Trouble that ends the whole script ends them
all. -/
def afterRound (s : Session) (tasks : List Task) : Turned :=
  match tasks.findSome? Task.fatal? with
  | some trouble => s.trouble trouble
  | none =>
    match Task.results? tasks with
    | some results => s.answer (.concurrent results)
    | none => (s, .waiting (.together tasks))

end Session

end Teller
