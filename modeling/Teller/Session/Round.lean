/-
Commands in a session, from turn to turn.

* `Session.start`: a command starts, and runs until it waits or ends;
* `Session.resume`: a command that waits goes on;
* `Session.round`: each task that can go on has one turn, in their order.

The clock of the bank can be moved in the middle of a round, but its alarms do not ring before the
round is over.
-/
import Teller.Session.Basic

namespace Teller

namespace Session

/-! ### Commands -/

/-- A transaction is begun under a name; one that had the name before is dropped. -/
def beginTx (s : Session) (name : String) : Turned :=
  match s.bank.store.begin with
  | (store, .error e) => (s.withStore store).refuse e
  | (store, .ok tx) =>
    let store := match s.transactions.get? name with
      | some old => store.discard old
      | none => store
    answer { s.withStore store with transactions := s.transactions.insert name tx } .nothing

/-- A record joins the changes of a transaction. -/
def appendRecord (s : Session) (tx : TxId) (wallet : WalletRef) (currency : Currency)
    (amount : Decimal) (direction : Direction) (kind : OperationKind)
    (counterparty : Option WalletRef) : Turned :=
  match s.wallet? wallet, counterparty.mapM s.wallet? with
  | some wallet, some counterparty =>
    let (store, record) := s.bank.store.newRecord s.now wallet currency amount direction kind
      counterparty
    s.afterChange (store.append tx record)
  | _, _ => s.trouble (.unknown "wallet")

/-- The loop of a publisher starts, if there is time between its batches. -/
def startRelay (s : Session) (publisher : Publisher Sink) (interval : Nat)
    (signals : List SentSignal) : Turned :=
  if interval = 0 then s.trouble .noInterval
  else
    let lastSignal := signals.foldl (fun last signal => max last (s.now + signal.instant)) s.now
    s.afterRelay lastSignal
      ((Relay.start publisher s.now interval signals).resume s.bank.clock s.bank.store)

/-- A publisher delivers one batch, if its sink can be set up. -/
def startBatch (s : Session) (publisher : Publisher Sink) (giveUpAfter : Option Nat) : Turned :=
  match publisher.sink.fault? with
  | some fault => s.trouble (.sink fault)
  | none =>
    s.afterPublish (giveUpAfter.map fun millis => s.now + millis)
      (publisher.startBatch s.bank.clock s.bank.store)

mutual

/-- A command starts. -/
def start (s : Session) : Command → Turned
  | .call request limit =>
    match s.deadline? limit with
    | some deadline => s.afterCall (s.bank.startCall deadline request)
    | none => s.trouble (.unknown "context")
  | .begin name => s.beginTx name
  | .adjust name key amount direction =>
    s.withTx name fun tx =>
      s.afterAdjust (s.bank.store.adjust s.bank.clock ⟨tx, key, amount, direction⟩)
  | .append name wallet currency amount direction kind counterparty =>
    s.withTx name fun tx => s.appendRecord tx wallet currency amount direction kind counterparty
  | .provision name account =>
    s.withTx name fun tx => s.afterProvision (s.bank.store.provision s.bank.clock tx account)
  | .enqueue name id kind account payload =>
    s.withTx name fun tx =>
      s.afterChange
        (s.bank.store.enqueue tx ⟨id, kind, account, payload, .ofEpochMillis s.now⟩)
  | .commit name =>
    s.withTx name fun tx => (s.forget name).afterEnd (s.bank.store.commit tx)
  | .rollback name =>
    s.withTx name fun tx => (s.forget name).afterChange (s.bank.store.rollback tx)
  | .drop name =>
    s.withTx name fun tx => ((s.forget name).withStore (s.bank.store.discard tx)).answer .nothing
  | .read account => s.answer (.balances (s.bank.store.readBalances account))
  | .records account => s.answer (.records (s.bank.store.transactionRecords account))
  | .pending limit =>
    let events := s.bank.store.pendingEvents limit
    ({ s with pending := events.map (·.id) } : Session).answer (.events events)
  | .mark events =>
    match events.mapM s.event? with
    | some ids => (s.withStore (s.bank.store.markPublished ids)).answer .nothing
    | none => s.trouble (.unknown "event")
  | .eventCount => s.answer (.count s.bank.store.eventCount)
  | .fault point => (s.withStore (s.bank.store.inject point)).answer .nothing
  | .setRate currency rate =>
    (s.withProvider (s.bank.rates.client.provider.setRate currency rate)).answer .nothing
  | .setPair pair rate =>
    (s.withProvider (s.bank.rates.client.provider.setPair pair rate)).answer .nothing
  | .failNext count =>
    (s.withProvider { s.bank.rates.client.provider with failuresLeft := count }).answer .nothing
  | .delay millis =>
    (s.withProvider { s.bank.rates.client.provider with delay := millis }).answer .nothing
  | .callCounts =>
    let provider := s.bank.rates.client.provider
    s.answer (.callCounts provider.name provider.tableCalls provider.pairCalls)
  | .askProvider query => s.afterAsk query (s.bank.rates.client.fetch s.bank.clock query)
  | .askCache query => s.afterRead query (s.bank.rates.read s.bank.clock query)
  | .invalidate =>
    ({ s with bank := { s.bank with rates := s.bank.rates.invalidate } } : Session).answer .nothing
  | .cacheStats =>
    let rates := s.bank.rates
    s.answer (.cacheStats ⟨rates.hits, rates.misses, rates.providerErrors, rates.cachedPairs⟩)
  | .advance millis =>
    let clock := s.bank.clock.advance millis
    (s.withClock clock, .waiting (.ending .nothing clock.now))
  | .sleep millis => s.answerAt (Clock.sleepEnd s.now millis) .nothing
  | .context name millis request =>
    let deadline := millis.map fun millis => s.now + millis
    ({ s with contexts := s.contexts.insert name deadline } : Session).answer (.request request)
  | .remaining name =>
    match s.contexts.get? name with
    | some deadline => s.answer (.millis (deadline.map fun instant => instant - s.now))
    | none => s.trouble (.unknown name)
  | .publish publisher giveUpAfter => s.startBatch publisher giveUpAfter
  | .relay publisher interval signals => s.startRelay publisher interval signals
  | .concurrent commands =>
    let (s, tasks) := s.startAll s.now commands
    s.afterRound tasks

/-- Commands start side by side: those without a delay at once, in their order. -/
def startAll (s : Session) (now : Nat) : List (Nat × Command) → Session × List Task
  | [] => (s, [])
  | (after, command) :: rest =>
    let first := if after = 0 then taskAfter (s.start command)
      else (s, .waiting (.delayed (now + after) command))
    let others := first.1.startAll now rest
    (others.1, first.2 :: others.2)

end

mutual

/-- An activity goes on from where it waits. -/
def resume (s : Session) : Activity → Turned
  | .delayed _ command => s.start command
  | .calling call => s.afterCall (s.bank.resumeCall call)
  | .adjusting wait => s.afterAdjust (s.bank.store.resumeAdjust s.bank.clock wait)
  | .provisioning wait => s.afterProvision (s.bank.store.resumeProvision s.bank.clock wait)
  | .asking query fetch => s.afterAsk query (s.bank.rates.client.resume s.bank.clock query fetch)
  | .reading query fetch => s.afterRead query (s.bank.rates.resume s.bank.clock query fetch)
  | .publishing publisher wait giveUpAt =>
    s.afterPublish giveUpAt (publisher.resumeBatch s.bank.clock s.bank.store wait)
  | .relaying relay lastSignal =>
    s.afterRelay lastSignal (relay.resume s.bank.clock s.bank.store)
  | .ending a _ => s.answer a
  | .together tasks =>
    let (s, tasks) := s.round tasks
    s.afterRound tasks

/-- One turn of a task, if it can go on. -/
def turn (s : Session) : Task → Session × Task
  | .waiting activity =>
    if activity.isReady s.bank then taskAfter (s.resume activity) else (s, .waiting activity)
  | .done timed => (s, .done timed)

/-- Every task that can go on does so once, in their order. -/
def round (s : Session) : List Task → Session × List Task
  | [] => (s, [])
  | task :: tasks =>
    let turned := s.turn task
    let rest := turned.1.round tasks
    (rest.1, turned.2 :: rest.2)

end

end Session

end Teller
