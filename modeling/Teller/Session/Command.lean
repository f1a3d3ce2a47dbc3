/-
What a script can ask for, and what it is told.

* `Command`: one thing to do, or several side by side; transactions and contexts go by names of the
  script's own;
* `Answer`, `Trouble`, `Timed`: what comes of a command, and when.
-/
import Teller.Bank.Call
import Teller.Relay.Publisher

namespace Teller

/-- Until when a call may wait. -/
inductive Limit where
  | none
  /-- For so many milliseconds from its start. -/
  | within (millis : Nat)
  /-- Until the deadline of the context of this name. -/
  | context (name : String)
  deriving DecidableEq

/-- A wallet: by its identifier, or as the one last seen at this place. -/
inductive WalletRef where
  | id (id : WalletId)
  | seen (key : WalletKey)
  deriving DecidableEq

/-- An event: by its identifier, or by its place in the last list of pending ones. -/
inductive EventRef where
  | id (id : EventId)
  | pending (index : Nat)
  deriving DecidableEq

/-- One thing to do. -/
inductive Command where
  | call (request : Request) (limit : Limit)
  | begin (tx : String)
  | adjust (tx : String) (key : WalletKey) (amount : Decimal) (direction : Direction)
  | append (tx : String) (wallet : WalletRef) (currency : Currency) (amount : Decimal)
      (direction : Direction) (kind : OperationKind) (counterparty : Option WalletRef)
  | provision (tx : String) (account : AccountId)
  | enqueue (tx : String) (id : EventId) (kind : OperationKind) (account : AccountId)
      (payload : String)
  | commit (tx : String)
  | rollback (tx : String)
  | drop (tx : String)
  | read (account : AccountId)
  | records (account : AccountId)
  | pending (limit : Nat)
  | mark (events : List EventRef)
  | eventCount
  | fault (point : FaultPoint)
  | setRate (currency : Currency) (rate : Decimal)
  | setPair (pair : CurrencyPair) (rate : Decimal)
  | failNext (count : Nat)
  | delay (millis : Option Nat)
  | callCounts
  | askProvider (query : RateQuery)
  | askCache (query : RateQuery)
  | invalidate
  | cacheStats
  | advance (millis : Nat)
  | sleep (millis : Nat)
  | context (name : String) (millis : Option Nat) (request : Option Uuid)
  | remaining (name : String)
  | publish (publisher : Publisher Sink) (giveUpAfter : Option Nat)
  | relay (publisher : Publisher Sink) (interval : Nat) (signals : List SentSignal)
  /-- Commands side by side, each so many milliseconds after the start of all. -/
  | concurrent (commands : List (Nat × Command))

/-- The counters of a cache. -/
structure CacheStats where
  hits : Nat
  misses : Nat
  providerErrors : Nat
  cachedPairs : Nat
  deriving DecidableEq

/-- What comes of a batch: how many events were accepted, unless it was abandoned. -/
structure Published where
  delivered : Option Nat
  attempts : List Attempt
  received : List Delivery
  deriving DecidableEq

/-- Why a script is told nothing else. -/
inductive Trouble where
  | failure (failure : Failure)
  | rate (error : RateError)
  /-- The script speaks of something that it has not made. -/
  | unknown (name : String)
  /-- A loop without time between its batches would never listen. -/
  | noInterval
  /-- A sink cannot be set up. -/
  | sink (fault : SinkFault)
  /-- Nothing would ever make the command go on. -/
  | stuck
  deriving DecidableEq

/-- Does the trouble end the whole script? -/
def Trouble.isFatal : Trouble → Bool
  | failure (.refused _) => false
  | failure _ => true
  | noInterval => true
  | sink _ => true
  | _ => false

/-- What a script is told. -/
inductive Answer where
  | nothing
  | reply (reply : Reply)
  | adjusted (outcome : AdjustOutcome)
  | balances (balances : Balances)
  | records (records : List TransactionRecord)
  | events (events : List OutboxEvent)
  | count (n : Nat)
  | millis (n : Option Nat)
  | request (id : Option Uuid)
  | rates (rates : RateTable)
  | rate (rate : Decimal)
  | quote (quote : PairQuote)
  | callCounts (name : String) (table pair : Nat)
  | cacheStats (stats : CacheStats)
  | published (published : Published)
  | attempts (attempts : List Attempt)
  /-- What comes of commands side by side, in their order, and the instants. -/
  | concurrent (results : List (Except Trouble Answer × Nat))

/-- What comes of a command. -/
abbrev CommandResult := Except Trouble Answer

/-- What comes of a command, and the instant. -/
abbrev Timed := CommandResult × Nat

end Teller
