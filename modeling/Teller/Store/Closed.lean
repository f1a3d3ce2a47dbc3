/-
A store whose connections have been closed: every method fails, and names itself.

* `StoreMethod`: the methods;
* `Request.firstMethod?`: the method that a call to a bank reaches first;
* `Request.errorWhenClosed?`: the error of the call over such a store.
-/
import Teller.Bank.Basic
import Teller.Relay.Batch

namespace Teller

/-- The methods of a store that need a connection. -/
inductive StoreMethod where
  | begin
  | readBalances
  | transactionRecords
  | pendingEvents
  | markPublished
  | setUp
  deriving DecidableEq

namespace StoreMethod

/-- The name of a method in messages. -/
def name : StoreMethod → String
  | begin => "begin"
  | readBalances => "read_balances"
  | transactionRecords => "transaction_records"
  | pendingEvents => "pending_events"
  | markPublished => "mark_published"
  | setUp => "migrate"

/-- The error of a method over closed connections. -/
def errorWhenClosed : StoreMethod → LedgerError
  | setUp => .storeUnavailable .setUp
  | m => .storeUnavailable (.closed m.name)

end StoreMethod

/-- The method that a call reaches first, if it reaches the store at all. -/
def Request.firstMethod? : Request → Option StoreMethod
  | openAccount _ => some .begin
  | deposit .. => some .begin
  | withdraw .. => some .begin
  | exchange .. => some .begin
  | balance _ => some .readBalances
  | history _ => some .transactionRecords
  | verify _ => some .readBalances
  | rates => none
  | pairRate .. => none

/-- The error of a call, with arguments in order, over closed connections. -/
def Request.errorWhenClosed? (r : Request) : Option LedgerError :=
  r.firstMethod?.map StoreMethod.errorWhenClosed

/-- The error of a batch over closed connections. -/
def Batch.errorWhenClosed : PublishError :=
  .store StoreMethod.pendingEvents.errorWhenClosed

end Teller
