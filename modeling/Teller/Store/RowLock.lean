/-
The lock of a row.

* `RowLock`: the transaction that holds the row, and those that wait for it, the first in front;
* `RowLock.request`: a transaction takes a free row or joins the end of the queue;
* `RowLock.leave`: a transaction gives the row up or leaves the queue; a row that is given up passes
  at once to the first that waits.
-/
namespace Teller

/-- Names an open transaction. -/
structure TxId where
  serial : Nat
  deriving DecidableEq

/-- The lock of a row. -/
structure RowLock where
  holder : Option TxId
  queue : List TxId
  deriving DecidableEq

namespace RowLock

/-- A row that nobody holds or waits for. -/
def free : RowLock := ⟨none, []⟩

/-- The lock after a transaction has asked for the row. -/
def request (l : RowLock) (tx : TxId) : RowLock :=
  match l.holder with
  | none => { l with holder := some tx }
  | some holder =>
    if holder = tx ∨ tx ∈ l.queue then l else { l with queue := l.queue ++ [tx] }

/-- The lock after a transaction has given up the row or its place in the queue. -/
def leave (l : RowLock) (tx : TxId) : RowLock :=
  let queue := l.queue.filter (· ≠ tx)
  if l.holder = some tx then ⟨queue.head?, queue.tail⟩ else { l with queue }

end RowLock

end Teller
