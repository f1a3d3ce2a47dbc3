/-
The identifiers of the ledger: one type for each kind of thing that is named.

* `AccountId`, `WalletId`, `RecordId`, `EventId`: identifiers that cannot be confused;
* `IdSupply`: where new ones come from. Accounts get identifiers of version 4, all others of
  version 7, so that the identifiers of events sort in the order in which they were made.
-/
import Teller.Uuid

namespace Teller

/-- Names an account. -/
structure AccountId where
  uuid : Uuid
  deriving DecidableEq

/-- Names a wallet: the part of an account that holds one currency. -/
structure WalletId where
  uuid : Uuid
  deriving DecidableEq

/-- Names a record of the journal. -/
structure RecordId where
  uuid : Uuid
  deriving DecidableEq

/-- Names a notification, both in the outbox and in its envelope. -/
structure EventId where
  uuid : Uuid
  deriving DecidableEq

instance : ToString AccountId := ⟨fun i => i.uuid.toString⟩
instance : ToString WalletId := ⟨fun i => i.uuid.toString⟩
instance : ToString RecordId := ⟨fun i => i.uuid.toString⟩
instance : ToString EventId := ⟨fun i => i.uuid.toString⟩

/-- The account that a text names. -/
def AccountId.parse? (s : String) : Option AccountId := (Uuid.parse? s).map .mk

/-- The wallet that a text names. -/
def WalletId.parse? (s : String) : Option WalletId := (Uuid.parse? s).map .mk

/-- The record that a text names. -/
def RecordId.parse? (s : String) : Option RecordId := (Uuid.parse? s).map .mk

/-- The notification that a text names. -/
def EventId.parse? (s : String) : Option EventId := (Uuid.parse? s).map .mk

/-! ### New identifiers -/

/-- A source of identifiers: how many have been drawn from it. -/
structure IdSupply where
  drawn : Nat
  deriving DecidableEq

namespace IdSupply

/-- A source from which nothing has been drawn. -/
def fresh : IdSupply := ⟨0⟩

/-- The source after one more identifier. -/
def next (s : IdSupply) : IdSupply := ⟨s.drawn + 1⟩

/-- The next identifier of an account. -/
def account (s : IdSupply) : AccountId × IdSupply := (⟨.random s.drawn⟩, s.next)

/-- The next identifier of a wallet, made at the given time in milliseconds. -/
def wallet (s : IdSupply) (millis : Nat) : WalletId × IdSupply :=
  (⟨.timeOrdered millis s.drawn⟩, s.next)

/-- The next identifier of a record, made at the given time in milliseconds. -/
def record (s : IdSupply) (millis : Nat) : RecordId × IdSupply :=
  (⟨.timeOrdered millis s.drawn⟩, s.next)

/-- The next identifier of a notification, made at the given time in milliseconds. -/
def event (s : IdSupply) (millis : Nat) : EventId × IdSupply :=
  (⟨.timeOrdered millis s.drawn⟩, s.next)

end IdSupply

end Teller
