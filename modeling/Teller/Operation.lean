/-
What can be done to a wallet.

* `Direction`: credit or debit, and the sign that each gives to an amount;
* `OperationKind`: deposit, withdrawal or transfer;
* both have one exact name, which `ofName?` reads back.
-/
import Teller.Decimal.Basic

namespace Teller

/-- Which way an amount moves. -/
inductive Direction where
  | credit
  | debit
  deriving DecidableEq

namespace Direction

/-- Both directions. -/
def all : List Direction := [credit, debit]

/-- The name of a direction. -/
def name : Direction → String
  | credit => "credit"
  | debit => "debit"

/-- The direction of exactly this name. -/
def ofName? (s : String) : Option Direction :=
  all.find? fun d => d.name == s

/-- The amount as it changes a balance: a debit takes the other sign. -/
def signed : Direction → Decimal → Decimal
  | credit, amount => amount
  | debit, amount => -amount

instance : ToString Direction := ⟨name⟩

end Direction

/-- The kind of an operation on wallets. -/
inductive OperationKind where
  | deposit
  | withdraw
  | transfer
  deriving DecidableEq

namespace OperationKind

/-- All kinds. -/
def all : List OperationKind := [deposit, withdraw, transfer]

/-- The name of a kind. -/
def name : OperationKind → String
  | deposit => "DEPOSIT"
  | withdraw => "WITHDRAW"
  | transfer => "TRANSFER"

/-- The kind of exactly this name. -/
def ofName? (s : String) : Option OperationKind :=
  all.find? fun k => k.name == s

instance : ToString OperationKind := ⟨name⟩

/-- The direction in which an operation on a single wallet moves its amount. -/
def direction : OperationKind → Direction
  | withdraw => .debit
  | _ => .credit

end OperationKind

end Teller
