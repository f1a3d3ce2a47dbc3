/-
Amounts of money, balances, and the reading of names that callers write.

* `Money`: a number and its currency; `Money.positive` accepts what an operation may move;
* `Balances`: at most one balance per currency;
* `Currency.parse`, `Direction.parse`, `OperationKind.parse`: names, refused with a reason.
-/
import Teller.Decimal.Arithmetic
import Teller.LedgerError
import Teller.Text.Blank

namespace Teller

/-! ### Names -/

/-- The currency that a text names, in any ASCII letter case and with white space around it. -/
def Currency.parse (s : String) : Except LedgerError Currency :=
  let name := String.ofList ((Text.trim s).toList.map Char.toUpper)
  match ofCode? name with
  | some c => .ok c
  | none => .error (.validation (.unknownCurrency name))

/-- The direction that a text names exactly. -/
def Direction.parse (s : String) : Except LedgerError Direction :=
  match ofName? s with
  | some d => .ok d
  | none => .error (.validation (.unknownDirection s))

/-- The kind of operation that a text names exactly. -/
def OperationKind.parse (s : String) : Except LedgerError OperationKind :=
  match ofName? s with
  | some k => .ok k
  | none => .error (.validation (.unknownKind s))

/-! ### Money -/

/-- An amount of a currency. -/
structure Money where
  value : Decimal
  currency : Currency
  deriving DecidableEq

namespace Money

/-- The largest amount and the largest balance. -/
def maxValue : Decimal := ⟨false, 99999999999999999999, 2, by decide, by decide⟩

instance : ToString Money := ⟨fun m => s!"{m.value} {m.currency}"⟩

/-- Is the amount above zero? -/
def isPositive (m : Money) : Bool := Decimal.zero < m.value

/-- An amount that an operation may move: above zero, not above the largest, and a whole number of
the currency's smallest units, with whatever scale it is written. -/
def positive (value : Decimal) (currency : Currency) : Except LedgerError Money :=
  if value ≤ Decimal.zero then .error (.validation (.notPositive value))
  else if maxValue < value then .error (.validation (.tooLarge maxValue value))
  else if currency.decimalPlaces < value.minimalScale then
    .error (.validation (.tooPrecise currency value))
  else .ok ⟨value, currency⟩

/-- The amount rounded to the currency's smallest unit, a half going to the even neighbour. -/
def round (m : Money) : Money :=
  { m with value := m.value.roundTo m.currency.decimalPlaces }

/-- The same currency and the same number. -/
def SameValue (a b : Money) : Prop :=
  a.currency = b.currency ∧ a.value.SameValue b.value

instance (a b : Money) : Decidable (SameValue a b) :=
  inferInstanceAs (Decidable (_ ∧ _))

end Money

/-! ### Balances -/

/-- At most one balance per currency. -/
abbrev Balances := CurrencyMap Decimal

namespace Balances

/-- The same currencies have a balance, and the balances are the same numbers. -/
def SameValues (a b : Balances) : Bool :=
  Currency.all.all fun c =>
    match a.get? c, b.get? c with
    | none, none => true
    | some x, some y => x.SameValue y
    | _, _ => false

end Balances

end Teller
