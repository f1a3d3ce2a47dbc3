/-
Values of the ledger as JSON.

* `Json.Coding`: how values of a type are written as JSON and read from it;
* `Json.text` and `Json.ofText?`: the same with texts;
* `Json.fields?`: the fields of a structure, given by name or, in an array, by position;
* the forms of names, identifiers, times, decimals, money and balances.

A structure is written as an object with its fields in a fixed order. When it is read, the order is
free, names that are not known are passed over, and a name that repeats is refused.
-/
import Teller.Identifier
import Teller.Json.Reader
import Teller.Json.Writer
import Teller.Lifecycle
import Teller.Money
import Teller.Timestamp

namespace Teller

/-- How values of a type are written as JSON and read from it. -/
class Json.Coding (α : Type) where
  encode : α → Json
  decode? : Json → Option α

namespace Json

variable {α : Type} [Coding α]

/-- The JSON text of a value. -/
def text (a : α) : String := (Coding.encode a).write

/-- The value of a JSON text. -/
def ofText? (s : String) : Option α := (read? s).bind Coding.decode?

/-! ### Forms -/

/-- The value that a string stands for. -/
def stringAs? (parse? : String → Option α) : Json → Option α
  | string s => parse? s
  | _ => none

/-- The value that a name stands for: a string, or an object that gives null under the name. -/
def nameAs? (ofName? : String → Option α) : Json → Option α
  | string s => ofName? s
  | object [(s, null)] => ofName? s
  | _ => none

/-- The value of one field in an object, none if it is missing. A repeated name is refused. -/
def member? (members : List (String × Json)) (name : String) : Option (Option Json) :=
  match members.filter fun m => m.1 == name with
  | [] => some none
  | [(_, value)] => some (some value)
  | _ => none

/-- The fields of a structure, in the order of the given names, each none if it is missing. In an
array all must be there, and nothing else. -/
def fields? (names : List String) : Json → Option (List (Option Json))
  | object members => names.mapM (member? members)
  | array items => if items.length = names.length then some (items.map some) else none
  | _ => none

/-- The value of a field that must be there. -/
def required? (field : Option Json) : Option α := field.bind Coding.decode?

/-- The value of a field that may be missing or null. -/
def optional? : Option Json → Option (Option α)
  | none => some none
  | some null => some none
  | some value => (Coding.decode? value).map some

/-! ### Plain values -/

instance : Coding String := ⟨.string, stringAs? some⟩
instance : Coding Currency := ⟨fun c => .string c.code, nameAs? Currency.ofCode?⟩
instance : Coding Direction := ⟨fun d => .string d.name, nameAs? Direction.ofName?⟩
instance : Coding OperationKind := ⟨fun k => .string k.name, nameAs? OperationKind.ofName?⟩
instance : Coding Stage := ⟨fun s => .string s.tag, nameAs? Stage.ofTag?⟩
instance : Coding AccountId := ⟨fun i => .string (toString i), stringAs? AccountId.parse?⟩
instance : Coding WalletId := ⟨fun i => .string (toString i), stringAs? WalletId.parse?⟩
instance : Coding RecordId := ⟨fun i => .string (toString i), stringAs? RecordId.parse?⟩
instance : Coding EventId := ⟨fun i => .string (toString i), stringAs? EventId.parse?⟩
instance : Coding Timestamp := ⟨fun t => .string (toString t), stringAs? Timestamp.parse?⟩

/-- The decimal of a string or of a number. -/
def decimal? : Json → Option Decimal
  | string s => Decimal.ofText? s
  | number n => n.toDecimal?
  | _ => none

instance : Coding Decimal := ⟨fun d => .string (toString d), decimal?⟩

/-! ### Collections -/

/-- The values of an array. -/
def list? : Json → Option (List α)
  | array items => items.mapM Coding.decode?
  | _ => none

instance : Coding (List α) := ⟨fun as => .array (as.map Coding.encode), list?⟩

/-- One balance of an object. -/
def balance? (m : String × Json) : Option (Currency × Decimal) := do
  let currency ← Currency.ofCode? m.1
  let balance ← decimal? m.2
  return (currency, balance)

/-- The balances of an object; of two for one currency the later wins. -/
def balances? : Json → Option Balances
  | object members => (members.mapM balance?).map CurrencyMap.ofList
  | _ => none

instance : Coding Balances where
  encode b := .object (b.toList.map fun (c, d) => (c.code, Coding.encode d))
  decode? := balances?

/-! ### Structures -/

instance : Coding CurrencyPair where
  encode p := .object [("from", Coding.encode p.source), ("to", Coding.encode p.target)]
  decode? value :=
    match fields? ["from", "to"] value with
    | some [source, target] => do
      let source ← required? source
      let target ← required? target
      return ⟨source, target⟩
    | _ => none

instance : Coding Money where
  encode m := .object [("value", Coding.encode m.value), ("currency", Coding.encode m.currency)]
  decode? value :=
    match fields? ["value", "currency"] value with
    | some [amount, currency] => do
      let amount ← required? amount
      let currency ← required? currency
      return ⟨amount, currency⟩
    | _ => none

end Json

end Teller
