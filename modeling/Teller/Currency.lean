/-
Currencies, ordered pairs of them, and collections with at most one value per currency.

* `Currency`: the supported currencies, with their codes and their decimal places;
* `CurrencyPair`: a source and a target;
* `CurrencyMap`: at most one value per currency, listed in the order of `Currency.all`;
* `CurrencyMap.get?_insert`: reading after a write.
-/
namespace Teller

/-- A supported currency. -/
inductive Currency where
  | usd
  | eur
  | rub
  deriving DecidableEq, Inhabited

namespace Currency

/-- The supported currencies, in the order in which collections list them. -/
def all : List Currency := [usd, eur, rub]

/-- The three-letter code. -/
def code : Currency → String
  | usd => "USD"
  | eur => "EUR"
  | rub => "RUB"

/-- The decimal places of the smallest unit. -/
def decimalPlaces : Currency → Nat
  | usd => 2
  | eur => 2
  | rub => 2

/-- The currency with exactly this code. -/
def ofCode? (s : String) : Option Currency :=
  all.find? fun c => c.code == s

instance : ToString Currency := ⟨code⟩

/-- The list of currencies leaves none out. -/
theorem mem_all (c : Currency) : c ∈ all := by
  cases c <;> decide

end Currency

/-! ### Pairs -/

/-- An ordered pair of currencies: amounts of `source` are priced in `target`. -/
structure CurrencyPair where
  source : Currency
  target : Currency
  deriving DecidableEq

namespace CurrencyPair

/-- All ordered pairs. -/
def all : List CurrencyPair :=
  Currency.all.flatMap fun s => Currency.all.map fun t => ⟨s, t⟩

/-- The pair with source and target exchanged. -/
def inverse (p : CurrencyPair) : CurrencyPair :=
  ⟨p.target, p.source⟩

instance : ToString CurrencyPair :=
  ⟨fun p => p.source.code ++ "/" ++ p.target.code⟩

end CurrencyPair

/-! ### One value per currency -/

/-- At most one value for each currency. -/
structure CurrencyMap (α : Type) where
  usd : Option α
  eur : Option α
  rub : Option α
  deriving DecidableEq

namespace CurrencyMap

variable {α β : Type}

/-- No value for any currency. -/
def empty : CurrencyMap α := ⟨none, none, none⟩

instance : Inhabited (CurrencyMap α) := ⟨empty⟩

/-- The value of a currency. -/
def get? (m : CurrencyMap α) : Currency → Option α
  | .usd => m.usd
  | .eur => m.eur
  | .rub => m.rub

/-- The map that has this value, or none, for each currency. -/
def ofFn (f : Currency → Option α) : CurrencyMap α :=
  ⟨f .usd, f .eur, f .rub⟩

/-- The map with the value of one currency replaced. -/
def insert (m : CurrencyMap α) (c : Currency) (a : α) : CurrencyMap α :=
  match c with
  | .usd => { m with usd := some a }
  | .eur => { m with eur := some a }
  | .rub => { m with rub := some a }

/-- The currencies that have a value, with it, in the order of `Currency.all`. -/
def toList (m : CurrencyMap α) : List (Currency × α) :=
  Currency.all.filterMap fun c => (m.get? c).map fun a => (c, a)

/-- The map of a list of entries; of two entries for one currency the later wins. -/
def ofList (entries : List (Currency × α)) : CurrencyMap α :=
  entries.foldl (fun m e => m.insert e.1 e.2) empty

/-- The number of currencies that have a value. -/
def size (m : CurrencyMap α) : Nat := m.toList.length

/-- Has no currency a value? -/
def isEmpty (m : CurrencyMap α) : Bool := m.size == 0

/-- The map with every value replaced by its image. -/
def map (f : α → β) (m : CurrencyMap α) : CurrencyMap β :=
  ofFn fun c => (m.get? c).map f

@[simp] theorem get?_empty (c : Currency) : (empty : CurrencyMap α).get? c = none := by
  cases c <;> rfl

@[simp] theorem get?_ofFn (f : Currency → Option α) (c : Currency) : (ofFn f).get? c = f c := by
  cases c <;> rfl

@[simp] theorem get?_map (f : α → β) (m : CurrencyMap α) (c : Currency) :
    (m.map f).get? c = (m.get? c).map f := by
  simp [map]

/-- Reading after a write gives the new value at the written currency and the old one elsewhere. -/
theorem get?_insert (m : CurrencyMap α) (c d : Currency) (a : α) :
    (m.insert c a).get? d = if d = c then some a else m.get? d := by
  cases c <;> cases d <;> rfl

/-- A map is determined by the values it gives. -/
@[ext] theorem ext {m n : CurrencyMap α} (h : ∀ c, m.get? c = n.get? c) : m = n := by
  have hu := h .usd
  have he := h .eur
  have hr := h .rub
  cases m
  cases n
  simp_all [get?]

end CurrencyMap

end Teller
