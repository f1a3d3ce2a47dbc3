/-
Finite tables: at most one value for each key.

* `Table`: a list of entries, of which only the first for a key counts;
* `Table.get?_insert`, `Table.get?_erase`, `Table.get?_map`: what is found after a change;
* `Table.keys`, `Table.mem_keys_insert`: the keys that have a value;
* `Table.nodup_keys_insert`: no key ever has two entries.
-/
namespace Teller

/-- A finite table. -/
structure Table (κ α : Type) where
  entries : List (κ × α)

namespace Table

variable {κ α β : Type} [DecidableEq κ]

/-- The value of the first entry for a key. -/
def find? (k : κ) : List (κ × α) → Option α
  | [] => none
  | e :: es => if e.1 = k then some e.2 else find? k es

/-- The entries with the value of one key replaced, in its place or at the end. -/
def put (k : κ) (a : α) : List (κ × α) → List (κ × α)
  | [] => [(k, a)]
  | e :: es => if e.1 = k then (k, a) :: es else e :: put k a es

/-- No entry. -/
def empty : Table κ α := ⟨[]⟩

/-- The value of a key. -/
def get? (t : Table κ α) (k : κ) : Option α := find? k t.entries

/-- The table with the value of one key replaced. -/
def insert (t : Table κ α) (k : κ) (a : α) : Table κ α := ⟨put k a t.entries⟩

/-- The table without a key. -/
def erase (t : Table κ α) (k : κ) : Table κ α := ⟨t.entries.filter fun e => e.1 ≠ k⟩

/-- The table with every value replaced by its image. -/
def map (f : α → β) (t : Table κ α) : Table κ β := ⟨t.entries.map fun e => (e.1, f e.2)⟩

/-- The entries, in the order in which their keys came. -/
def toList (t : Table κ α) : List (κ × α) := t.entries

@[simp] theorem get?_empty (k : κ) : (empty : Table κ α).get? k = none := rfl

/-- Among the entries after a write the written key has the new value, every other its old one. -/
theorem find?_put (k l : κ) (a : α) (es : List (κ × α)) :
    find? l (put k a es) = if k = l then some a else find? l es := by
  induction es with
  | nil => rfl
  | cons e es ih => grind [find?, put]

/-- Among the entries after a removal the key has no value, every other its old one. -/
theorem find?_filter (k l : κ) (es : List (κ × α)) :
    find? l (es.filter fun e => e.1 ≠ k) = if k = l then none else find? l es := by
  induction es with
  | nil => simp [find?]
  | cons e es ih => grind [find?]

/-- After a write the written key has the new value and every other key its old one. -/
theorem get?_insert (t : Table κ α) (k l : κ) (a : α) :
    (t.insert k a).get? l = if k = l then some a else t.get? l :=
  find?_put k l a t.entries

/-- After a removal the key has no value and every other key its old one. -/
theorem get?_erase (t : Table κ α) (k l : κ) :
    (t.erase k).get? l = if k = l then none else t.get? l :=
  find?_filter k l t.entries

@[simp] theorem get?_map (f : α → β) (t : Table κ α) (k : κ) :
    (t.map f).get? k = (t.get? k).map f := by
  obtain ⟨es⟩ := t
  induction es with
  | nil => rfl
  | cons e es ih =>
    simp only [get?, map] at ih ⊢
    by_cases h : e.1 = k <;> simp [find?, h, ih]

/-! ### One change after another -/

/-- A value that is there already can be written again. -/
theorem insert_of_get? {t : Table κ α} {k : κ} {a : α} (h : t.get? k = some a) :
    t.insert k a = t := by
  obtain ⟨es⟩ := t
  induction es with
  | nil => simp [get?, find?] at h
  | cons e es ih => grind [get?, find?, insert, put]

/-- Of two writes the later counts. -/
theorem insert_insert (t : Table κ α) (k : κ) (a b : α) :
    (t.insert k a).insert k b = t.insert k b := by
  obtain ⟨es⟩ := t
  induction es with
  | nil => simp [insert, put]
  | cons e es ih => grind [insert, put]

/-- What was written before a removal does not matter. -/
theorem erase_insert (t : Table κ α) (k : κ) (a : α) : (t.insert k a).erase k = t.erase k := by
  obtain ⟨es⟩ := t
  induction es with
  | nil => simp [insert, put, erase]
  | cons e es ih => grind [insert, put, erase]

/-! ### Keys -/

/-- The keys that have a value. -/
def keys (t : Table κ α) : List κ := t.entries.map (·.1)

/-- A key has no value if it is not among the keys. -/
theorem get?_eq_none_iff {t : Table κ α} {k : κ} : t.get? k = none ↔ k ∉ t.keys := by
  obtain ⟨es⟩ := t
  induction es with
  | nil => simp [get?, find?, keys]
  | cons e es ih => grind [get?, find?, keys]

/-- A value that is found is in an entry. -/
theorem mem_entries_of_get? {t : Table κ α} {k : κ} {a : α} (h : t.get? k = some a) :
    (k, a) ∈ t.entries := by
  obtain ⟨es⟩ := t
  induction es with
  | nil => simp [get?, find?] at h
  | cons e es ih => grind [get?, find?]

/-- The entries after a write are the old ones and the new one. -/
theorem mem_entries_insert {t : Table κ α} {k : κ} {a : α} {e : κ × α}
    (h : e ∈ (t.insert k a).entries) : e = (k, a) ∨ e ∈ t.entries := by
  obtain ⟨es⟩ := t
  induction es with
  | nil => simpa [insert, put] using h
  | cons e' es ih => grind [insert, put]

/-- A write adds one key. -/
theorem mem_keys_insert {t : Table κ α} {k l : κ} {a : α} :
    l ∈ (t.insert k a).keys ↔ l = k ∨ l ∈ t.keys := by
  obtain ⟨es⟩ := t
  induction es with
  | nil => simp [insert, put, keys]
  | cons e es ih => grind [insert, put, keys]

/-- A write gives no key a second entry. -/
theorem nodup_keys_insert {t : Table κ α} (h : t.keys.Nodup) (k : κ) (a : α) :
    (t.insert k a).keys.Nodup := by
  obtain ⟨es⟩ := t
  induction es with
  | nil => simp [insert, put, keys]
  | cons e es ih =>
    have hmem := @mem_keys_insert κ α _ ⟨es⟩ k e.1 a
    simp only [keys, insert, put, List.map_cons, List.nodup_cons] at h ih hmem ⊢
    grind

/-- If no key has two entries, every entry is found. -/
theorem get?_of_mem_entries {t : Table κ α} (h : t.keys.Nodup) {k : κ} {a : α}
    (hmem : (k, a) ∈ t.entries) : t.get? k = some a := by
  obtain ⟨es⟩ := t
  induction es with
  | nil => simp at hmem
  | cons e es ih => grind [get?, find?, keys]

/-- A key that had no value is written at the end. -/
theorem entries_insert {t : Table κ α} {k : κ} {a : α} (h : k ∉ t.keys) :
    (t.insert k a).entries = t.entries ++ [(k, a)] := by
  obtain ⟨es⟩ := t
  induction es with
  | nil => rfl
  | cons e es ih => grind [insert, put, keys]

end Table

end Teller
