/-
Values of the ledger are read back from their JSON.

* `Json.Recovers`: what becomes of a value that is written as JSON and read again;
* `Json.fields?_object`: the fields of a structure are found under their names;
* `Json.recovers_decimal`, `Json.recovers_balances`: only the sign of a zero is lost.
-/
import Teller.Outbox
import Teller.Proofs.Decimal.Text
import Teller.Proofs.Json.RoundTrip
import Teller.Proofs.Text.Timestamp

namespace Teller

namespace Json

/-- The JSON of a value is well-formed, and is read as this. -/
structure Recovers {α : Type} [Coding α] (written read : α) : Prop where
  isProper : (Coding.encode written).IsProper
  decode?_eq : Coding.decode? (Coding.encode written) = some read

section Texts

variable {α : Type} [Coding α] {a b : α}

/-- What is read from a text is what is read from the JSON. -/
lemma Recovers.ofText?_text (h : Recovers a b) : ofText? (text a) = some b := by
  rw [ofText?, text, read?_write h.isProper, Option.bind_some, h.decode?_eq]

lemma Recovers.required? (h : Recovers a b) :
    required? (some (Coding.encode a)) = some b := h.decode?_eq

end Texts

/-! ### Fields -/

section Fields

variable {members : List (String × Json)}

/-- A name that does not repeat is found. -/
lemma member?_of_mem (hnodup : (members.map (·.1)).Nodup) {m : String × Json}
    (hm : m ∈ members) : member? members m.1 = some (some m.2) := by
  have hfilter : (members.filter fun other => other.1 == m.1) = [m] := by
    induction members with
    | nil => exact absurd hm List.not_mem_nil
    | cons first rest ih =>
        rw [List.map_cons, List.nodup_cons] at hnodup
        obtain ⟨hnot, hrest⟩ := hnodup
        rcases List.mem_cons.mp hm with rfl | hm
        · have hnone : (rest.filter fun other => other.1 == m.1) = [] := by
            refine List.filter_eq_nil_iff.mpr fun other hother heq => hnot ?_
            exact List.mem_map.mpr ⟨other, hother, beq_iff_eq.mp heq⟩
          rw [List.filter_cons_of_pos (by simp), hnone]
        · have hne : (first.1 == m.1) = false := by
            rw [beq_eq_false_iff_ne]
            exact fun heq => hnot (heq ▸ List.mem_map_of_mem hm)
          rw [List.filter_cons_of_neg (by simp [hne]), ih hrest hm]
  rw [member?, hfilter]

/-- The fields of a structure are found under their names. -/
lemma fields?_object (hnodup : (members.map (·.1)).Nodup) :
    fields? (members.map (·.1)) (object members) = some (members.map fun m => some m.2) := by
  have hpart : ∀ part ⊆ members,
      (part.map (·.1)).mapM (member? members) = some (part.map fun m => some m.2) := by
    intro part hpart
    induction part with
    | nil => rfl
    | cons m part ih =>
        obtain ⟨hm, hpart⟩ := List.cons_subset.mp hpart
        simp [member?_of_mem hnodup hm, ih hpart]
  exact hpart members (List.Subset.refl _)

end Fields

/-! ### Plain values -/

lemma recovers_currency (c : Currency) : Recovers c c where
  isProper := .string _
  decode?_eq := by cases c <;> decide

lemma recovers_kind (k : OperationKind) : Recovers k k where
  isProper := .string _
  decode?_eq := by cases k <;> decide

lemma recovers_direction (d : Direction) : Recovers d d where
  isProper := .string _
  decode?_eq := by cases d <;> decide

lemma recovers_string (s : String) : Recovers s s where
  isProper := .string _
  decode?_eq := rfl

lemma recovers_accountId (id : AccountId) : Recovers id id where
  isProper := .string _
  decode?_eq := by
    show stringAs? AccountId.parse? (.string (toString id)) = some id
    rw [stringAs?, id.parse?_toString]

lemma recovers_walletId (id : WalletId) : Recovers id id where
  isProper := .string _
  decode?_eq := by
    show stringAs? WalletId.parse? (.string (toString id)) = some id
    rw [stringAs?, id.parse?_toString]

lemma recovers_recordId (id : RecordId) : Recovers id id where
  isProper := .string _
  decode?_eq := by
    show stringAs? RecordId.parse? (.string (toString id)) = some id
    rw [stringAs?, id.parse?_toString]

lemma recovers_eventId (id : EventId) : Recovers id id where
  isProper := .string _
  decode?_eq := by
    show stringAs? EventId.parse? (.string (toString id)) = some id
    rw [stringAs?, id.parse?_toString]

/-- An instant of the calendar is read as the one that its written form denotes. -/
lemma recovers_instant {t : Timestamp} (hyear : Timestamp.yearInRange t.date.year = true) :
    Recovers t t.settled where
  isProper := .string _
  decode?_eq := by
    show stringAs? Timestamp.parse? (.string t.toString) = some t.settled
    rw [stringAs?, Timestamp.parse?_toString_settled hyear]

lemma recovers_timestamp {t : Timestamp} (h : t.IsWritable) : Recovers t t := by
  have hread := recovers_instant h.year
  rwa [Timestamp.settled_eq h.leap] at hread

/-- A decimal loses the sign of a zero. -/
lemma recovers_decimal (d : Decimal) : Recovers d d.withoutZeroSign where
  isProper := .string _
  decode?_eq := by
    show decimal? (.string d.toString) = some d.withoutZeroSign
    rw [decimal?, d.ofText?_toString]

/-- A list is read back item by item. -/
lemma recovers_list {α : Type} [Coding α] {as : List α} (h : ∀ a ∈ as, Recovers a a) :
    Recovers as as where
  isProper := .array fun item hitem => by
    obtain ⟨a, ha, rfl⟩ := List.mem_map.mp hitem
    exact (h a ha).isProper
  decode?_eq := by
    show (as.map Coding.encode).mapM Coding.decode? = some as
    induction as with
    | nil => rfl
    | cons a as ih =>
        have hrest := ih fun b hb => h b (List.mem_cons_of_mem a hb)
        simp [(h a List.mem_cons_self).decode?_eq, hrest]

end Json

/-! ### Balances -/

namespace CurrencyMap

variable {α β : Type}

lemma ofList_toList (m : CurrencyMap α) : ofList m.toList = m := by
  obtain ⟨usd, eur, rub⟩ := m
  cases usd <;> cases eur <;> cases rub <;> rfl

lemma toList_map (f : α → β) (m : CurrencyMap α) :
    (m.map f).toList = m.toList.map fun e => (e.1, f e.2) := by
  obtain ⟨usd, eur, rub⟩ := m
  cases usd <;> cases eur <;> cases rub <;> rfl

end CurrencyMap

namespace Json

/-- The balance of a currency is found under its code. -/
lemma balance?_encode (c : Currency) (d : Decimal) :
    balance? (c.code, Coding.encode d) = some (c, d.withoutZeroSign) := by
  have hcode : Currency.ofCode? c.code = some c := by cases c <;> decide
  have hdecimal : decimal? (Coding.encode d) = some d.withoutZeroSign :=
    (recovers_decimal d).decode?_eq
  simp [balance?, hcode, hdecimal]

/-- Balances lose the signs of zeros. -/
lemma recovers_balances (b : Balances) : Recovers b (b.map Decimal.withoutZeroSign) where
  isProper := .object fun m hm => by
    obtain ⟨_, -, rfl⟩ := List.mem_map.mp hm
    exact .string _
  decode?_eq := by
    have hmembers : ∀ entries : List (Currency × Decimal),
        (entries.map fun e => (e.1.code, Coding.encode e.2)).mapM balance?
          = some (entries.map fun e => (e.1, e.2.withoutZeroSign)) := by
      intro entries
      induction entries with
      | nil => rfl
      | cons entry entries ih => simp [balance?_encode, ih]
    calc balances? (.object (b.toList.map fun e => (e.1.code, Coding.encode e.2)))
        = some (CurrencyMap.ofList (b.toList.map fun e => (e.1, e.2.withoutZeroSign))) := by
          rw [balances?, hmembers, Option.map_some]
      _ = some (b.map Decimal.withoutZeroSign) := by
          rw [← CurrencyMap.toList_map, CurrencyMap.ofList_toList]

end Json

end Teller
