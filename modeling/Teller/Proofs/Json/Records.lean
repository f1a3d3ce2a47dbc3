/-
The records of the ledger are read back from their JSON, however its objects are arranged.

* `Money.Spells`, `WalletSnapshot.Spells`, `TransactionRecord.Spells`, `OutboxEvent.Spells`,
  `ExchangeReceipt.Spells`, `IntegrityReport.Spells`: the values of JSON that stand for a value of
  the ledger: its own, and those whose objects have their fields in another order and others among
  them, or leave out the null of a missing wallet;
* `TransactionRecord.SameValues` and its siblings: values that are equal, decimals being compared as
  numbers;
* `Json.ReadsBack`: a value is read back from its own text and from that of everything that stands
  for it;
* `Json.keepsRecords`: so is every value of the five kinds whose instant can be written; one in a
  leap second within a minute is read at the other name of that instant;
* `Json.not_readsBack_leap_second`: such a record, and a name that is no text.
-/
import Teller.Proofs.Json.Arrangement
import Teller.Proofs.Json.Notification
import Teller.Journal
import Teller.Receipt

namespace Teller

open Json

/-! ### Money -/

namespace Money

/-- The members of the object that is written for an amount of money. -/
def members (m : Money) : List (String × Json) :=
  [("value", Coding.encode m.value), ("currency", Coding.encode m.currency)]

/-- What stands for an amount of money. -/
def Spells (m : Money) (w : Json) : Prop := Arranges ["value", "currency"] m.members w

lemma spells_encode (m : Money) : m.Spells (Coding.encode m) := .self ..

/-- An amount of money loses the sign of a zero. -/
lemma Spells.isReadAs {m : Money} {w : Json} (h : m.Spells w) :
    IsReadAs w { m with value := m.value.withoutZeroSign } where
  isProper := by
    refine h.isProper fun member hmember => ?_
    simp only [members, List.mem_cons, List.not_mem_nil, or_false] at hmember
    rcases hmember with rfl | rfl
    · exact (recovers_decimal m.value).isProper
    · exact (recovers_currency m.currency).isProper
  decode?_eq := by
    have hfields := h.fields?_eq.trans (@fields?_object m.members (by simp [members]))
    simp only [members, List.map_cons, List.map_nil] at hfields
    simp only [Coding.decode?, hfields, (recovers_decimal m.value).required?,
      (recovers_currency m.currency).required?]
    rfl

lemma sameValue_withoutZeroSign (m : Money) :
    SameValue { m with value := m.value.withoutZeroSign } m :=
  ⟨rfl, m.value.sameValue_withoutZeroSign⟩

end Money

/-! ### Snapshots of wallets -/

namespace WalletSnapshot

/-- The members of the object that is written for a snapshot. -/
def members (s : WalletSnapshot) : List (String × Json) := [
  ("account_id", Coding.encode s.account),
  ("wallet_id", Coding.encode s.wallet),
  ("currency", Coding.encode s.currency),
  ("balances", Coding.encode s.balances)]

/-- What stands for a snapshot. -/
def Spells (s : WalletSnapshot) (w : Json) : Prop :=
  Arranges ["account_id", "wallet_id", "currency", "balances"] s.members w

lemma spells_encode (s : WalletSnapshot) : s.Spells (Coding.encode s) := .self ..

/-- The snapshot without the signs of zeros. -/
def withoutZeroSigns (s : WalletSnapshot) : WalletSnapshot :=
  { s with balances := s.balances.map Decimal.withoutZeroSign }

/-- A snapshot loses the signs of zeros. -/
lemma Spells.isReadAs {s : WalletSnapshot} {w : Json} (h : s.Spells w) :
    IsReadAs w s.withoutZeroSigns where
  isProper := by
    refine h.isProper fun member hmember => ?_
    simp only [members, List.mem_cons, List.not_mem_nil, or_false] at hmember
    rcases hmember with rfl | rfl | rfl | rfl
    · exact (recovers_accountId s.account).isProper
    · exact (recovers_walletId s.wallet).isProper
    · exact (recovers_currency s.currency).isProper
    · exact (recovers_balances s.balances).isProper
  decode?_eq := by
    have hfields := h.fields?_eq.trans (@fields?_object s.members (by simp [members]))
    simp only [members, List.map_cons, List.map_nil] at hfields
    simp only [Coding.decode?, hfields, (recovers_accountId s.account).required?,
      (recovers_walletId s.wallet).required?, (recovers_currency s.currency).required?,
      (recovers_balances s.balances).required?]
    rfl

/-- The same snapshot, balances being compared as numbers. -/
structure SameValues (a b : WalletSnapshot) : Prop where
  account : a.account = b.account
  wallet : a.wallet = b.wallet
  currency : a.currency = b.currency
  balances : Balances.SameValues a.balances b.balances = true

lemma sameValues_withoutZeroSigns (s : WalletSnapshot) : s.withoutZeroSigns.SameValues s :=
  ⟨rfl, rfl, rfl, s.balances.sameValues_withoutZeroSign⟩

end WalletSnapshot

/-! ### Records of the journal -/

namespace TransactionRecord

/-- The names of the fields of a record. -/
def names : List String :=
  ["id", "wallet_id", "currency", "amount", "direction", "kind", "counterparty_wallet_id",
    "created_at"]

/-- The wallet on the other side, or null. -/
def counterpartyJson (r : TransactionRecord) : Json :=
  (r.counterparty.map Coding.encode).getD .null

/-- The members of the object that is written for a record. -/
def members (r : TransactionRecord) : List (String × Json) := [
  ("id", Coding.encode r.id),
  ("wallet_id", Coding.encode r.wallet),
  ("currency", Coding.encode r.currency),
  ("amount", Coding.encode r.amount),
  ("direction", Coding.encode r.direction),
  ("kind", Coding.encode r.kind),
  ("counterparty_wallet_id", r.counterpartyJson),
  ("created_at", Coding.encode r.createdAt)]

/-- What stands for a record. The null of a missing wallet may be left out. -/
inductive Spells (r : TransactionRecord) (w : Json) : Prop where
  | full (h : Arranges names r.members w)
  | withoutNull (hnone : r.counterparty = none)
      (h : Arranges names (r.members.filter fun m => m.1 != "counterparty_wallet_id") w)

lemma spells_encode (r : TransactionRecord) : r.Spells (Coding.encode r) := .full (.self ..)

/-- The record as it is read: without the sign of a zero, at the instant that was written. -/
def asRead (r : TransactionRecord) : TransactionRecord :=
  { r with amount := r.amount.withoutZeroSign, createdAt := r.createdAt.settled }

variable {r : TransactionRecord} {w : Json}

lemma isProper_of_mem (hyear : Timestamp.yearInRange r.createdAt.date.year = true)
    {m : String × Json} (hm : m ∈ r.members) : m.2.IsProper := by
  simp only [members, List.mem_cons, List.not_mem_nil, or_false] at hm
  rcases hm with rfl | rfl | rfl | rfl | rfl | rfl | rfl | rfl
  · exact (recovers_recordId r.id).isProper
  · exact (recovers_walletId r.wallet).isProper
  · exact (recovers_currency r.currency).isProper
  · exact (recovers_decimal r.amount).isProper
  · exact (recovers_direction r.direction).isProper
  · exact (recovers_kind r.kind).isProper
  · rw [counterpartyJson]
    cases r.counterparty with
    | none => exact .null
    | some wallet => exact (recovers_walletId wallet).isProper
  · exact (recovers_instant hyear).isProper

/-- A wallet on the other side is found, and so is that there is none. -/
lemma optional?_counterpartyJson (r : TransactionRecord) :
    optional? (some r.counterpartyJson) = some r.counterparty := by
  rw [counterpartyJson]
  cases r.counterparty with
  | none => rfl
  | some wallet =>
      show (Coding.decode? (Coding.encode wallet)).map some = some (some wallet)
      rw [(recovers_walletId wallet).decode?_eq, Option.map_some]

/-- The fields of what stands for a record; a wallet on the other side is read as there is one. -/
lemma Spells.exists_fields?_eq (h : r.Spells w) : ∃ counterparty,
    optional? counterparty = some r.counterparty ∧
    fields? names w = some [some (Coding.encode r.id), some (Coding.encode r.wallet),
      some (Coding.encode r.currency), some (Coding.encode r.amount),
      some (Coding.encode r.direction), some (Coding.encode r.kind), counterparty,
      some (Coding.encode r.createdAt)] := by
  cases h with
  | full h =>
      exact ⟨_, r.optional?_counterpartyJson,
        h.fields?_eq.trans (@fields?_object r.members (by simp [members]))⟩
  | withoutNull hnone h =>
      have hfields := h.fields?_eq.trans (@fields?_filter r.members
        (by simp [members]) "counterparty_wallet_id")
      refine ⟨none, by rw [hnone]; rfl, hfields.trans ?_⟩
      simp [members]

/-- A record loses the sign of a zero. -/
lemma Spells.isReadAs (h : r.Spells w)
    (hyear : Timestamp.yearInRange r.createdAt.date.year = true) : IsReadAs w r.asRead where
  isProper := by
    cases h with
    | full h => exact h.isProper fun m hm => isProper_of_mem hyear hm
    | withoutNull _ h =>
        exact h.isProper fun m hm => isProper_of_mem hyear (List.mem_of_mem_filter hm)
  decode?_eq := by
    obtain ⟨counterparty, hcounterparty, hfields⟩ := h.exists_fields?_eq
    rw [names] at hfields
    simp only [Coding.decode?, hfields, hcounterparty, (recovers_recordId r.id).required?,
      (recovers_walletId r.wallet).required?, (recovers_currency r.currency).required?,
      (recovers_decimal r.amount).required?, (recovers_direction r.direction).required?,
      (recovers_kind r.kind).required?, (recovers_instant hyear).required?]
    rfl

/-- The same record, amounts being compared as numbers. -/
structure SameValues (a b : TransactionRecord) : Prop where
  id : a.id = b.id
  wallet : a.wallet = b.wallet
  currency : a.currency = b.currency
  amount : a.amount.SameValue b.amount
  direction : a.direction = b.direction
  kind : a.kind = b.kind
  counterparty : a.counterparty = b.counterparty
  createdAt : a.createdAt = b.createdAt

/-- What is read has the values of the record at the instant that was written. -/
lemma sameValues_asRead (r : TransactionRecord) :
    r.asRead.SameValues { r with createdAt := r.createdAt.settled } :=
  ⟨rfl, rfl, rfl, r.amount.sameValue_withoutZeroSign, rfl, rfl, rfl, rfl⟩

end TransactionRecord

/-! ### Rows of the outbox -/

namespace OutboxEvent

/-- The members of the object that is written for a row of the outbox. -/
def members (e : OutboxEvent) : List (String × Json) := [
  ("id", Coding.encode e.id),
  ("kind", Coding.encode e.kind),
  ("account_id", Coding.encode e.account),
  ("payload", Coding.encode e.payload),
  ("created_at", Coding.encode e.createdAt)]

/-- What stands for a row of the outbox. -/
def Spells (e : OutboxEvent) (w : Json) : Prop :=
  Arranges ["id", "kind", "account_id", "payload", "created_at"] e.members w

lemma spells_encode (e : OutboxEvent) : e.Spells (Coding.encode e) := .self ..

/-- A row of the outbox is read as it is, at the instant that was written. -/
lemma Spells.isReadAs {e : OutboxEvent} {w : Json} (h : e.Spells w)
    (hyear : Timestamp.yearInRange e.createdAt.date.year = true) :
    IsReadAs w { e with createdAt := e.createdAt.settled } where
  isProper := by
    refine h.isProper fun member hmember => ?_
    simp only [members, List.mem_cons, List.not_mem_nil, or_false] at hmember
    rcases hmember with rfl | rfl | rfl | rfl | rfl
    · exact (recovers_eventId e.id).isProper
    · exact (recovers_kind e.kind).isProper
    · exact (recovers_accountId e.account).isProper
    · exact (recovers_string e.payload).isProper
    · exact (recovers_instant hyear).isProper
  decode?_eq := by
    have hfields := h.fields?_eq.trans (@fields?_object e.members (by simp [members]))
    simp only [members, List.map_cons, List.map_nil] at hfields
    simp only [Coding.decode?, hfields, (recovers_eventId e.id).required?,
      (recovers_kind e.kind).required?, (recovers_accountId e.account).required?,
      (recovers_string e.payload).required?, (recovers_instant hyear).required?]
    rfl

end OutboxEvent

/-! ### Receipts -/

namespace ExchangeReceipt

/-- What stands for a receipt. Its parts may be arranged otherwise as well. -/
inductive Spells (r : ExchangeReceipt) (w : Json) : Prop where
  | of {snapshot source target : Json} (hsnapshot : r.snapshot.Spells snapshot)
      (hsource : r.source.Spells source) (htarget : r.target.Spells target)
      (h : Arranges ["snapshot", "rate", "source", "target", "message"]
        [("snapshot", snapshot), ("rate", Coding.encode r.rate), ("source", source),
          ("target", target), ("message", Coding.encode r.message)] w)

lemma spells_encode (r : ExchangeReceipt) : r.Spells (Coding.encode r) :=
  .of r.snapshot.spells_encode r.source.spells_encode r.target.spells_encode (.self ..)

/-- The receipt without the signs of zeros. -/
def withoutZeroSigns (r : ExchangeReceipt) : ExchangeReceipt where
  snapshot := r.snapshot.withoutZeroSigns
  rate := r.rate.withoutZeroSign
  source := { r.source with value := r.source.value.withoutZeroSign }
  target := { r.target with value := r.target.value.withoutZeroSign }
  message := r.message

/-- A receipt loses the signs of zeros. -/
lemma Spells.isReadAs {r : ExchangeReceipt} {w : Json} (h : r.Spells w) :
    IsReadAs w r.withoutZeroSigns := by
  obtain ⟨hsnapshot, hsource, htarget, h⟩ := h
  refine ⟨h.isProper fun member hmember => ?_, ?_⟩
  · simp only [List.mem_cons, List.not_mem_nil, or_false] at hmember
    rcases hmember with rfl | rfl | rfl | rfl | rfl
    · exact hsnapshot.isReadAs.isProper
    · exact (recovers_decimal r.rate).isProper
    · exact hsource.isReadAs.isProper
    · exact htarget.isReadAs.isProper
    · exact (recovers_string r.message).isProper
  · have hfields := h.fields?_eq.trans (fields?_object (by simp))
    simp only [List.map_cons, List.map_nil] at hfields
    simp only [Coding.decode?, hfields, hsnapshot.isReadAs.required?,
      (recovers_decimal r.rate).required?, hsource.isReadAs.required?,
      htarget.isReadAs.required?, (recovers_string r.message).required?]
    rfl

/-- The same receipt, decimals being compared as numbers. -/
structure SameValues (a b : ExchangeReceipt) : Prop where
  snapshot : a.snapshot.SameValues b.snapshot
  rate : a.rate.SameValue b.rate
  source : a.source.SameValue b.source
  target : a.target.SameValue b.target
  message : a.message = b.message

lemma sameValues_withoutZeroSigns (r : ExchangeReceipt) : r.withoutZeroSigns.SameValues r where
  snapshot := r.snapshot.sameValues_withoutZeroSigns
  rate := r.rate.sameValue_withoutZeroSign
  source := r.source.sameValue_withoutZeroSign
  target := r.target.sameValue_withoutZeroSign
  message := rfl

end ExchangeReceipt

/-! ### Reports -/

namespace IntegrityReport

/-- The members of the object that is written for a report. -/
def members (r : IntegrityReport) : List (String × Json) := [
  ("account_id", Coding.encode r.account),
  ("balances", Coding.encode r.balances),
  ("audited", Coding.encode r.audited),
  ("mismatches", Coding.encode r.mismatches)]

/-- What stands for a report. -/
def Spells (r : IntegrityReport) (w : Json) : Prop :=
  Arranges ["account_id", "balances", "audited", "mismatches"] r.members w

lemma spells_encode (r : IntegrityReport) : r.Spells (Coding.encode r) := .self ..

/-- The report without the signs of zeros. -/
def withoutZeroSigns (r : IntegrityReport) : IntegrityReport where
  account := r.account
  balances := r.balances.map Decimal.withoutZeroSign
  audited := r.audited.map Decimal.withoutZeroSign
  mismatches := r.mismatches

/-- A report loses the signs of zeros. -/
lemma Spells.isReadAs {r : IntegrityReport} {w : Json} (h : r.Spells w) :
    IsReadAs w r.withoutZeroSigns where
  isProper := by
    refine h.isProper fun member hmember => ?_
    simp only [members, List.mem_cons, List.not_mem_nil, or_false] at hmember
    rcases hmember with rfl | rfl | rfl | rfl
    · exact (recovers_accountId r.account).isProper
    · exact (recovers_balances r.balances).isProper
    · exact (recovers_balances r.audited).isProper
    · exact (recovers_list fun c _ => recovers_currency c).isProper
  decode?_eq := by
    have hmismatches : Recovers r.mismatches r.mismatches :=
      recovers_list fun c _ => recovers_currency c
    have hfields := h.fields?_eq.trans (@fields?_object r.members (by simp [members]))
    simp only [members, List.map_cons, List.map_nil] at hfields
    simp only [Coding.decode?, hfields, (recovers_accountId r.account).required?,
      (recovers_balances r.balances).required?, (recovers_balances r.audited).required?,
      hmismatches.required?]
    rfl

/-- The same report, balances and sums being compared as numbers. -/
structure SameValues (a b : IntegrityReport) : Prop where
  account : a.account = b.account
  balances : Balances.SameValues a.balances b.balances = true
  audited : Balances.SameValues a.audited b.audited = true
  mismatches : a.mismatches = b.mismatches

lemma sameValues_withoutZeroSigns (r : IntegrityReport) : r.withoutZeroSigns.SameValues r :=
  ⟨rfl, r.balances.sameValues_withoutZeroSign, r.audited.sameValues_withoutZeroSign, rfl⟩

end IntegrityReport

/-! ### Reading back -/

namespace Json

/-- A value is read back, as one that counts as the same, from its own text and from the text of
everything that stands for it. -/
structure ReadsBack {α : Type} [Coding α] (a : α) (Spells : Json → Prop) (Same : α → Prop) :
    Prop where
  written : ∃ read, ofText? (text a) = some read ∧ Same read
  arranged : ∀ w, Spells w → ∃ read, ofText? w.write = some read ∧ Same read

/-- What is the same for everything that stands for a value is so for its own text. -/
lemma ReadsBack.of_isReadAs {α : Type} [Coding α] {a b : α} {Spells : Json → Prop}
    {Same : α → Prop} (hself : Spells (Coding.encode a)) (h : ∀ w, Spells w → IsReadAs w b)
    (hsame : Same b) : ReadsBack a Spells Same where
  written := ⟨b, (h _ hself).ofText?_write, hsame⟩
  arranged := fun w hw => ⟨b, (h w hw).ofText?_write, hsame⟩

/-- **The records of the ledger are read back**, whatever their identifiers, texts, balances and
the signs and scales of their decimals. -/
structure KeepsRecords : Prop where
  /-- A record is read as it was, unless its instant is in a leap second within a minute. -/
  transactionRecord (r : TransactionRecord) : r.createdAt.IsWritable →
    ReadsBack r r.Spells (·.SameValues r)
  walletSnapshot (s : WalletSnapshot) : ReadsBack s s.Spells (·.SameValues s)
  outboxEvent (e : OutboxEvent) : e.createdAt.IsWritable → ReadsBack e e.Spells (· = e)
  exchangeReceipt (r : ExchangeReceipt) : ReadsBack r r.Spells (·.SameValues r)
  integrityReport (r : IntegrityReport) : ReadsBack r r.Spells (·.SameValues r)
  /-- In such a leap second, which is written as the second after it, everything else is read as it
  was, -/
  settledRecord (r : TransactionRecord) : Timestamp.yearInRange r.createdAt.date.year = true →
    ReadsBack r r.Spells (·.SameValues { r with createdAt := r.createdAt.settled })
  settledEvent (e : OutboxEvent) : Timestamp.yearInRange e.createdAt.date.year = true →
    ReadsBack e e.Spells (· = { e with createdAt := e.createdAt.settled })
  /-- and the instant as the other name of the same nanosecond of the same day. -/
  sameInstant (t : Timestamp) : t.settled.date = t.date ∧
    t.settled.second * secondNanos + t.settled.nanos = t.second * secondNanos + t.nanos

/-- A record is read at the instant that was written. -/
lemma readsBack_settledRecord {r : TransactionRecord}
    (hyear : Timestamp.yearInRange r.createdAt.date.year = true) :
    ReadsBack r r.Spells (·.SameValues { r with createdAt := r.createdAt.settled }) :=
  .of_isReadAs r.spells_encode (fun _ h => h.isReadAs hyear) r.sameValues_asRead

/-- So is a row of the outbox. -/
lemma readsBack_settledEvent {e : OutboxEvent}
    (hyear : Timestamp.yearInRange e.createdAt.date.year = true) :
    ReadsBack e e.Spells (· = { e with createdAt := e.createdAt.settled }) :=
  .of_isReadAs e.spells_encode (fun _ h => h.isReadAs hyear) rfl

theorem keepsRecords : KeepsRecords := by
  constructor
  case transactionRecord =>
    intro r hwritable
    have hread := readsBack_settledRecord hwritable.year
    rwa [Timestamp.settled_eq hwritable.leap] at hread
  case walletSnapshot =>
    intro s
    exact .of_isReadAs s.spells_encode (fun _ h => h.isReadAs) s.sameValues_withoutZeroSigns
  case outboxEvent =>
    intro e hwritable
    have hread := readsBack_settledEvent hwritable.year
    rwa [Timestamp.settled_eq hwritable.leap] at hread
  case exchangeReceipt =>
    intro r
    exact .of_isReadAs r.spells_encode (fun _ h => h.isReadAs) r.sameValues_withoutZeroSigns
  case integrityReport =>
    intro r
    exact .of_isReadAs r.spells_encode (fun _ h => h.isReadAs) r.sameValues_withoutZeroSigns
  case settledRecord => exact fun _ hyear => readsBack_settledRecord hyear
  case settledEvent => exact fun _ hyear => readsBack_settledEvent hyear
  case sameInstant => exact fun t => t.dayNanos_settled

/-- A record of a leap second within a minute is not read as it was, and a row of the outbox is not
read at all if its object has another field whose name is half of a surrogate pair. -/
theorem not_readsBack_leap_second :
    let day : Date := ⟨2024, 1, 1, by decide, by decide⟩
    let r : TransactionRecord := {
      id := ⟨.random 0⟩
      wallet := ⟨.random 1⟩
      currency := .eur
      amount := ⟨false, 1, 2, by decide, by decide⟩
      direction := .credit
      kind := .deposit
      counterparty := none
      createdAt := ⟨day, 30, 1500000000, by decide, by decide⟩ }
    let e : OutboxEvent := {
      id := ⟨.random 0⟩
      kind := .deposit
      account := ⟨.random 1⟩
      payload := ""
      createdAt := ⟨day, 30, 0, by decide, by decide⟩ }
    let row := "\x7b\"id\":\"00000000-0000-4000-8000-000000000000\",\"kind\":\"DEPOSIT\"," ++
      "\"account_id\":\"00000000-0000-4000-8000-000000000001\",\"payload\":\"\"," ++
      "\"created_at\":\"2024-01-01T00:00:30Z\""
    ¬ ReadsBack r r.Spells (·.SameValues r) ∧ text e = row ++ "\x7d" ∧
      ofText? (row ++ ",\"\\ud800\":0\x7d") = (none : Option OutboxEvent) := by
  intro day r e row
  refine ⟨fun hread => ?_, by decide +kernel, by decide +kernel⟩
  obtain ⟨read, htext, hsame⟩ := hread.written
  obtain ⟨read', htext', hsettled⟩ := (readsBack_settledRecord (r := r) rfl).written
  obtain rfl := Option.some.inj (htext.symm.trans htext')
  exact absurd (hsame.createdAt.symm.trans hsettled.createdAt) (by decide)

end Json

end Teller
