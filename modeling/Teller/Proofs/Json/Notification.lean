/-
The outbox gives back the notifications that are put into it.

* `Json.recovers_notification`: what becomes of a notification that is written and read again;
* `OutboxEvent.notification?_ofNotification`: a row of the outbox carries its notification, without
  the signs of zeros;
* `OutboxEvent.Represents`: a row says what a notification says;
* `OutboxEvent.represents_ofNotification`: so does the row that is made from the notification.
-/
import Teller.Proofs.Decimal.Cents
import Teller.Proofs.Json.Coding

namespace Teller

namespace Json

/-! ### Notifications -/

/-- The fields of a notification, in the order in which they are written. -/
def notificationFields (e : NotificationEvent) : List (String × Json) := [
  ("envelope_id", Coding.encode e.envelope),
  ("kind", Coding.encode e.kind),
  ("account_id", Coding.encode e.account),
  ("amount", Coding.encode e.amount),
  ("currency", Coding.encode e.currency),
  ("balance_after", Coding.encode e.balanceAfter),
  ("occurred_at", Coding.encode e.occurredAt)]

lemma encode_notification (e : NotificationEvent) :
    Coding.encode e = object (notificationFields e) := rfl

/-- A notification loses the signs of zeros. -/
lemma recovers_notification {e : NotificationEvent} (h : e.occurredAt.IsWritable) :
    Recovers e { e with
      amount := e.amount.withoutZeroSign
      balanceAfter := e.balanceAfter.map Decimal.withoutZeroSign } where
  isProper := by
    refine .object fun m hm => ?_
    simp only [List.mem_cons, List.not_mem_nil, or_false] at hm
    rcases hm with rfl | rfl | rfl | rfl | rfl | rfl | rfl
    · exact (recovers_eventId e.envelope).isProper
    · exact (recovers_kind e.kind).isProper
    · exact (recovers_accountId e.account).isProper
    · exact (recovers_decimal e.amount).isProper
    · exact (recovers_currency e.currency).isProper
    · exact (recovers_balances e.balanceAfter).isProper
    · exact (recovers_timestamp h).isProper
  decode?_eq := by
    have hfields := @fields?_object (notificationFields e) (by simp [notificationFields])
    rw [encode_notification]
    simp only [notificationFields, List.map_cons, List.map_nil] at hfields ⊢
    simp only [Coding.decode?, hfields, (recovers_eventId e.envelope).required?,
      (recovers_kind e.kind).required?, (recovers_accountId e.account).required?,
      (recovers_decimal e.amount).required?, (recovers_currency e.currency).required?,
      (recovers_balances e.balanceAfter).required?, (recovers_timestamp h).required?]
    rfl

end Json

/-! ### Rows of the outbox -/

/-- A row of the outbox carries its notification, without the signs of zeros. -/
theorem OutboxEvent.notification?_ofNotification {e : NotificationEvent}
    (h : e.occurredAt.IsWritable) :
    (ofNotification e).notification? = some { e with
      amount := e.amount.withoutZeroSign
      balanceAfter := e.balanceAfter.map Decimal.withoutZeroSign } :=
  (Json.recovers_notification h).ofText?_text

/-- Without the signs of zeros balances are the same numbers. -/
lemma Balances.sameValues_withoutZeroSign (b : Balances) :
    SameValues (b.map Decimal.withoutZeroSign) b = true := by
  refine List.all_eq_true.mpr fun c _ => ?_
  rw [CurrencyMap.get?_map]
  cases b.get? c with
  | none => rfl
  | some d => exact decide_eq_true d.sameValue_withoutZeroSign

/-- Without the signs of zeros a notification says the same. -/
lemma NotificationEvent.sameValues_withoutZeroSign (e : NotificationEvent) :
    SameValues { e with
      amount := e.amount.withoutZeroSign
      balanceAfter := e.balanceAfter.map Decimal.withoutZeroSign } e = true := by
  have hamount := e.amount.sameValue_withoutZeroSign
  have hbalances := Balances.sameValues_withoutZeroSign e.balanceAfter
  simp [SameValues, hamount, hbalances]

/-- A row says what a notification says: it stands under the same names, and its text is read as
that notification, decimals being compared as numbers and everything else as it is. -/
structure OutboxEvent.Represents (row : OutboxEvent) (e : NotificationEvent) : Prop where
  id : row.id = e.envelope
  kind : row.kind = e.kind
  account : row.account = e.account
  createdAt : row.createdAt = e.occurredAt
  notification : ∃ read, row.notification? = some read ∧ read.SameValues e = true

/-- The row that is made from a notification says what it says, whatever the signs and scales of its
decimals, if its time has a year of four digits and is not within a leap second. -/
theorem OutboxEvent.represents_ofNotification {e : NotificationEvent}
    (hyear : 0 ≤ e.occurredAt.date.year ∧ e.occurredAt.date.year ≤ 9999)
    (hleap : e.occurredAt.nanos < secondNanos) : (ofNotification e).Represents e where
  id := rfl
  kind := rfl
  account := rfl
  createdAt := rfl
  notification := by
    obtain ⟨hfirst, hlast⟩ := hyear
    have hrange : Timestamp.yearInRange e.occurredAt.date.year = true := by
      rw [Timestamp.yearInRange, Bool.and_eq_true, decide_eq_true_eq, decide_eq_true_eq]
      omega
    exact ⟨_, notification?_ofNotification ⟨hrange, .inl hleap⟩, e.sameValues_withoutZeroSign⟩

/-- A notification about no money at all, in the last nanosecond that has a year of four
digits: its amount is a zero with a sign and 28 digits after the point, its balances differ in sign
and scale. -/
theorem OutboxEvent.represents_last :
    let last : NotificationEvent := {
      envelope := ⟨.random 0⟩
      kind := .withdraw
      account := ⟨.random 1⟩
      amount := ⟨true, 0, 28, by decide, by decide⟩
      currency := .eur
      balanceAfter := .ofList
        [(.rub, ⟨true, 12345678901234567890123456789, 28, by decide, by decide⟩),
          (.eur, ⟨true, 0, 28, by decide, by decide⟩)]
      occurredAt := ⟨⟨9999, 12, 31, by decide, by decide⟩, 86399, 999999999, by decide, by decide⟩ }
    last.occurredAt.date.year = 9999 ∧ (ofNotification last).Represents last :=
  ⟨rfl, represents_ofNotification (by decide) (by decide)⟩

end Teller
