/-
Notifications about changed balances.

* `NotificationEvent`: what is told;
* `OutboxEvent`: the row that waits for delivery; it carries the notification as JSON text;
* `OutboxEvent.ofNotification` and `OutboxEvent.notification?`: from one to the other and back.
-/
import Teller.Json.Coding

namespace Teller

/-- A notification about a changed balance. -/
structure NotificationEvent where
  envelope : EventId
  kind : OperationKind
  account : AccountId
  amount : Decimal
  currency : Currency
  balanceAfter : Balances
  occurredAt : Timestamp
  deriving DecidableEq

/-- A row of the outbox. -/
structure OutboxEvent where
  id : EventId
  kind : OperationKind
  account : AccountId
  payload : String
  createdAt : Timestamp
  deriving DecidableEq

instance : Json.Coding NotificationEvent where
  encode e := .object [
    ("envelope_id", Json.Coding.encode e.envelope),
    ("kind", Json.Coding.encode e.kind),
    ("account_id", Json.Coding.encode e.account),
    ("amount", Json.Coding.encode e.amount),
    ("currency", Json.Coding.encode e.currency),
    ("balance_after", Json.Coding.encode e.balanceAfter),
    ("occurred_at", Json.Coding.encode e.occurredAt)]
  decode? value :=
    match Json.fields? ["envelope_id", "kind", "account_id", "amount", "currency", "balance_after",
        "occurred_at"] value with
    | some [envelope, kind, account, amount, currency, balanceAfter, occurredAt] => do
      let envelope ← Json.required? envelope
      let kind ← Json.required? kind
      let account ← Json.required? account
      let amount ← Json.required? amount
      let currency ← Json.required? currency
      let balanceAfter ← Json.required? balanceAfter
      let occurredAt ← Json.required? occurredAt
      return ⟨envelope, kind, account, amount, currency, balanceAfter, occurredAt⟩
    | _ => none

instance : Json.Coding OutboxEvent where
  encode e := .object [
    ("id", Json.Coding.encode e.id),
    ("kind", Json.Coding.encode e.kind),
    ("account_id", Json.Coding.encode e.account),
    ("payload", Json.Coding.encode e.payload),
    ("created_at", Json.Coding.encode e.createdAt)]
  decode? value :=
    match Json.fields? ["id", "kind", "account_id", "payload", "created_at"] value with
    | some [id, kind, account, payload, createdAt] => do
      let id ← Json.required? id
      let kind ← Json.required? kind
      let account ← Json.required? account
      let payload ← Json.required? payload
      let createdAt ← Json.required? createdAt
      return ⟨id, kind, account, payload, createdAt⟩
    | _ => none

namespace OutboxEvent

/-- The row that carries a notification. -/
def ofNotification (e : NotificationEvent) : OutboxEvent :=
  ⟨e.envelope, e.kind, e.account, Json.text e, e.occurredAt⟩

/-- The notification that a row carries, if its text is one. -/
def notification? (e : OutboxEvent) : Option NotificationEvent :=
  Json.ofText? e.payload

end OutboxEvent

/-- The same notification, decimals being compared as numbers. -/
def NotificationEvent.SameValues (a b : NotificationEvent) : Bool :=
  a.envelope == b.envelope && a.kind == b.kind && a.account == b.account &&
    a.amount.SameValue b.amount && a.currency == b.currency &&
    Balances.SameValues a.balanceAfter b.balanceAfter && a.occurredAt == b.occurredAt

end Teller
