import Teller.Main
import Teller.Session.Script
import Teller.Store.Closed
import Teller.Proofs.Decimal.Grid
import Teller.Proofs.Decimal.Cents
import Teller.Proofs.Decimal.Amount
import Teller.Proofs.Decimal.Nearest
import Teller.Proofs.Store.Sum
import Teller.Proofs.Store.Act
import Teller.Proofs.Store.Discipline
import Teller.Proofs.Store.Movement
import Teller.Proofs.Store.During
import Teller.Proofs.Store.Verdict
import Teller.Proofs.Store.Opening
import Teller.Proofs.Bank.Errand
import Teller.Proofs.Bank.Came
import Teller.Proofs.Bank.Adjustment
import Teller.Proofs.Bank.Exchange
import Teller.Proofs.Bank.Call
import Teller.Proofs.Desk.Basic
import Teller.Proofs.Desk.Log
import Teller.Proofs.Desk.Atomicity
import Teller.Proofs.Bank.Serial
import Teller.Proofs.Desk.Serial
import Teller.Proofs.Store.Audit
import Teller.Proofs.Desk.Conservation
import Teller.Proofs.Desk.Exactness
import Teller.Proofs.Store.Provisioning
import Teller.Proofs.Store.Writing
import Teller.Proofs.Vault.Basic
import Teller.Proofs.Vault.Provisioning
import Teller.Proofs.Store.Frame
import Teller.Proofs.Store.Covering
import Teller.Proofs.Vault.Bounds
import Teller.Proofs.Store.Shown
import Teller.Proofs.Vault.Snapshots
import Teller.Proofs.Relay.Delivery
import Teller.Proofs.Relay.Accounting
import Teller.Proofs.Mailroom.Basic
import Teller.Proofs.Mailroom.Invariant
import Teller.Proofs.Mailroom.Delivery
import Teller.Proofs.Mailroom.Loop
import Teller.Proofs.Desk.Journal
import Teller.Proofs.Decimal.Text
import Teller.Proofs.Text.Identifier
import Teller.Proofs.Text.Timestamp
import Teller.Proofs.Json.RoundTrip
import Teller.Proofs.Json.Coding
import Teller.Proofs.Json.Notification
import Teller.Proofs.Desk.Notices
import Teller.Proofs.Rates.Board
import Teller.Proofs.Rates.Freshness
import Teller.Proofs.Rates.Script
import Teller.Proofs.Rates.Slots
import Teller.Proofs.Rates.Lifetime
import Teller.Proofs.Desk.Deadline
import Teller.Proofs.Desk.Idle
import Teller.Proofs.Desk.Adjustment
import Teller.Proofs.Desk.Exchange
import Teller.Proofs.Rates.Steady
import Teller.Proofs.Rates.Conversion
import Teller.Proofs.Store.Anonymous
import Teller.Proofs.Store.Tandem
import Teller.Proofs.Bank.Tandem
import Teller.Proofs.Desk.Ownership
import Teller.Proofs.Desk.Privacy
import Teller.Proofs.Desk.Isolation
import Teller.Proofs.Store.Rows
import Teller.Proofs.Bank.Rows
import Teller.Proofs.Desk.Rows
import Teller.Proofs.Bank.Halts
import Teller.Proofs.Bank.Withdrawing
import Teller.Proofs.Hall.Basic
import Teller.Proofs.Hall.Settlement
import Teller.Proofs.Store.Reconciliation
import Teller.Proofs.Rates.Retry
import Teller.Proofs.Relay.Backlog
import Teller.Proofs.Bank.Trail
import Teller.Proofs.Desk.Stages
import Teller.Proofs.Desk.Lifecycle
import Teller.Proofs.Bank.Work
import Teller.Proofs.Bank.Cause
import Teller.Proofs.Json.Arrangement
import Teller.Proofs.Json.Records
import Teller.Proofs.Text.Calendar
import Teller.Proofs.Store.Register
import Teller.Proofs.Vault.Order
import Teller.Proofs.Course
import Teller.Proofs.Store.Locking
import Teller.Proofs.Vault.Locking
