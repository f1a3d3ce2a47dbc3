/-
Deposits and withdrawals at a desk where nothing else goes on.

* `Movement.request`: the deposit of an amount that comes in, the withdrawal of one that goes out;
* `Movement.fault?`: the first reason for which it is refused, if there is one;
* `Desk.Makes`: all that a deposit or withdrawal leaves; `Desk.Adjusts`: it is refused and leaves
  nothing, or is made and leaves that;
* `Desk.adjusts_start`: so it is whatever has happened before, for every account, currency and
  amount.
-/
import Teller.Proofs.Desk.Idle

namespace Teller

/-! ### What is asked for -/

namespace Movement

variable {m : Movement} {sheet : Sheet} {e : LedgerError}

/-- What the operation is called by which an amount comes in or goes out. -/
def kind (m : Movement) : OperationKind :=
  match m.direction with
  | .credit => .deposit
  | .debit => .withdraw

/-- The request that an amount comes in or goes out. -/
def request (m : Movement) : Request :=
  match m.direction with
  | .credit => .deposit m.key.account m.key.currency m.amount
  | .debit => .withdraw m.key.account m.key.currency m.amount

/-- Why a deposit or withdrawal is refused, if it is: the first reason counts. -/
def fault? (m : Movement) (sheet : Sheet) : Option LedgerError :=
  match Money.positive m.amount m.key.currency with
  | .error e => some e
  | .ok _ => m.refusal? sheet

lemma direction_kind (m : Movement) : m.kind.direction = m.direction := by
  rw [kind]
  cases m.direction <;> rfl

lemma errand?_request (m : Movement) (obtained : Option (Except RateError Decimal)) :
    Ticket.errand? ⟨m.request, obtained⟩ = some ((Money.positive m.amount m.key.currency).map
      (.adjustment m.kind m.key.account)) := by
  obtain ⟨⟨account, currency⟩, amount, direction⟩ := m
  cases direction <;> rfl

/-- A deposit or withdrawal whose amount is accepted is about this movement. -/
lemma errand?_request_of_positive {money : Money}
    (h : Money.positive m.amount m.key.currency = .ok money)
    (obtained : Option (Except RateError Decimal)) :
    Ticket.errand? ⟨m.request, obtained⟩
      = some (.ok (.adjustment m.kind m.key.account ⟨m.amount, m.key.currency⟩)) := by
  rw [errand?_request, h, (Money.isAmount_of_positive h).1]
  rfl

lemma movement_eq (m : Movement) :
    Money.movement ⟨m.amount, m.key.currency⟩ m.key.account m.kind.direction = m := by
  rw [direction_kind]
  rfl

/-- A deposit or withdrawal is refused for the first reason that there is. -/
lemma fault?_of_outcome? (hs : sheet.IsProper) {obtained : Option (Except RateError Decimal)}
    (h : Ticket.outcome? ⟨m.request, obtained⟩ sheet = some (.error e)) :
    m.fault? sheet = some e := by
  rw [fault?]
  cases hm : Money.positive m.amount m.key.currency with
  | error e' =>
      rw [Ticket.outcome?, errand?_request, hm] at h
      exact congrArg some (Except.error.inj (Option.some.inj h))
  | ok money =>
      have hamount := (Money.isAmount_of_positive hm).2
      rw [Ticket.outcome?_of_errand? (errand?_request_of_positive hm obtained)] at h
      have happly : m.apply sheet = .error e := by
        rw [← foldlM_apply_one, ← movement_eq m]
        exact Option.some.inj h
      exact (apply_eq_error_iff hs hamount).mp happly

end Movement

/-- The notification about an amount is one row of the outbox from the threshold on. -/
lemma Money.map_notices (money : Money) (threshold : Decimal) (id : EventId) (kind : OperationKind)
    (account : AccountId) (balances : Balances) (now : Nat) :
    (money.notices threshold id kind account balances now).map (fun event => ⟨event, false⟩)
      = if threshold.toRat ≤ money.value.toRat then
          [(⟨.ofNotification ⟨id, kind, account, money.value, money.currency, balances,
            .ofEpochMillis now⟩, false⟩ : OutboxRow)]
        else [] := by
  rw [notices]
  by_cases h : threshold ≤ money.value
  · rw [if_pos h, if_pos (Decimal.le_iff_toRat.mp h)]
    rfl
  · rw [if_neg h, if_neg (mt Decimal.le_iff_toRat.mpr h)]
    rfl

namespace Desk

variable {σ : Type} {d d' : Desk σ} {m : Movement}

/-! ### What is left -/

/-- An amount has come in or gone out, and all that this leaves is there. -/
structure Makes (d d' : Desk σ) (m : Movement) (wallet : Wallet) : Prop where
  changes : d.bank.store.Changes d'.bank.store m.key wallet (m.direction.change m.amount)
  others {key : WalletKey} : key ≠ m.key →
    d'.bank.store.wallets.get? key = d.bank.store.wallets.get? key
  journal : ∃ record, d'.bank.store.journal = d.bank.store.journal ++ [⟨record, wallet.id,
    m.key.currency, m.amount, m.direction, m.kind, none, .ofEpochMillis d.bank.clock.now⟩]
  outbox : ∃ event, d'.bank.store.outbox = d.bank.store.outbox ++
    if d.bank.thresholds.deposit.toRat ≤ m.amount.toRat then
      [⟨.ofNotification ⟨event, m.kind, m.key.account, m.amount, m.key.currency,
        d'.bank.store.readBalances m.key.account, .ofEpochMillis d.bank.clock.now⟩, false⟩]
    else []
  ended : d'.HasEnded d.started m.request (.ok (.snapshot ⟨m.key.account, wallet.id,
    m.key.currency, d'.bank.store.readBalances m.key.account⟩))

/-- A deposit or withdrawal has been refused for the first reason that there is, or there is none
and it has been made. -/
inductive Adjusts (d d' : Desk σ) (m : Movement) : Prop where
  | refused {e : LedgerError} (hfault : m.fault? d.bank.store.sheet = some e)
      (hkeeps : d.Keeps d') (hended : d'.HasEnded d.started m.request (.error (.refused e)))
  | made {wallet : Wallet} (hfault : m.fault? d.bank.store.sheet = none)
      (hmakes : d.Makes d' m wallet)

/-- A call that ends alone with the store is refused for the first reason, or all is left that a
deposit or withdrawal leaves. -/
theorem Finishes.adjusts {obtained : Option (Except RateError Decimal)}
    (h : d.Finishes d' d.started ⟨m.request, obtained⟩) (hd : d.IsSound) :
    d.Adjusts d' m := by
  cases h with
  | refused he hkeeps hended =>
      exact .refused (Movement.fault?_of_outcome? hd.isProper he) hkeeps hended
  | posts herrand hp hended =>
      cases hm : Money.positive m.amount m.key.currency with
      | error e =>
          rw [Movement.errand?_request, hm] at herrand
          simp [Except.map] at herrand
      | ok money =>
          rw [Movement.errand?_request_of_positive hm] at herrand
          obtain rfl := Except.ok.inj (Option.some.inj herrand)
          have hamount := (Money.isAmount_of_positive hm).2
          cases hp with
          | @adjustment _ _ _ _ id record event hsheet hid hp =>
              rw [m.movement_eq, ← Movement.foldlM_apply_one] at hsheet
              obtain ⟨hchanges, hothers⟩ := hp.changes hd.isProper (by simpa using hamount)
                (by simp) hsheet
              obtain ⟨wallet, hwallet⟩ := hchanges m (List.mem_singleton_self m)
              obtain rfl : wallet.id = id := hwallet.id_eq hid
              obtain rfl := hp.sheet_eq
              -- the movement went through, so there was no reason to refuse it
              have hfault : m.fault? d.bank.store.sheet = none := by
                rw [Movement.fault?, hm]
                exact Movement.refusal?_eq_none_of_apply hd.isProper hamount
                  (Movement.foldlM_apply_singleton hsheet)
              refine .made hfault ⟨hwallet, fun hne => ?_, ⟨record, ?_⟩, ⟨event, ?_⟩, hended⟩
              · exact hothers _ (by simpa using hne)
              · rw [hp.journal, m.direction_kind]
              · rw [hp.outbox, Money.map_notices]
                rfl

variable [RateProvider σ]

/-- Whatever has happened at a desk, when no transaction is open and no fault is to strike a deposit
or withdrawal ends at once, and the desk is idle again. It is refused for the first reason that
there is, and nothing changes, or there is none, and exactly its balance, its record and, from the
threshold on, its notification are left. -/
theorem adjusts_start (hreach : d.IsReachable) (hidle : d.IsIdle) (deadline : Option ℕ)
    (m : Movement) : (d.step (.start deadline m.request)).IsIdle ∧
      d.Adjusts (d.step (.start deadline m.request)) m := by
  have hd := hreach.isSound
  obtain ⟨hafter, hfinishes⟩ := hd.finishes_start hidle deadline (m.errand?_request _)
  exact ⟨hafter, hfinishes.adjusts hd⟩

/-- A withdrawal of all that there is, written with more digits than the deposit. -/
theorem adjusts_start_funded :
    let desk := funded ⟨false, 92, 2, by decide, by decide⟩ ⟨false, 1250, 2, by decide, by decide⟩
    let m : Movement := ⟨⟨⟨.random 0⟩, .usd⟩, ⟨false, 125000, 4, by decide, by decide⟩, .debit⟩
    m.fault? desk.bank.store.sheet = none ∧ (desk.step (.start none m.request)).IsIdle ∧
      desk.Adjusts (desk.step (.start none m.request)) m :=
  ⟨by decide +kernel, adjusts_start (isReachable_funded _ _) (by decide +kernel) none _⟩

end Desk

end Teller
