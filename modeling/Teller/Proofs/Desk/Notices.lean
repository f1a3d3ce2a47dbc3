/-
The outbox tells of every settlement that is large enough, once, and of nothing else.

* `Settlement.isNoticed`: is the amount of a settlement one to tell of?
* `Settlement.Tells`: what a notification has to say about a settlement;
* `OutboxEvent.Carries`: a row of the outbox agrees with the notification that its text denotes;
* `Settlement.AddsRow`: the row of a settlement, if there is to be one; `Errand.Posts.rows` says
  that an errand adds it to the outbox;
* `Desk.notifies_run`: in every run the rows of the outbox are those of the settlements that are to
  be told of, in their order.
-/
import Teller.Proofs.Desk.Settlement
import Teller.Proofs.Json.Notification

namespace Teller

/-! ### Settlements and their notifications -/

/-- Is the amount of a settlement one to tell of? For an exchange it is that of the target. -/
def Settlement.isNoticed (thresholds : Thresholds) (s : Settlement) : Bool :=
  match s.request, s.reply with
  | .deposit _ _ amount, _ => thresholds.deposit ≤ amount
  | .withdraw _ _ amount, _ => thresholds.deposit ≤ amount
  | .exchange .., .receipt receipt => thresholds.exchange ≤ receipt.target.value
  | _, _ => false

/-- The notification tells of the settlement, right after which these are the balances. -/
inductive Settlement.Tells (after : Sheet) : Settlement → NotificationEvent → Prop where
  | deposit {id : Nat} {account : AccountId} {currency : Currency} {amount : Decimal}
      {snapshot : WalletSnapshot} {note : NotificationEvent} (hkind : note.kind = .deposit)
      (haccount : note.account = account) (hamount : note.amount = amount)
      (hcurrency : note.currency = currency)
      (hbalances : Balances.SameValues note.balanceAfter snapshot.balances = true) :
      Tells after ⟨id, .deposit account currency amount, .snapshot snapshot⟩ note
  | withdraw {id : Nat} {account : AccountId} {currency : Currency} {amount : Decimal}
      {snapshot : WalletSnapshot} {note : NotificationEvent} (hkind : note.kind = .withdraw)
      (haccount : note.account = account) (hamount : note.amount = amount)
      (hcurrency : note.currency = currency)
      (hbalances : Balances.SameValues note.balanceAfter snapshot.balances = true) :
      Tells after ⟨id, .withdraw account currency amount, .snapshot snapshot⟩ note
  | exchange {id : Nat} {account : AccountId} {source target : Currency} {amount : Decimal}
      {receipt : ExchangeReceipt} {note : NotificationEvent} {shown held : Decimal}
      (hkind : note.kind = .withdraw) (haccount : note.account = account)
      (hamount : note.amount = receipt.target.value) (hcurrency : note.currency = target)
      (hshown : note.balanceAfter.get? target = some shown)
      (hheld : after ⟨account, target⟩ = some held) (hsame : shown.SameValue held) :
      Tells after ⟨id, .exchange account source target amount, .receipt receipt⟩ note

/-- A row agrees with the notification that its text denotes, provided that the calendar, which ends
with the year 262142, covers the time at which it was made. -/
structure OutboxEvent.Carries (row : OutboxEvent) (note : NotificationEvent) : Prop where
  notification?_eq : Timestamp.yearInRange row.createdAt.date.year = true →
    row.notification? = some note
  id : row.id = note.envelope
  kind : row.kind = note.kind
  account : row.account = note.account
  createdAt : row.createdAt = note.occurredAt

/-- A row that is made from a notification about an amount carries that notification, in which
zeros have lost their signs. -/
lemma OutboxEvent.carries_ofNotification {e : NotificationEvent} {now : Nat}
    (hamount : e.amount.IsAmount) (hnow : e.occurredAt = .ofEpochMillis now) :
    (ofNotification e).Carries
      { e with balanceAfter := e.balanceAfter.map Decimal.withoutZeroSign } where
  notification?_eq hyear := by
    have hwritable : e.occurredAt.IsWritable := by
      rw [hnow]
      exact Timestamp.isWritable_ofEpochMillis (hnow ▸ hyear)
    rw [notification?_ofNotification hwritable, hamount.withoutZeroSign_eq]
  id := rfl
  kind := rfl
  account := rfl
  createdAt := rfl

/-! ### Errands -/

section Errands

variable {thresholds : Thresholds} {now : Nat} {tx : TxId} {s₀ s : Store} {errand : Errand}
  {settlement : Settlement}

/-- The outbox gets the row of a settlement that is to be told of, and no other. -/
inductive Settlement.AddsRow (thresholds : Thresholds) (after : Sheet) (s : Settlement) :
    List OutboxEvent → Prop where
  | tells {row : OutboxEvent} {note : NotificationEvent} (hnoticed : s.isNoticed thresholds = true)
      (hcarries : row.Carries note) (htells : s.Tells after note) : AddsRow thresholds after s [row]
  | skips (hnoticed : s.isNoticed thresholds = false) : AddsRow thresholds after s []

lemma Money.addsRow_notices {money : Money} {threshold : Decimal} {event : EventId}
    {kind : OperationKind} {account : AccountId} {balances : Balances} {after : Sheet}
    (hamount : money.value.IsAmount)
    (hnoticed : settlement.isNoticed thresholds = decide (threshold ≤ money.value))
    (htells : settlement.Tells after ⟨event, kind, account, money.value, money.currency,
      balances.map Decimal.withoutZeroSign, .ofEpochMillis now⟩) :
    settlement.AddsRow thresholds after
      (money.notices threshold event kind account balances now) := by
  rw [notices]
  by_cases hlarge : threshold ≤ money.value
  · rw [if_pos hlarge]
    exact .tells (hnoticed.trans (decide_eq_true hlarge))
      (OutboxEvent.carries_ofNotification hamount rfl) htells
  · rw [if_neg hlarge]
    exact .skips (hnoticed.trans (decide_eq_false hlarge))

/-- The rows that an errand adds are those of its settlement. -/
theorem Errand.Posts.rows (h : errand.Posts thresholds now tx s₀ s settlement.reply)
    (hasks : settlement.request.Asks errand) (hsound : errand.IsSound) :
    ∃ rows, s.outbox.map (·.event) = s₀.outbox.map (·.event) ++ rows ∧
      settlement.AddsRow thresholds s.sheet rows := by
  have hposted : ∀ {sheet records rows}, Store.Posted tx s₀ s sheet records rows →
      s.outbox.map (·.event) = s₀.outbox.map (·.event) ++ rows := by
    intro sheet records rows hp
    simp [hp.outbox, Function.comp_def]
  obtain ⟨id, request, reply⟩ := settlement
  cases hasks with
  | opening account =>
      cases h with
      | opening hsheet hp => exact ⟨[], hposted hp, .skips rfl⟩
  | deposit account money =>
      have hamount := hsound.isAmount (money.movement account .credit) List.mem_cons_self
      cases h with
      | adjustment hsheet hid hp =>
          exact ⟨_, hposted hp, Money.addsRow_notices hamount rfl
            (.deposit rfl rfl rfl rfl (Balances.sameValues_withoutZeroSign _))⟩
  | withdraw account money =>
      have hamount := hsound.isAmount (money.movement account .debit) List.mem_cons_self
      cases h with
      | adjustment hsheet hid hp =>
          exact ⟨_, hposted hp, Money.addsRow_notices hamount rfl
            (.withdraw rfl rfl rfl rfl (Balances.sameValues_withoutZeroSign _))⟩
  | exchange account source target rate hne =>
      have hmem : target.movement account .credit
          ∈ (Errand.exchange account source target rate).movements := List.mem_cons_self
      have hamount := hsound.isAmount _ hmem
      cases h with
      | @exchange _ _ _ _ sheet _ _ _ _ _ seen hsheet hcredited hdebited hseen hp =>
          -- The row of the target has been credited, so it exists, and is seen as it is left.
          obtain ⟨_, held, -, -, hheld⟩ :=
            (Movement.of_foldlM_apply hsound.nodup hsheet).1 _ hmem
          have hheld : sheet ⟨account, target.currency⟩ = some held := hheld
          have hshown : (seen.map Decimal.withoutZeroSign).get? target.currency
              = some held.withoutZeroSign := by
            rw [CurrencyMap.get?_map, hseen, hheld, Option.map_some]
          refine ⟨_, hposted hp, Money.addsRow_notices hamount rfl ?_⟩
          exact .exchange rfl rfl rfl rfl hshown (hp.sheet_eq ▸ hheld)
            held.sameValue_withoutZeroSign

end Errands

/-! ### Runs -/

namespace Desk

variable {σ : Type} {d : Desk σ} [RateProvider σ]

/-- No event changes the thresholds. -/
lemma IsSound.thresholds_step (hd : d.IsSound) (event : Event σ) :
    (d.step event).bank.thresholds = d.bank.thresholds := by
  rcases hd.step_cases event with h | ⟨d₁, id, tx, ticket, turn, h⟩
  · exact h.thresholds
  · rw [h.step_eq]
    exact h.thresholds

lemma IsSound.thresholds_run_take (hd : d.IsSound) (events : List (Event σ)) (n : ℕ) :
    (d.run (events.take n)).bank.thresholds = d.bank.thresholds :=
  hd.rel_run_take (fun d d' => d'.bank.thresholds = d.bank.thresholds) (fun _ => rfl)
    (fun h h' => h'.trans h) IsSound.thresholds_step (Nat.zero_le n)

/-- An event of a run settles this call. -/
def SettlesAt (d : Desk σ) (events : List (Event σ)) (s : Settlement) (n : ℕ) : Prop :=
  (d.run (events.take (n + 1))).settled = (d.run (events.take n)).settled ++ [s]

/-- A row of the outbox tells of a settlement of the run, with the balances right after the event
that settled the call. -/
def Announces (d : Desk σ) (events : List (Event σ)) (s : Settlement) (row : OutboxEvent) : Prop :=
  ∃ n note, d.SettlesAt events s n ∧ row.Carries note ∧
    s.Tells (d.run (events.take (n + 1))).bank.store.sheet note

/-- The rows of the outbox are those of the settlements that are to be told of, in their order. -/
def Notifies (d : Desk σ) (events : List (Event σ)) : Prop :=
  List.Forall₂ (d.Announces events)
    ((d.run events).settled.filter (·.isNoticed d.bank.thresholds))
    ((d.run events).bank.store.outbox.map (·.event))

/-- After every number of events the rows are those of the settlements so far. -/
theorem IsSound.forall₂_announces (hd : d.IsSound) (hsettled : d.settled = [])
    (houtbox : d.bank.store.outbox = []) (events : List (Event σ)) (n : ℕ) :
    List.Forall₂ (d.Announces events)
      ((d.run (events.take n)).settled.filter (·.isNoticed d.bank.thresholds))
      ((d.run (events.take n)).bank.store.outbox.map (·.event)) := by
  -- on the number of events; that they settle their calls does not depend on it
  induction n with
  | zero =>
      have hstart : d.run (events.take 0) = d := rfl
      rw [hstart, hsettled, houtbox]
      exact .nil
  | succ n ih =>
      cases hevent : events[n]? with
      | none => rwa [run_take_succ_of_none hevent]
      | some event =>
          have hstep : d.run (events.take (n + 1)) = (d.run (events.take n)).step event :=
            run_take_succ hevent
          rcases (hd.run (events.take n)).settled_step event with
            ⟨hsame, hbooks⟩ | ⟨s, errand, tx, hadded, hasks, hsound, hp⟩
          · have hevents : ((d.run (events.take n)).step event).bank.store.outbox.map (·.event)
                = (d.run (events.take n)).bank.store.outbox.map (·.event) :=
              congrArg Books.events hbooks
            rwa [hstep, hsame, hevents]
          · obtain ⟨rows, hrows, hadds⟩ := hp.rows hasks hsound
            have hsettles : d.SettlesAt events s n := by rw [SettlesAt, hstep, hadded]
            rw [hd.thresholds_run_take, ← hstep] at hadds
            rw [hstep, hadded, hrows, List.filter_append]
            refine List.rel_append ih ?_
            cases hadds with
            | tells hnoticed hcarries htells =>
                rw [List.filter_singleton, hnoticed]
                exact .cons ⟨n, _, hsettles, hcarries, htells⟩ .nil
            | skips hnoticed =>
                rw [List.filter_singleton, hnoticed]
                exact .nil

/-- In every run the outbox has exactly one row for each settlement that is large enough, in the
order in which calls were settled, and it says what there is to say. -/
theorem notifies_run (clock : Clock) (lockTimeout : Nat) (ids : IdSupply) (rates : RateCache σ)
    (thresholds : Thresholds) (events : List (Event σ)) :
    (fresh clock lockTimeout ids rates thresholds).Notifies events := by
  have hd := isSound_fresh clock lockTimeout ids rates thresholds
  have h := hd.forall₂_announces rfl rfl events events.length
  rwa [List.take_length] at h

/-- A deposit is told of, and a withdrawal of half a unit is not. -/
example :
    let d := (fresh (.atRest 0) Store.standardLockTimeout .fresh
      (.empty ⟨SimulatedProvider.named "", none⟩ RateCache.standardTtl) .standard).run
        [.start none (.openAccount ⟨.random 0⟩),
          .start none (.deposit ⟨.random 0⟩ .usd ⟨false, 1250, 2, by decide, by decide⟩),
          .start none (.withdraw ⟨.random 0⟩ .usd ⟨false, 50, 2, by decide, by decide⟩)]
    d.bank.store.outbox.map (fun row => (row.event.kind, row.published)) = [(.deposit, false)] := by
  decide +kernel

end Desk

end Teller
