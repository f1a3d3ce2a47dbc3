/-
What a call that changes something is about, apart from how it goes about it.

* `Ticket`: a request, and the rate that has been obtained for it;
* `Errand`: what is left of a ticket once arguments have been checked and a price has been found;
  `Ticket.errand?` checks and prices;
* `Request.Asks`: an errand is what a request asks for; `Ticket.asks_of_errand?`: so are the errands
  of tickets, and `Errand.IsSound` says what else can be relied on;
* `Errand.outcome`: what an errand makes of the balances of all rows, or why it is refused;
* `Errand.Posts`: what an errand that is carried out leaves in a store, and its reply.
-/
import Teller.Bank.Call
import Teller.Proofs.Store.Opening

namespace Teller

/-- A request, and what was obtained for it when it asked for a rate. -/
structure Ticket where
  request : Request
  obtained : Option (Except RateError Decimal)

/-- What a call that changes something is about. -/
inductive Errand where
  | opening (account : AccountId)
  | adjustment (kind : OperationKind) (account : AccountId) (money : Money)
  | exchange (account : AccountId) (source target : Money) (rate : Decimal)

/-- Can the request change something? -/
def Request.isMutation : Request → Bool
  | openAccount _ => true
  | deposit .. => true
  | withdraw .. => true
  | exchange .. => true
  | _ => false

/-! ### Checks and prices -/

/-- An exchange for whose rate this has been obtained. -/
def Errand.priced (account : AccountId) (source : Money) (target : Currency) :
    Except RateError Decimal → Except LedgerError Errand
  | .error e => .error e.toLedgerError
  | .ok rate =>
    match PairQuote.convert ⟨⟨source.currency, target⟩, rate⟩ source with
    | .error e => .error e
    | .ok money =>
      if money.isPositive then .ok (.exchange account source money rate)
      else .error (.validation (.convertsToNothing source.value source.currency rate target))

/-- What a ticket is about, or why it is refused whatever the balances are. There is no answer yet
for an exchange without a rate, and none ever for a request that changes nothing. -/
def Ticket.errand? (t : Ticket) : Option (Except LedgerError Errand) :=
  match t.request with
  | .openAccount account => some (.ok (.opening account))
  | .deposit account currency amount =>
    some ((Money.positive amount currency).map (.adjustment .deposit account))
  | .withdraw account currency amount =>
    some ((Money.positive amount currency).map (.adjustment .withdraw account))
  | .exchange account source target amount =>
    if source = target then some (.error (.validation (.sameCurrency source)))
    else
      match Money.positive amount source with
      | .error e => some (.error e)
      | .ok money => t.obtained.map (Errand.priced account money target)
  | _ => none

/-- There is an answer only for requests that can change something. -/
lemma Ticket.isMutation_of_errand? {t : Ticket} {answer : Except LedgerError Errand}
    (h : t.errand? = some answer) : t.request.isMutation = true := by
  obtain ⟨request, obtained⟩ := t
  cases request with
  | openAccount | deposit | withdraw | exchange => rfl
  | _ => simp [errand?] at h

/-! ### What is asked for -/

/-- An errand is what a request asks for. -/
inductive Request.Asks : Request → Errand → Prop where
  | opening (account : AccountId) : Asks (.openAccount account) (.opening account)
  | deposit (account : AccountId) (money : Money) :
      Asks (.deposit account money.currency money.value) (.adjustment .deposit account money)
  | withdraw (account : AccountId) (money : Money) :
      Asks (.withdraw account money.currency money.value) (.adjustment .withdraw account money)
  | exchange (account : AccountId) (source target : Money) (rate : Decimal)
      (hne : source.currency ≠ target.currency) :
      Asks (.exchange account source.currency target.currency source.value)
        (.exchange account source target rate)

/-! ### Outcomes -/

/-- The movement of an amount of money. -/
def Money.movement (m : Money) (account : AccountId) (direction : Direction) : Movement :=
  ⟨⟨account, m.currency⟩, m.value, direction⟩

/-- The movements that an errand is made of, in their order. -/
def Errand.movements : Errand → List Movement
  | opening _ => []
  | adjustment kind account money => [money.movement account kind.direction]
  | exchange account source target _ =>
    [target.movement account .credit, source.movement account .debit]

/-- What an errand makes of the balances, or why it is refused. -/
def Errand.outcome (e : Errand) (sheet : Sheet) : Except LedgerError Sheet :=
  match e with
  | opening account => sheet.opened account
  | e => e.movements.foldlM Movement.apply sheet

/-- What a ticket makes of the balances, or why it is refused. -/
def Ticket.outcome? (t : Ticket) (sheet : Sheet) : Option (Except LedgerError Sheet) :=
  t.errand?.map fun
    | .error e => .error e
    | .ok errand => errand.outcome sheet

lemma Ticket.outcome?_of_errand? {t : Ticket} {e : Errand} (h : t.errand? = some (.ok e))
    (sheet : Sheet) : t.outcome? sheet = some (e.outcome sheet) := by
  rw [outcome?, h]
  rfl

/-- The amounts of an errand are whole cents, and it names no row twice. -/
structure Errand.IsSound (e : Errand) : Prop where
  isAmount : ∀ m ∈ e.movements, m.amount.IsAmount
  nodup : (e.movements.map (·.key)).Nodup

/-- An amount that is accepted is taken as it is. -/
lemma Errand.eq_of_positive {kind : OperationKind} {account : AccountId} {currency : Currency}
    {amount : Decimal} {e : Errand}
    (h : (Money.positive amount currency).map (adjustment kind account) = .ok e) :
    e = .adjustment kind account ⟨amount, currency⟩ ∧ amount.IsAmount := by
  cases hm : Money.positive amount currency with
  | error error => simp [hm, Except.map] at h
  | ok money =>
      obtain ⟨rfl, ha⟩ := Money.isAmount_of_positive hm
      rw [hm] at h
      exact ⟨(Except.ok.inj h).symm, ha⟩

/-- What is priced brings whole cents of the target currency. -/
lemma Errand.eq_of_priced {account : AccountId} {source : Money} {target : Currency}
    {obtained : Except RateError Decimal} {e : Errand}
    (h : priced account source target obtained = .ok e) :
    ∃ money rate, e = .exchange account source money rate ∧ money.currency = target ∧
      money.value.IsAmount := by
  cases obtained with
  | error error => simp [priced] at h
  | ok rate =>
      rw [priced] at h
      split at h
      · simp at h
      · next money hconvert =>
        split at h
        · next hpos =>
          exact ⟨money, rate, (Except.ok.inj h).symm, PairQuote.isAmount_of_convert hconvert hpos⟩
        · simp at h

/-- The errand of a ticket is what its request asks for, in whole cents. -/
lemma Ticket.asks_isAmount_of_errand? {t : Ticket} {e : Errand} (h : t.errand? = some (.ok e)) :
    t.request.Asks e ∧ ∀ m ∈ e.movements, m.amount.IsAmount := by
  obtain ⟨request, obtained⟩ := t
  cases request with
  | openAccount account =>
      obtain rfl := Except.ok.inj (Option.some.inj h)
      exact ⟨.opening account, by simp [Errand.movements]⟩
  | deposit account currency amount =>
      obtain ⟨rfl, ha⟩ := Errand.eq_of_positive (Option.some.inj h)
      refine ⟨.deposit account ⟨amount, currency⟩, ?_⟩
      simpa [Errand.movements, Money.movement] using ha
  | withdraw account currency amount =>
      obtain ⟨rfl, ha⟩ := Errand.eq_of_positive (Option.some.inj h)
      refine ⟨.withdraw account ⟨amount, currency⟩, ?_⟩
      simpa [Errand.movements, Money.movement] using ha
  | exchange account source target amount =>
      simp only [errand?] at h
      split at h
      · simp at h
      · next hne =>
        split at h
        · simp at h
        · next money hm =>
          obtain ⟨rfl, ha⟩ := Money.isAmount_of_positive hm
          obtain ⟨rate, -, hrate⟩ := Option.map_eq_some_iff.mp h
          obtain ⟨money, rate, rfl, rfl, hmoney⟩ := Errand.eq_of_priced hrate
          refine ⟨.exchange account ⟨amount, source⟩ money rate hne, ?_⟩
          simpa [Errand.movements, Money.movement] using ⟨hmoney, ha⟩
  | _ => simp [errand?] at h

/-- The errand of a ticket is what its request asks for. -/
theorem Ticket.asks_of_errand? {t : Ticket} {e : Errand} (h : t.errand? = some (.ok e)) :
    t.request.Asks e :=
  (asks_isAmount_of_errand? h).1

/-- What is asked for names no row twice: the currencies of an exchange differ. -/
lemma Request.Asks.nodup {request : Request} {e : Errand} (h : request.Asks e) :
    (e.movements.map (·.key)).Nodup := by
  cases h with
  | opening => exact List.nodup_nil
  | deposit | withdraw => exact List.nodup_singleton _
  | exchange account source target rate hne =>
      simpa [Errand.movements, Money.movement] using hne.symm

/-- What can be relied on once arguments have been checked and a price has been found. -/
theorem Ticket.isSound_of_errand? {t : Ticket} {e : Errand} (h : t.errand? = some (.ok e)) :
    e.IsSound :=
  have ⟨hasks, hamounts⟩ := asks_isAmount_of_errand? h
  ⟨hamounts, hasks.nodup⟩

/-- Errands keep all balances in range. -/
lemma Errand.IsSound.isProper {e : Errand} (he : e.IsSound) {sheet sheet' : Sheet}
    (hs : sheet.IsProper) (h : e.outcome sheet = .ok sheet') : sheet'.IsProper := by
  cases e with
  | opening account =>
      intro key balance hb
      rw [(Sheet.opened_eq_ok h).2] at hb
      split at hb
      · exact Option.some.inj hb ▸ Decimal.isBalance_zero
      · exact hs hb
  | adjustment kind account money => exact hs.moves he.isAmount h
  | exchange account source target rate => exact hs.moves he.isAmount h

/-! ### What is left in a store -/

/-- The notification about an amount, if it is large enough. -/
def Money.notices (m : Money) (threshold : Decimal) (id : EventId) (kind : OperationKind)
    (account : AccountId) (balanceAfter : Balances) (now : Nat) : List OutboxEvent :=
  if threshold ≤ m.value then
    [.ofNotification ⟨id, kind, account, m.value, m.currency, balanceAfter, .ofEpochMillis now⟩]
  else []

/-- The balances of an account. -/
def Sheet.account (sheet : Sheet) (account : AccountId) : Balances :=
  .ofFn fun c => sheet ⟨account, c⟩

/-- What an errand that a transaction carries out leaves in a store, and its reply. -/
inductive Errand.Posts (thresholds : Thresholds) (now : Nat) (tx : TxId) (s₀ s : Store) :
    Errand → Reply → Prop where
  | opening {account : AccountId} {sheet : Sheet} (hsheet : s₀.sheet.opened account = .ok sheet)
      (hp : Store.Posted tx s₀ s sheet [] []) :
      Posts thresholds now tx s₀ s (.opening account) (.balances (sheet.account account))
  | adjustment {kind : OperationKind} {account : AccountId} {money : Money} {sheet : Sheet}
      {wallet : WalletId} {record : RecordId} {event : EventId}
      (hsheet : (money.movement account kind.direction).apply s₀.sheet = .ok sheet)
      (hid : (s₀.wallets.get? ⟨account, money.currency⟩).map (·.id) = some wallet)
      (hp : Store.Posted tx s₀ s sheet
        [⟨record, wallet, money.currency, money.value, kind.direction, kind, none,
          .ofEpochMillis now⟩]
        (money.notices thresholds.deposit event kind account (sheet.account account) now)) :
      Posts thresholds now tx s₀ s (.adjustment kind account money)
        (.snapshot ⟨account, wallet, money.currency, sheet.account account⟩)
  | exchange {account : AccountId} {source target : Money} {rate : Decimal} {sheet : Sheet}
      {credited debited : WalletId} {credit debit : RecordId} {event : EventId} {seen : Balances}
      (hsheet : (Errand.exchange account source target rate).movements.foldlM Movement.apply
        s₀.sheet = .ok sheet)
      (hcredited : (s₀.wallets.get? ⟨account, target.currency⟩).map (·.id) = some credited)
      (hdebited : (s₀.wallets.get? ⟨account, source.currency⟩).map (·.id) = some debited)
      (hseen : seen.get? target.currency = sheet ⟨account, target.currency⟩)
      (hp : Store.Posted tx s₀ s sheet
        [⟨credit, credited, target.currency, target.value, .credit, .transfer, some debited,
            .ofEpochMillis now⟩,
          ⟨debit, debited, source.currency, source.value, .debit, .transfer, some credited,
            .ofEpochMillis now⟩]
        (target.notices thresholds.exchange event .withdraw account seen now)) :
      Posts thresholds now tx s₀ s (.exchange account source target rate)
        (.receipt (.of ⟨account, credited, target.currency, sheet.account account⟩ rate source
          target))

/-- An errand that is carried out leaves the balances of its outcome. -/
lemma Errand.Posts.outcome {thresholds : Thresholds} {now : Nat} {tx : TxId} {s₀ s : Store}
    {errand : Errand} {reply : Reply} (h : Posts thresholds now tx s₀ s errand reply) :
    errand.outcome s₀.sheet = .ok s.sheet := by
  cases h with
  | opening hsheet hp => rw [hp.sheet_eq]; exact hsheet
  | adjustment hsheet hid hp =>
      simp only [hp.sheet_eq, Errand.outcome, movements, List.foldlM_cons, hsheet]
      rfl
  | exchange hsheet hcredited hdebited hseen hp => rw [hp.sheet_eq]; exact hsheet

/-- An errand that is carried out is carried out in one transaction. -/
lemma Errand.Posts.posted {thresholds : Thresholds} {now : Nat} {tx : TxId} {s₀ s : Store}
    {errand : Errand} {reply : Reply} (h : Posts thresholds now tx s₀ s errand reply) :
    ∃ records events, Store.Posted tx s₀ s s.sheet records events := by
  cases h with
  | opening _ hp => exact ⟨_, _, { hp with sheet_eq := rfl }⟩
  | adjustment _ _ hp => exact ⟨_, _, { hp with sheet_eq := rfl }⟩
  | exchange _ _ _ _ hp => exact ⟨_, _, { hp with sheet_eq := rfl }⟩

end Teller
