/-
Exchanges at a desk where nothing else goes on.

* `Order`: an exchange that is asked for; `Order.quoted?` is what is known of it before balances
  matter, `Order.fault?` why balances refuse it, and `Order.verdict?` both, the first reason first;
* `Order.IsPriced.outcome_eq_error_iff`: so an exchange is refused by the two movements that it is
  made of;
* `Desk.Prices`: an exchange that has touched nothing has a turn, in which it may get to know its
  rate;
* `Desk.Exchanges`: all that an exchange leaves; `Desk.Trades`: it waits or is refused and leaves
  nothing, or is made and leaves that;
* `Desk.trades_turn`: so it is whatever has happened before, for every order and every rate.
-/
import Teller.Proofs.Desk.Adjustment
import Teller.Proofs.Desk.Journal

namespace Teller

/-- An exchange that is asked for. -/
structure Order where
  account : AccountId
  source : Currency
  target : Currency
  amount : Decimal

namespace Order

variable {o : Order} {sheet : Sheet} {gained : Money} {rate : Decimal} {e : LedgerError}

/-- The request for it. -/
def request (o : Order) : Request := .exchange o.account o.source o.target o.amount

/-! ### Reasons -/

/-- The rate of an order and what it gains, or why it is refused whatever the balances are: the
first reason counts. An order that is in order so far needs an answer about its rate. -/
def quoted? (o : Order) (found : Option (Except RateError Decimal)) :
    Option (Except LedgerError (Decimal × Money)) :=
  if o.source = o.target then some (.error (.validation (.sameCurrency o.source)))
  else
    match Money.positive o.amount o.source with
    | .error e => some (.error e)
    | .ok paid => found.map fun
      | .error e => .error e.toLedgerError
      | .ok rate =>
        match PairQuote.convert ⟨⟨o.source, o.target⟩, rate⟩ paid with
        | .error e => .error e
        | .ok gained =>
          if gained.isPositive then .ok (rate, gained)
          else .error (.validation (.convertsToNothing o.amount o.source rate o.target))

/-- Why balances refuse an order that gains this much, if they do: an account without wallets, a
balance that would become too large, or too little to pay with. -/
def fault? (o : Order) (gained : Money) (sheet : Sheet) : Option LedgerError :=
  match sheet ⟨o.account, o.target⟩, sheet ⟨o.account, o.source⟩ with
  | some balance, some funds =>
    (Direction.credit.refusal? o.target balance gained.value).or
      (Direction.debit.refusal? o.source funds o.amount)
  | _, _ => some (.walletNotFound o.account o.target)

/-- The rate of an order and what it gains, or why it is refused. -/
def verdict? (o : Order) (found : Option (Except RateError Decimal)) (sheet : Sheet) :
    Option (Except LedgerError (Decimal × Money)) :=
  (o.quoted? found).map fun
    | .error e => .error e
    | .ok (rate, gained) =>
      match o.fault? gained sheet with
      | some e => .error e
      | none => .ok (rate, gained)

/-! ### Errands -/

/-- What an order is about once it has been priced. -/
def errand (o : Order) (rate : Decimal) (gained : Money) : Errand :=
  .exchange o.account ⟨o.amount, o.source⟩ gained rate

/-- An order is checked and priced as its reasons say. -/
lemma errand?_request (o : Order) (found : Option (Except RateError Decimal)) :
    Ticket.errand? ⟨o.request, found⟩
      = (o.quoted? found).map (·.map fun (rate, gained) => o.errand rate gained) := by
  rw [quoted?]
  simp only [Ticket.errand?, request]
  by_cases hsame : o.source = o.target
  · simp only [if_pos hsame]
    rfl
  · simp only [if_neg hsame]
    cases hm : Money.positive o.amount o.source with
    | error e => rfl
    | ok paid =>
        obtain ⟨rfl, -⟩ := Money.isAmount_of_positive hm
        rcases found with - | e | rate
        · rfl
        · rfl
        · simp only [Option.map_some, Errand.priced]
          cases PairQuote.convert ⟨⟨o.source, o.target⟩, rate⟩ ⟨o.amount, o.source⟩ with
          | error e => rfl
          | ok gained =>
              simp only
              split <;> rfl

/-- What is known of an order that has been priced. -/
structure IsPriced (o : Order) (gained : Money) : Prop where
  ne : o.source ≠ o.target
  currency : gained.currency = o.target
  isAmount : o.amount.IsAmount
  isAmount_gained : gained.value.IsAmount

lemma isPriced_of_quoted? {found : Option (Except RateError Decimal)}
    (h : o.quoted? found = some (.ok (rate, gained))) : o.IsPriced gained := by
  have herrand : Ticket.errand? ⟨o.request, found⟩ = some (.ok (o.errand rate gained)) := by
    rw [errand?_request, h]
    rfl
  have hsound := Ticket.isSound_of_errand? herrand
  have hasks := Ticket.asks_of_errand? herrand
  obtain ⟨account, source, target, amount⟩ := o
  cases hasks with
  | exchange _ _ _ _ hne =>
      exact ⟨hne, rfl, hsound.isAmount _ (List.mem_cons_of_mem _ (List.mem_singleton_self _)),
        hsound.isAmount _ List.mem_cons_self⟩

/-- The target gains. -/
def credit (o : Order) (gained : Money) : Movement :=
  ⟨⟨o.account, o.target⟩, gained.value, .credit⟩

/-- The source pays. -/
def debit (o : Order) : Movement := ⟨⟨o.account, o.source⟩, o.amount, .debit⟩

lemma IsPriced.movements (h : o.IsPriced gained) (rate : Decimal) :
    (o.errand rate gained).movements = [o.credit gained, o.debit] := by
  rw [errand, Errand.movements, Money.movement, h.currency]
  rfl

lemma IsPriced.isAmount_of_mem (h : o.IsPriced gained) :
    ∀ m ∈ [o.credit gained, o.debit], m.amount.IsAmount := by
  simpa [credit, debit] using ⟨h.isAmount_gained, h.isAmount⟩

lemma IsPriced.nodup (h : o.IsPriced gained) :
    ([o.credit gained, o.debit].map (·.key)).Nodup := by
  simpa [credit, debit] using h.ne.symm

/-- The two movements of an order are refused for the reason that its balances give, and for no
other: what is credited first does not touch the row that pays. -/
theorem IsPriced.outcome_eq_error_iff (h : o.IsPriced gained) (hs : sheet.IsProper)
    (hw : sheet.IsWhole) : [o.credit gained, o.debit].foldlM Movement.apply sheet = .error e ↔
      o.fault? gained sheet = some e := by
  rcases hw o.account with hnone | hall
  · -- an account without wallets
    have hfault : o.fault? gained sheet = some (.walletNotFound o.account o.target) := by
      rw [fault?, hnone]
    have hcredit : (o.credit gained).apply sheet
        = .error (.walletNotFound o.account o.target) := by
      rw [Movement.apply_eq_error_iff hs h.isAmount_gained, Movement.refusal?, credit, hnone]
    rw [List.foldlM_cons, hcredit, hfault]
    simp [bind, Except.bind]
  · obtain ⟨balance, hbalance⟩ := Option.ne_none_iff_exists'.mp (hall o.target)
    obtain ⟨funds, hfunds⟩ := Option.ne_none_iff_exists'.mp (hall o.source)
    have hfault : o.fault? gained sheet
        = (Direction.credit.refusal? o.target balance gained.value).or
          (Direction.debit.refusal? o.source funds o.amount) := by
      rw [fault?, hbalance, hfunds]
    have hcredit : (o.credit gained).refusal? sheet
        = Direction.credit.refusal? o.target balance gained.value := by
      rw [Movement.refusal?, credit, hbalance]
    rw [List.foldlM_cons, hfault, ← hcredit]
    cases hstep : (o.credit gained).apply sheet with
    | error e' =>
        rw [(Movement.apply_eq_error_iff hs h.isAmount_gained).mp hstep]
        simp [bind, Except.bind]
    | ok mid =>
        have hne : o.debit.key ≠ (o.credit gained).key := by simpa [credit, debit] using h.ne
        have hmid : mid o.debit.key = some funds := (Movement.apply_of_ne hstep hne).trans hfunds
        rw [Movement.refusal?_eq_none_of_apply hs h.isAmount_gained hstep, Option.none_or]
        show [o.debit].foldlM Movement.apply mid = .error e ↔ _
        rw [Movement.foldlM_apply_one,
          Movement.apply_eq_error_iff (hs.apply h.isAmount_gained hstep) h.isAmount,
          Movement.refusal?, hmid]
        rfl

/-- Two movements that are made were not to be refused. -/
lemma IsPriced.fault?_eq_none (h : o.IsPriced gained) (hs : sheet.IsProper) (hw : sheet.IsWhole)
    {sheet' : Sheet}
    (hmoved : [o.credit gained, o.debit].foldlM Movement.apply sheet = .ok sheet') :
    o.fault? gained sheet = none := by
  rw [Option.eq_none_iff_forall_ne_some]
  intro e he
  rw [← h.outcome_eq_error_iff hs hw, hmoved] at he
  simp at he

/-- An order is refused for the first reason that there is. -/
lemma verdict?_of_outcome? (hs : sheet.IsProper) (hw : sheet.IsWhole)
    {found : Option (Except RateError Decimal)}
    (h : Ticket.outcome? ⟨o.request, found⟩ sheet = some (.error e)) :
    o.verdict? found sheet = some (.error e) := by
  rw [verdict?]
  rw [Ticket.outcome?, errand?_request] at h
  rcases hquoted : o.quoted? found with - | e' | ⟨rate, gained⟩
  · simp [hquoted] at h
  · rw [hquoted] at h
    obtain rfl : e' = e := Except.error.inj (Option.some.inj h)
    rfl
  · have hpriced := isPriced_of_quoted? hquoted
    have houtcome : (o.errand rate gained).outcome sheet = .error e := by
      rw [hquoted] at h
      exact Option.some.inj h
    have hmoved : [o.credit gained, o.debit].foldlM Movement.apply sheet = .error e := by
      rw [← hpriced.movements rate]
      exact houtcome
    simp only [Option.map_some, (hpriced.outcome_eq_error_iff hs hw).mp hmoved]

end Order

namespace Desk

variable {σ : Type} {d d' : Desk σ} {o : Order} {id : ℕ} {event : Event σ}
  {found : Option (Except RateError Decimal)}

/-! ### What is left -/

/-- An exchange has been made, and all that this leaves is there. -/
structure Exchanges (d d' : Desk σ) (o : Order) (id : ℕ) (rate : Decimal) (gained : Money)
    (credited debited : Wallet) : Prop where
  pays : d.bank.store.Changes d'.bank.store ⟨o.account, o.source⟩ debited (-o.amount.toRat)
  gains : d.bank.store.Changes d'.bank.store ⟨o.account, o.target⟩ credited gained.value.toRat
  others {key : WalletKey} : key ≠ ⟨o.account, o.source⟩ → key ≠ ⟨o.account, o.target⟩ →
    d'.bank.store.wallets.get? key = d.bank.store.wallets.get? key
  /-- The two records name each other's wallet. -/
  journal : ∃ credit debit, d'.bank.store.journal = d.bank.store.journal ++
    [⟨credit, credited.id, o.target, gained.value, .credit, .transfer, some debited.id,
        .ofEpochMillis d.bank.clock.now⟩,
      ⟨debit, debited.id, o.source, o.amount, .debit, .transfer, some credited.id,
        .ofEpochMillis d.bank.clock.now⟩]
  outbox : ∃ event seen, d'.bank.store.outbox = d.bank.store.outbox ++
    if d.bank.thresholds.exchange.toRat ≤ gained.value.toRat then
      [⟨.ofNotification ⟨event, .withdraw, o.account, gained.value, o.target, seen,
        .ofEpochMillis d.bank.clock.now⟩, false⟩]
    else []
  ended : d'.HasEnded id o.request (.ok (.receipt (.of ⟨o.account, credited.id, o.target,
    d'.bank.store.readBalances o.account⟩ rate ⟨o.amount, o.source⟩ gained)))

/-- An exchange does not know its rate yet, or it has been refused for the first reason that there
is, or there is none and it has been made. -/
inductive Trades (d d' : Desk σ) (o : Order) (id : ℕ) (found : Option (Except RateError Decimal)) :
    Prop where
  | waits (hverdict : o.verdict? found d.bank.store.sheet = none) (hkeeps : d.Keeps d')
  | refused {e : LedgerError} (hverdict : o.verdict? found d.bank.store.sheet = some (.error e))
      (hkeeps : d.Keeps d') (hended : d'.HasEnded id o.request (.error (.refused e)))
  | made {rate : Decimal} {gained : Money} {credited debited : Wallet}
      (hverdict : o.verdict? found d.bank.store.sheet = some (.ok (rate, gained)))
      (hexchanges : d.Exchanges d' o id rate gained credited debited)

/-- A call that ends alone with the store is refused for the first reason, or all is left that an
exchange leaves. -/
theorem Finishes.trades (h : d.Finishes d' id ⟨o.request, found⟩) (hd : d.IsSound)
    (hw : d.bank.store.sheet.IsWhole) : d.Trades d' o id found := by
  cases h with
  | refused he hkeeps hended =>
      exact .refused (Order.verdict?_of_outcome? hd.isProper hw he) hkeeps hended
  | posts herrand hp hended =>
      rw [Order.errand?_request] at herrand
      -- who has come to post something has a rate, and an amount to gain
      rcases hquoted : o.quoted? found with - | e | ⟨rate, gained⟩
      · simp [hquoted] at herrand
      · simp [hquoted, Except.map] at herrand
      rw [hquoted] at herrand
      obtain rfl := Except.ok.inj (Option.some.inj herrand)
      have hpriced := Order.isPriced_of_quoted? hquoted
      have hmovements := hpriced.movements rate
      obtain ⟨value, currency⟩ := gained
      obtain rfl : currency = o.target := hpriced.currency
      cases hp with
      | @exchange _ _ _ _ sheet credited debited credit debit event seen hsheet hcredited hdebited
          hseen hp =>
          have hmoved := hmovements ▸ hsheet
          obtain ⟨hchanges, hothers⟩ :=
            hp.changes hd.isProper hpriced.isAmount_of_mem hpriced.nodup hmoved
          obtain ⟨receiver, hgains⟩ := hchanges _ List.mem_cons_self
          obtain ⟨payer, hpays⟩ :=
            hchanges _ (List.mem_cons_of_mem _ (List.mem_singleton_self _))
          obtain rfl : receiver.id = credited := hgains.id_eq hcredited
          obtain rfl : payer.id = debited := hpays.id_eq hdebited
          obtain rfl := hp.sheet_eq
          -- both movements went through, so there was no reason to refuse the order
          have hverdict : o.verdict? found d.bank.store.sheet
              = some (.ok (rate, ⟨value, o.target⟩)) := by
            simp only [Order.verdict?, hquoted, Option.map_some,
              hpriced.fault?_eq_none hd.isProper hw hmoved]
          refine .made hverdict ⟨hpays, hgains, fun hsource htarget => ?_,
            ⟨credit, debit, hp.journal⟩, ⟨event, seen, ?_⟩, hended⟩
          · refine hothers _ ?_
            simpa [Order.credit, Order.debit] using ⟨htarget, hsource⟩
          · rw [hp.outbox, Money.map_notices]

/-! ### Turns -/

variable [RateProvider σ]

/-- An exchange that has touched nothing yet has a turn, in which this is the answer about its rate
if it asks for it, or none yet. -/
inductive Prices (d : Desk σ) (o : Order) :
    Event σ → ℕ → Option (Except RateError Decimal) → Prop where
  | start (deadline : Option ℕ) : Prices d o (.start deadline o.request) d.started
      (RateCache.timeless (d.bank.rates.read d.bank.clock (.pair ⟨o.source, o.target⟩))).2.result?
  | resume {id : ℕ} {ticket : Ticket} {call : Call} {fetch : Fetch}
      (hw : d.waiting.get? id = some (ticket, call))
      (hphase : call.phase = .pricing o.account ⟨o.amount, o.source⟩ o.target fetch) :
      Prices d o (.resume id) id
        (RateCache.timeless
          (d.bank.rates.resume d.bank.clock (.pair ⟨o.source, o.target⟩) fetch)).2.result?

omit [RateProvider σ] in
/-- An order has no errand as long as its rate is not known. -/
lemma errand?_eq_none_iff : Ticket.errand? ⟨o.request, found⟩ = none ↔ o.quoted? found = none := by
  rw [Order.errand?_request, Option.map_eq_none_iff]

/-- An exchange that waits for its rate goes on with the answer about it. -/
lemma IsSound.answered_eq (hd : d.IsSound) {ticket : Ticket} {call : Call} {fetch : Fetch}
    (hw : d.waiting.get? id = some (ticket, call))
    (hphase : call.phase = .pricing o.account ⟨o.amount, o.source⟩ o.target fetch) :
    call.phase.Idles ticket ∧ ticket.answered (d.bank.rateAtResume? call.phase) = ⟨o.request,
      (RateCache.timeless
        (d.bank.rates.resume d.bank.clock (.pair ⟨o.source, o.target⟩) fetch)).2.result?⟩ := by
  rcases hd.waits hw with hidles | ⟨tx, hc⟩
  · refine ⟨hidles, ?_⟩
    rw [hphase] at hidles ⊢
    obtain ⟨request, obtained⟩ := ticket
    cases hidles with
    | pricing hrequest hobtained =>
        obtain rfl : request = o.request := hrequest
        obtain rfl : obtained = none := hobtained
        rfl
  · rw [hphase] at hc
    cases hc

/-- In the turn of an exchange that has touched nothing it ends, unless its rate is not known. -/
lemma Prices.cases (h : d.Prices o event id found) (hd : d.IsSound) (hidle : d.IsIdle) :
    (d.step event).IsIdle ∧
      ((o.quoted? found = none ∧ d.Keeps (d.step event)) ∨
        d.Finishes (d.step event) id ⟨o.request, found⟩) := by
  cases h with
  | start deadline =>
      cases herrand : Ticket.errand? ⟨o.request, d.bank.rateAtStart? o.request⟩ with
      | none =>
          obtain ⟨hafter, hkeeps⟩ := hd.keeps_start hidle deadline herrand
          exact ⟨hafter, .inl ⟨errand?_eq_none_iff.mp herrand, hkeeps⟩⟩
      | some answer =>
          obtain ⟨hafter, hfinishes⟩ := hd.finishes_start hidle deadline herrand
          exact ⟨hafter, .inr hfinishes⟩
  | @resume id ticket call fetch hw hphase =>
      obtain ⟨hidles, hticket⟩ := hd.answered_eq hw hphase
      rw [← hticket]
      cases herrand : (ticket.answered (d.bank.rateAtResume? call.phase)).errand? with
      | none =>
          obtain ⟨hafter, hkeeps⟩ := hd.keeps_resume hidle hw hidles herrand
          rw [hticket, errand?_eq_none_iff] at herrand
          exact ⟨hafter, .inl ⟨herrand, hkeeps⟩⟩
      | some answer =>
          obtain ⟨hafter, hfinishes⟩ := hd.finishes_resume hidle hw hidles herrand
          exact ⟨hafter, .inr hfinishes⟩

/-- An account has a wallet in every currency, or none. -/
lemma IsReachable.isWhole (h : d.IsReachable) : d.bank.store.sheet.IsWhole := by
  obtain ⟨clock, lockTimeout, ids, rates, thresholds, events, rfl⟩ := h
  have hj := journals_fresh clock lockTimeout ids rates thresholds
  exact (hj.run (isSound_fresh clock lockTimeout ids rates thresholds) events).isWhole

/-- Whatever has happened at a desk, when no transaction is open and no fault is to strike an
exchange ends as soon as its rate is known, and the desk is idle again. It is refused for the first
reason that there is, and nothing changes, or there is none, and exactly its two balances, its two
records and, from the threshold on, its notification are left. Before its rate is known it changes
nothing. -/
theorem trades_turn (hreach : d.IsReachable) (hidle : d.IsIdle) (h : d.Prices o event id found) :
    (d.step event).IsIdle ∧ d.Trades (d.step event) o id found := by
  obtain ⟨hafter, hcases⟩ := h.cases hreach.isSound hidle
  refine ⟨hafter, ?_⟩
  rcases hcases with ⟨hquoted, hkeeps⟩ | hfinishes
  · refine .waits ?_ hkeeps
    rw [Order.verdict?, hquoted, Option.map_none]
  · exact hfinishes.trades hreach.isSound hreach.isWhole

/-- Half of what there is is exchanged at 0.92. -/
theorem trades_turn_funded :
    let rate : Decimal := ⟨false, 92, 2, by decide, by decide⟩
    let desk := funded rate ⟨false, 1250, 2, by decide, by decide⟩
    let o : Order := ⟨⟨.random 0⟩, .usd, .eur, ⟨false, 625, 2, by decide, by decide⟩⟩
    o.verdict? (some (.ok rate)) desk.bank.store.sheet
        = some (.ok (rate, ⟨⟨false, 575, 2, by decide, by decide⟩, .eur⟩)) ∧
      (desk.step (.start none o.request)).IsIdle ∧
        desk.Trades (desk.step (.start none o.request)) o 2 (some (.ok rate)) := by
  intro rate desk o
  have hstarted : desk.started = 2 := by decide +kernel
  have hfound : (RateCache.timeless
      (desk.bank.rates.read desk.bank.clock (.pair ⟨o.source, o.target⟩))).2.result?
        = some (.ok rate) := by decide +kernel
  have htrades := trades_turn (isReachable_funded _ _) (by decide +kernel : desk.IsIdle)
    (.start (o := o) none)
  rw [hstarted, hfound] at htrades
  exact ⟨by decide +kernel, htrades⟩

end Desk

end Teller
