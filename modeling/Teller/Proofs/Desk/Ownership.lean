/-
What belongs to an account.

* `Ticket.account?_of_errand?`: a call is about the account that it is made for;
* `Store.Unmoved`: the wallets of an account, the records about them and its events are as they
  were;
* `Came.unmoved` and `Came.grown`: a turn of a call leaves them like that if the call is made for
  another account, and adds to the records and the events of its own;
* `Tandem.self`: a transaction beside itself; `Phase.Carries.same` and `Tandem.abreast_self` say
  that every call keeps step with itself, so that what is said of two calls can be said of one.
-/
import Teller.Proofs.Bank.Tandem
import Teller.Proofs.Desk.Conservation
import Teller.Proofs.Desk.Settlement

namespace Teller

/-! ### Errands -/

/-- The account that an errand is about. -/
def Errand.account : Errand → AccountId
  | opening account => account
  | adjustment _ account _ => account
  | exchange account _ _ _ => account

/-- A call is about the account that it is made for. -/
lemma Ticket.account?_of_errand? {t : Ticket} {e : Errand} (h : t.errand? = some (.ok e)) :
    t.request.account? = some e.account := by
  have hasks := Ticket.asks_of_errand? h
  generalize t.request = request at hasks ⊢
  cases hasks <;> rfl

/-- The events of an account, in the order of the outbox. -/
def Store.eventsOf (s : Store) (account : AccountId) : List OutboxEvent :=
  (s.outbox.map (·.event)).filter (·.account = account)

section Posts

variable {thresholds : Thresholds} {now : Nat} {tx : TxId} {s₀ s : Store} {errand : Errand}
  {reply : Reply}

lemma Money.account_of_mem_notices {m : Money} {threshold : Decimal} {id : EventId}
    {kind : OperationKind} {account : AccountId} {balanceAfter : Balances} {e : OutboxEvent}
    (h : e ∈ m.notices threshold id kind account balanceAfter now) : e.account = account := by
  rw [notices] at h
  split at h
  · rw [List.mem_singleton.mp h]
    rfl
  · exact absurd h List.not_mem_nil

/-- All records and events that an errand leaves belong to its account. -/
lemma Errand.Posts.exists_blocks (h : errand.Posts thresholds now tx s₀ s reply) :
    ∃ records events, s.journal = s₀.journal ++ records ∧
      s.outbox.map (·.event) = s₀.outbox.map (·.event) ++ events ∧
      (∀ r ∈ records, ∃ c, s₀.names ⟨errand.account, c⟩ = some r.wallet) ∧
      ∀ e ∈ events, e.account = errand.account := by
  have houtbox : ∀ {sheet records events}, Store.Posted tx s₀ s sheet records events →
      s.outbox.map (·.event) = s₀.outbox.map (·.event) ++ events := by
    intro sheet records events hp
    simp [hp.outbox, Function.comp_def]
  cases h with
  | opening hsheet hp => exact ⟨_, _, hp.journal, houtbox hp, by simp, by simp⟩
  | adjustment hsheet hid hp =>
      refine ⟨_, _, hp.journal, houtbox hp, fun r hr => ?_, fun e => Money.account_of_mem_notices⟩
      exact List.mem_singleton.mp hr ▸ ⟨_, hid⟩
  | exchange hsheet hcredited hdebited hseen hp =>
      refine ⟨_, _, hp.journal, houtbox hp, fun r hr => ?_, fun e => Money.account_of_mem_notices⟩
      rcases List.mem_pair.mp hr with rfl | rfl
      · exact ⟨_, hcredited⟩
      · exact ⟨_, hdebited⟩

/-- An errand changes no balance of another account. -/
lemma Errand.Posts.sheet_eq_of_ne (h : errand.Posts thresholds now tx s₀ s reply)
    {key : WalletKey} (hne : key.account ≠ errand.account) : s.sheet key = s₀.sheet key := by
  cases h with
  | opening hsheet hp =>
      rw [hp.sheet_eq, (Sheet.opened_eq_ok hsheet).2]
      exact if_neg hne
  | @adjustment kind account money sheet _ _ _ hsheet hid hp =>
      have hkey : key ≠ (money.movement account kind.direction).key := by
        rintro rfl
        exact hne rfl
      rw [hp.sheet_eq, Movement.apply_of_ne hsheet hkey]
  | @exchange account source target rate sheet _ _ _ _ _ _ hsheet _ _ _ hp =>
      obtain ⟨mid, hcredit, hdebit⟩ := Movement.foldlM_apply_pair hsheet
      have hkey : key ≠ (target.movement account .credit).key := by
        rintro rfl
        exact hne rfl
      have hkey' : key ≠ (source.movement account .debit).key := by
        rintro rfl
        exact hne rfl
      rw [hp.sheet_eq, Movement.apply_of_ne hdebit hkey', Movement.apply_of_ne hcredit hkey]

end Posts

/-! ### Books -/

namespace Store

variable {s₀ s : Store} {account : AccountId}

/-- What has been committed about an account is as it was. -/
structure Unmoved (account : AccountId) (s₀ s : Store) : Prop where
  wallet (c : Currency) : s.wallets.get? ⟨account, c⟩ = s₀.wallets.get? ⟨account, c⟩
  records : s.transactionRecords account = s₀.transactionRecords account
  events : s.eventsOf account = s₀.eventsOf account

lemma get?_wallets_eq {key : WalletKey} (hname : s.names key = s₀.names key)
    (hsheet : s.sheet key = s₀.sheet key) : s.wallets.get? key = s₀.wallets.get? key := by
  rw [names, names] at hname
  rw [Store.sheet, Store.sheet, Sheet.of, Sheet.of] at hsheet
  cases hw : s.wallets.get? key with
  | none =>
      rw [hw] at hname
      exact (Option.map_eq_none_iff.mp hname.symm).symm
  | some wallet =>
      rw [hw] at hname hsheet
      obtain ⟨wallet₀, hw₀, hid⟩ := Option.map_eq_some_iff.mp hname.symm
      rw [hw₀] at hsheet ⊢
      have hbalance := Option.some.inj hsheet
      obtain ⟨id, balance⟩ := wallet
      obtain ⟨id₀, balance₀⟩ := wallet₀
      cases hid
      cases hbalance
      rfl

/-- What is about an account among old records stays the same when new wallets get identifiers of
their own. -/
lemma transactionRecords_append (ha : s₀.IsAudited) (hapart : s.names.Apart)
    (hnames : ∀ ⦃key id⦄, s₀.names key = some id → s.names key = some id)
    {records : List TransactionRecord} (hjournal : s.journal = s₀.journal ++ records)
    (account : AccountId) :
    s.transactionRecords account
      = s₀.transactionRecords account ++ records.filter (s.concerns account) := by
  rw [transactionRecords_eq, transactionRecords_eq, hjournal, List.filter_append]
  congr 1
  -- a record has a wallet already, so that a new wallet with another name does not concern it
  refine List.filter_congr fun r hr => ?_
  obtain ⟨key, hkey, -⟩ := ha.backed hr
  rw [Bool.eq_iff_iff, concerns_iff, concerns_iff]
  refine exists_congr fun c => ⟨fun hc => ?_, fun hc => hnames hc⟩
  rwa [hapart (hnames hkey) hc] at hkey

end Store

namespace Bank.Came

variable {alone : Prop} {thresholds : Thresholds} {now : Nat} {s₀ s : Store} {tx : TxId}
  {ticket : Ticket} {turn : Turn Phase (Except Failure Reply)} {account : AccountId}

/-- A turn of a call that is made for another account, or for none, moves nothing. -/
theorem unmoved (h : Came alone thresholds now s₀ tx ticket s turn)
    (hother : ticket.request.account? ≠ some account) (ha : s₀.IsAudited)
    (hapart : s.names.Apart) : s₀.Unmoved account s := by
  -- nothing has been committed, or the errand of another account
  rcases h.books_cases with hsame | ⟨errand, reply, herrand, hp, -⟩
  · have hwallets : s.wallets = s₀.wallets := congrArg Books.wallets hsame
    have hjournal : s.journal = s₀.journal := congrArg Books.journal hsame
    have hevents : s.outbox.map (·.event) = s₀.outbox.map (·.event) := congrArg Books.events hsame
    refine ⟨fun c => by rw [hwallets], ?_, by rw [Store.eventsOf, Store.eventsOf, hevents]⟩
    rw [Store.transactionRecords, Store.transactionRecords, Store.walletsOf, Store.walletsOf,
      hwallets, hjournal]
  · have hne : account ≠ errand.account := by
      rintro rfl
      exact hother (Ticket.account?_of_errand? herrand)
    have hnames := hp.names
    obtain ⟨records, events, hjournal, houtbox, hrecords, hevents⟩ := hp.exists_blocks
    have hsheet : ∀ c, s.sheet ⟨account, c⟩ = s₀.sheet ⟨account, c⟩ := fun c =>
      hp.sheet_eq_of_ne hne
    refine ⟨fun c => Store.get?_wallets_eq ?_ (hsheet c), ?_, ?_⟩
    · cases hname : s₀.names ⟨account, c⟩ with
      | some id => exact hnames hname
      | none => rw [← Store.sheet_eq_none_iff, hsheet, Store.sheet_eq_none_iff, hname]
    · rw [Store.transactionRecords_append ha hapart hnames hjournal]
      refine List.append_right_eq_self.mpr (List.filter_eq_nil_iff.mpr fun r hr hc => ?_)
      obtain ⟨c, hname⟩ := hrecords r hr
      obtain ⟨c', hname'⟩ := Store.concerns_iff.mp hc
      exact hne (congrArg WalletKey.account (hapart hname' (hnames hname)))
    · rw [Store.eventsOf, houtbox, List.filter_append, ← Store.eventsOf]
      refine List.append_right_eq_self.mpr (List.filter_eq_nil_iff.mpr fun e he hc => ?_)
      exact hne ((of_decide_eq_true hc).symm.trans (hevents e he))

/-- All that a turn of a call adds to the journal and to the outbox belongs to the account for which
the call is made. -/
theorem grown (h : Came alone thresholds now s₀ tx ticket s turn)
    (hown : ticket.request.account? = some account) (ha : s₀.IsAudited) (hapart : s.names.Apart)
    {records : List TransactionRecord} (hjournal : s.journal = s₀.journal ++ records)
    {events : List OutboxEvent}
    (houtbox : s.outbox.map (·.event) = s₀.outbox.map (·.event) ++ events) :
    s.transactionRecords account = s₀.transactionRecords account ++ records ∧
      s.eventsOf account = s₀.eventsOf account ++ events := by
  have hnames : ∀ ⦃key id⦄, s₀.names key = some id → s.names key = some id := by
    rcases h.books_cases with hsame | ⟨errand, reply, -, hp, -⟩
    · rw [Store.names_congr (congrArg Books.wallets hsame)]
      exact fun _ _ h => h
    · exact hp.names
  rw [Store.transactionRecords_append ha hapart hnames hjournal, Store.eventsOf, houtbox,
    List.filter_append, ← Store.eventsOf]
  -- nothing has been added, or the blocks of an errand of this account
  rcases h.books_cases with hsame | ⟨errand, reply, herrand, hp, -⟩
  · have hjournal' : s.journal = s₀.journal := congrArg Books.journal hsame
    have hevents' : s.outbox.map (·.event) = s₀.outbox.map (·.event) := congrArg Books.events hsame
    rw [hjournal'] at hjournal
    rw [hevents'] at houtbox
    obtain rfl := List.append_right_eq_self.mp hjournal.symm
    obtain rfl := List.append_right_eq_self.mp houtbox.symm
    exact ⟨rfl, rfl⟩
  · obtain rfl := Option.some.inj (hown.symm.trans (Ticket.account?_of_errand? herrand))
    obtain ⟨records', events', hjournal', houtbox', hrecords, hevents⟩ := hp.exists_blocks
    obtain rfl := List.append_cancel_left (hjournal'.symm.trans hjournal)
    obtain rfl := List.append_cancel_left (houtbox'.symm.trans houtbox)
    refine ⟨congrArg _ (List.filter_eq_self.mpr fun r hr => ?_),
      congrArg _ (List.filter_eq_self.mpr fun e he => decide_eq_true (hevents e he))⟩
    obtain ⟨c, hname⟩ := hrecords r hr
    exact Store.concerns_iff.mpr ⟨c, hnames hname⟩

end Bank.Came

/-! ### A call beside itself -/

/-- A transaction for an account beside itself. -/
def Tandem.self (account : AccountId) (tx : TxId) (s : Store) : Tandem where
  account := account
  tx := tx
  tx' := tx
  before := s
  before' := s
  partners := Eq
  biUnique := ⟨fun _ _ _ h h' => h.trans h'.symm, fun _ _ _ h h' => h.symm.trans h'⟩
  partner := rfl

section Self

variable {s : Store} {tx : TxId} {account : AccountId} {phase : Phase} {ticket : Ticket}

lemma Tandem.abreast_self (hfaults : s.faults = [])
    (hcontent : (s.transaction tx).Same account (s.transaction tx)) :
    (Tandem.self account tx s).Abreast s s where
  lockTimeout := rfl
  faults := hfaults
  faults' := hfaults
  sheet _ := rfl
  lock _ := RowLock.same_refl _
  content := hcontent
  journal := grown_refl ..
  outbox := grown_refl ..
  spares := Store.spares_refl ..
  spares' := Store.spares_refl ..

lemma Transaction.same_self {t : Transaction}
    (hdeltas : ∀ key ∈ t.deltas.keys, key.account = account)
    (hprovisioned : ∀ key ∈ t.provisioned.keys, key.account = account) (hrecords : t.records = [])
    (hevents : t.events = []) : t.Same account t where
  deltas := rfl
  adjusts := hdeltas _
  provisioned := rfl
  provisions := hprovisioned _
  records := hrecords ▸ .nil
  events := hevents ▸ .nil

/-- A call that waits for a row waits for one of its account, and its transaction changes nothing
else. -/
lemma Phase.Carries.same (h : phase.Carries s tx ticket)
    (haccount : ticket.request.account? = some account) :
    phase.Same account tx tx phase ∧ (s.transaction tx).Same account (s.transaction tx) := by
  -- before its first change a transaction is like any other that has just begun
  have hfresh : s.transactions.get? tx = some .fresh →
      (s.transaction tx).Same account (s.transaction tx) := fun ht => by
    rw [Store.transaction, ht, Option.getD_some]
    exact Transaction.same_fresh account
  cases h with
  | @provisioning wait t done herrand htx ho hall =>
      obtain ⟨tx', account', c, rest, giveUpAt⟩ := wait
      obtain rfl : tx' = tx := htx
      obtain rfl : account = account' :=
        Option.some.inj (haccount.symm.trans (Ticket.account?_of_errand? herrand))
      refine ⟨.provisioning (.mk ..), ?_⟩
      rw [Store.transaction, ho.content, Option.getD_some]
      refine Transaction.same_self (fun key hk => ?_) (fun key hk => ?_) ho.records ho.events
      · rw [ho.deltas] at hk
        exact absurd hk List.not_mem_nil
      · rw [ho.keys] at hk
        obtain ⟨c, -, rfl⟩ := List.mem_map.mp hk
        rfl
  | @adjusting trail account' money wait herrand hadj hcontent hid =>
      obtain ⟨adjustment, wallet, giveUpAt⟩ := wait
      obtain rfl : adjustment = _ := hadj
      obtain rfl : account = account' :=
        Option.some.inj (haccount.symm.trans (Ticket.account?_of_errand? herrand))
      exact ⟨.adjusting trail money (.mk ..), hfresh hcontent⟩
  | @crediting trail exchange wait herrand htx hadj hcontent hid =>
      obtain ⟨tx', account', source, target, rate⟩ := exchange
      obtain ⟨adjustment, wallet, giveUpAt⟩ := wait
      obtain rfl : adjustment = _ := hadj
      obtain rfl : tx' = tx := htx
      obtain rfl : account = account' :=
        Option.some.inj (haccount.symm.trans (Ticket.account?_of_errand? herrand))
      exact ⟨.crediting trail source target rate (.mk ..), hfresh hcontent⟩
  | @debiting trail exchange credited wait t sheet herrand htx hadj hm hrecords hevents hcredited
      hcurrency hseen hid =>
      -- one row has been changed by then, and it is of the same account
      obtain ⟨tx', account', source, target, rate⟩ := exchange
      obtain ⟨adjustment, wallet, giveUpAt⟩ := wait
      obtain rfl : adjustment = _ := hadj
      obtain rfl : tx' = tx := htx
      obtain rfl : account = account' :=
        Option.some.inj (haccount.symm.trans (Ticket.account?_of_errand? herrand))
      refine ⟨.debiting trail source target rate rfl (.mk ..), ?_⟩
      rw [hm.transaction_eq]
      refine Transaction.same_self (fun key hk => ?_) (fun key hk => ?_) hrecords hevents
      · rw [hm.mem_keys_iff] at hk
        rw [List.mem_singleton.mp hk]
        rfl
      · rw [hm.provisioned] at hk
        exact absurd hk List.not_mem_nil

end Self

/-! ### Calls that only read rates -/

namespace Bank

variable {σ : Type} {states : RateClient σ → Prop} {rate : CurrencyPair → Except RateError Decimal}
  {b : Bank σ}

/-- A turn of a call has read rates, and the call does not wait for a row. -/
def OnlyReads (states : RateClient σ → Prop) (rate : CurrencyPair → Except RateError Decimal)
    (b : Bank σ) (step : Step σ) : Prop :=
  ∃ rates : RateCache σ, rates.IsSteady states rate ∧ step.1 = { b with rates } ∧
    ∀ phase, step.2 = .waiting phase → phase.row? = none

lemma onlyReads_afterTable {read : RateCache σ × Turn Fetch (Except RateError (Observed RateTable))}
    (h : read.1.IsSteady states rate) : OnlyReads states rate b (b.afterTable read) := by
  obtain ⟨rates, fetch | (e | table)⟩ := read
  · refine ⟨rates, h, rfl, fun phase hphase => ?_⟩
    rw [← Turn.waiting.inj hphase]
    rfl
  · exact ⟨rates, h, rfl, by simp [afterTable, refuse, reply]⟩
  · exact ⟨rates, h, rfl, by simp [afterTable, reply]⟩

lemma onlyReads_afterPair {pair : CurrencyPair}
    {read : RateCache σ × Turn Fetch (Except RateError (Observed Decimal))}
    (h : read.1.IsSteady states rate) : OnlyReads states rate b (b.afterPair pair read) := by
  obtain ⟨rates, fetch | (e | a)⟩ := read
  · refine ⟨rates, h, rfl, fun phase hphase => ?_⟩
    rw [← Turn.waiting.inj hphase]
    rfl
  · exact ⟨rates, h, rfl, by simp [afterPair, refuse, reply]⟩
  · exact ⟨rates, h, rfl, by simp [afterPair, reply]⟩

/-- A deadline makes no difference to that. -/
lemma OnlyReads.underDeadline {step : Step σ} (h : OnlyReads states rate b step)
    (deadline : Option ℕ) : ∃ rates : RateCache σ, rates.IsSteady states rate ∧
      (underDeadline deadline step).1 = { b with rates } ∧
      ∀ call, (Bank.underDeadline deadline step).2 = .waiting call → call.phase.row? = none := by
  obtain ⟨rates, hrates, hbank, hrow⟩ := h
  obtain ⟨b', phase | outcome⟩ := step
  · obtain rfl : b' = _ := hbank
    have hnone := hrow phase rfl
    refine ⟨rates, hrates, ?_, fun call hcall => ?_⟩
    · rw [Bank.underDeadline]
      split
      · rw [abandon, hnone]
      · rfl
    · rw [Bank.underDeadline] at hcall
      split at hcall
      · simp at hcall
      · rw [← Turn.waiting.inj hcall]
        exact hnone
  · exact ⟨rates, hrates, hbank, by simp [Bank.underDeadline]⟩

variable [RateProvider σ] (hsteady : RateClient.IsSteady states rate)

include hsteady

lemma onlyReads_start (hrates : b.rates.IsSteady states rate) {request : Request}
    (hnone : request.account? = none) : OnlyReads states rate b (b.start request) := by
  cases request with
  | rates => exact onlyReads_afterTable (hrates.read hsteady b.clock .table)
  | pairRate source target =>
      rw [start]
      split
      · exact ⟨b.rates, hrates, rfl, by simp [refuse, reply]⟩
      · exact onlyReads_afterPair (hrates.read hsteady b.clock (.pair ⟨source, target⟩))
  | _ => simp [Request.account?] at hnone

lemma onlyReads_resume (hrates : b.rates.IsSteady states rate) {phase : Phase} {ticket : Ticket}
    (h : phase.Idles ticket) (hnone : ticket.request.account? = none) :
    OnlyReads states rate b (b.resume phase) := by
  cases h with
  | pricing hrequest => simp [hrequest, Request.account?] at hnone
  | readingTable => exact onlyReads_afterTable (hrates.resume hsteady b.clock .table _)
  | readingPair => exact onlyReads_afterPair (hrates.resume hsteady b.clock (.pair _) _)

end Bank

end Teller
