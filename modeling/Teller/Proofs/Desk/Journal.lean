/-
What a journal looks like, and that it stays.

* `Settlement.Records`: the records that a settlement leaves, one for an amount that is paid in or
  out, and for an exchange a credit and a debit that name each other's wallet;
* `Sheet.IsWhole`: an account has a wallet in every currency, or none;
* `Desk.Journals`: the journal consists of the records of one settlement after the other;
  `Desk.Journals.step` says that every event keeps it like that;
* `Desk.KeepsJournal`, `Desk.keepsJournal_run`: so does every run, and what is in a journal stays
  there.
-/
import Teller.Proofs.Desk.Settlement

namespace Teller

/-! ### The records of a settlement -/

/-- Does the request ask for an amount to be moved? -/
def Request.movesMoney : Request → Bool
  | deposit .. => true
  | withdraw .. => true
  | exchange .. => true
  | _ => false

/-- The records that a settlement leaves when wallets have these identifiers. -/
inductive Settlement.Records (names : Names) : Settlement → List TransactionRecord → Prop where
  | deposit {id : Nat} {account : AccountId} {currency : Currency} {amount : Decimal}
      {snapshot : WalletSnapshot} {wallet : WalletId} {record : RecordId} {now : Timestamp}
      (hwallet : names ⟨account, currency⟩ = some wallet) :
      Records names ⟨id, .deposit account currency amount, .snapshot snapshot⟩
        [⟨record, wallet, currency, amount, .credit, .deposit, none, now⟩]
  | withdraw {id : Nat} {account : AccountId} {currency : Currency} {amount : Decimal}
      {snapshot : WalletSnapshot} {wallet : WalletId} {record : RecordId} {now : Timestamp}
      (hwallet : names ⟨account, currency⟩ = some wallet) :
      Records names ⟨id, .withdraw account currency amount, .snapshot snapshot⟩
        [⟨record, wallet, currency, amount, .debit, .withdraw, none, now⟩]
  | exchange {id : Nat} {account : AccountId} {source target : Currency} {amount : Decimal}
      {receipt : ExchangeReceipt} {credited debited : WalletId} {credit debit : RecordId}
      {now : Timestamp} (hne : source ≠ target)
      (hcredited : names ⟨account, target⟩ = some credited)
      (hdebited : names ⟨account, source⟩ = some debited)
      (hsource : receipt.source = ⟨amount, source⟩) (htarget : receipt.target.currency = target) :
      Records names ⟨id, .exchange account source target amount, .receipt receipt⟩
        [⟨credit, credited, target, receipt.target.value, .credit, .transfer, some debited, now⟩,
          ⟨debit, debited, source, amount, .debit, .transfer, some credited, now⟩]

namespace Settlement

variable {names names' : Names} {s : Settlement} {block : List TransactionRecord}

/-- Wallets that keep their identifiers keep their records. -/
lemma Records.mono (h : s.Records names block)
    (hle : ∀ ⦃key id⦄, names key = some id → names' key = some id) : s.Records names' block := by
  cases h with
  | deposit hwallet => exact .deposit (hle hwallet)
  | withdraw hwallet => exact .withdraw (hle hwallet)
  | exchange hne hcredited hdebited hsource htarget =>
      exact .exchange hne (hle hcredited) (hle hdebited) hsource htarget

end Settlement

/-! ### Errands -/

section Errands

variable {thresholds : Thresholds} {now : Nat} {tx : TxId} {s₀ s : Store} {errand : Errand}
  {settlement : Settlement}

/-- An errand that moves money adds its records to the journal. -/
lemma Errand.Posts.records
    (h : errand.Posts thresholds now tx s₀ s settlement.reply)
    (hasks : settlement.request.Asks errand) (hsound : errand.IsSound)
    (hmoves : settlement.request.movesMoney = true) :
    ∃ block, s.journal = s₀.journal ++ block ∧ settlement.Records s.names block ∧
      ∀ r ∈ block, r.amount.IsAmount := by
  have hnames := h.names
  obtain ⟨id, request, reply⟩ := settlement
  cases hasks with
  | opening account => simp [Request.movesMoney] at hmoves
  | deposit account money =>
      have hamount := hsound.isAmount _ List.mem_cons_self
      cases h with
      | adjustment hsheet hid hp =>
          exact ⟨_, hp.journal, .deposit (hnames hid), by simpa [Money.movement] using hamount⟩
  | withdraw account money =>
      have hamount := hsound.isAmount _ List.mem_cons_self
      cases h with
      | adjustment hsheet hid hp =>
          exact ⟨_, hp.journal, .withdraw (hnames hid), by simpa [Money.movement] using hamount⟩
  | exchange account source target rate hne =>
      have htarget := hsound.isAmount (target.movement account .credit) List.mem_cons_self
      have hsource := hsound.isAmount (source.movement account .debit)
        (List.mem_cons_of_mem _ List.mem_cons_self)
      cases h with
      | exchange hsheet hcredited hdebited hseen hp =>
          refine ⟨_, hp.journal, .exchange hne (hnames hcredited) (hnames hdebited) rfl rfl, ?_⟩
          simpa [Money.movement] using ⟨htarget, hsource⟩

/-- An errand that moves no money leaves the journal as it is. -/
lemma Errand.Posts.journal_eq (h : errand.Posts thresholds now tx s₀ s settlement.reply)
    (hasks : settlement.request.Asks errand) (hmoves : settlement.request.movesMoney = false) :
    s.journal = s₀.journal := by
  obtain ⟨id, request, reply⟩ := settlement
  cases hasks with
  | opening account =>
      cases h with
      | opening hsheet hp => rw [hp.journal, List.append_nil]
  | _ => simp [Request.movesMoney] at hmoves

/-- An errand that is carried out adds to the journal. -/
lemma Errand.Posts.journal_prefix {reply : Reply}
    (h : errand.Posts thresholds now tx s₀ s reply) : s₀.journal <+: s.journal := by
  obtain ⟨records, events, hp⟩ := h.posted
  exact hp.journal ▸ List.prefix_append _ _

end Errands

/-! ### Whole accounts -/

/-- An account has a wallet in every currency, or none. -/
def Sheet.IsWhole (sheet : Sheet) : Prop :=
  ∀ account, (∀ c, sheet ⟨account, c⟩ = none) ∨ ∀ c, sheet ⟨account, c⟩ ≠ none

namespace Sheet

variable {sheet sheet' : Sheet}

lemma IsWhole.of_none_iff (h : sheet.IsWhole)
    (hsame : ∀ key, sheet' key = none ↔ sheet key = none) : sheet'.IsWhole := by
  intro account
  simpa only [ne_eq, hsame] using h account

/-- A movement neither opens nor closes a wallet. -/
lemma eq_none_iff_of_apply {m : Movement} (h : m.apply sheet = .ok sheet') (key : WalletKey) :
    sheet' key = none ↔ sheet key = none := by
  obtain ⟨balance, next, hbalance, -, rfl⟩ := Movement.apply_eq_ok h
  by_cases hkey : key = m.key
  · simp [hkey, hbalance]
  · rw [Function.update_of_ne hkey]

lemma IsWhole.moves {ms : List Movement} (hw : sheet.IsWhole)
    (h : ms.foldlM Movement.apply sheet = .ok sheet') : sheet'.IsWhole := by
  induction ms generalizing sheet with
  | nil => exact Except.ok.inj h ▸ hw
  | cons m ms ih =>
      obtain ⟨mid, hm, hms⟩ := Movement.foldlM_apply_cons h
      exact ih (hw.of_none_iff (eq_none_iff_of_apply hm)) hms

lemma IsWhole.opened {account : AccountId} (hw : sheet.IsWhole)
    (h : sheet.opened account = .ok sheet') : sheet'.IsWhole := by
  obtain ⟨-, hafter⟩ := opened_eq_ok h
  intro other
  by_cases hother : other = account
  · exact .inr fun c => by simp [hafter, hother]
  · simpa [hafter, hother] using hw other

/-- Errands open all wallets of an account or none. -/
lemma IsWhole.outcome {errand : Errand} (hw : sheet.IsWhole)
    (h : errand.outcome sheet = .ok sheet') : sheet'.IsWhole := by
  cases errand with
  | opening account => exact hw.opened h
  | adjustment kind account money => exact hw.moves h
  | exchange account source target rate => exact hw.moves h

end Sheet

/-- As long as wallets keep their identifiers, the records of an account that has all its wallets or
none stay among its records. -/
lemma Store.transactionRecords_prefix {s s' : Store} (hw : s.sheet.IsWhole)
    (hnames : ∀ ⦃key id⦄, s.names key = some id → s'.names key = some id)
    (hjournal : s.journal <+: s'.journal) (account : AccountId) :
    s.transactionRecords account <+: s'.transactionRecords account := by
  rw [transactionRecords_eq, transactionRecords_eq]
  rcases hw account with hnone | hall
  · have hno : s.journal.filter (s.concerns account) = [] := by
      refine List.filter_eq_nil_iff.mpr fun r _ hr => ?_
      obtain ⟨c, hc⟩ := concerns_iff.mp hr
      rw [sheet_eq_none_iff.mp (hnone c)] at hc
      exact absurd hc (by simp)
    rw [hno]
    exact List.nil_prefix
  · have hsame : s.concerns account = s'.concerns account := by
      funext r
      rw [Bool.eq_iff_iff, concerns_iff, concerns_iff]
      refine exists_congr fun c => ⟨fun hc => hnames hc, fun hc => ?_⟩
      obtain ⟨id, hid⟩ := Option.ne_none_iff_exists'.mp
        (mt sheet_eq_none_iff.mpr (hall c))
      rw [hid, ← hc]
      exact (hnames hid).symm
    rw [hsame]
    exact hjournal.filter _

/-! ### Runs -/

namespace Desk

variable {σ : Type} {d : Desk σ}

/-- The settlements by which money has been moved, in their order. -/
def moves (d : Desk σ) : List Settlement := d.settled.filter (·.request.movesMoney)

/-- The journal consists of the records of one settlement after the other. -/
structure Journals (d : Desk σ) : Prop where
  blocks : ∃ blocks, d.bank.store.journal = blocks.flatten ∧
    List.Forall₂ (Settlement.Records d.bank.store.names) d.moves blocks
  isAmount {r : TransactionRecord} : r ∈ d.bank.store.journal → r.amount.IsAmount
  isWhole : d.bank.store.sheet.IsWhole

lemma journals_fresh (clock : Clock) (lockTimeout : Nat) (ids : IdSupply) (rates : RateCache σ)
    (thresholds : Thresholds) : (fresh clock lockTimeout ids rates thresholds).Journals where
  blocks := ⟨[], rfl, .nil⟩
  isAmount h := absurd h List.not_mem_nil
  isWhole := fun _ => .inl fun _ => rfl

variable [RateProvider σ]

/-- Every event keeps the journal like that. -/
theorem Journals.step (h : d.Journals) (hd : d.IsSound) (event : Event σ) :
    (d.step event).Journals := by
  obtain ⟨blocks, hjournal, hblocks⟩ := h.blocks
  have hnames := hd.names_step event
  have hkept := hblocks.imp fun _ _ hrecords => hrecords.mono hnames
  rcases hd.settled_step event with
    ⟨hsettled, hbooks⟩ | ⟨s, errand, tx, hsettled, hasks, hsound, hp⟩
  · -- nothing has ended well, and the records are those from before
    have hsame : (d.step event).bank.store.journal = d.bank.store.journal :=
      congrArg Books.journal hbooks
    have hwallets : (d.step event).bank.store.wallets = d.bank.store.wallets :=
      congrArg Books.wallets hbooks
    refine ⟨⟨blocks, hsame.trans hjournal, ?_⟩, fun hr => h.isAmount (hsame ▸ hr), ?_⟩
    · rwa [moves, hsettled]
    · rw [Store.sheet, hwallets]
      exact h.isWhole
  · -- one call has ended well: it adds its block, if it is one that moves money
    have hwhole := h.isWhole.outcome hp.outcome
    have hmoves : (d.step event).moves = d.moves ++ [s].filter (·.request.movesMoney) := by
      rw [moves, hsettled, List.filter_append, moves]
    cases hmoved : s.request.movesMoney with
    | false =>
        have hsame := hp.journal_eq hasks hmoved
        refine ⟨⟨blocks, hsame.trans hjournal, ?_⟩, fun hr => h.isAmount (hsame ▸ hr), hwhole⟩
        simpa [hmoves, hmoved] using hkept
    | true =>
        obtain ⟨block, hblock, hrecords, hamounts⟩ := hp.records hasks hsound hmoved
        refine ⟨⟨blocks ++ [block], ?_, ?_⟩, fun hr => ?_, hwhole⟩
        · rw [hblock, hjournal, List.flatten_append, List.flatten_singleton]
        · simpa [hmoves, hmoved] using List.rel_append hkept (.cons hrecords .nil)
        · rw [hblock] at hr
          exact (List.mem_append.mp hr).elim h.isAmount (hamounts _)

/-- Every run keeps the journal like that. -/
theorem Journals.run (h : d.Journals) (hd : d.IsSound) (events : List (Event σ)) :
    (d.run events).Journals := by
  induction events generalizing d with
  | nil => exact h
  | cons event events ih => exact ih (h.step hd event) (hd.step event)

omit [RateProvider σ] in
/-- The second desk has all records and all wallets of the first. -/
structure Extends (d d' : Desk σ) : Prop where
  journal : d.bank.store.journal <+: d'.bank.store.journal
  names : ∀ ⦃key id⦄, d.bank.store.names key = some id → d'.bank.store.names key = some id

/-- Every event leaves records and wallets where they are. -/
lemma IsSound.extends_step (hd : d.IsSound) (event : Event σ) : d.Extends (d.step event) := by
  refine ⟨?_, hd.names_step event⟩
  rcases hd.books_cases event with hsame | ⟨_, -, _, _, _, _, _, -, -, -, hp⟩
  · have hjournal : (d.step event).bank.store.journal = d.bank.store.journal :=
      congrArg Books.journal hsame
    rw [hjournal]
  · exact hp.journal_prefix

/-- Later moments of a run have all records and all wallets of earlier ones. -/
lemma IsSound.extends_run_take (hd : d.IsSound) (events : List (Event σ)) {m n : ℕ}
    (h : m ≤ n) : (d.run (events.take m)).Extends (d.run (events.take n)) := by
  refine hd.rel_run_take Extends (fun d => ⟨List.prefix_refl _, fun _ _ hid => hid⟩) ?_
    IsSound.extends_step h
  intro d₁ d₂ d₃ h₁ h₂
  exact ⟨h₁.journal.trans h₂.journal, fun _ _ hid => h₂.names (h₁.names hid)⟩

/-- What the journal of a run looks like, and what becomes of it. -/
structure KeepsJournal (d : Desk σ) (events : List (Event σ)) : Prop where
  /-- The journal consists of blocks, one for each call that has moved money, in the order in which
  they did so. -/
  blocks : ∃ blocks, (d.run events).bank.store.journal = blocks.flatten ∧
    List.Forall₂ (Settlement.Records (d.run events).bank.store.names) (d.run events).moves blocks
  /-- Every amount is above zero. -/
  positive {r : TransactionRecord} : r ∈ (d.run events).bank.store.journal → 0 < r.amount.toRat
  /-- What is in the journal stays there, in its place. -/
  journal_prefix {m n : ℕ} : m ≤ n →
    (d.run (events.take m)).bank.store.journal <+: (d.run (events.take n)).bank.store.journal
  /-- What is among the records of an account stays there, in its place. -/
  records_prefix {m n : ℕ} (account : AccountId) : m ≤ n →
    (d.run (events.take m)).bank.store.transactionRecords account
      <+: (d.run (events.take n)).bank.store.transactionRecords account

/-- Every run has a journal that consists of the records of the calls that have moved money, one
call after the other, and keeps it, however the turns of the calls are ordered, whatever faults
strike, and wherever calls are given up. -/
theorem keepsJournal_run (clock : Clock) (lockTimeout : Nat) (ids : IdSupply) (rates : RateCache σ)
    (thresholds : Thresholds) (events : List (Event σ)) :
    (fresh clock lockTimeout ids rates thresholds).KeepsJournal events := by
  have hd := isSound_fresh clock lockTimeout ids rates thresholds
  have hj := journals_fresh clock lockTimeout ids rates thresholds
  have hrun := hj.run hd events
  constructor
  case blocks => exact hrun.blocks
  case positive =>
    intro r hr
    have hamount : r.amount.IsAmount := hrun.isAmount hr
    exact hamount.toRat_pos
  case journal_prefix =>
    intro m n hmn
    exact (hd.extends_run_take events hmn).journal
  case records_prefix =>
    intro m n account hmn
    have hwhole := (hj.run hd (events.take m)).isWhole
    have hlater := hd.extends_run_take events hmn
    exact Store.transactionRecords_prefix hwhole hlater.names hlater.journal account

/-- An exchange that is struck by a fault at its first record leaves none; when it is asked for
again it leaves both, the credit first. -/
example :
    let provider : SimulatedProvider :=
      (SimulatedProvider.named "").setPair ⟨.usd, .eur⟩ ⟨false, 92, 2, by decide, by decide⟩
    let d := (fresh (.atRest 0) Store.standardLockTimeout .fresh
      (.empty ⟨provider, none⟩ RateCache.standardTtl) .standard).run
        [.start none (.openAccount ⟨.random 0⟩),
          .start none (.deposit ⟨.random 0⟩ .usd ⟨false, 1250, 2, by decide, by decide⟩),
          .inject .appendRecord,
          .start none (.exchange ⟨.random 0⟩ .usd .eur ⟨false, 5, 0, by decide, by decide⟩),
          .start none (.exchange ⟨.random 0⟩ .usd .eur ⟨false, 5, 0, by decide, by decide⟩)]
    d.bank.store.journal.map (fun r => (r.kind, r.direction, r.currency))
      = [(.deposit, .credit, .usd), (.transfer, .credit, .eur), (.transfer, .debit, .usd)] := by
  decide +kernel

end Desk

end Teller
