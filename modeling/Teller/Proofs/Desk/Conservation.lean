/-
The journal explains all balances at all times.

* `Errand.Posts.isAudited`: an errand that is carried out leaves a journal that explains the
  balances, if the one before did;
* `Desk.isAudited_run`: so does every run whose wallets have identifiers of their own;
* `Desk.Conserves`, `Desk.conserves_run`: every balance is what has been credited without what has
  been debited, every record is about a wallet that exists, and every account is found in order.
-/
import Teller.Proofs.Desk.Atomicity
import Teller.Proofs.Store.Audit

namespace Teller

/-! ### Errands -/

section Errands

variable {thresholds : Thresholds} {now : Nat} {tx : TxId} {s₀ s : Store} {sheet : Sheet}
  {records : List TransactionRecord} {events : List OutboxEvent}

/-- A transaction that opens no wallet leaves the identifiers as they are. -/
lemma Store.Posted.names_eq (hp : Store.Posted tx s₀ s sheet records events)
    (hsame : ∀ key, s₀.sheet key = none → sheet key = none) : s.names = s₀.names := by
  funext key
  cases hname : s₀.names key with
  | some id => exact hp.id hname
  | none =>
      rw [← sheet_eq_none_iff] at hname ⊢
      rw [hp.sheet_eq]
      exact hsame key hname

/-- A movement opens no wallet. -/
lemma Movement.eq_none_of_apply {m : Movement} {sheet sheet' : Sheet}
    (h : m.apply sheet = .ok sheet') {key : WalletKey} (hnone : sheet key = none) :
    sheet' key = none := by
  obtain ⟨balance, next, hbalance, -, -⟩ := apply_eq_ok h
  rw [apply_of_ne h, hnone]
  rintro rfl
  simp [hnone] at hbalance

/-- An errand that is carried out leaves the wallets their identifiers. -/
lemma Errand.Posts.names {errand : Errand} {reply : Reply}
    (h : errand.Posts thresholds now tx s₀ s reply) ⦃key : WalletKey⦄ ⦃id : WalletId⦄
    (hid : s₀.names key = some id) : s.names key = some id := by
  obtain ⟨_, _, hp⟩ := h.posted
  exact hp.id hid

/-- An errand that is carried out is explained by the records that it leaves. -/
theorem Errand.Posts.isAudited {errand : Errand} {reply : Reply}
    (h : errand.Posts thresholds now tx s₀ s reply) (hsound : errand.IsSound)
    (hproper : s₀.sheet.IsProper) (hapart : s.names.Apart) (ha : s₀.IsAudited) : s.IsAudited := by
  have hnames := h.names
  have hapart₀ := hapart.of_le hnames
  cases h with
  | @opening account sheet hopened hp =>
      rw [Store.IsAudited, hp.journal, List.append_nil, hp.sheet_eq]
      refine ha.opened hapart hnames fun key id balance hname hbalance => ?_
      obtain ⟨hnone, hafter⟩ := Sheet.opened_eq_ok hopened
      rw [hafter] at hbalance
      split at hbalance
      · next haccount =>
        have hname₀ : s₀.sheet key = none := by
          rw [show key = ⟨account, key.currency⟩ by rw [← haccount]]
          exact hnone key.currency
        exact .inr ⟨Store.sheet_eq_none_iff.mp hname₀, (Option.some.inj hbalance).symm⟩
      · cases hname₀ : s₀.names key with
        | none => simp [Store.sheet_eq_none_iff.mpr hname₀] at hbalance
        | some id₀ =>
            obtain rfl := Option.some.inj ((hnames hname₀).symm.trans hname)
            exact .inl ⟨rfl, hbalance⟩
  | @adjustment kind account money sheet wallet record event hmoved hid hp =>
      rw [Store.IsAudited, hp.names_eq fun key => Movement.eq_none_of_apply hmoved, hp.journal,
        hp.sheet_eq]
      exact ha.record hapart₀ (m := money.movement account kind.direction) hid rfl rfl hproper
        (hsound.isAmount _ List.mem_cons_self) hmoved
  | @exchange account source target rate sheet credited debited credit debit event seen hmoved
      hcredited hdebited hseen hp =>
      -- one record after the other: the credit explains the sheet between the two movements
      obtain ⟨mid, hcredit, hdebit⟩ := Movement.foldlM_apply_pair hmoved
      have hsame : ∀ key, s₀.sheet key = none → sheet key = none := fun key hnone =>
        Movement.eq_none_of_apply hdebit (Movement.eq_none_of_apply hcredit hnone)
      have hamount := hsound.isAmount (target.movement account .credit) List.mem_cons_self
      have hamount' := hsound.isAmount (source.movement account .debit)
        (List.mem_cons_of_mem _ List.mem_cons_self)
      rw [Store.IsAudited, hp.names_eq hsame, hp.journal, hp.sheet_eq, List.append_cons]
      refine Audit.record ?_ hapart₀ (m := source.movement account .debit) hdebited rfl rfl
        (hproper.apply hamount hcredit) hamount' hdebit
      exact ha.record hapart₀ (m := target.movement account .credit) hcredited rfl rfl hproper
        hamount hcredit

end Errands

/-! ### Runs -/

namespace Desk

variable {σ : Type} {d : Desk σ}

variable [RateProvider σ]

/-- An event leaves the wallets their identifiers. -/
lemma IsSound.names_step (hd : d.IsSound) (event : Event σ) ⦃key : WalletKey⦄ ⦃id : WalletId⦄
    (hid : d.bank.store.names key = some id) : (d.step event).bank.store.names key = some id := by
  rcases hd.books_cases event with hsame | ⟨_, -, _, _, _, _, _, -, -, -, hp⟩
  · exact (congrFun (Store.names_congr (congrArg Books.wallets hsame)) key).trans hid
  · exact hp.names hid

/-- Every event keeps the balances explained. -/
theorem IsSound.isAudited_step (hd : d.IsSound) (ha : d.bank.store.IsAudited) {event : Event σ}
    (hapart : (d.step event).bank.store.names.Apart) : (d.step event).bank.store.IsAudited := by
  rcases hd.books_cases event with hsame | ⟨_, -, _, _, _, _, _, -, -, herrand, hp⟩
  · have hwallets : (d.step event).bank.store.wallets = d.bank.store.wallets :=
      congrArg Books.wallets hsame
    have hjournal : (d.step event).bank.store.journal = d.bank.store.journal :=
      congrArg Books.journal hsame
    rw [Store.IsAudited, Store.names_congr hwallets, Store.sheet, hwallets, hjournal]
    exact ha
  · exact hp.isAudited (Ticket.isSound_of_errand? herrand) hd.isProper hapart ha

/-- Every run in which different wallets get different identifiers keeps the balances explained. -/
theorem IsSound.isAudited_run (hd : d.IsSound) (ha : d.bank.store.IsAudited)
    {events : List (Event σ)} (hapart : (d.run events).bank.store.names.Apart) :
    (d.run events).bank.store.IsAudited := by
  induction events using List.reverseRecOn with
  | nil => exact ha
  | append_singleton events event ih =>
      rw [run_concat] at hapart ⊢
      have hd' := hd.run events
      exact hd'.isAudited_step (ih (hapart.of_le (hd'.names_step event))) hapart

omit [RateProvider σ] in
lemma isAudited_fresh (clock : Clock) (lockTimeout : Nat) (ids : IdSupply) (rates : RateCache σ)
    (thresholds : Thresholds) :
    (fresh clock lockTimeout ids rates thresholds).bank.store.IsAudited :=
  .empty _ fun _ => rfl

/-! ### Identifiers -/

/-- No event takes an identifier back. -/
lemma IsSound.drawn_le_step (hd : d.IsSound) (event : Event σ) :
    d.bank.store.ids.drawn ≤ (d.step event).bank.store.ids.drawn := by
  rcases hd.step_cases event with h | ⟨d₁, id, tx, ticket, turn, h⟩
  · rw [h.ids]
  · rw [h.step_eq, ← h.bank_eq]
    exact h.came.path.le.2

/-- Every event keeps identifiers apart, as long as not too many are drawn. -/
lemma IsSound.isNamed_step (hd : d.IsSound) {first : Nat} (hn : d.bank.store.IsNamed first)
    {event : Event σ} (hfew : (d.step event).bank.store.ids.drawn ≤ first + 2 ^ 62) :
    (d.step event).bank.store.IsNamed first := by
  rcases hd.step_cases event with h | ⟨d₁, id, tx, ticket, turn, h⟩
  · refine hn.of_uses (hd.drawn_le_step event) fun key id hu => ?_
    rwa [Store.Uses, Store.names_congr h.wallets, h.transactions] at hu
  · rw [h.step_eq] at hfew ⊢
    rw [← h.bank_eq] at hn
    exact hn.path h.came.path hfew

/-- In every run that draws no more than `2 ^ 62` identifiers different wallets get different
ones. -/
theorem apart_run (clock : Clock) (lockTimeout : Nat) (ids : IdSupply) (rates : RateCache σ)
    (thresholds : Thresholds) (events : List (Event σ))
    (hfew : ((fresh clock lockTimeout ids rates thresholds).run events).bank.store.ids.drawn
      ≤ ids.drawn + 2 ^ 62) :
    ((fresh clock lockTimeout ids rates thresholds).run events).bank.store.names.Apart := by
  have hd := isSound_fresh clock lockTimeout ids rates thresholds
  suffices ((fresh clock lockTimeout ids rates thresholds).run events).bank.store.IsNamed
      ids.drawn from this.names_apart
  induction events using List.reverseRecOn with
  | nil => exact .empty lockTimeout ids
  | append_singleton events event ih =>
      rw [run_concat] at hfew ⊢
      have hd' := hd.run events
      exact hd'.isNamed_step (ih ((hd'.drawn_le_step event).trans hfew)) hfew

/-! ### Conservation -/

/-- Money is neither made nor lost. -/
structure Conserves (d : Desk σ) : Prop where
  /-- Every balance is what its wallet has been credited with, without what it has been debited
  by. -/
  balanced {key : WalletKey} {wallet : Wallet} : d.bank.store.wallets.get? key = some wallet →
    wallet.balance.toRat
      = total d.bank.store.journal wallet.id .credit - total d.bank.store.journal wallet.id .debit
  /-- Every record is about a wallet that exists, in its currency. -/
  backed {r : TransactionRecord} : r ∈ d.bank.store.journal →
    ∃ key wallet, d.bank.store.wallets.get? key = some wallet ∧ wallet.id = r.wallet ∧
      key.currency = r.currency
  /-- Every account that exists is found in order when it is verified. -/
  verified {account : AccountId} : (d.bank.store.readBalances account).isEmpty = false →
    ∃ report, (d.bank.start (.verify account)).2 = .done ⟨.ok (.report report), none⟩ ∧
      report.account = account ∧ report.balances = d.bank.store.readBalances account ∧
      report.mismatches = []

/-- In every run in which different wallets get different identifiers money is neither made nor
lost, however the turns of its calls are ordered, whatever faults strike and whatever calls are
given up. -/
theorem conserves_run (clock : Clock) (lockTimeout : Nat) (ids : IdSupply) (rates : RateCache σ)
    (thresholds : Thresholds) (events : List (Event σ))
    (hapart : ((fresh clock lockTimeout ids rates thresholds).run events).bank.store.names.Apart) :
    ((fresh clock lockTimeout ids rates thresholds).run events).Conserves := by
  have hd := isSound_fresh clock lockTimeout ids rates thresholds
  have ha := hd.isAudited_run (isAudited_fresh clock lockTimeout ids rates thresholds) hapart
  generalize (fresh clock lockTimeout ids rates thresholds).run events = d at hapart ha ⊢
  refine ⟨fun {key wallet} hw => ?_, fun hr => ?_, fun {account} hexists => ?_⟩
  · rw [← net_eq_totals]
    exact ha.balanced (Store.names_of_get? hw) (Store.sheet_of_get? hw)
  · obtain ⟨key, hname, hcurrency⟩ := ha.backed hr
    obtain ⟨wallet, hw, hid⟩ := Option.map_eq_some_iff.mp hname
    exact ⟨key, wallet, hw, hid, hcurrency⟩
  · obtain ⟨report, hsettles, haccount, hbalances, hmismatches⟩ :=
      ha.settles_reconcile hapart hexists
    refine ⟨report, ?_, haccount, hbalances, hmismatches⟩
    rw [Bank.start, hsettles.eq .decimal]
    rfl

/-- A run in which an account is opened and two amounts are moved. -/
theorem conserves_run_of_three_calls :
    ((fresh (.atRest 0) Store.standardLockTimeout .fresh
      (.empty ⟨SimulatedProvider.named "", none⟩ RateCache.standardTtl) .standard).run
        [.start none (.openAccount ⟨.random 0⟩),
          .start none (.deposit ⟨.random 0⟩ .usd ⟨false, 1250, 2, by decide, by decide⟩),
          .start none
            (.withdraw ⟨.random 0⟩ .usd ⟨false, 5, 0, by decide, by decide⟩)]).Conserves :=
  conserves_run _ _ _ _ _ _ (apart_run _ _ _ _ _ _ (by decide +kernel))

end Desk

end Teller
