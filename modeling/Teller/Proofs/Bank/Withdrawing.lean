/-
Withdrawals while no fault is to strike, operation by operation.

* `Store.append_eq`, `Store.commit_eq` and the like: what operations do while no fault is to strike;
* `Store.Debits`: a transaction is about to take an amount from a row, and to do nothing else to
  balances; `Debits.commit`: its commit does that;
* `Halt.Stands`: what a withdrawal that halts can rely on: its transaction has changed nothing yet,
  or debits the row, or has found too little there; others leave it that (`Stands.later`);
* `Bank.Operates`: all that the next operation of a withdrawal can come to: it goes on, it waits for
  its row, it is paid, or there is less than its amount; `Halt.Stands.operates`: so it is.
-/
import Teller.Proofs.Bank.Halts
import Teller.Proofs.Store.Rows
import Teller.Proofs.Store.Verdict

namespace Teller

/-! ### Debits of a wallet that exists -/

/-- A debit of a balance is refused only if that is less. -/
lemma Store.short_of_adjusted {currency : Currency} {balance amount : Decimal} {e : LedgerError}
    (hb : balance.IsBalance) (ha : amount.IsAmount)
    (h : Store.adjusted currency balance amount .debit = .error e) :
    e = .insufficientFunds currency amount ∧ balance.toRat < amount.toRat := by
  have hrefusal := (Store.adjusted_eq_error_iff hb ha).mp h
  rw [Direction.refusal?] at hrefusal
  split at hrefusal
  · next hshort => exact ⟨(Option.some.inj hrefusal).symm, hshort⟩
  · simp at hrefusal

/-- A debit takes its amount from the balance. -/
lemma Movement.debit_of_apply {key : WalletKey} {amount balance : Decimal} {sheet sheet' : Sheet}
    (hs : sheet.IsProper) (ha : amount.IsAmount) (hrow : sheet key = some balance)
    (h : Movement.apply sheet ⟨key, amount, .debit⟩ = .ok sheet') :
    ∃ next, sheet' key = some next ∧ next.toRat = balance.toRat - amount.toRat := by
  obtain ⟨balance', next, hrow', hadjusted, rfl⟩ := Movement.apply_eq_ok h
  obtain rfl := Option.some.inj (hrow.symm.trans hrow')
  obtain ⟨-, -, hsum⟩ := Store.isBalance_of_adjusted (hs hrow) ha hadjusted
  rw [Direction.toRat_signed] at hsum
  refine ⟨next, Function.update_self .., ?_⟩
  calc next.toRat = balance.toRat + Direction.change .debit amount := hsum
    _ = balance.toRat - amount.toRat := (sub_eq_add_neg ..).symm

/-! ### A store without faults -/

namespace Store

variable {s s' : Store} {tx : TxId} {t : Transaction} {key : WalletKey}
  {amount balance : Decimal}

lemma takeFault?_eq_none (hf : s.faults = []) (point : FaultPoint) : s.takeFault? point = none := by
  rw [takeFault?, hf]
  exact if_neg List.not_mem_nil

lemma begin_eq (hf : s.faults = []) :
    s.begin = ({ s.setTransaction ⟨s.begun⟩ .fresh with begun := s.begun + 1 }, .ok ⟨s.begun⟩) := by
  rw [begin, takeFault?_eq_none hf]

lemma append_eq (hf : s.faults = []) (ht : s.transactions.get? tx = some t)
    (record : TransactionRecord) : s.append tx record
      = (s.setTransaction tx { t with records := t.records ++ [record] }, .ok ()) := by
  rw [append, takeFault?_eq_none hf, transaction, ht]
  rfl

lemma enqueue_eq (hf : s.faults = []) (ht : s.transactions.get? tx = some t) (event : OutboxEvent) :
    s.enqueue tx event
      = (s.setTransaction tx { t with events := t.events ++ [event] }, .ok ()) := by
  rw [enqueue, takeFault?_eq_none hf, transaction, ht]
  rfl

lemma rollback_eq (hf : s.faults = []) (tx : TxId) : s.rollback tx = (s.discard tx, .ok ()) := by
  rw [rollback, takeFault?_eq_none hf]

lemma commit_eq (hf : s.faults = []) (ht : s.transactions.get? tx = some t)
    {wallets : Table WalletKey Wallet} (hw : committedWallets s.wallets t = .ok wallets) :
    s.commit tx = ({ s.discard tx with
      wallets
      journal := s.journal ++ t.records
      outbox := s.outbox ++ t.events.map fun event => ⟨event, false⟩ }, .ok ()) := by
  rw [commit, takeFault?_eq_none hf, transaction, ht]
  simp only [Option.getD_some, hw]

/-! ### Transactions that debit a row -/

/-- The transaction is about to take the amount from the row, and to do nothing else to balances. -/
def Debits (s : Store) (tx : TxId) (key : WalletKey) (amount : Decimal) : Prop :=
  ∃ t sheet, s.Moved tx t [⟨key, amount, .debit⟩] sheet

namespace Debits

lemma isOpen (h : s.Debits tx key amount) : s.IsOpen tx := by
  obtain ⟨t, sheet, hmoved⟩ := h
  exact ⟨t, hmoved.content⟩

/-- What a transaction is about to note does not matter. -/
lemma note (h : s.Debits tx key amount) (ht : s.transactions.get? tx = some t)
    (records : List TransactionRecord) (events : List OutboxEvent) :
    (s.setTransaction tx { t with records, events }).Debits tx key amount := by
  obtain ⟨t', sheet, hmoved⟩ := h
  obtain rfl := Option.some.inj (ht.symm.trans hmoved.content)
  exact ⟨_, sheet, get?_setTransaction.trans (if_pos rfl), hmoved.deltas, hmoved.provisioned,
    hmoved.nodup, hmoved.isAmount, hmoved.isProper, hmoved.outcome⟩

lemma draw (h : s.Debits tx key amount) : { s with ids := s.ids.next }.Debits tx key amount := by
  obtain ⟨t, sheet, hmoved⟩ := h
  exact ⟨t, sheet, hmoved.content, hmoved.deltas, hmoved.provisioned, hmoved.nodup, hmoved.isAmount,
    hmoved.isProper, hmoved.outcome⟩

/-- Others leave it possible. -/
lemma later (h : s.Debits tx key amount) (hl : Later tx s s') (hs : s.Disciplined)
    (hp : s'.sheet.IsProper) : s'.Debits tx key amount := by
  obtain ⟨t, sheet, hmoved⟩ := h
  obtain ⟨sheet', hmoved', -⟩ := hmoved.later hl hs hp
  exact ⟨t, sheet', hmoved'⟩

/-- Its commit takes the amount from the balance. -/
lemma commit (h : s.Debits tx key amount) (hf : s.faults = [])
    (hrow : s.sheet key = some balance) :
    ∃ s' next, s.commit tx = (s', .ok ()) ∧ Path tx s s' ∧ ¬ s'.IsOpen tx ∧ s'.sheet.IsProper ∧
      s'.sheet key = some next ∧ next.toRat = balance.toRat - amount.toRat := by
  obtain ⟨t, sheet, hmoved⟩ := h
  obtain ⟨wallets, hsettles, hsheet, -⟩ := hmoved.commits
  have hw : committedWallets s.wallets t = .ok wallets := hsettles.eq .decimal
  have happly := Movement.foldlM_apply_singleton hmoved.outcome
  have ha : amount.IsAmount := hmoved.isAmount _ (List.mem_singleton_self _)
  obtain ⟨next, hnext, hsum⟩ := Movement.debit_of_apply hmoved.isProper ha hrow happly
  refine ⟨_, next, commit_eq hf hmoved.content hw, (Path.refl tx s).act (.commit hmoved.content hw),
    fun ho => (isOpen_discard.mp ho).1 rfl, ?_, ?_, hsum⟩
  · rw [Store.sheet, hsheet]
    exact hmoved.isProper.apply ha happly
  · exact (congrFun hsheet key).trans hnext

end Debits

end Store

/-! ### Withdrawals that halt -/

namespace Halt

/-- The transaction that acts in the next operation. -/
def actor (s : Store) (halt : Halt) : TxId := halt.tx?.getD ⟨s.begun⟩

/-- What a withdrawal of an amount from a row that halts can rely on. -/
inductive Stands (s : Store) (key : WalletKey) (amount : Decimal) : Halt → Prop where
  | opening : Stands s key amount (.opening .withdraw)
  | asking {tx : TxId} {trail : Trail} (hkind : trail.kind = .withdraw)
      (hcontent : s.transactions.get? tx = some .fresh) : Stands s key amount (.asking tx trail)
  /-- It is known at the row. -/
  | waiting {tx : TxId} {trail : Trail} {wallet : WalletId} {giveUpAt : Nat}
      (hcontent : s.transactions.get? tx = some .fresh) (hknows : (s.lock key).Knows tx) :
      Stands s key amount (.waiting trail ⟨⟨tx, key, amount, .debit⟩, wallet, giveUpAt⟩)
  | recording {tx : TxId} {trail : Trail} {snapshot : WalletSnapshot}
      (hdebits : s.Debits tx key amount) : Stands s key amount (.recording tx trail snapshot)
  | noting {tx : TxId} {trail : Trail} {snapshot : WalletSnapshot}
      (hdebits : s.Debits tx key amount) : Stands s key amount (.noting tx trail snapshot)
  | committing {tx : TxId} {trail : Trail} {snapshot : WalletSnapshot}
      (hdebits : s.Debits tx key amount) : Stands s key amount (.committing tx trail snapshot)
  /-- It holds the row, and there is less than its amount. -/
  | failing {tx : TxId} {trail : Trail} {balance : Decimal} (hopen : s.IsOpen tx)
      (hheld : (s.lock key).holder = some tx) (hrow : s.sheet key = some balance)
      (hshort : balance.toRat < amount.toRat) :
      Stands s key amount
        (.failing tx trail (.refused (.insufficientFunds key.currency amount)))

/-- The row is granted if it is waited for. -/
def IsReady (s : Store) : Halt → Prop
  | waiting _ wait => (s.lock wait.adjustment.key).holder = some wait.adjustment.tx
  | _ => True

/-- The time of a wait for a row is not over, unless the row is granted. -/
def IsInTime {σ : Type} (b : Bank σ) : Halt → Prop
  | waiting _ wait => b.store.lookRow b.clock wait.row ≠ .timedOut
  | _ => True

namespace Stands

variable {s s' : Store} {key : WalletKey} {amount : Decimal} {halt : Halt} {tx : TxId}

/-- Its transaction is open. -/
lemma isOpen (h : halt.Stands s key amount) (htx : halt.tx? = some tx) : s.IsOpen tx := by
  cases h with
  | opening => simp [tx?] at htx
  | asking hkind hcontent => exact Option.some.inj htx ▸ ⟨_, hcontent⟩
  | waiting hcontent => exact Option.some.inj htx ▸ ⟨_, hcontent⟩
  | recording hdebits => exact Option.some.inj htx ▸ hdebits.isOpen
  | noting hdebits => exact Option.some.inj htx ▸ hdebits.isOpen
  | committing hdebits => exact Option.some.inj htx ▸ hdebits.isOpen
  | failing hopen => exact Option.some.inj htx ▸ hopen

/-- Others leave it all that. -/
lemma later (h : halt.Stands s key amount) (hs : s.Disciplined) (hp : s'.sheet.IsProper)
    (hl : ∀ tx, halt.tx? = some tx → Store.Later tx s s' ∧
      ((s.lock key).Knows tx → (s'.lock key).Knows tx)) : halt.Stands s' key amount := by
  cases h with
  | opening => exact .opening
  | asking hkind hcontent =>
      obtain ⟨hlater, -⟩ := hl _ rfl
      exact .asking hkind (hlater.content.trans hcontent)
  | waiting hcontent hknows =>
      obtain ⟨hlater, hstays⟩ := hl _ rfl
      exact .waiting (hlater.content.trans hcontent) (hstays hknows)
  | recording hdebits => exact .recording (hdebits.later (hl _ rfl).1 hs hp)
  | noting hdebits => exact .noting (hdebits.later (hl _ rfl).1 hs hp)
  | committing hdebits => exact .committing (hdebits.later (hl _ rfl).1 hs hp)
  | failing hopen hheld hrow hshort =>
      obtain ⟨hlater, -⟩ := hl _ rfl
      obtain ⟨t, ht⟩ := hopen
      refine .failing ⟨t, hlater.content.trans ht⟩ (hlater.holder hheld) ?_ hshort
      rw [Store.sheet, Sheet.of, hlater.row hheld]
      exact hrow

end Stands

end Halt

namespace Bank

variable {σ : Type} {b : Bank σ} {key : WalletKey} {amount balance : Decimal} {tx : TxId}
  {trail : Trail} {halt : Halt} {snapshot : WalletSnapshot}

/-! ### Operations -/

/-- All that the next operation of a withdrawal can come to, when there is this balance. -/
inductive Operates (b : Bank σ) (key : WalletKey) (amount balance : Decimal) (halt : Halt) :
    Bank σ × (Halt ⊕ Turn Phase Outcome) → Prop where
  /-- It goes on. -/
  | goes {s : Store} {halt' : Halt} (hpath : Store.Path (halt.actor b.store) b.store s)
      (hwallets : s.wallets = b.store.wallets) (htx : halt'.tx? = some (halt.actor b.store))
      (hstands : halt'.Stands s key amount) (hrank : halt'.rank < halt.rank) :
      Operates b key amount balance halt (b.withStore s, .inl halt')
  /-- Somebody else holds the row. -/
  | stays {phase : Phase} (hnot : ¬ halt.IsReady b.store) :
      Operates b key amount balance halt (b, .inr (.waiting phase))
  /-- It is paid. -/
  | pays {s : Store} {outcome : Outcome} {next : Decimal}
      (hpath : Store.Path (halt.actor b.store) b.store s)
      (hclosed : ¬ s.IsOpen (halt.actor b.store)) (hproper : s.sheet.IsProper)
      (hok : outcome.result.isOk) (hrow : s.sheet key = some next)
      (hnext : next.toRat = balance.toRat - amount.toRat) :
      Operates b key amount balance halt (b.withStore s, .inr (.done outcome))
  /-- There is less than the amount. -/
  | refuses {s : Store} {outcome : Outcome} (hpath : Store.Path (halt.actor b.store) b.store s)
      (hclosed : ¬ s.IsOpen (halt.actor b.store)) (hwallets : s.wallets = b.store.wallets)
      (hresult : outcome.result = .error (.refused (.insufficientFunds key.currency amount)))
      (hshort : balance.toRat < amount.toRat) :
      Operates b key amount balance halt (b.withStore s, .inr (.done outcome))

/-- Whatever it comes to, the transaction of the call has acted. -/
lemma Operates.path {out : Bank σ × (Halt ⊕ Turn Phase Outcome)}
    (h : b.Operates key amount balance halt out) :
    Store.Path (halt.actor b.store) b.store out.1.store := by
  cases h with
  | goes hpath => exact hpath
  | stays => exact .refl _ _
  | pays hpath => exact hpath
  | refuses hpath => exact hpath

/-- It begins. -/
lemma operates_opening (hf : b.store.faults = []) :
    Operates b key amount balance (.opening .withdraw)
      (b.operate key.account ⟨amount, key.currency⟩ (.opening .withdraw)) := by
  simp only [operate, Store.begin_eq hf]
  refine .goes ((Store.Path.refl _ _).act (.begin rfl)) rfl rfl ?_ (Nat.lt_succ_self _)
  exact .asking rfl (Store.get?_setTransaction.trans (if_pos rfl))

/-- It asks for the row. -/
lemma operates_asking (hkind : trail.kind = .withdraw)
    (hcontent : b.store.transactions.get? tx = some .fresh)
    (hrow : b.store.sheet key = some balance) :
    Operates b key amount balance (.asking tx trail)
      (b.operate key.account ⟨amount, key.currency⟩ (.asking tx trail)) := by
  obtain ⟨wallet, hw, -⟩ := Option.map_eq_some_iff.mp hrow
  have hid : b.store.walletId? tx key = some wallet.id := by
    rw [Store.walletId?, Store.transaction, hcontent, hw]
    rfl
  simp only [operate, hid, hkind]
  refine .goes ((Store.Path.refl tx b.store).act (.request key ⟨_, hcontent⟩)) rfl rfl ?_
    (Nat.lt_succ_self _)
  refine .waiting hcontent ?_
  rw [Store.lock_requestRow, if_pos rfl]
  exact RowLock.knows_request_self

/-- It looks at the row: it waits on, or it debits the row, or there is too little. -/
lemma operates_waiting {wallet : WalletId} {giveUpAt : ℕ}
    (hp : b.store.sheet.IsProper) (ha : amount.IsAmount)
    (hcontent : b.store.transactions.get? tx = some .fresh)
    (hrow : b.store.sheet key = some balance)
    (htime : Halt.IsInTime b (.waiting trail ⟨⟨tx, key, amount, .debit⟩, wallet, giveUpAt⟩)) :
    Operates b key amount balance (.waiting trail ⟨⟨tx, key, amount, .debit⟩, wallet, giveUpAt⟩)
      (b.operate key.account ⟨amount, key.currency⟩
        (.waiting trail ⟨⟨tx, key, amount, .debit⟩, wallet, giveUpAt⟩)) := by
  have hmoved : b.store.Moved tx .fresh [] b.store.sheet := .fresh hcontent hp
  -- with the row it is decided by the committed balance, for the transaction has moved nothing
  by_cases hheld : (b.store.lock key).holder = some tx
  · -- without it there is time left
    have hlook : b.store.lookRow b.clock (AdjustWait.row
        ⟨⟨tx, key, amount, .debit⟩, wallet, giveUpAt⟩) = .granted := Store.lookRow_of_holder hheld
    cases hadj : Store.adjusted key.currency balance amount .debit with
    | error e =>
        obtain ⟨rfl, hshort⟩ := Store.short_of_adjusted (hp hrow) ha hadj
        obtain ⟨result, hsettles, hresult⟩ : ∃ result, Settles
            (b.store.adjustHeld ⟨tx, key, amount, .debit⟩ wallet) (b.store, result) ∧ _ :=
          hmoved.settles_adjustHeld_error (m := ⟨key, amount, .debit⟩) hrow ha hadj
        have happlied : applied ⟨amount, key.currency⟩ result
            = .error (.refused (.insufficientFunds key.currency amount)) := by
          rcases hresult with rfl | ⟨rfl, -⟩ <;> rfl
        simp only [operate, Store.resumeAdjust, hlook, hsettles.eq .decimal, happlied]
        exact .goes (.refl tx b.store) rfl rfl (.failing ⟨_, hcontent⟩ hheld hrow hshort)
          (by simp [Halt.rank])
    | ok next =>
        have hsettles : Settles (b.store.adjustHeld ⟨tx, key, amount, .debit⟩ wallet) _ :=
          hmoved.settles_adjustHeld_ok (m := ⟨key, amount, .debit⟩) List.not_mem_nil hrow ha hadj
        have hdebits := hmoved.move (m := ⟨key, amount, .debit⟩) List.not_mem_nil ha
          (Movement.apply_of_adjusted hrow hadj)
        simp only [operate, Store.resumeAdjust, hlook, hsettles.eq .decimal, applied]
        exact .goes ((Store.Path.refl tx b.store).act (.adjust key _ hcontent hheld)) rfl rfl
          (.recording ⟨_, _, hdebits⟩) (Nat.lt_succ_self _)
  · have hlook : b.store.lookRow b.clock (AdjustWait.row
        ⟨⟨tx, key, amount, .debit⟩, wallet, giveUpAt⟩) = .waiting :=
      (Store.lookRow_of_holder_ne b.clock hheld).resolve_right htime
    simp only [operate, Store.resumeAdjust, hlook]
    exact .stays hheld

/-- It makes its record. -/
lemma operates_recording (hf : b.store.faults = []) (hdebits : b.store.Debits tx key amount) :
    Operates b key amount balance (.recording tx trail snapshot)
      (b.operate key.account ⟨amount, key.currency⟩ (.recording tx trail snapshot)) := by
  obtain ⟨t, ht⟩ := hdebits.isOpen
  have hdrawn : { b.store with ids := b.store.ids.next }.transactions.get? tx = some t := ht
  have hfaults : { b.store with ids := b.store.ids.next }.faults = [] := hf
  simp only [operate, Store.newRecord, IdSupply.record, Store.append_eq hfaults hdrawn]
  have hpath : ∀ records, Store.Path tx b.store ({ b.store with
      ids := b.store.ids.next }.setTransaction tx { t with records }) := fun records =>
    ((Store.Path.refl tx b.store).act .draw).act (.note records t.events hdrawn)
  split
  · exact .goes (hpath _) rfl rfl (.noting (hdebits.draw.note hdrawn _ _)) (Nat.lt_succ_self _)
  · exact .goes (hpath _) rfl rfl (.committing (hdebits.draw.note hdrawn _ _))
      (by simp [Halt.rank])

/-- It makes its notification. -/
lemma operates_noting (hf : b.store.faults = []) (hdebits : b.store.Debits tx key amount) :
    Operates b key amount balance (.noting tx trail snapshot)
      (b.operate key.account ⟨amount, key.currency⟩ (.noting tx trail snapshot)) := by
  obtain ⟨t, ht⟩ := hdebits.isOpen
  have hdrawn : { b.store with ids := b.store.ids.next }.transactions.get? tx = some t := ht
  have hfaults : { b.store with ids := b.store.ids.next }.faults = [] := hf
  simp only [operate, notify, Store.newNotification, IdSupply.event,
    Store.enqueue_eq hfaults hdrawn]
  exact .goes (((Store.Path.refl tx b.store).act .draw).act (.note t.records _ hdrawn)) rfl rfl
    (.committing (hdebits.draw.note hdrawn _ _)) (Nat.lt_succ_self _)

/-- It is committed. -/
lemma operates_committing (hf : b.store.faults = []) (hdebits : b.store.Debits tx key amount)
    (hrow : b.store.sheet key = some balance) :
    Operates b key amount balance (.committing tx trail snapshot)
      (b.operate key.account ⟨amount, key.currency⟩ (.committing tx trail snapshot)) := by
  obtain ⟨s, next, hcommit, hpath, hclosed, hproper, hnext, hsum⟩ := hdebits.commit hf hrow
  simp only [operate, commitCall, hcommit]
  exact .pays hpath hclosed hproper rfl hnext hsum

/-- It is rolled back. -/
lemma operates_failing (hf : b.store.faults = []) (hshort : balance.toRat < amount.toRat) :
    Operates b key amount balance
      (.failing tx trail (.refused (.insufficientFunds key.currency amount)))
      (b.operate key.account ⟨amount, key.currency⟩
        (.failing tx trail (.refused (.insufficientFunds key.currency amount)))) := by
  simp only [operate, failCall, rollBack, Store.rollback_eq hf]
  exact .refuses ((Store.Path.refl tx b.store).act .discard)
    (fun ho => (Store.isOpen_discard.mp ho).1 rfl) rfl rfl hshort

end Bank

/-- So it is with the next operation of every withdrawal whose time is not over. -/
theorem Halt.Stands.operates {σ : Type} {b : Bank σ} {key : WalletKey} {amount balance : Decimal}
    {halt : Halt} (h : halt.Stands b.store key amount) (hf : b.store.faults = [])
    (hp : b.store.sheet.IsProper) (ha : amount.IsAmount) (hrow : b.store.sheet key = some balance)
    (htime : halt.IsInTime b) :
    b.Operates key amount balance halt (b.operate key.account ⟨amount, key.currency⟩ halt) := by
  cases h with
  | opening => exact Bank.operates_opening hf
  | asking hkind hcontent => exact Bank.operates_asking hkind hcontent hrow
  | waiting hcontent => exact Bank.operates_waiting hp ha hcontent hrow htime
  | recording hdebits => exact Bank.operates_recording hf hdebits
  | noting hdebits => exact Bank.operates_noting hf hdebits
  | committing hdebits => exact Bank.operates_committing hf hdebits hrow
  | failing hopen hheld hrow' hshort =>
      obtain rfl := Option.some.inj (hrow.symm.trans hrow')
      exact Bank.operates_failing hf hshort

end Teller
