/-
What a turn of a call makes of the stages of its operation, whatever the store.

* `Store.Withholds`: nothing has been committed and no transaction has begun; so it is with every
  operation between the beginning and the commit of a transaction; `Store.begin_or_struck`,
  `Store.append_or_struck`, `Store.enqueue_or_struck` and `Store.commit_or_struck` say where faults
  strike;
* `Store.Underway`: a transaction has begun, in a turn or before it, and nothing has been committed;
* `Bank.Treads`: a call waits on its track, or ends in one of the ways of `Outcome.Closes`;
* `Bank.treads_start`, `Bank.treads_resume`, `Bank.treads_underDeadline`: every turn is like that.
-/
import Teller.Proofs.Bank.Trail
import Teller.Proofs.Desk.Atomicity
import Teller.Proofs.Store.Provisioning

namespace Teller

/-! ### Operations of the store -/

namespace Store

variable {s s' s'' s₀ : Store} {had : Prop}

/-- Nothing has been committed, and no transaction has begun. -/
structure Withholds (s s' : Store) : Prop where
  books : s'.books = s.books
  begun : s'.begun = s.begun

lemma withholds_refl (s : Store) : Withholds s s := ⟨rfl, rfl⟩

lemma Withholds.trans (h : Withholds s s') (h' : Withholds s' s'') : Withholds s s'' :=
  ⟨h'.books.trans h.books, h'.begun.trans h.begun⟩

lemma withholds_strike {point : FaultPoint} (h : s.takeFault? point = some s') :
    Withholds s s' := by
  obtain ⟨-, rfl⟩ := takeFault?_eq_some h
  exact ⟨rfl, rfl⟩

lemma withholds_rollback (s : Store) (tx : TxId) : Withholds s (s.rollback tx).1 := by
  rw [Store.rollback]
  split
  · next hf => exact (withholds_strike hf).trans ⟨rfl, rfl⟩
  · exact ⟨rfl, rfl⟩

lemma begin_or_struck (s : Store) :
    (∃ s', s.begin = (s', .error (.storeUnavailable (.injected .begin))) ∧ Withholds s s') ∨
    ∃ s' tx, s.begin = (s', .ok tx) ∧ s'.books = s.books ∧ s.begun < s'.begun := by
  rw [Store.begin]
  split
  · next s' hf => exact .inl ⟨s', rfl, withholds_strike hf⟩
  · exact .inr ⟨_, _, rfl, rfl, Nat.lt_succ_self _⟩

lemma append_or_struck (s : Store) (tx : TxId) (record : TransactionRecord) :
    (∃ s', s.append tx record = (s', .error (.storeUnavailable (.injected .appendRecord))) ∧
      Withholds s s') ∨
    ∃ s', s.append tx record = (s', .ok ()) ∧ Withholds s s' ∧
      (s'.transaction tx).records ≠ [] := by
  rw [Store.append]
  split
  · next s' hf => exact .inl ⟨s', rfl, withholds_strike hf⟩
  · refine .inr ⟨_, rfl, ⟨rfl, rfl⟩, ?_⟩
    simp [transaction, get?_setTransaction]

lemma enqueue_or_struck (s : Store) (tx : TxId) (event : OutboxEvent) :
    (∃ s', s.enqueue tx event
        = (s', .error (.notificationEnqueueFailed FaultPoint.enqueueEvent.message)) ∧
      Withholds s s') ∨
    ∃ s', s.enqueue tx event = (s', .ok ()) ∧ Withholds s s' ∧
      (s'.transaction tx).records = (s.transaction tx).records := by
  rw [Store.enqueue]
  split
  · next s' hf => exact .inl ⟨s', rfl, withholds_strike hf⟩
  · refine .inr ⟨_, rfl, ⟨rfl, rfl⟩, ?_⟩
    simp [transaction, get?_setTransaction]

/-- A change is stopped by nothing but a sum or a balance. -/
lemma addDelta_ne_refused {wallets : Table WalletKey Wallet} {entry : WalletKey × Decimal}
    {f : Failure} (h : addDelta wallets entry = .error f) (e : LedgerError) : f ≠ .refused e := by
  rw [addDelta] at h
  split at h
  · simp at h
  · split at h
    · obtain rfl := Except.error.inj h
      simp
    · split at h
      · obtain rfl := Except.error.inj h
        simp
      · simp at h

/-- So is a commit, which makes changes one after the other. -/
lemma committedWallets_ne_refused {wallets : Table WalletKey Wallet} {t : Transaction} {f : Failure}
    (h : committedWallets wallets t = .error f) (e : LedgerError) : f ≠ .refused e := by
  rw [committedWallets] at h
  generalize t.provisioned.toList.foldl addWallet wallets = wallets at h
  generalize t.deltas.toList = deltas at h
  induction deltas generalizing wallets with
  | nil => simp [pure, Except.pure] at h
  | cons entry deltas ih =>
      rw [List.foldlM_cons] at h
      cases hd : addDelta wallets entry with
      | ok wallets' =>
          rw [hd] at h
          exact ih wallets' h
      | error f' =>
          rw [hd] at h
          obtain rfl : f' = f := Except.error.inj h
          exact addDelta_ne_refused hd e

lemma commit_or_struck (s : Store) (tx : TxId) :
    (∃ s', s.commit tx = (s', .error (.refused .commitStruck)) ∧ Withholds s s') ∨
    (∃ s' f, s.commit tx = (s', .error f) ∧ ∀ e, f ≠ .refused e) ∨
    ∃ s', s.commit tx = (s', .ok ()) ∧ s'.begun = s.begun ∧
      s'.journal = s.journal ++ (s.transaction tx).records := by
  rw [Store.commit]
  split
  · next s' hf => exact .inl ⟨_, rfl, (withholds_strike hf).trans ⟨rfl, rfl⟩⟩
  · dsimp only
    split
    · next f hw => exact .inr (.inl ⟨_, f, rfl, committedWallets_ne_refused hw⟩)
    · exact .inr (.inr ⟨_, rfl, rfl, rfl⟩)

/-! ### Adjustments and provisionings -/

lemma withholds_adjustHeld (s : Store) (a : Adjustment) (wallet : WalletId) :
    Withholds s (s.adjustHeld a wallet).1 := by
  rcases s.adjustHeld_cases a wallet with h | ⟨total, h⟩
  · rw [h]
    exact withholds_refl s
  · rw [h]
    exact ⟨rfl, rfl⟩

lemma withholds_resumeAdjust (s : Store) (clock : Clock) (w : AdjustWait) :
    Withholds s (s.resumeAdjust clock w).1 := by
  rw [resumeAdjust]
  split
  · exact withholds_adjustHeld s w.adjustment w.wallet
  · exact withholds_refl s
  · exact ⟨rfl, rfl⟩

lemma withholds_adjust (s : Store) (clock : Clock) (a : Adjustment) :
    Withholds s (s.adjust clock a).1 := by
  rw [adjust]
  split
  · exact withholds_refl s
  · have hasked : Withholds s (s.requestRow a.tx a.key) := ⟨rfl, rfl⟩
    exact hasked.trans (withholds_resumeAdjust _ clock _)

/-- No adjustment ends with the error of a struck commit. -/
lemma adjustHeld_ne_commitStruck (s : Store) (a : Adjustment) (wallet : WalletId) :
    (s.adjustHeld a wallet).2 ≠ .error (.refused .commitStruck) := by
  rw [adjustHeld]
  split
  · simp
  · dsimp only
    split
    · simp
    · split
      · simp [LedgerError.commitStruck]
      · split
        · simp
        · split <;> simp

lemma resumeAdjust_ne_commitStruck (s : Store) (clock : Clock) (w : AdjustWait) :
    (s.resumeAdjust clock w).2 ≠ .done (.error (.refused .commitStruck)) := by
  rw [resumeAdjust]
  split
  · exact fun h => s.adjustHeld_ne_commitStruck w.adjustment w.wallet (Turn.done.inj h)
  · simp
  · simp [rowWaitError, LedgerError.commitStruck]

lemma adjust_ne_commitStruck (s : Store) (clock : Clock) (a : Adjustment) :
    (s.adjust clock a).2 ≠ .done (.error (.refused .commitStruck)) := by
  rw [adjust]
  split
  · simp [LedgerError.commitStruck]
  · exact resumeAdjust_ne_commitStruck _ clock _

lemma withholds_provisionHeld (s : Store) (now : Nat) (tx : TxId) (key : WalletKey) :
    Withholds s (s.provisionHeld now tx key).1 := by
  rw [provisionHeld]
  split <;> exact ⟨rfl, rfl⟩

/-- The look at one row of a provisioning withholds what comes after withholds. -/
lemma withholds_provisionRow (s : Store) (clock : Clock) (w : ProvisionWait)
    {next : Store → Store × Turn ProvisionWait (Except LedgerError Unit)}
    (hnext : ∀ s, Withholds s (next s).1) : Withholds s (s.provisionRow clock w next).1 := by
  rw [provisionRow]
  split
  · have hheld := withholds_provisionHeld s clock.now w.tx w.row.key
    split
    · next heq => rwa [heq] at hheld
    · next s' heq =>
      rw [heq] at hheld
      exact hheld.trans (hnext s')
  · exact withholds_refl s
  · exact ⟨rfl, rfl⟩

lemma withholds_provisionFrom (clock : Clock) (tx : TxId) (account : AccountId)
    (rest : List Currency) (s : Store) :
    Withholds s (provisionFrom clock tx account rest s).1 := by
  induction rest generalizing s with
  | nil => exact withholds_refl s
  | cons currency rest ih =>
      have hasked : Withholds s (s.requestRow tx ⟨account, currency⟩) := ⟨rfl, rfl⟩
      exact hasked.trans (withholds_provisionRow _ clock _ ih)

/-! ### Turns with a transaction -/

/-- A transaction has begun, before this turn or in it, and nothing has been committed in it. -/
structure Underway (had : Prop) (s₀ s : Store) : Prop where
  books : s.books = s₀.books
  opened : had ∨ s₀.begun < s.begun

lemma Underway.withholds (h : Underway had s₀ s) (hs : Withholds s s') : Underway had s₀ s' where
  books := hs.books.trans h.books
  opened := by
    rw [hs.begun]
    exact h.opened

end Store

/-! ### Turns -/

namespace Bank

variable {σ : Type} {had : Prop} {s₀ : Store} {ticket : Ticket} {b : Bank σ} {tx : TxId}
  {trail : Trail} {stage : Stage} {account : AccountId}

/-- What a turn makes of the stages of its call, whose transaction has begun by its end or not, and
which has changed the books in it or not. -/
def Treads (ticket : Ticket) (opened written : Prop) : Turn Phase Outcome → Prop
  | .waiting phase => phase.IsOnTrack ticket ∧ (phase.tx?.isSome ↔ opened) ∧ ¬ written
  | .done outcome => outcome.Closes ticket opened written

/-- So it is with a turn from a store on, of a call whose transaction had begun before or not. -/
abbrev TreadsFrom (had : Prop) (s₀ : Store) (ticket : Ticket) (step : Step σ) : Prop :=
  Treads ticket (had ∨ s₀.begun < step.1.store.begun) (step.1.store.books ≠ s₀.books) step.2

/-! ### Ends of transactions -/

/-- A transaction that is rolled back leaves everything, and keeps the first error on top. -/
lemma exists_rollBack (b : Bank σ) (tx : TxId) {e : LedgerError} (he : e ≠ .commitStruck) :
    ∃ s e', b.rollBack tx e = (b.withStore s, e') ∧ b.store.Withholds s ∧ e' ≠ .commitStruck := by
  have h := b.store.withholds_rollback tx
  rw [rollBack]
  generalize b.store.rollback tx = step at h ⊢
  obtain ⟨s, trouble | _⟩ := step
  · refine ⟨s, _, rfl, h, ?_⟩
    simp [LedgerError.withRollbackFailure, LedgerError.commitStruck]
  · exact ⟨s, e, rfl, h, he⟩

lemma treads_failCall (h : Store.Underway had s₀ b.store) (ht : trail.Reaches stage)
    (hstage : .rollback ∈ stage.successors) {f : Failure} (hf : f ≠ .refused .commitStruck) :
    TreadsFrom had s₀ ticket (b.failCall tx trail f) := by
  cases f with
  | refused e =>
      have he : e ≠ .commitStruck := fun heq => hf (heq ▸ rfl)
      obtain ⟨s, e', heq, hs, he'⟩ := b.exists_rollBack tx he
      rw [failCall, heq]
      have hnext := h.withholds hs
      exact .rolledBack ht hstage hnext.opened (not_not.mpr hnext.books) he'
  | overflow => exact .stopped ht (Stage.mem_inTransaction hstage) (by simp)
  | overdrawn => exact .stopped ht (Stage.mem_inTransaction hstage) (by simp)

lemma treads_commitCall (h : Store.Underway had s₀ b.store) (ht : trail.Reaches stage)
    (hstage : .commit ∈ stage.successors) (hrecords : (b.store.transaction tx).records ≠ [])
    (reply : Reply) : TreadsFrom had s₀ ticket (b.commitCall tx trail reply) := by
  have hcommit := ht.request hstage
  rw [commitCall]
  rcases b.store.commit_or_struck tx with ⟨s, heq, hs⟩ | ⟨s, f, heq, hf⟩ | ⟨s, heq, -, hjournal⟩
  · rw [heq]
    exact .uncommitted hcommit (not_not.mpr (h.withholds hs).books)
  · rw [heq]
    cases f with
    | refused e => exact absurd rfl (hf e)
    | overflow => exact .stopped hcommit (by decide) hf
    | overdrawn => exact .stopped hcommit (by decide) hf
  · rw [heq]
    refine .committed hcommit fun hbooks => hrecords ?_
    have hsame : s.journal = b.store.journal :=
      congrArg Books.journal (hbooks.trans h.books.symm)
    rwa [hjournal, List.append_right_eq_self] at hsame

/-- The notification, if the amount calls for one, and the commit. -/
lemma treads_noticeAndCommit (h : Store.Underway had s₀ b.store) (ht : trail.Reaches .audit)
    (hrecords : (b.store.transaction tx).records ≠ []) (threshold : Decimal)
    (kind : OperationKind) (account : AccountId) (money : Money) (seen : Balances)
    (reply : Reply) : TreadsFrom had s₀ ticket
      (if threshold ≤ money.value then
        match b.notify tx kind account money seen with
        | (b, .error e) => b.failCall tx (trail.request .notify) (.refused e)
        | (b, .ok ()) => b.commitCall tx (trail.request .notify) reply
      else b.commitCall tx trail reply) := by
  split
  · have hnotify : (trail.request .notify).Reaches .notify := ht.request (by decide)
    have hdrawn : b.store.Withholds { b.store with ids := b.store.ids.next } := ⟨rfl, rfl⟩
    simp only [notify, Store.newNotification, IdSupply.event]
    rcases Store.enqueue_or_struck { b.store with ids := b.store.ids.next } tx _ with
      ⟨s, heq, hs⟩ | ⟨s, heq, hs, hsame⟩
    · rw [heq]
      exact treads_failCall (b := b.withStore s) (h.withholds (hdrawn.trans hs)) hnotify
        (by decide) (by simp [LedgerError.commitStruck])
    · rw [heq]
      exact treads_commitCall (b := b.withStore s) (h.withholds (hdrawn.trans hs)) hnotify
        (by decide) (hsame ▸ hrecords) reply
  · exact treads_commitCall h ht (by decide) hrecords reply

/-- The beginning of a transaction. -/
lemma treads_beginCall (hnot : ¬ had) (kind : OperationKind)
    {next : Bank σ → TxId → Trail → Step σ}
    (hnext : ∀ s tx trail, Store.Underway had b.store s → trail.Reaches .beginTx →
      TreadsFrom had b.store ticket (next (b.withStore s) tx trail)) :
    TreadsFrom had b.store ticket (b.beginCall kind next) := by
  have hacquire : ((Trail.start kind).request .acquireConnection).Reaches .acquireConnection :=
    .request (.start kind) (by decide)
  rw [beginCall]
  rcases b.store.begin_or_struck with ⟨s, heq, hs⟩ | ⟨s, tx, heq, hbooks, hlt⟩
  · rw [heq]
    refine .unbegun hacquire (not_or.mpr ⟨hnot, ?_⟩) (not_not.mpr hs.books)
      (by simp [LedgerError.commitStruck])
    exact hs.begun.not_gt
  · rw [heq]
    exact hnext s tx _ ⟨hbooks, .inr hlt⟩ (hacquire.request (by decide))

/-! ### Deposits and withdrawals -/

lemma applied_ne_commitStruck {money : Money} {result : Except Failure AdjustOutcome} {f : Failure}
    (h : applied money result = .error f) (hresult : result ≠ .error (.refused .commitStruck)) :
    f ≠ .refused .commitStruck := by
  rcases result with f' | (snapshot | _)
  · obtain rfl := Except.error.inj h
    exact fun heq => hresult (heq ▸ rfl)
  · simp [applied] at h
  · obtain rfl := Except.error.inj h
    simp [LedgerError.commitStruck]

lemma treads_recordAdjustment (h : Store.Underway had s₀ b.store) (ht : trail.Reaches .mutate)
    (money : Money) (snapshot : WalletSnapshot) :
    TreadsFrom had s₀ ticket (b.recordAdjustment tx trail money snapshot) := by
  have haudit : (trail.request .audit).Reaches .audit := ht.request (by decide)
  have hdrawn : b.store.Withholds { b.store with ids := b.store.ids.next } := ⟨rfl, rfl⟩
  simp only [recordAdjustment, Store.newRecord, IdSupply.record]
  rcases Store.append_or_struck { b.store with ids := b.store.ids.next } tx _ with
    ⟨s, heq, hs⟩ | ⟨s, heq, hs, hrecords⟩
  · rw [heq]
    exact treads_failCall (b := b.withStore s) (h.withholds (hdrawn.trans hs)) haudit (by decide)
      (by simp [LedgerError.commitStruck])
  · rw [heq]
    exact treads_noticeAndCommit (b := b.withStore s) (h.withholds (hdrawn.trans hs)) haudit
      hrecords ..

/-- After a turn at a row the call waits on, fails, or goes on with the row adjusted. -/
lemma treads_adjusted {adjusted : Store × Turn AdjustWait (Except Failure AdjustOutcome)}
    (h : Store.Underway had s₀ adjusted.1)
    (hne : adjusted.2 ≠ .done (.error (.refused .commitStruck))) (ht : trail.Reaches .mutate)
    (money : Money) {phase : AdjustWait → Phase} {next : Store → WalletSnapshot → Step σ}
    (hphase : ∀ wait, (phase wait).trail? = some trail)
    (hnext : ∀ s snapshot, Store.Underway had s₀ s → TreadsFrom had s₀ ticket (next s snapshot)) :
    TreadsFrom had s₀ ticket (match adjusted with
      | (s, .waiting wait) => (b.withStore s, .waiting (phase wait))
      | (s, .done result) =>
        match applied money result with
        | .error f => (b.withStore s).failCall tx trail f
        | .ok snapshot => next s snapshot) := by
  obtain ⟨s, wait | result⟩ := adjusted
  · exact ⟨.mutates (hphase wait) ht, iff_of_true (Phase.isSome_tx? (hphase wait)) h.opened,
      not_not.mpr h.books⟩
  · dsimp only
    split
    · next f happlied =>
      have hf := applied_ne_commitStruck happlied fun heq => hne (heq ▸ rfl)
      exact treads_failCall (b := b.withStore s) h ht (by decide) hf
    · exact hnext s _ h

lemma treads_afterAdjustment {adjusted : Store × Turn AdjustWait (Except Failure AdjustOutcome)}
    (h : Store.Underway had s₀ adjusted.1)
    (hne : adjusted.2 ≠ .done (.error (.refused .commitStruck))) (ht : trail.Reaches .mutate)
    (money : Money) : TreadsFrom had s₀ ticket (b.afterAdjustment tx trail money adjusted) :=
  treads_adjusted h hne ht money (fun _ => rfl) fun s snapshot hs =>
    treads_recordAdjustment (b := b.withStore s) hs ht money snapshot

lemma treads_startAdjustment (hnot : ¬ had) (kind : OperationKind) (account : AccountId)
    (money : Money) : TreadsFrom had b.store ticket (b.startAdjustment kind account money) := by
  refine treads_beginCall hnot kind fun s tx trail h ht => ?_
  exact treads_afterAdjustment (b := b.withStore s) (h.withholds (s.withholds_adjust ..))
    (s.adjust_ne_commitStruck _ _) (ht.request (by decide)) money

/-! ### Exchanges -/

lemma treads_recordExchange (h : Store.Underway had s₀ b.store) (ht : trail.Reaches .mutate)
    (e : Exchange) (credited debited : WalletSnapshot) :
    TreadsFrom had s₀ ticket (b.recordExchange trail e credited debited) := by
  have haudit : (trail.request .audit).Reaches .audit := ht.request (by decide)
  have hdrawn : b.store.Withholds (b.exchangeRecords e credited debited).1 := ⟨rfl, rfl⟩
  simp only [recordExchange]
  generalize b.exchangeRecords e credited debited = drawn at hdrawn ⊢
  obtain ⟨drawn, credit, debit⟩ := drawn
  dsimp only at hdrawn ⊢
  rcases drawn.append_or_struck e.tx credit with ⟨s, heq, hs⟩ | ⟨s, heq, hs, -⟩
  · rw [heq]
    exact treads_failCall (b := b.withStore s) (h.withholds (hdrawn.trans hs)) haudit (by decide)
      (by simp [LedgerError.commitStruck])
  have hcredited := h.withholds (hdrawn.trans hs)
  simp only [heq]
  rcases s.append_or_struck e.tx debit with ⟨s', heq', hs'⟩ | ⟨s', heq', hs', hrecords⟩
  · rw [heq']
    exact treads_failCall (b := b.withStore s') (hcredited.withholds hs') haudit (by decide)
      (by simp [LedgerError.commitStruck])
  · rw [heq']
    exact treads_noticeAndCommit (b := b.withStore s') (hcredited.withholds hs') haudit hrecords ..

lemma treads_afterDebit {adjusted : Store × Turn AdjustWait (Except Failure AdjustOutcome)}
    (h : Store.Underway had s₀ adjusted.1)
    (hne : adjusted.2 ≠ .done (.error (.refused .commitStruck))) (ht : trail.Reaches .mutate)
    (e : Exchange) (credited : WalletSnapshot) :
    TreadsFrom had s₀ ticket (b.afterDebit trail e credited adjusted) :=
  treads_adjusted h hne ht e.source (fun _ => rfl) fun s debited hs =>
    treads_recordExchange (b := b.withStore s) hs ht e credited debited

lemma treads_afterCredit {adjusted : Store × Turn AdjustWait (Except Failure AdjustOutcome)}
    (h : Store.Underway had s₀ adjusted.1)
    (hne : adjusted.2 ≠ .done (.error (.refused .commitStruck))) (ht : trail.Reaches .mutate)
    (e : Exchange) : TreadsFrom had s₀ ticket (b.afterCredit trail e adjusted) :=
  treads_adjusted h hne ht e.target (fun _ => rfl) fun s credited hs =>
    treads_afterDebit (b := b.withStore s) (hs.withholds (s.withholds_adjust ..))
      (s.adjust_ne_commitStruck _ _) (ht.request (by decide)) e credited

/-! ### Ends without a transaction -/

/-- A call that waits for a rate. -/
lemma treads_idles (hnot : ¬ had) {phase : Phase} (h : phase.Idles ticket) :
    Treads ticket (had ∨ b.store.begun < b.store.begun) (b.store.books ≠ b.store.books)
      (.waiting phase) :=
  ⟨.idles h, iff_of_false (by simp [h.tx?_eq]) (by simpa using hnot), by simp⟩

lemma treads_afterTable (hnot : ¬ had) (hrequest : ticket.request = .rates)
    (read : RateCache σ × Turn Fetch (Except RateError (Observed RateTable))) :
    TreadsFrom had b.store ticket (b.afterTable read) := by
  have hnothing : ticket.MovesNothing :=
    Ticket.movesNothing_of_none (by simp only [Ticket.errand?, hrequest])
  obtain ⟨rates, fetch | (e | table)⟩ := read
  · exact treads_idles hnot (.readingTable hrequest)
  · exact .untraced hnothing
  · exact .untraced hnothing

lemma treads_afterPair (hnot : ¬ had) {pair : CurrencyPair}
    (hrequest : ticket.request = .pairRate pair.source pair.target)
    (read : RateCache σ × Turn Fetch (Except RateError (Observed Decimal))) :
    TreadsFrom had b.store ticket (b.afterPair pair read) := by
  have hnothing : ticket.MovesNothing :=
    Ticket.movesNothing_of_none (by simp only [Ticket.errand?, hrequest])
  obtain ⟨rates, fetch | (e | rate)⟩ := read
  · exact treads_idles hnot (.readingPair hrequest)
  · exact .untraced hnothing
  · exact .untraced hnothing

/-! ### Checks and prices -/

lemma treads_startChecked (hnot : ¬ had) {kind : OperationKind} {currency : Currency}
    {amount : Decimal} (herrand : ticket.errand?
      = some ((Money.positive amount currency).map (.adjustment kind account))) :
    TreadsFrom had b.store ticket (b.startChecked kind account currency amount) := by
  rw [startChecked]
  split
  · next e hm =>
    rw [hm] at herrand
    exact .untraced (Ticket.movesNothing_of_error herrand)
  · exact treads_startAdjustment hnot kind account _

/-- An exchange that has been priced. -/
lemma treads_startTransfer (hnot : ¬ had) {source : Money} {target : Currency} {rate : Decimal}
    (herrand : ticket.errand? = some (Errand.priced account source target (.ok rate))) :
    TreadsFrom had b.store ticket
      (b.startTransfer account source ⟨⟨source.currency, target⟩, rate⟩) := by
  rw [Errand.priced] at herrand
  rw [startTransfer]
  cases hconvert : PairQuote.convert ⟨⟨source.currency, target⟩, rate⟩ source with
  | error e =>
      rw [hconvert] at herrand
      exact .untraced (Ticket.movesNothing_of_error herrand)
  | ok money =>
      simp only [hconvert] at herrand ⊢
      split
      · refine treads_beginCall hnot .transfer fun s tx trail h ht => ?_
        exact treads_afterCredit (b := b.withStore s) (h.withholds (s.withholds_adjust ..))
          (s.adjust_ne_commitStruck _ _) (ht.request (by decide)) _
      · next hpos =>
        rw [if_neg hpos] at herrand
        exact .untraced (Ticket.movesNothing_of_error herrand)

/-- An exchange after a turn of the fetch of its rate. -/
lemma treads_afterPricing (hnot : ¬ had) {source : Money} {target : Currency}
    (hrequest : ticket.request = .exchange account source.currency target source.value)
    (hne : source.currency ≠ target)
    (hsource : Money.positive source.value source.currency = .ok source)
    {turn : Turn Fetch (Except RateError Decimal)} (hobtained : ticket.obtained = turn.result?)
    (rates : RateCache σ) :
    TreadsFrom had b.store ticket (b.afterPricing account source target (rates, turn)) := by
  have herrand : ticket.errand? = ticket.obtained.map (Errand.priced account source target) := by
    simp only [Ticket.errand?, hrequest, if_neg hne, hsource]
  rw [hobtained] at herrand
  rcases turn with fetch | (e | rate)
  · exact treads_idles hnot (.pricing hrequest hobtained hne hsource)
  · exact .untraced (Ticket.movesNothing_of_error herrand)
  · exact treads_startTransfer (b := { b with rates }) hnot herrand

/-! ### New accounts -/

lemma treads_afterProvisioning {opened : AccountId}
    (herrand : ticket.errand? = some (.ok (.opening opened)))
    {provisioned : Store × Turn ProvisionWait (Except LedgerError Unit)}
    (h : Store.Underway had s₀ provisioned.1) :
    TreadsFrom had s₀ ticket (b.afterProvisioning tx account provisioned) := by
  have hnothing := Ticket.movesNothing_of_opening herrand
  obtain ⟨s, wait | (e | _)⟩ := provisioned
  · exact ⟨.opens herrand, iff_of_true rfl h.opened, not_not.mpr h.books⟩
  · exact .untraced hnothing
  · rw [afterProvisioning]
    split
    · exact .untraced hnothing
    · exact .untraced hnothing

lemma treads_startProvisioning (herrand : ticket.errand? = some (.ok (.opening account))) :
    TreadsFrom had b.store ticket (b.startProvisioning account) := by
  rw [startProvisioning]
  rcases b.store.begin_or_struck with ⟨s, heq, -⟩ | ⟨s, tx, heq, hbooks, hlt⟩
  · rw [heq]
    exact .untraced (Ticket.movesNothing_of_opening herrand)
  · rw [heq]
    have h : Store.Underway had b.store s := ⟨hbooks, .inr hlt⟩
    exact treads_afterProvisioning (b := b.withStore s) herrand
      (h.withholds (Store.withholds_provisionFrom ..))

/-! ### Calls -/

section Provider

variable [RateProvider σ]

/-- The first turn of a call. -/
theorem treads_start (hnot : ¬ had) (b : Bank σ) (request : Request) :
    TreadsFrom had b.store ⟨request, b.rateAtStart? request⟩ (b.start request) := by
  cases request with
  | openAccount account => exact treads_startProvisioning rfl
  | deposit account currency amount => exact treads_startChecked hnot rfl
  | withdraw account currency amount => exact treads_startChecked hnot rfl
  | exchange account source target amount =>
      rw [start]
      split
      · next heq => exact .untraced (Ticket.movesNothing_of_error (if_pos heq))
      · next hne =>
        split
        · next e hm =>
          refine .untraced (Ticket.movesNothing_of_error (e := e) ?_)
          simp only [Ticket.errand?, if_neg hne, hm]
        · next money hm =>
          obtain ⟨rfl, -⟩ := Money.isAmount_of_positive hm
          exact treads_afterPricing hnot rfl hne hm rfl _
  | balance account => exact .untraced (Ticket.movesNothing_of_none rfl)
  | rates => exact treads_afterTable hnot rfl _
  | pairRate source target =>
      rw [start]
      split
      · exact .untraced (Ticket.movesNothing_of_none rfl)
      · exact treads_afterPair hnot rfl _
  | history account => exact .untraced (Ticket.movesNothing_of_none rfl)
  | verify account => exact .untraced (Ticket.movesNothing_of_none rfl)

/-- Any other turn of a call, which had a transaction if it waited for a row. -/
theorem treads_resume (b : Bank σ) {phase : Phase} (h : phase.IsOnTrack ticket)
    (hhad : phase.tx?.isSome ↔ had) :
    TreadsFrom had b.store (ticket.answered (b.rateAtResume? phase)) (b.resume phase) := by
  cases h with
  | idles h =>
      -- who waits for a rate has no transaction yet
      have hnot : ¬ had := by
        rw [← hhad, h.tx?_eq]
        simp
      have hrequest : (ticket.answered (b.rateAtResume? phase)).request = ticket.request := rfl
      cases h with
      | pricing hasked hobtained hne hsource =>
          refine treads_afterPricing hnot (hrequest.trans hasked) hne hsource ?_ _
          rw [Ticket.answered, hobtained, Option.none_or]
          rfl
      | readingTable hasked => exact treads_afterTable hnot (hrequest.trans hasked) _
      | readingPair hasked => exact treads_afterPair hnot (hrequest.trans hasked) _
  | @opens account wait herrand =>
      -- the call had its transaction before this turn
      have hbegun : Store.Underway had b.store b.store := ⟨rfl, .inl (hhad.mp rfl)⟩
      have hsame : ticket.answered (b.rateAtResume? (.provisioning wait)) = ticket := by
        rw [Ticket.answered, show b.rateAtResume? (.provisioning wait) = none from rfl,
          Option.or_none]
      exact treads_afterProvisioning (hsame.symm ▸ herrand) (hbegun.withholds
        (Store.withholds_provisionRow _ _ _ fun s => s.withholds_provisionFrom ..))
  | @mutates phase trail htrail h =>
      have hbegun : Store.Underway had b.store b.store :=
        ⟨rfl, .inl (hhad.mp (Phase.isSome_tx? htrail))⟩
      cases phase with
      | adjusting trail' money wait =>
          obtain rfl := Option.some.inj htrail
          exact treads_afterAdjustment (hbegun.withholds (b.store.withholds_resumeAdjust ..))
            (b.store.resumeAdjust_ne_commitStruck _ _) h money
      | crediting trail' exchange wait =>
          obtain rfl := Option.some.inj htrail
          exact treads_afterCredit (hbegun.withholds (b.store.withholds_resumeAdjust ..))
            (b.store.resumeAdjust_ne_commitStruck _ _) h exchange
      | debiting trail' exchange credited wait =>
          obtain rfl := Option.some.inj htrail
          exact treads_afterDebit (hbegun.withholds (b.store.withholds_resumeAdjust ..))
            (b.store.resumeAdjust_ne_commitStruck _ _) h exchange credited
      | _ => simp [Phase.trail?] at htrail

end Provider

/-- A turn under a deadline: a call that still waits when it has come is given up. -/
lemma treads_underDeadline {step : Step σ} (h : TreadsFrom had s₀ ticket step)
    (deadline : Option ℕ) :
    Treads ticket (had ∨ s₀.begun < (underDeadline deadline step).1.store.begun)
      ((underDeadline deadline step).1.store.books ≠ s₀.books)
      ((underDeadline deadline step).2.map (·.phase) fun outcome => outcome) := by
  obtain ⟨b, phase | outcome⟩ := step
  · rw [underDeadline]
    split
    · exact .givenUp
    · exact h
  · exact h

end Bank

end Teller
