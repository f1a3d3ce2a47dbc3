/-
What mutations do inside their transactions, apart from how the transactions end.

* `Work`: a computation on the bank that waits for rows and stops at its first error;
  `Work.adjustment`, `Work.exchange` and `Work.provisioning` are the work of deposits and
  withdrawals, of exchanges and of new accounts;
* `Bank.workAtStart?` and `Bank.workAtResume?`: the transaction in which a turn of a call works, and
  what the work comes to;
* `Bank.Concludes`: a call waits with its work, rolls back at the first error of its work, and
  commits when its work is done;
* `Bank.concludes_start`, `Bank.concludes_resume`: so does every turn that works in a transaction.

The work knows nothing of stages, rollbacks and commits: it is what stands between the beginning of
a transaction and its end.
-/
import Mathlib.Tactic
import Teller.Bank.Call

namespace Teller

variable {σ : Type}

/-- Work inside an open transaction: it changes the bank and comes to a result, stops at its first
error, or has to wait. -/
abbrev Work (σ α : Type) : Type := ExceptT Failure (OptionT (StateM (Bank σ))) α

/-- A turn at a row that is to be adjusted. -/
abbrev RowTurn (σ : Type) : Type :=
  Bank σ → Store × Turn AdjustWait (Except Failure AdjustOutcome)

namespace Work

variable {α β : Type}

/-! ### Steps of the work -/

/-- One turn of the work: what it comes to, which is nothing if it has to wait, and the bank after
it. -/
def turn (work : Work σ α) (b : Bank σ) : Option (Except Failure α) × Bank σ := work b

/-- Something new is drawn from the store. -/
def draw (make : Bank σ → Store × α) : Work σ α := fun b =>
  (some (.ok (make b).2), b.withStore (make b).1)

/-- An operation of the store that does not wait. -/
def ask (operation : Store → Store × Except LedgerError α) : Work σ α := fun b =>
  (some ((operation b.store).2.mapError .refused), b.withStore (operation b.store).1)

/-- The adjustment of a row, which may have to be waited for. -/
def adjust (money : Money) (operation : RowTurn σ) : Work σ WalletSnapshot := fun b =>
  match operation b with
  | (store, .waiting _) => (none, b.withStore store)
  | (store, .done result) => (some (Bank.applied money result), b.withStore store)

/-- The thresholds of the bank. -/
def thresholds : Work σ Thresholds := fun b => (some (.ok b.thresholds), b)

/-! ### The work of mutations -/

/-- A record joins the transaction. -/
def append (tx : TxId) (record : TransactionRecord) : Work σ Unit :=
  ask fun store => store.append tx record

/-- A notification joins the transaction if the amount calls for one. -/
def notify (tx : TxId) (threshold : Thresholds → Decimal) (kind : OperationKind)
    (account : AccountId) (money : Money) (seen : Balances) : Work σ Unit := do
  if threshold (← thresholds) ≤ money.value then
    let event ← draw fun b =>
      b.store.newNotification b.clock.now kind account money.value money.currency seen
    ask fun store => store.enqueue tx (.ofNotification event)

/-- A deposit or withdrawal whose row has been adjusted. -/
def adjusted (tx : TxId) (kind : OperationKind) (money : Money) (snapshot : WalletSnapshot) :
    Work σ Unit := do
  let record ← draw fun b => b.store.newRecord b.clock.now snapshot.wallet money.currency
    money.value kind.direction kind none
  append tx record
  notify tx (·.deposit) kind snapshot.account money snapshot.balances

/-- A deposit or withdrawal, from a turn at its row on. -/
def adjustment (tx : TxId) (kind : OperationKind) (money : Money) (operation : RowTurn σ) :
    Work σ Unit := do
  let snapshot ← adjust money operation
  adjusted tx kind money snapshot

/-- An exchange both of whose rows have been adjusted. -/
def exchanged (e : Exchange) (credited debited : WalletSnapshot) : Work σ Unit := do
  let (credit, debit) ← draw fun b => b.exchangeRecords e credited debited
  append e.tx credit
  append e.tx debit
  notify e.tx (·.exchange) .withdraw e.account e.target credited.balances

/-- An exchange whose target has been credited, from a turn at the row of its source on. -/
def debit (e : Exchange) (credited : WalletSnapshot) (operation : RowTurn σ) : Work σ Unit := do
  let debited ← adjust e.source operation
  exchanged e credited debited

/-- An exchange, from a turn at the row of its target on. -/
def exchange [Arithmetic] (e : Exchange) (operation : RowTurn σ) : Work σ Unit := do
  let credited ← adjust e.target operation
  debit e credited fun b =>
    b.store.adjust b.clock ⟨e.tx, ⟨e.account, e.source.currency⟩, e.source.value, .debit⟩

/-- The wallets of a new account, from a turn at one of their rows on. -/
def provisioning (operation : Bank σ → Store × Turn ProvisionWait (Except LedgerError Unit)) :
    Work σ Unit := fun b =>
  match operation b with
  | (store, .waiting _) => (none, b.withStore store)
  | (store, .done result) => (some (result.mapError .refused), b.withStore store)

/-! ### One step after the other -/

/-- What comes after a step is done if the step has a result, and then only. -/
lemma turn_bind (work : Work σ α) (next : α → Work σ β) (b : Bank σ) :
    (work >>= next).turn b = match work.turn b with
      | (some (.ok a), b) => (next a).turn b
      | (some (.error f), b) => (some (.error f), b)
      | (none, b) => (none, b) := by
  show (ExceptT.bind work next : Work σ β) b = _
  simp only [turn, ExceptT.bind, ExceptT.mk, bind, OptionT.bind, OptionT.mk, StateT.bind]
  rcases work b with ⟨_ | _ | a, b'⟩ <;> rfl

end Work

/-! ### Turns that work in a transaction -/

/-- The transaction in which a turn works, what the work comes to, and the bank it leaves. -/
structure Bank.Working (σ : Type) where
  tx : TxId
  result : Option (Except Failure Unit)
  bank : Bank σ

/-- The error of a call that failed, after its rollback: a rollback that failed too is told of under
the first error. -/
def LedgerError.afterRollback (e : LedgerError) : Except LedgerError Unit → LedgerError
  | .ok () => e
  | .error r => .rollbackFailed e r

namespace Bank

/-- A turn works in this transaction. -/
def working (b : Bank σ) (tx : TxId) (work : Work σ Unit) : Working σ :=
  ⟨tx, (work.turn b).1, (work.turn b).2⟩

/-- A turn works in a transaction of its own, if one can be begun. -/
def opening? (b : Bank σ) (work : TxId → Work σ Unit) : Option (Working σ) :=
  match b.store.begin with
  | (store, .ok tx) => some ((b.withStore store).working tx (work tx))
  | (_, .error _) => none

/-- The work of a deposit or withdrawal that starts. -/
def adjusting? [Arithmetic] (b : Bank σ) (kind : OperationKind) (account : AccountId)
    (currency : Currency) (amount : Decimal) : Option (Working σ) :=
  match Money.positive amount currency with
  | .error _ => none
  | .ok money => b.opening? fun tx => .adjustment tx kind money fun b =>
      b.store.adjust b.clock ⟨tx, ⟨account, money.currency⟩, money.value, kind.direction⟩

/-- The work of an exchange that has been priced. -/
def trading? [Arithmetic] (b : Bank σ) (account : AccountId) (source : Money)
    (quote : PairQuote) : Option (Working σ) :=
  match quote.convert source with
  | .error _ => none
  | .ok target =>
    if target.isPositive then
      b.opening? fun tx => .exchange ⟨tx, account, source, target, quote.rate⟩ fun b =>
        b.store.adjust b.clock ⟨tx, ⟨account, target.currency⟩, target.value, .credit⟩
    else none

/-- The work of an exchange after a turn of the fetch of its rate. -/
def exchanging? [Arithmetic] (b : Bank σ) (account : AccountId) (source : Money)
    (target : Currency) : RateCache σ × Turn Fetch (Except RateError Decimal) → Option (Working σ)
  | (rates, .done (.ok rate)) =>
    ({ b with rates } : Bank σ).trading? account source ⟨⟨source.currency, target⟩, rate⟩
  | _ => none

/-- The work of a call that starts, if it comes to have a transaction. -/
def workAtStart? [RateProvider σ] [Arithmetic] (b : Bank σ) : Request → Option (Working σ)
  | .openAccount account =>
    b.opening? fun tx => .provisioning fun b => b.store.provision b.clock tx account
  | .deposit account currency amount => b.adjusting? .deposit account currency amount
  | .withdraw account currency amount => b.adjusting? .withdraw account currency amount
  | .exchange account source target amount =>
    if source = target then none
    else
      match Money.positive amount source with
      | .error _ => none
      | .ok money =>
        b.exchanging? account money target
          (RateCache.timeless (b.rates.read b.clock (.pair ⟨money.currency, target⟩)))
  | _ => none

/-- The work of a call that goes on, if it has a transaction or comes to have one. -/
def workAtResume? [RateProvider σ] [Arithmetic] (b : Bank σ) : Phase → Option (Working σ)
  | .provisioning wait =>
    some (b.working wait.tx (.provisioning fun b => b.store.resumeProvision b.clock wait))
  | .adjusting trail money wait =>
    some (b.working wait.adjustment.tx (.adjustment wait.adjustment.tx trail.kind money
      fun b => b.store.resumeAdjust b.clock wait))
  | .pricing account source target fetch =>
    b.exchanging? account source target
      (RateCache.timeless (b.rates.resume b.clock (.pair ⟨source.currency, target⟩) fetch))
  | .crediting _ e wait =>
    some (b.working e.tx (.exchange e fun b => b.store.resumeAdjust b.clock wait))
  | .debiting _ e credited wait =>
    some (b.working e.tx (.debit e credited fun b => b.store.resumeAdjust b.clock wait))
  | _ => none

/-! ### Ends of transactions -/

/-- How a turn ends in view of what its work came to. -/
inductive Concludes [Arithmetic] : Working σ → Step σ → Prop where
  /-- The work waits, and so does the call. -/
  | waits {tx : TxId} {b : Bank σ} (phase : Phase) : Concludes ⟨tx, none, b⟩ (b, .waiting phase)
  /-- The work has failed, and its transaction is rolled back. -/
  | rollsBack {tx : TxId} {b : Bank σ} {e : LedgerError} (trail : Option Trail) :
      Concludes ⟨tx, some (.error (.refused e)), b⟩
        (b.withStore (b.store.rollback tx).1,
          .done ⟨.error (.refused (e.afterRollback (b.store.rollback tx).2)), trail⟩)
  /-- The work was stopped where it stood, and its transaction is dropped. -/
  | stops {tx : TxId} {b : Bank σ} {f : Failure} (hf : ∀ e, f ≠ .refused e)
      (trail : Option Trail) :
      Concludes ⟨tx, some (.error f), b⟩
        (b.withStore (b.store.discard tx), .done ⟨.error f, trail⟩)
  /-- The work is done, and its transaction is committed. -/
  | commits {tx : TxId} {b : Bank σ} {reply : Reply} (hcommit : (b.store.commit tx).2 = .ok ())
      (trail : Option Trail) :
      Concludes ⟨tx, some (.ok ()), b⟩
        (b.withStore (b.store.commit tx).1, .done ⟨.ok reply, trail⟩)
  /-- The work is done, but its commit fails. -/
  | uncommitted {tx : TxId} {b : Bank σ} {f : Failure}
      (hcommit : (b.store.commit tx).2 = .error f) (trail : Option Trail) :
      Concludes ⟨tx, some (.ok ()), b⟩
        (b.withStore (b.store.commit tx).1, .done ⟨.error f, trail⟩)

lemma rollBack_eq (b : Bank σ) (tx : TxId) (e : LedgerError) : b.rollBack tx e
    = (b.withStore (b.store.rollback tx).1, e.afterRollback (b.store.rollback tx).2) := by
  rw [rollBack]
  rcases b.store.rollback tx with ⟨store, trouble | _⟩ <;> rfl

/-- The work of a step and of what comes after it. -/
lemma working_bind {α : Type} (b : Bank σ) (tx : TxId) (work : Work σ α)
    (next : α → Work σ Unit) : b.working tx (work >>= next) = match work.turn b with
      | (some (.ok a), b) => b.working tx (next a)
      | (some (.error f), b) => ⟨tx, some (.error f), b⟩
      | (none, b) => ⟨tx, none, b⟩ := by
  rw [working, Work.turn_bind]
  rcases work.turn b with ⟨_ | _ | a, b'⟩ <;> rfl

lemma working_draw_bind {α : Type} (b : Bank σ) (tx : TxId) (make : Bank σ → Store × α)
    (next : α → Work σ Unit) : b.working tx (.draw make >>= next)
      = (b.withStore (make b).1).working tx (next (make b).2) :=
  working_bind ..

lemma working_ask_bind {α : Type} (b : Bank σ) (tx : TxId)
    (operation : Store → Store × Except LedgerError α) (next : α → Work σ Unit) :
    b.working tx (.ask operation >>= next) = match operation b.store with
      | (store, .ok a) => (b.withStore store).working tx (next a)
      | (store, .error e) => ⟨tx, some (.error (.refused e)), b.withStore store⟩ := by
  rw [working_bind, Work.turn, Work.ask]
  rcases operation b.store with ⟨store, e | a⟩ <;> rfl

variable [Arithmetic] {b : Bank σ} {tx : TxId} {trail : Trail}

lemma concludes_failCall (f : Failure) :
    Concludes ⟨tx, some (.error f), b⟩ (b.failCall tx trail f) := by
  cases f with
  | refused e =>
      rw [failCall, rollBack_eq]
      exact .rollsBack _
  | overflow => exact .stops (by simp) _
  | overdrawn => exact .stops (by simp) _

lemma concludes_commitCall (reply : Reply) :
    Concludes ⟨tx, some (.ok ()), b⟩ (b.commitCall tx trail reply) := by
  rw [commitCall]
  rcases h : b.store.commit tx with ⟨store, f | _⟩ <;>
    obtain rfl : store = (b.store.commit tx).1 := by rw [h]
  · have hcommit := congrArg Prod.snd h
    cases f with
    | refused e => exact .uncommitted hcommit _
    | overflow => exact .uncommitted hcommit _
    | overdrawn => exact .uncommitted hcommit _
  · exact .commits (congrArg Prod.snd h) _

/-! ### Deposits and withdrawals -/

/-- The notification, if the amount calls for one, and the end. -/
lemma concludes_notify (threshold : Thresholds → Decimal) (kind : OperationKind)
    (account : AccountId) (money : Money) (seen : Balances) (reply : Reply) :
    Concludes (b.working tx (.notify tx threshold kind account money seen))
      (if threshold b.thresholds ≤ money.value then
        match b.notify tx kind account money seen with
        | (b, .error e) => b.failCall tx (trail.request .notify) (.refused e)
        | (b, .ok ()) => b.commitCall tx (trail.request .notify) reply
      else b.commitCall tx trail reply) := by
  rw [Work.notify, working_bind]
  simp only [Work.turn, Work.thresholds]
  split
  · rw [working_draw_bind, notify]
    simp only [working, Work.turn, Work.ask]
    generalize b.store.newNotification .. = drawn
    obtain ⟨store, event⟩ := drawn
    simp only [withStore]
    rcases store.enqueue tx (.ofNotification event) with ⟨store, e | _⟩
    · exact concludes_failCall _
    · exact concludes_commitCall reply
  · exact concludes_commitCall reply

lemma concludes_recordAdjustment (money : Money) (snapshot : WalletSnapshot) :
    Concludes (b.working tx (.adjusted tx trail.kind money snapshot))
      (b.recordAdjustment tx trail money snapshot) := by
  have hkind (stage : Stage) : (trail.request stage).kind = trail.kind := rfl
  rw [Work.adjusted, working_draw_bind, Work.append, working_ask_bind, recordAdjustment]
  simp only [hkind]
  generalize b.store.newRecord .. = drawn
  obtain ⟨store, record⟩ := drawn
  simp only [withStore]
  rcases store.append tx record with ⟨store, e | _⟩
  · exact concludes_failCall _
  · exact concludes_notify ..

/-- After a turn at a row a call waits on, fails, or goes on with the row adjusted. -/
lemma concludes_adjusted {operation : RowTurn σ} {money : Money}
    {work : WalletSnapshot → Work σ Unit} {phase : AdjustWait → Phase}
    {next : Store → WalletSnapshot → Step σ}
    (hnext : ∀ store snapshot,
      Concludes ((b.withStore store).working tx (work snapshot)) (next store snapshot)) :
    Concludes (b.working tx (.adjust money operation >>= work)) (match operation b with
      | (store, .waiting wait) => (b.withStore store, .waiting (phase wait))
      | (store, .done result) =>
        match applied money result with
        | .error f => (b.withStore store).failCall tx trail f
        | .ok snapshot => next store snapshot) := by
  rw [working_bind, Work.turn, Work.adjust]
  rcases operation b with ⟨store, wait | result⟩
  · exact .waits _
  · dsimp only
    rcases applied money result with f | snapshot
    · exact concludes_failCall f
    · exact hnext store snapshot

lemma concludes_afterAdjustment (operation : RowTurn σ) (money : Money) :
    Concludes (b.working tx (.adjustment tx trail.kind money operation))
      (b.afterAdjustment tx trail money (operation b)) :=
  concludes_adjusted fun store snapshot =>
    concludes_recordAdjustment (b := b.withStore store) money snapshot

/-! ### Exchanges -/

lemma concludes_recordExchange (e : Exchange) (credited debited : WalletSnapshot) :
    Concludes (b.working e.tx (.exchanged e credited debited))
      (b.recordExchange trail e credited debited) := by
  rw [Work.exchanged, working_draw_bind, recordExchange]
  generalize b.exchangeRecords e credited debited = drawn
  obtain ⟨store, credit, debit⟩ := drawn
  simp only [Work.append, working_ask_bind, withStore]
  rcases store.append e.tx credit with ⟨store, error | _⟩
  · exact concludes_failCall _
  dsimp only
  rcases store.append e.tx debit with ⟨store, error | _⟩
  · exact concludes_failCall _
  · exact concludes_notify ..

lemma concludes_afterDebit (e : Exchange) (credited : WalletSnapshot)
    (operation : RowTurn σ) : Concludes (b.working e.tx (.debit e credited operation))
      (b.afterDebit trail e credited (operation b)) :=
  concludes_adjusted fun store debited =>
    concludes_recordExchange (b := b.withStore store) e credited debited

lemma concludes_afterCredit (e : Exchange) (operation : RowTurn σ) :
    Concludes (b.working e.tx (.exchange e operation)) (b.afterCredit trail e (operation b)) :=
  concludes_adjusted fun store credited =>
    concludes_afterDebit (b := b.withStore store) e credited _

/-! ### New accounts -/

lemma concludes_afterProvisioning (account : AccountId)
    (operation : Bank σ → Store × Turn ProvisionWait (Except LedgerError Unit)) :
    Concludes (b.working tx (.provisioning operation))
      (b.afterProvisioning tx account (operation b)) := by
  rw [working, Work.turn, Work.provisioning]
  rcases operation b with ⟨store, wait | e | _⟩
  · exact .waits _
  · rw [afterProvisioning, rollBack_eq]
    exact .rollsBack none
  · rw [afterProvisioning]
    rcases h : store.commit tx with ⟨after, f | _⟩ <;>
      obtain rfl : after = (store.commit tx).1 := by rw [h]
    · exact .uncommitted (b := b.withStore store) (congrArg Prod.snd h) none
    · exact .commits (b := b.withStore store) (congrArg Prod.snd h) none

/-! ### Turns -/

/-- A transaction that is begun, and what is done in it. -/
lemma concludes_beginCall {kind : OperationKind} {work : TxId → Work σ Unit}
    {next : Bank σ → TxId → Trail → Step σ} {w : Working σ}
    (hnext : ∀ store tx, Concludes ((b.withStore store).working tx (work tx))
      (next (b.withStore store) tx (((Trail.start kind).request .acquireConnection).request
        .beginTx)))
    (hw : b.opening? work = some w) : Concludes w (b.beginCall kind next) := by
  rw [opening?] at hw
  rw [beginCall]
  generalize b.store.begin = begun at hw ⊢
  obtain ⟨store, e | tx⟩ := begun
  · simp at hw
  · obtain rfl := Option.some.inj hw
    exact hnext store tx

lemma concludes_startChecked {kind : OperationKind} {account : AccountId} {currency : Currency}
    {amount : Decimal} {w : Working σ} (hw : b.adjusting? kind account currency amount = some w) :
    Concludes w (b.startChecked kind account currency amount) := by
  rw [adjusting?] at hw
  rw [startChecked]
  generalize Money.positive amount currency = checked at hw ⊢
  obtain e | money := checked
  · simp at hw
  · exact concludes_beginCall (fun store tx => concludes_afterAdjustment (b := b.withStore store)
      (fun b => b.store.adjust b.clock ⟨tx, ⟨account, money.currency⟩, money.value,
        kind.direction⟩) money) hw

lemma concludes_startTransfer {account : AccountId} {source : Money} {quote : PairQuote}
    {w : Working σ} (hw : b.trading? account source quote = some w) :
    Concludes w (b.startTransfer account source quote) := by
  rw [trading?] at hw
  rw [startTransfer]
  generalize quote.convert source = converted at hw ⊢
  obtain e | target := converted
  · simp at hw
  dsimp only at hw ⊢
  split at hw
  · next hpos =>
    rw [if_pos hpos]
    exact concludes_beginCall (fun store tx => concludes_afterCredit (b := b.withStore store)
      ⟨tx, account, source, target, quote.rate⟩ fun b =>
        b.store.adjust b.clock ⟨tx, ⟨account, target.currency⟩, target.value, .credit⟩) hw
  · simp at hw

lemma concludes_afterPricing {account : AccountId} {source : Money} {target : Currency}
    {read : RateCache σ × Turn Fetch (Except RateError Decimal)} {w : Working σ}
    (hw : b.exchanging? account source target read = some w) :
    Concludes w (b.afterPricing account source target read) := by
  rcases read with ⟨rates, fetch | e | rate⟩
  · simp [exchanging?] at hw
  · simp [exchanging?] at hw
  · exact concludes_startTransfer hw

variable [RateProvider σ]

/-- Every call that starts and comes to have a transaction ends it, or waits, by its work. -/
theorem concludes_start {request : Request} {w : Working σ}
    (hw : b.workAtStart? request = some w) : Concludes w (b.start request) := by
  cases request with
  | openAccount account =>
      rw [workAtStart?, opening?] at hw
      rw [start, startProvisioning]
      generalize b.store.begin = begun at hw ⊢
      obtain ⟨store, e | tx⟩ := begun
      · simp at hw
      · obtain rfl := Option.some.inj hw
        exact concludes_afterProvisioning (b := b.withStore store) account fun b =>
          b.store.provision b.clock tx account
  | deposit => exact concludes_startChecked hw
  | withdraw => exact concludes_startChecked hw
  | exchange account source target amount =>
      rw [workAtStart?] at hw
      rw [start]
      split at hw
      · simp at hw
      next hne =>
      rw [if_neg hne]
      generalize Money.positive amount source = checked at hw ⊢
      obtain e | money := checked
      · simp at hw
      · exact concludes_afterPricing hw
  | _ => simp [workAtStart?] at hw

/-- Every call that goes on and has a transaction, or comes to have one, does so too. -/
theorem concludes_resume {phase : Phase} {w : Working σ}
    (hw : b.workAtResume? phase = some w) : Concludes w (b.resume phase) := by
  cases phase with
  | provisioning wait =>
      obtain rfl := Option.some.inj hw
      exact concludes_afterProvisioning wait.account fun b => b.store.resumeProvision b.clock wait
  | adjusting trail money wait =>
      obtain rfl := Option.some.inj hw
      exact concludes_afterAdjustment (fun b => b.store.resumeAdjust b.clock wait) money
  | pricing => exact concludes_afterPricing hw
  | crediting trail e wait =>
      obtain rfl := Option.some.inj hw
      exact concludes_afterCredit e fun b => b.store.resumeAdjust b.clock wait
  | debiting trail e credited wait =>
      obtain rfl := Option.some.inj hw
      exact concludes_afterDebit e credited fun b => b.store.resumeAdjust b.clock wait
  | _ => simp [workAtResume?] at hw

end Bank

end Teller
