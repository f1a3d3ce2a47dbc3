/-
Deposits and withdrawals, one operation of the store at a time.

* `Halt`: where a deposit or withdrawal is between two operations of the store; `Halt.tx?` is its
  transaction, `Halt.rank` the number of operations to its end at most;
* `Bank.operate`: it does the next operation;
* `Bank.Drives`: a call that does one operation after the other, with nobody in between, makes this
  turn;
* `Bank.drives_startAdjustment`, `Bank.drives_resumeAdjustment`: so the turns of deposits and
  withdrawals are made; `Bank.drives_start`: those of withdrawals of accepted amounts from their
  start.
-/
import Mathlib.Tactic
import Teller.Bank.Call

namespace Teller

/-! ### Halts -/

/-- Where a deposit or withdrawal is between two operations of the store. -/
inductive Halt where
  /-- It is about to begin a transaction. -/
  | opening (kind : OperationKind)
  /-- It is about to look for its wallet and to ask for the row. -/
  | asking (tx : TxId) (trail : Trail)
  /-- It is about to look at the row, and to adjust the balance if the row is granted. -/
  | waiting (trail : Trail) (wait : AdjustWait)
  /-- It is about to make its record. -/
  | recording (tx : TxId) (trail : Trail) (snapshot : WalletSnapshot)
  /-- It is about to make its notification. -/
  | noting (tx : TxId) (trail : Trail) (snapshot : WalletSnapshot)
  | committing (tx : TxId) (trail : Trail) (snapshot : WalletSnapshot)
  /-- It is about to be rolled back. -/
  | failing (tx : TxId) (trail : Trail) (failure : Failure)
  deriving DecidableEq

namespace Halt

/-- The transaction, if it has begun. -/
def tx? : Halt → Option TxId
  | opening _ => none
  | asking tx _ => some tx
  | waiting _ wait => some wait.adjustment.tx
  | recording tx _ _ => some tx
  | noting tx _ _ => some tx
  | committing tx _ _ => some tx
  | failing tx _ _ => some tx

/-- No more operations are left than this, looks at a row that is not granted apart. -/
def rank : Halt → ℕ
  | opening _ => 6
  | asking .. => 5
  | waiting .. => 4
  | recording .. => 3
  | noting .. => 2
  | committing .. => 1
  | failing .. => 1

lemma rank_pos (halt : Halt) : 0 < halt.rank := by
  cases halt <;> exact Nat.succ_pos _

lemma rank_le (halt : Halt) : halt.rank ≤ 6 := by
  cases halt <;> simp [rank]

end Halt

namespace Bank

variable {σ : Type} {b b' : Bank σ} {tx : TxId} {trail : Trail} {account : AccountId}
  {money : Money}

/-! ### Operations -/

/-- A deposit or withdrawal does its next operation. It goes on from there, or its turn is over. -/
def operate [Arithmetic] (b : Bank σ) (account : AccountId) (money : Money) :
    Halt → Bank σ × (Halt ⊕ Turn Phase Outcome)
  | .opening kind =>
    let trail := (Trail.start kind).request .acquireConnection
    match b.store.begin with
    | (store, .ok tx) =>
      (b.withStore store, .inl (.asking tx ((trail.request .beginTx).request .mutate)))
    | (store, .error e) =>
      (b.withStore store, .inr (.done ⟨.error (.refused e), some (trail.request .failed)⟩))
  | .asking tx trail =>
    match b.store.walletId? tx ⟨account, money.currency⟩ with
    | none =>
      (b, .inl (.failing tx trail (.refused (.walletNotFound account money.currency))))
    | some wallet =>
      (b.withStore (b.store.requestRow tx ⟨account, money.currency⟩),
        .inl (.waiting trail ⟨⟨tx, ⟨account, money.currency⟩, money.value, trail.kind.direction⟩,
          wallet, b.clock.now + b.store.lockTimeout⟩))
  | .waiting trail wait =>
    match b.store.resumeAdjust b.clock wait with
    | (store, .waiting wait) => (b.withStore store, .inr (.waiting (.adjusting trail money wait)))
    | (store, .done result) =>
      match applied money result with
      | .error f => (b.withStore store, .inl (.failing wait.adjustment.tx trail f))
      | .ok snapshot =>
        (b.withStore store, .inl (.recording wait.adjustment.tx (trail.request .audit) snapshot))
  | .recording tx trail snapshot =>
    let (store, record) := b.store.newRecord b.clock.now snapshot.wallet money.currency money.value
      trail.kind.direction trail.kind none
    match store.append tx record with
    | (store, .error e) => (b.withStore store, .inl (.failing tx trail (.refused e)))
    | (store, .ok ()) =>
      if b.thresholds.deposit ≤ money.value then
        (b.withStore store, .inl (.noting tx (trail.request .notify) snapshot))
      else (b.withStore store, .inl (.committing tx trail snapshot))
  | .noting tx trail snapshot =>
    match b.notify tx trail.kind snapshot.account money snapshot.balances with
    | (b, .error e) => (b, .inl (.failing tx trail (.refused e)))
    | (b, .ok ()) => (b, .inl (.committing tx trail snapshot))
  | .committing tx trail snapshot =>
    let step := b.commitCall tx trail (.snapshot snapshot)
    (step.1, .inr step.2)
  | .failing tx trail failure =>
    let step := b.failCall tx trail failure
    (step.1, .inr step.2)

/-- Only a look at a row that is not granted leaves a call where it is. -/
lemma operate_eq_waiting {halt : Halt} {phase : Phase}
    (h : b.operate account money halt = (b', .inr (.waiting phase))) :
    ∃ trail wait, halt = .waiting trail wait ∧ phase = .adjusting trail money wait := by
  cases halt with
  | opening kind =>
      rcases hbegin : b.store.begin with ⟨store, e | tx⟩ <;> simp [operate, hbegin] at h
  | asking tx trail =>
      simp only [operate] at h
      split at h <;> simp at h
  | waiting trail wait =>
      rcases hresume : b.store.resumeAdjust b.clock wait with ⟨store, wait' | result⟩
      · -- who waits on goes on waiting for the same
        have hsame : wait' = wait := by
          rw [Store.resumeAdjust] at hresume
          split at hresume <;> simp_all
        simp only [operate, hresume, Prod.mk.injEq, Sum.inr.injEq, Turn.waiting.injEq] at h
        exact ⟨trail, wait, rfl, by rw [← h.2, hsame]⟩
      · simp only [operate, hresume] at h
        split at h <;> simp at h
  | recording tx trail snapshot =>
      simp only [operate] at h
      split at h
      · simp at h
      · split at h <;> simp at h
  | noting tx trail snapshot =>
      simp only [operate] at h
      split at h <;> simp at h
  | committing tx trail snapshot =>
      simp only [operate, commitCall] at h
      split at h <;> simp at h
  | failing tx trail failure =>
      cases failure <;> simp [operate, failCall] at h

/-! ### Turns -/

/-- A call that does one operation after the other from a halt, with nobody in between, makes this
turn. -/
inductive Drives (account : AccountId) (money : Money) : Bank σ → Halt → Step σ → Prop where
  | ends {b b' : Bank σ} {halt : Halt} {turn : Turn Phase Outcome}
      (h : b.operate account money halt = (b', .inr turn)) : Drives account money b halt (b', turn)
  | goes {b b' : Bank σ} {halt halt' : Halt} {step : Step σ}
      (h : b.operate account money halt = (b', .inl halt'))
      (hrest : Drives account money b' halt' step) : Drives account money b halt step

lemma drives_failCall (failure : Failure) :
    Drives account money b (.failing tx trail failure) (b.failCall tx trail failure) :=
  .ends rfl

lemma drives_commitCall (snapshot : WalletSnapshot) :
    Drives account money b (.committing tx trail snapshot)
      (b.commitCall tx trail (.snapshot snapshot)) :=
  .ends rfl

/-- The record, the notification if the amount calls for one, and the commit. -/
lemma drives_recordAdjustment (snapshot : WalletSnapshot) :
    Drives account money b (.recording tx (trail.request .audit) snapshot)
      (b.recordAdjustment tx trail money snapshot) := by
  rcases hnew : b.store.newRecord b.clock.now snapshot.wallet money.currency money.value
    (trail.request .audit).kind.direction (trail.request .audit).kind none with ⟨drawn, record⟩
  rw [recordAdjustment]
  simp only [hnew]
  rcases happend : drawn.append tx record with ⟨store, e | ⟨⟩⟩
  · refine .goes ?_ (drives_failCall (.refused e))
    simp only [operate, hnew, happend]
  -- with a notification there is one operation more
  by_cases hlarge : b.thresholds.deposit ≤ money.value
  · have hlarge' : (b.withStore store).thresholds.deposit ≤ money.value := hlarge
    have hrecords : b.operate account money (.recording tx (trail.request .audit) snapshot)
        = (b.withStore store,
          .inl (.noting tx ((trail.request .audit).request .notify) snapshot)) := by
      simp only [operate, hnew, happend, if_pos hlarge]
    simp only [if_pos hlarge']
    refine .goes hrecords ?_
    rcases hnotify : (b.withStore store).notify tx ((trail.request .audit).request .notify).kind
      snapshot.account money snapshot.balances with ⟨b', e | ⟨⟩⟩
    · refine .goes ?_ (drives_failCall (.refused e))
      simp only [operate, hnotify]
    · refine .goes ?_ (drives_commitCall snapshot)
      simp only [operate, hnotify]
  · have hsmall : ¬ (b.withStore store).thresholds.deposit ≤ money.value := hlarge
    simp only [if_neg hsmall]
    refine .goes ?_ (drives_commitCall snapshot)
    simp only [operate, hnew, happend, if_neg hlarge]

/-- A look at the row, and all that comes after. -/
theorem drives_resumeAdjustment (trail : Trail) (wait : AdjustWait) :
    Drives account money b (.waiting trail wait) (b.resumeAdjustment trail money wait) := by
  rw [resumeAdjustment]
  rcases hresume : b.store.resumeAdjust b.clock wait with ⟨store, wait' | result⟩
  · refine .ends ?_
    simp only [operate, hresume]
  · rw [afterAdjustment]
    cases happlied : applied money result with
    | error f =>
        refine .goes ?_ (drives_failCall f)
        simp only [operate, hresume, happlied]
    | ok snapshot =>
        refine .goes ?_ (drives_recordAdjustment snapshot)
        simp only [operate, hresume, happlied]

/-- From the search for the wallet on. -/
lemma drives_afterAdjustment :
    Drives account money b (.asking tx trail) (b.afterAdjustment tx trail money
      (b.store.adjust b.clock
        ⟨tx, ⟨account, money.currency⟩, money.value, trail.kind.direction⟩)) := by
  rw [Store.adjust]
  cases hid : b.store.walletId? tx ⟨account, money.currency⟩ with
  | none =>
      have hfails : b.operate account money (.asking tx trail)
          = (b, .inl (.failing tx trail (.refused (.walletNotFound account money.currency)))) := by
        simp only [operate, hid]
      exact .goes hfails (drives_failCall _)
  | some wallet =>
      have hasks : b.operate account money (.asking tx trail)
          = (b.withStore (b.store.requestRow tx ⟨account, money.currency⟩),
            .inl (.waiting trail ⟨⟨tx, ⟨account, money.currency⟩, money.value,
              trail.kind.direction⟩, wallet, b.clock.now + b.store.lockTimeout⟩)) := by
        simp only [operate, hid]
      exact .goes hasks (drives_resumeAdjustment trail _)

/-- The first turn of a deposit or withdrawal. -/
theorem drives_startAdjustment (kind : OperationKind) :
    Drives account money b (.opening kind) (b.startAdjustment kind account money) := by
  rw [startAdjustment, beginCall]
  rcases hbegin : b.store.begin with ⟨store, e | tx⟩
  · refine .ends ?_
    simp only [operate, hbegin]
  · have hbegins : b.operate account money (.opening kind) = (b.withStore store,
        .inl (.asking tx ((((Trail.start kind).request .acquireConnection).request
          .beginTx).request .mutate))) := by
      simp only [operate, hbegin]
    exact .goes hbegins drives_afterAdjustment

/-- The first turn of a withdrawal of an accepted amount. -/
theorem drives_start [RateProvider σ] {account : AccountId} {currency : Currency} {amount : Decimal}
    (hm : Money.positive amount currency = .ok money) :
    Drives account money b (.opening .withdraw) (b.start (.withdraw account currency amount)) := by
  have hstart : b.start (.withdraw account currency amount)
      = b.startAdjustment .withdraw account money := by
    rw [start, startChecked, hm]
  rw [hstart]
  exact drives_startAdjustment .withdraw

end Bank

end Teller
