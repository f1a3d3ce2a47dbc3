/-
Who holds a row and who waits for it.

* `RowLock.IsManned`: a row that is waited for is held; requests and leaves keep that, and they
  drive nobody else out of the queue;
* `Store.Path.isManned`, `Store.Path.knows_of_ne`, `Store.Path.faults_eq_nil`: neither do the acts
  of a transaction, which never add a fault;
* `Store.Avoids`: nobody has come to know a row; every operation avoids all rows but those that it
  asks for, an adjustment its own (`Store.avoids_adjust`), a provisioning those of its account
  (`Store.avoids_provision`).
-/
import Teller.Proofs.Store.Discipline

namespace Teller

/-! ### Locks -/

namespace RowLock

variable {l : RowLock} {tx t : TxId}

/-- A row that is waited for is held. -/
def IsManned (l : RowLock) : Prop := l.holder = none → l.queue = []

lemma isManned_free : free.IsManned := fun _ => rfl

lemma IsManned.request (h : l.IsManned) (tx : TxId) : (l.request tx).IsManned := by
  obtain ⟨holder, queue⟩ := l
  cases holder with
  | none => simp [RowLock.request, IsManned]
  | some other =>
      intro hnone
      have hheld : (RowLock.request ⟨some other, queue⟩ tx).holder = some other :=
        holder_request rfl
      simp [hheld] at hnone

/-- A row that is given up passes to the first in the queue. -/
lemma IsManned.leave (h : l.IsManned) (tx : TxId) : (l.leave tx).IsManned := by
  obtain ⟨holder, queue⟩ := l
  intro hnone
  by_cases hheld : holder = some tx
  · simp only [RowLock.leave, if_pos hheld] at hnone ⊢
    rw [List.head?_eq_none_iff.mp hnone]
    rfl
  · simp only [RowLock.leave, if_neg hheld] at hnone ⊢
    have hqueue : queue = [] := h hnone
    rw [hqueue]
    rfl

/-- Somebody holds a row that somebody knows. -/
lemma IsManned.exists_holder (h : l.IsManned) (hk : l.Knows t) :
    ∃ holder, l.holder = some holder := by
  rcases hk with hheld | hqueued
  · exact ⟨t, hheld⟩
  · refine Option.ne_none_iff_exists'.mp fun hnone => ?_
    rw [h hnone] at hqueued
    exact List.not_mem_nil hqueued

/-- One that asks for the row knows it, and drives nobody out. -/
lemma knows_request_self : (l.request tx).Knows tx := by
  obtain ⟨holder, queue⟩ := l
  cases holder with
  | none => exact .inl rfl
  | some other =>
      simp only [request]
      split
      · next h => exact h.imp (congrArg some) id
      · exact .inr (List.mem_append_right _ (List.mem_singleton_self tx))

lemma knows_request (h : l.Knows t) : (l.request tx).Knows t := by
  rcases h with hheld | hqueued
  · exact .inl (holder_request hheld)
  · refine .inr ?_
    obtain ⟨holder, queue⟩ := l
    cases holder with
    | none => exact hqueued
    | some other =>
        simp only [request]
        split
        · exact hqueued
        · exact List.mem_append_left _ hqueued

/-- One that leaves drives nobody else out. -/
lemma knows_leave_of_ne (h : l.Knows t) (hne : t ≠ tx) : (l.leave tx).Knows t := by
  rcases h with hheld | hqueued
  · exact .inl (holder_leave hheld hne)
  · obtain ⟨holder, queue⟩ := l
    have hstays : t ∈ queue.filter (· ≠ tx) := List.mem_filter.mpr ⟨hqueued, decide_eq_true hne⟩
    by_cases hheld : holder = some tx
    · simp only [leave, if_pos hheld]
      generalize queue.filter (· ≠ tx) = rest at hstays ⊢
      cases hstays with
      | head => exact .inl rfl
      | tail _ hmem => exact .inr hmem
    · simp only [leave, if_neg hheld]
      exact .inr hstays

end RowLock

namespace Store

variable {s s' s'' : Store} {tx other : TxId} {key : WalletKey}

/-! ### Acts and paths -/

/-- Rows that are waited for stay held, whatever a transaction does. -/
lemma Act.isManned (h : Act tx s s') (hs : (s.lock key).IsManned) : (s'.lock key).IsManned := by
  cases h with
  | strike h =>
      obtain ⟨-, rfl⟩ := takeFault?_eq_some h
      exact hs
  | request asked h =>
      rw [lock_requestRow]
      split
      · next heq => exact (heq ▸ hs).request tx
      · exact hs
  | leave left h =>
      rw [lock_leaveRow]
      split
      · next heq => exact (heq ▸ hs).leave tx
      · exact hs
  | discard =>
      rw [lock_discard]
      exact hs.leave tx
  | commit =>
      have hleft : ((s.discard tx).lock key).IsManned := by
        rw [lock_discard]
        exact hs.leave tx
      exact hleft
  | _ => exact hs

/-- A transaction drives no other out of a queue. -/
lemma Act.knows_of_ne (h : Act tx s s') (hne : other ≠ tx) (hk : (s.lock key).Knows other) :
    (s'.lock key).Knows other := by
  cases h with
  | strike h =>
      obtain ⟨-, rfl⟩ := takeFault?_eq_some h
      exact hk
  | request asked h =>
      rw [lock_requestRow]
      split
      · next heq => exact RowLock.knows_request (heq ▸ hk)
      · exact hk
  | leave left h =>
      rw [lock_leaveRow]
      split
      · next heq => exact RowLock.knows_leave_of_ne (heq ▸ hk) hne
      · exact hk
  | discard =>
      rw [lock_discard]
      exact RowLock.knows_leave_of_ne hk hne
  | commit =>
      have hstays : ((s.discard tx).lock key).Knows other := by
        rw [lock_discard]
        exact RowLock.knows_leave_of_ne hk hne
      exact hstays
  | _ => exact hk

/-- No act adds a fault. -/
lemma Act.faults_eq_nil (h : Act tx s s') (hs : s.faults = []) : s'.faults = [] := by
  cases h with
  | strike h =>
      obtain ⟨hmem, -⟩ := takeFault?_eq_some h
      simp [hs] at hmem
  | _ => exact hs

/-- A transaction that does not hold a row leaves it as it is. -/
lemma Act.get?_of_not_holder (h : Act tx s s') (hs : s.Disciplined)
    (hnot : (s.lock key).holder ≠ some tx) : s'.wallets.get? key = s.wallets.get? key := by
  cases h with
  | strike h =>
      obtain ⟨-, rfl⟩ := takeFault?_eq_some h
      rfl
  | commit ht hw =>
      exact get?_committedWallets_of_not_touches hw fun htouch => hnot (hs.holder ht htouch)
  | _ => rfl

namespace Path

lemma isManned (h : Path tx s s') (hs : (s.lock key).IsManned) : (s'.lock key).IsManned := by
  induction h with
  | refl => exact hs
  | tail _ ha ih => exact ha.isManned ih

lemma knows_of_ne (h : Path tx s s') (hne : other ≠ tx) (hk : (s.lock key).Knows other) :
    (s'.lock key).Knows other := by
  induction h with
  | refl => exact hk
  | tail _ ha ih => exact ha.knows_of_ne hne ih

lemma faults_eq_nil (h : Path tx s s') (hs : s.faults = []) : s'.faults = [] := by
  induction h with
  | refl => exact hs
  | tail _ ha ih => exact ha.faults_eq_nil ih

end Path

/-! ### Rows that are avoided -/

/-- Nobody has come to know the row. -/
def Avoids (key : WalletKey) (s s' : Store) : Prop :=
  ∀ ⦃tx⦄, (s'.lock key).Knows tx → (s.lock key).Knows tx

lemma avoids_of_locks (h : s'.locks = s.locks) : Avoids key s s' := by
  intro tx hk
  rwa [lock, h] at hk

lemma avoids_refl (key : WalletKey) (s : Store) : Avoids key s s := fun _ hk => hk

lemma Avoids.trans (h : Avoids key s s') (h' : Avoids key s' s'') : Avoids key s s'' :=
  fun _ hk => h (h' hk)

lemma avoids_discard (s : Store) (tx : TxId) : Avoids key s (s.discard tx) := by
  intro other hk
  rw [lock_discard] at hk
  exact (RowLock.knows_of_leave hk).1

lemma avoids_leaveRow (s : Store) (tx : TxId) (left : WalletKey) :
    Avoids key s (s.leaveRow tx left) :=
  fun _ hk => knows_of_leaveRow hk

/-- A request for another row. -/
lemma avoids_requestRow (s : Store) (tx : TxId) {asked : WalletKey} (hne : asked ≠ key) :
    Avoids key s (s.requestRow tx asked) := by
  intro other hk
  rwa [lock_requestRow, if_neg hne] at hk

lemma avoids_begin (s : Store) : Avoids key s s.begin.1 := by
  rw [Store.begin]
  split
  · next hf =>
    obtain ⟨-, rfl⟩ := takeFault?_eq_some hf
    exact avoids_of_locks rfl
  · exact avoids_of_locks rfl

lemma avoids_append (s : Store) (tx : TxId) (record : TransactionRecord) :
    Avoids key s (s.append tx record).1 := by
  rw [Store.append]
  split
  · next hf =>
    obtain ⟨-, rfl⟩ := takeFault?_eq_some hf
    exact avoids_of_locks rfl
  · exact avoids_of_locks rfl

lemma avoids_enqueue (s : Store) (tx : TxId) (event : OutboxEvent) :
    Avoids key s (s.enqueue tx event).1 := by
  rw [Store.enqueue]
  split
  · next hf =>
    obtain ⟨-, rfl⟩ := takeFault?_eq_some hf
    exact avoids_of_locks rfl
  · exact avoids_of_locks rfl

lemma avoids_rollback (s : Store) (tx : TxId) : Avoids key s (s.rollback tx).1 := by
  rw [Store.rollback]
  split
  · next hf =>
    obtain ⟨-, rfl⟩ := takeFault?_eq_some hf
    exact (avoids_of_locks rfl).trans (avoids_discard _ tx)
  · exact avoids_discard s tx

lemma avoids_commit (s : Store) (tx : TxId) : Avoids key s (s.commit tx).1 := by
  rw [Store.commit]
  split
  · next hf =>
    obtain ⟨-, rfl⟩ := takeFault?_eq_some hf
    exact (avoids_of_locks rfl).trans (avoids_discard _ tx)
  · dsimp only
    split
    · exact (avoids_discard s tx).trans (avoids_of_locks rfl)
    · exact (avoids_discard s tx).trans (avoids_of_locks rfl)

/-! ### Adjustments and provisionings -/

lemma avoids_adjustHeld (s : Store) (a : Adjustment) (wallet : WalletId) :
    Avoids key s (s.adjustHeld a wallet).1 := by
  refine avoids_of_locks ?_
  rw [adjustHeld]
  split
  · rfl
  · dsimp only
    split
    · rfl
    · split
      · rfl
      · split
        · rfl
        · split <;> rfl

/-- An adjustment that waits asks for no row again. -/
lemma avoids_resumeAdjust (s : Store) (clock : Clock) (w : AdjustWait) :
    Avoids key s (s.resumeAdjust clock w).1 := by
  rw [resumeAdjust]
  split
  · exact avoids_adjustHeld s w.adjustment w.wallet
  · exact avoids_refl key s
  · exact avoids_leaveRow s w.adjustment.tx w.adjustment.key

/-- An adjustment asks for its own row only. -/
lemma avoids_adjust (s : Store) (clock : Clock) {a : Adjustment} (hne : a.key ≠ key) :
    Avoids key s (s.adjust clock a).1 := by
  rw [adjust]
  split
  · exact avoids_refl key s
  · exact (avoids_requestRow s a.tx hne).trans (avoids_resumeAdjust _ clock _)

lemma avoids_provisionHeld (s : Store) (now : Nat) (tx : TxId) (made : WalletKey) :
    Avoids key s (s.provisionHeld now tx made).1 := by
  rw [provisionHeld]
  split <;> exact avoids_of_locks rfl

/-- The look at one row of a provisioning avoids what comes after avoids. -/
lemma avoids_provisionRow (s : Store) (clock : Clock) (w : ProvisionWait)
    {next : Store → Store × Turn ProvisionWait (Except LedgerError Unit)}
    (hnext : ∀ s, Avoids key s (next s).1) : Avoids key s (s.provisionRow clock w next).1 := by
  rw [provisionRow]
  split
  · have hheld : Avoids key s (s.provisionHeld clock.now w.tx w.row.key).1 :=
      avoids_provisionHeld s clock.now w.tx w.row.key
    split
    · next heq => rwa [heq] at hheld
    · next s' heq =>
      rw [heq] at hheld
      exact hheld.trans (hnext s')
  · exact avoids_refl key s
  · exact avoids_leaveRow s w.tx w.row.key

lemma avoids_provisionFrom (clock : Clock) (tx : TxId) {account : AccountId}
    (hne : account ≠ key.account) (rest : List Currency) (s : Store) :
    Avoids key s (provisionFrom clock tx account rest s).1 := by
  induction rest generalizing s with
  | nil => exact avoids_refl key s
  | cons currency rest ih =>
      have hother : (⟨account, currency⟩ : WalletKey) ≠ key := fun heq =>
        hne (congrArg WalletKey.account heq)
      exact (avoids_requestRow s tx hother).trans (avoids_provisionRow _ clock _ ih)

/-- A provisioning asks for rows of its account only. -/
lemma avoids_provision (s : Store) (clock : Clock) (tx : TxId) {account : AccountId}
    (hne : account ≠ key.account) : Avoids key s (s.provision clock tx account).1 :=
  avoids_provisionFrom clock tx hne Currency.all s

lemma avoids_resumeProvision (s : Store) (clock : Clock) {w : ProvisionWait}
    (hne : w.account ≠ key.account) : Avoids key s (s.resumeProvision clock w).1 :=
  avoids_provisionRow s clock w (avoids_provisionFrom clock w.tx hne w.rest)

end Store

end Teller
