/-
What a transaction does to a store, act by act.

* `RowLock.Knows`: a transaction holds a row or waits for it; what requests and leaves do to that;
* `Store.Act`: the acts of one transaction, each with what makes it possible: a row is asked for,
  a balance is adjusted under the lock of its row, everything is committed, and so on;
* `Store.get?_committedWallets_of_not_touches`, `Store.id_committedWallets`: a commit changes no row
  that its transaction does not touch, and no identifier of a row that exists.
-/
import Mathlib.Tactic
import Teller.Store.Transaction
import Teller.Store.Waiting

namespace Teller

/-! ### Locks -/

namespace RowLock

variable {l : RowLock} {tx t : TxId}

/-- The transaction holds the row or waits for it. -/
def Knows (l : RowLock) (tx : TxId) : Prop := l.holder = some tx ∨ tx ∈ l.queue

lemma not_knows_free : ¬ free.Knows tx := by simp [Knows, free]

lemma knows_of_request (h : (l.request tx).Knows t) : l.Knows t ∨ t = tx := by
  obtain ⟨holder, queue⟩ := l
  cases holder with
  | none => simp_all [request, Knows]; tauto
  | some other =>
      simp only [request] at h
      split at h
      · exact .inl h
      · simp_all [Knows]; tauto

/-- Asking for a row takes it from nobody. -/
lemma holder_request (h : l.holder = some t) : (l.request tx).holder = some t := by
  obtain ⟨holder, queue⟩ := l
  cases h
  simp only [request]
  split <;> rfl

/-- Asking for a row is granted unless somebody else holds it. -/
lemma holder_request_eq_self (h : ∀ t ≠ tx, l.holder ≠ some t) :
    (l.request tx).holder = some tx := by
  obtain ⟨holder, queue⟩ := l
  cases holder with
  | none => rfl
  | some other =>
      by_cases ho : other = tx
      · subst ho
        simp [request]
      · exact absurd rfl (h other ho)

lemma knows_of_leave (h : (l.leave tx).Knows t) : l.Knows t ∧ t ≠ tx := by
  obtain ⟨holder, queue⟩ := l
  simp only [leave] at h
  split at h
  · have hmem : t ∈ queue.filter (· ≠ tx) := by
      rcases h with h | h
      · exact List.mem_of_head? h
      · exact List.mem_of_mem_tail h
    simp only [List.mem_filter, decide_eq_true_eq] at hmem
    exact ⟨.inr hmem.1, hmem.2⟩
  · next hne =>
    rcases h with h | h
    · exact ⟨.inl h, fun heq => hne (heq ▸ h)⟩
    · simp only [List.mem_filter, decide_eq_true_eq] at h
      exact ⟨.inr h.1, h.2⟩

/-- One that leaves takes the row from nobody else. -/
lemma holder_leave (h : l.holder = some t) (hne : t ≠ tx) : (l.leave tx).holder = some t := by
  obtain ⟨holder, queue⟩ := l
  cases h
  simp [leave, hne]

lemma leave_free : free.leave tx = free := rfl

end RowLock

namespace Store

variable {s s' : Store} {tx other : TxId} {t : Transaction} {key k : WalletKey}

lemma holds_iff : s.holds tx key = true ↔ (s.lock key).holder = some tx := by
  simp [holds]

lemma lock_requestRow :
    (s.requestRow tx key).lock k = if key = k then (s.lock key).request tx else s.lock k := by
  simp only [lock, requestRow, Table.get?_insert]
  split <;> rfl

lemma lock_leaveRow :
    (s.leaveRow tx key).lock k = if key = k then (s.lock key).leave tx else s.lock k := by
  simp only [lock, leaveRow, Table.get?_insert]
  split <;> rfl

/-- Asking for a row takes none from anybody. -/
lemma held_requestRow (h : (s.lock k).holder = some other) :
    ((s.requestRow tx key).lock k).holder = some other := by
  rw [lock_requestRow]
  split
  · next heq => exact RowLock.holder_request (heq ▸ h)
  · exact h

/-- Leaving a row takes none from anybody else. -/
lemma held_leaveRow (h : (s.lock k).holder = some other) (hne : other ≠ tx) :
    ((s.leaveRow tx key).lock k).holder = some other := by
  rw [lock_leaveRow]
  split
  · next heq => exact RowLock.holder_leave (heq ▸ h) hne
  · exact h

lemma knows_of_leaveRow (h : ((s.leaveRow tx key).lock k).Knows other) :
    (s.lock k).Knows other := by
  rw [lock_leaveRow] at h
  split at h
  · next heq => exact heq ▸ (RowLock.knows_of_leave h).1
  · exact h

lemma lock_discard : (s.discard tx).lock k = (s.lock k).leave tx := by
  simp only [lock, discard, Table.get?_map]
  cases s.locks.get? k with
  | none => exact RowLock.leave_free.symm
  | some l => rfl

lemma get?_setTransaction : (s.setTransaction tx t).transactions.get? other
    = if tx = other then some t else s.transactions.get? other :=
  Table.get?_insert ..

lemma get?_discard : (s.discard tx).transactions.get? other
    = if tx = other then none else s.transactions.get? other :=
  Table.get?_erase ..

lemma get_transaction_setTransaction : (s.setTransaction tx t).transaction other
    = if tx = other then t else s.transaction other := by
  rw [transaction, get?_setTransaction]
  split <;> rfl

lemma get_transaction_discard : (s.discard tx).transaction other
    = if tx = other then .fresh else s.transaction other := by
  rw [transaction, get?_discard]
  split <;> rfl

/-- The transaction has begun and has not ended. -/
def IsOpen (s : Store) (tx : TxId) : Prop := ∃ t, s.transactions.get? tx = some t

lemma transaction_of_not_isOpen (h : ¬ s.IsOpen tx) : s.transaction tx = .fresh := by
  have hnone : s.transactions.get? tx = none :=
    Option.eq_none_iff_forall_ne_some.mpr fun t ht => h ⟨t, ht⟩
  rw [transaction, hnone, Option.getD_none]

end Store

/-- The transaction adjusts the row or makes a wallet for it. -/
def Transaction.Touches (t : Transaction) (key : WalletKey) : Prop :=
  key ∈ t.deltas.keys ∨ key ∈ t.provisioned.keys

lemma Transaction.not_touches_fresh {key : WalletKey} : ¬ fresh.Touches key := by
  simp [Touches, fresh, Table.keys, Table.empty]

namespace Store

lemma isOpen_of_touches {s : Store} {tx : TxId} {key : WalletKey}
    (h : (s.transaction tx).Touches key) : s.IsOpen tx := by
  by_contra hnot
  rw [transaction_of_not_isOpen hnot] at h
  exact Transaction.not_touches_fresh h

/-! ### Acts -/

/-- The acts of a transaction. -/
inductive Act (tx : TxId) : Store → Store → Prop where
  | strike {s s' : Store} {point : FaultPoint} (h : s.takeFault? point = some s') : Act tx s s'
  | begin {s : Store} (h : tx = ⟨s.begun⟩) :
      Act tx s { s.setTransaction tx .fresh with begun := s.begun + 1 }
  | request {s : Store} (key : WalletKey) (h : s.IsOpen tx) : Act tx s (s.requestRow tx key)
  | leave {s : Store} (key : WalletKey) (h : (s.lock key).holder ≠ some tx) :
      Act tx s (s.leaveRow tx key)
  | adjust {s : Store} {t : Transaction} (key : WalletKey) (total : Decimal)
      (ht : s.transactions.get? tx = some t) (hheld : (s.lock key).holder = some tx) :
      Act tx s (s.setTransaction tx { t with deltas := t.deltas.insert key total })
  | note {s : Store} {t : Transaction} (records : List TransactionRecord)
      (events : List OutboxEvent) (ht : s.transactions.get? tx = some t) :
      Act tx s (s.setTransaction tx { t with records, events })
  | draw {s : Store} : Act tx s { s with ids := s.ids.next }
  | provision {s : Store} {t : Transaction} (key : WalletKey) (now : Nat)
      (ht : s.transactions.get? tx = some t) (hheld : (s.lock key).holder = some tx)
      (hnew : s.walletId? tx key = none) :
      Act tx s { s.setTransaction tx
        { t with provisioned := t.provisioned.insert key (s.ids.wallet now).1 } with
          ids := s.ids.next }
  | discard {s : Store} : Act tx s (s.discard tx)
  | commit {s : Store} {t : Transaction} {wallets : Table WalletKey Wallet}
      (ht : s.transactions.get? tx = some t)
      (hw : committedWallets s.wallets t = .ok wallets) :
      Act tx s { s.discard tx with
        wallets
        journal := s.journal ++ t.records
        outbox := s.outbox ++ t.events.map fun event => ⟨event, false⟩ }

/-! ### What a commit does to rows -/

variable {wallets wallets' : Table WalletKey Wallet}

/-- A change of one balance leaves every other row and all identifiers as they are. -/
lemma get?_addDelta {entry : WalletKey × Decimal} (h : addDelta wallets entry = .ok wallets') :
    (wallets'.get? k).map (·.id) = (wallets.get? k).map (·.id) ∧
      (k ≠ entry.1 → wallets'.get? k = wallets.get? k) := by
  rw [addDelta] at h
  split at h
  · obtain rfl := Except.ok.inj h
    exact ⟨rfl, fun _ => rfl⟩
  · next wallet hw =>
    split at h
    · simp at h
    · split at h
      · simp at h
      · obtain rfl := Except.ok.inj h
        refine ⟨?_, fun hne => ?_⟩
        · rw [Table.get?_insert]
          split
          · next heq => rw [← heq, hw]; rfl
          · rfl
        · rw [Table.get?_insert, if_neg hne.symm]

/-- Changes of balances leave every other row and all identifiers as they are. -/
lemma get?_addDeltas (deltas : List (WalletKey × Decimal))
    (h : deltas.foldlM addDelta wallets = .ok wallets') :
    (wallets'.get? k).map (·.id) = (wallets.get? k).map (·.id) ∧
      (k ∉ deltas.map (·.1) → wallets'.get? k = wallets.get? k) := by
  induction deltas generalizing wallets with
  | nil =>
      obtain rfl := Except.ok.inj h
      exact ⟨rfl, fun _ => rfl⟩
  | cons entry deltas ih =>
      rw [List.foldlM_cons] at h
      cases hd : addDelta wallets entry with
      | error f => simp [hd, bind, Except.bind] at h
      | ok mid =>
          rw [hd] at h
          obtain ⟨hid, hrow⟩ := ih h
          obtain ⟨hid', hrow'⟩ := get?_addDelta (k := k) hd
          refine ⟨hid.trans hid', fun hk => ?_⟩
          rw [List.map_cons, List.mem_cons, not_or] at hk
          rw [hrow hk.2, hrow' hk.1]

/-- New wallets are added with their identifiers, and every other row stays as it is. -/
lemma get?_addWallets (entries : List (WalletKey × WalletId)) :
    (k ∉ entries.map (·.1) → (entries.foldl addWallet wallets).get? k = wallets.get? k) ∧
      (k ∈ entries.map (·.1) → ∃ id, (k, id) ∈ entries ∧
        (entries.foldl addWallet wallets).get? k = some ⟨id, .zero⟩) := by
  induction entries generalizing wallets with
  | nil => simp
  | cons entry entries ih =>
      rw [List.foldl_cons, List.map_cons]
      obtain ⟨hold, hnew⟩ := @ih (addWallet wallets entry)
      have hget : (addWallet wallets entry).get? k
          = if entry.1 = k then some ⟨entry.2, .zero⟩ else wallets.get? k :=
        Table.get?_insert ..
      refine ⟨fun hk => ?_, fun hk => ?_⟩
      · rw [List.mem_cons, not_or] at hk
        rw [hold hk.2, hget, if_neg (Ne.symm hk.1)]
      · by_cases hin : k ∈ entries.map (·.1)
        · obtain ⟨id, hid, hrow⟩ := hnew hin
          exact ⟨id, List.mem_cons_of_mem _ hid, hrow⟩
        · have heq : k = entry.1 := (List.mem_cons.mp hk).resolve_right hin
          refine ⟨entry.2, by simp [heq], ?_⟩
          rw [hold hin, hget, if_pos heq.symm]

/-- A row that a transaction does not touch is not changed by its commit. -/
lemma get?_committedWallets_of_not_touches (h : committedWallets wallets t = .ok wallets')
    (hk : ¬ t.Touches k) : wallets'.get? k = wallets.get? k := by
  rw [Transaction.Touches, not_or] at hk
  exact ((get?_addDeltas _ h).2 hk.1).trans ((get?_addWallets _).1 hk.2)

/-- A row that exists keeps its identifier unless the transaction makes a new wallet for it. -/
lemma id_committedWallets (h : committedWallets wallets t = .ok wallets')
    (hk : k ∉ t.provisioned.keys) : (wallets'.get? k).map (·.id) = (wallets.get? k).map (·.id) := by
  rw [(get?_addDeltas _ h).1]
  exact congrArg _ ((get?_addWallets _).1 hk)

/-- A row that the transaction makes a wallet for has an identifier of its own choice. -/
lemma exists_committedWallets (h : committedWallets wallets t = .ok wallets')
    (hk : k ∈ t.provisioned.keys) :
    ∃ id, (k, id) ∈ t.provisioned.entries ∧ (wallets'.get? k).map (·.id) = some id := by
  obtain ⟨id, hid, hrow⟩ := (@get?_addWallets _ k _).2 hk
  refine ⟨id, hid, ?_⟩
  rw [(get?_addDeltas _ h).1, show t.provisioned.toList = t.provisioned.entries from rfl, hrow]
  rfl

end Store

end Teller
