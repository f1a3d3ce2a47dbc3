/-
Rows that say when they were created, from a transaction to where they are kept.

* `Register`: the journal of some wallets, or the outbox; `Register.rows`: the times of the rows
  that are kept there; `Register.held`: the times of those that a transaction holds back until its
  commit;
* `Register.Spares`: an operation that hands in no row: an adjustment, or one that keeps to the
  frame (`Register.isFrame`);
* `Register.Grows`: an operation that may hand in rows of one time;
* `Register.Keeps`: a commit that puts what was held back behind the rows that are kept
  (`Register.keeps_commit`); any other commit hands in no row (`Register.spares_commit`).
-/
import Teller.Proofs.Store.Frame
import Teller.Proofs.Store.Provisioning

namespace Teller

/-- Where rows are kept that say when they were created: the journal of some wallets, or the
outbox. -/
inductive Register where
  | journal (wallets : List WalletId)
  | outbox

namespace Register

/-- The times of the rows that are kept, in their order. -/
def rows (s : Store) : Register → List Timestamp
  | journal wallets => (s.journal.filter fun r => wallets.contains r.wallet).map (·.createdAt)
  | outbox => s.outbox.map (·.event.createdAt)

/-- The times of the rows that a transaction holds back, in their order. -/
def held (t : Transaction) : Register → List Timestamp
  | journal wallets => (t.records.filter fun r => wallets.contains r.wallet).map (·.createdAt)
  | outbox => t.events.map (·.createdAt)

variable {r : Register} {s s' s'' : Store} {tx other : TxId} {t t' : Transaction}
  {stamp : Timestamp}

@[simp] lemma held_fresh (r : Register) : r.held .fresh = [] := by
  cases r <;> rfl

lemma held_congr (hrecords : t'.records = t.records) (hevents : t'.events = t.events) :
    r.held t' = r.held t := by
  cases r with
  | journal wallets => rw [held, held, hrecords]
  | outbox => rw [held, held, hevents]

lemma rows_congr (hjournal : s'.journal = s.journal) (houtbox : s'.outbox = s.outbox) :
    r.rows s' = r.rows s := by
  cases r with
  | journal wallets => rw [rows, rows, hjournal]
  | outbox => rw [rows, rows, houtbox]

/-! ### Operations that hand in no row -/

/-- The rows that are kept stay, and what a transaction holds back stays or is forgotten. -/
structure Spares (r : Register) (s s' : Store) : Prop where
  rows : r.rows s' = r.rows s
  held (tx : TxId) : r.held (s'.transaction tx) = r.held (s.transaction tx) ∨
    r.held (s'.transaction tx) = []

namespace Spares

/-- Faults, locks and identifiers do not matter. -/
lemma of_eq (hjournal : s'.journal = s.journal) (houtbox : s'.outbox = s.outbox)
    (htransactions : s'.transactions = s.transactions) : r.Spares s s' where
  rows := rows_congr hjournal houtbox
  held tx := .inl (by rw [Store.transaction, htransactions]; rfl)

lemma trans (h : r.Spares s s') (h' : r.Spares s' s'') : r.Spares s s'' where
  rows := h'.rows.trans h.rows
  held tx := by
    rcases h'.held tx with hsame | hnone
    · rw [hsame]
      exact h.held tx
    · exact .inr hnone

lemma setTransaction (h : r.held t = r.held (s.transaction tx) ∨ r.held t = []) :
    r.Spares s (s.setTransaction tx t) where
  rows := rows_congr rfl rfl
  held other := by
    rw [Store.get_transaction_setTransaction]
    split
    · next heq => exact heq ▸ h
    · exact .inl rfl

lemma discard (s : Store) (tx : TxId) : r.Spares s (s.discard tx) where
  rows := rows_congr rfl rfl
  held other := by
    rw [Store.get_transaction_discard]
    split
    · exact .inr (held_fresh r)
    · exact .inl rfl

end Spares

/-- No operation that only makes new wallets, or forgets, hands in a row. -/
lemma isFrame (r : Register) : Store.IsFrame r.Spares where
  trans := Spares.trans
  of_eq _ hjournal houtbox htransactions := .of_eq hjournal houtbox htransactions
  makes _ _ _ := .setTransaction (.inl (held_congr rfl rfl))
  opens _ _ := .setTransaction (.inr (held_fresh r))
  discard := .discard

namespace Spares

lemma adjustHeld (s : Store) (a : Adjustment) (wallet : WalletId) :
    r.Spares s (s.adjustHeld a wallet).1 := by
  rcases s.adjustHeld_cases a wallet with hsame | ⟨total, hset⟩
  · rw [hsame]
    exact r.isFrame.refl s
  · rw [hset]
    exact setTransaction (.inl (held_congr rfl rfl))

lemma resumeAdjust (s : Store) (clock : Clock) (w : AdjustWait) :
    r.Spares s (s.resumeAdjust clock w).1 := by
  rw [Store.resumeAdjust]
  split
  · exact adjustHeld s w.adjustment w.wallet
  · exact r.isFrame.refl s
  · exact of_eq rfl rfl rfl

lemma adjust (s : Store) (clock : Clock) (a : Adjustment) : r.Spares s (s.adjust clock a).1 := by
  rw [Store.adjust]
  split
  · exact r.isFrame.refl s
  · have hasked : r.Spares s (s.requestRow a.tx a.key) := of_eq rfl rfl rfl
    exact hasked.trans (resumeAdjust _ clock _)

end Spares

/-! ### Operations that hand in rows -/

/-- The rows that are kept stay, and what a transaction holds back grows by rows of this time, or is
forgotten. -/
structure Grows (r : Register) (stamp : Timestamp) (s s' : Store) : Prop where
  rows : r.rows s' = r.rows s
  held (tx : TxId) : r.held (s'.transaction tx) = [] ∨ ∃ n,
    r.held (s'.transaction tx) = r.held (s.transaction tx) ++ List.replicate n stamp

lemma Spares.grows (h : r.Spares s s') (stamp : Timestamp) : r.Grows stamp s s' where
  rows := h.rows
  held tx := (h.held tx).elim (fun hsame => .inr ⟨0, hsame.trans (List.append_nil _).symm⟩) .inl

namespace Grows

lemma setTransaction {n : ℕ}
    (h : r.held t = r.held (s.transaction tx) ++ List.replicate n stamp) :
    r.Grows stamp s (s.setTransaction tx t) where
  rows := rows_congr rfl rfl
  held other := by
    rw [Store.get_transaction_setTransaction]
    split
    · next heq => exact .inr ⟨n, heq ▸ h⟩
    · exact .inr ⟨0, (List.append_nil _).symm⟩

/-- A record joins those that the transaction holds back, if it is about one of the wallets. -/
lemma append (s : Store) (tx : TxId) (record : TransactionRecord) :
    r.Grows record.createdAt s (s.append tx record).1 := by
  rw [Store.append]
  split
  · next h => exact (r.isFrame.strike h).grows _
  · cases r with
    | journal wallets =>
        by_cases hw : record.wallet ∈ wallets
        · exact setTransaction (n := 1) (by simp [Register.held, hw])
        · exact setTransaction (n := 0) (by simp [Register.held, hw])
    | outbox => exact setTransaction (n := 0) (List.append_nil _).symm

lemma enqueue (s : Store) (tx : TxId) (event : OutboxEvent) :
    r.Grows event.createdAt s (s.enqueue tx event).1 := by
  rw [Store.enqueue]
  split
  · next h => exact (r.isFrame.strike h).grows _
  · cases r with
    | journal wallets => exact setTransaction (n := 0) (List.append_nil _).symm
    | outbox => exact setTransaction (n := 1) (by simp [Register.held])

end Grows

/-! ### Commits -/

/-- What the transaction held back is kept behind the other rows, and no transaction holds back
more. -/
structure Keeps (r : Register) (tx : TxId) (s s' : Store) : Prop where
  rows : r.rows s' = r.rows s ++ r.held (s.transaction tx)
  held (other : TxId) : r.held (s'.transaction other) = r.held (s.transaction other) ∨
    r.held (s'.transaction other) = []

/-- A commit that makes all its changes. -/
lemma keeps_commit (h : (s.commit tx).2.isOk = true) : r.Keeps tx s (s.commit tx).1 := by
  have hdiscard : r.Spares s (s.discard tx) := .discard s tx
  rw [Store.commit] at h ⊢
  split
  · next hf => simp [hf, Except.isOk, Except.toBool] at h
  · next hf =>
    dsimp only
    split
    · next hw => simp [hf, hw, Except.isOk, Except.toBool] at h
    · refine ⟨?_, hdiscard.held⟩
      cases r with
      | journal wallets => simp [Register.rows, Register.held]
      | outbox => simp [Register.rows, Register.held]

/-- A commit that is struck or stopped. -/
lemma spares_commit (h : (s.commit tx).2.isOk ≠ true) : r.Spares s (s.commit tx).1 := by
  have hdiscard : r.Spares s (s.discard tx) := .discard s tx
  rw [Store.commit] at h ⊢
  split
  · next hf => exact (r.isFrame.strike hf).trans (.discard _ tx)
  · next hf =>
    dsimp only
    split
    · exact ⟨hdiscard.rows, hdiscard.held⟩
    · next hw => simp [hf, hw, Except.isOk, Except.toBool] at h

end Register

end Teller
