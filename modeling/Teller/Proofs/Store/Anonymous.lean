/-
What is the same in two runs apart from the identifiers that are made in them.

* `TransactionRecord.anonymous`, `WalletSnapshot.anonymous`, `NotificationEvent.anonymous`: with all
  identifiers that were made for them replaced by one;
* `OutboxEvent.Same`: two events carry notifications that differ in nothing else;
* `RowLock.Same`: two locks are held and waited for by corresponding transactions;
* `Transaction.Same`: two transactions are about to change the same in the rows of one account.
-/
import Teller.Proofs.Store.Act

namespace Teller

/-! ### Identifiers -/

/-- The record without the identifiers that were made for it. -/
def TransactionRecord.anonymous (r : TransactionRecord) : TransactionRecord :=
  { r with
    id := ⟨.random 0⟩
    wallet := ⟨.random 0⟩
    counterparty := r.counterparty.map fun _ => ⟨.random 0⟩ }

/-- Two records say the same, apart from the identifiers that were made for them. -/
def TransactionRecord.Same (r r' : TransactionRecord) : Prop := r.anonymous = r'.anonymous

/-- The snapshot without the identifier of its wallet. -/
def WalletSnapshot.anonymous (s : WalletSnapshot) : WalletSnapshot :=
  { s with wallet := ⟨.random 0⟩ }

/-- The notification without its identifier. -/
def NotificationEvent.anonymous (e : NotificationEvent) : NotificationEvent :=
  { e with envelope := ⟨.random 0⟩ }

/-- Two events carry the same notification, apart from its identifier. -/
def OutboxEvent.Same (e e' : OutboxEvent) : Prop :=
  ∃ n n', e = .ofNotification n ∧ e' = .ofNotification n' ∧ n.anonymous = n'.anonymous

/-! ### Results -/

/-- Two operations have failed alike, or given results that are related. -/
inductive SameResult {ε α β : Type} (R : α → β → Prop) : Except ε α → Except ε β → Prop where
  | error (e : ε) : SameResult R (.error e) (.error e)
  | ok {a : α} {b : β} (h : R a b) : SameResult R (.ok a) (.ok b)

/-- Two computations wait at related points, or have given related results. -/
inductive SameTurn {Point Point' Result Result' : Type} (P : Point → Point' → Prop)
    (R : Result → Result' → Prop) : Turn Point Result → Turn Point' Result' → Prop where
  | waiting {p : Point} {p' : Point'} (h : P p p') : SameTurn P R (.waiting p) (.waiting p')
  | done {r : Result} {r' : Result'} (h : R r r') : SameTurn P R (.done r) (.done r')

namespace WalletSnapshot

variable {account : AccountId} {s s' : WalletSnapshot}

lemma account_eq_of_anonymous (h : s.anonymous = s'.anonymous) : s'.account = s.account := by
  have haccount : s.anonymous.account = s'.anonymous.account := congrArg _ h
  exact haccount.symm

lemma currency_eq_of_anonymous (h : s.anonymous = s'.anonymous) : s'.currency = s.currency := by
  have hcurrency : s.anonymous.currency = s'.anonymous.currency := congrArg _ h
  exact hcurrency.symm

lemma balances_eq_of_anonymous (h : s.anonymous = s'.anonymous) : s'.balances = s.balances := by
  have hbalances : s.anonymous.balances = s'.anonymous.balances := congrArg _ h
  exact hbalances.symm

/-- Two snapshots show the same of an account, apart from the identifier of the wallet. -/
structure Same (account : AccountId) (s s' : WalletSnapshot) : Prop where
  account_eq : s.account = account
  anonymous_eq : s.anonymous = s'.anonymous

lemma Same.account_eq' (h : s.Same account s') : s'.account = account :=
  (account_eq_of_anonymous h.anonymous_eq).trans h.account_eq

end WalletSnapshot

/-- The same became of two adjustments in an account, apart from the identifier of the wallet. -/
inductive AdjustOutcome.Same (account : AccountId) : AdjustOutcome → AdjustOutcome → Prop where
  | applied {s s' : WalletSnapshot} (h : s.Same account s') :
      Same account (.applied s) (.applied s')
  | insufficientFunds : Same account .insufficientFunds .insufficientFunds

/-! ### Locks -/

namespace RowLock

variable {T T' : TxId → TxId → Prop} {l l' : RowLock} {tx tx' : TxId}

/-- Two locks are held and waited for by corresponding transactions. -/
structure Same (T : TxId → TxId → Prop) (l l' : RowLock) : Prop where
  holder : Option.Rel T l.holder l'.holder
  queue : List.Forall₂ T l.queue l'.queue

lemma same_free : free.Same T free := ⟨.none, .nil⟩

lemma same_refl (l : RowLock) : l.Same Eq l := by
  refine ⟨?_, List.forall₂_refl _⟩
  cases l.holder with
  | none => exact .none
  | some tx => exact .some rfl

/-- Locks that are the same are the same by any correspondence of the transactions that they
know. -/
lemma Same.mono (h : l.Same T l')
    (hT : ∀ {t t'}, T t t' → l.Knows t → l'.Knows t' → T' t t') : l.Same T' l' := by
  obtain ⟨holder, queue⟩ := l
  obtain ⟨holder', queue'⟩ := l'
  obtain ⟨hholder, hqueue⟩ := h
  refine ⟨?_, ?_⟩
  · cases hholder with
    | none => exact .none
    | some htx => exact .some (hT htx (.inl rfl) (.inl rfl))
  · refine List.forall₂_iff_get.mpr ⟨hqueue.length_eq, fun i hi hi' => ?_⟩
    exact hT (hqueue.get hi hi') (.inr (List.get_mem ..)) (.inr (List.get_mem ..))

variable (hT : Relator.BiUnique T) (htx : T tx tx')

include hT htx

lemma Same.holder_eq_iff (h : l.Same T l') : l.holder = some tx ↔ l'.holder = some tx' := by
  obtain ⟨holder, queue⟩ := l
  obtain ⟨holder', queue'⟩ := l'
  obtain ⟨hholder, -⟩ := h
  cases hholder with
  | none => simp
  | some ht => simpa using Relator.rel_eq hT ht htx

/-- The same is asked of two locks. -/
lemma Same.request (h : l.Same T l') : (l.request tx).Same T (l'.request tx') := by
  have hmem : tx ∈ l.queue ↔ tx' ∈ l'.queue := List.rel_mem hT htx h.queue
  obtain ⟨holder, queue⟩ := l
  obtain ⟨holder', queue'⟩ := l'
  obtain ⟨hholder, hqueue⟩ := h
  cases hholder with
  | none => exact ⟨.some htx, hqueue⟩
  | @some t t' ht =>
      have hknown : (t = tx ∨ tx ∈ queue) ↔ (t' = tx' ∨ tx' ∈ queue') :=
        or_congr (Relator.rel_eq hT ht htx) hmem
      simp only [RowLock.request, hknown]
      split
      · exact ⟨.some ht, hqueue⟩
      · exact ⟨.some ht, List.rel_append hqueue (.cons htx .nil)⟩

/-- The same leaves two locks. -/
lemma Same.leave (h : l.Same T l') : (l.leave tx).Same T (l'.leave tx') := by
  have hqueue : List.Forall₂ T (l.queue.filter (· ≠ tx)) (l'.queue.filter (· ≠ tx')) := by
    refine List.rel_filter (fun t t' ht => ?_) h.queue
    simpa using (Relator.rel_eq hT ht htx).not
  simp only [RowLock.leave, h.holder_eq_iff hT htx]
  generalize l.queue.filter (· ≠ tx) = queue at hqueue ⊢
  generalize l'.queue.filter (· ≠ tx') = queue' at hqueue ⊢
  split
  · cases hqueue with
    | nil => exact ⟨.none, .nil⟩
    | cons ht hrest => exact ⟨.some ht, hrest⟩
  · exact ⟨h.holder, hqueue⟩

end RowLock

/-- A lock that a transaction does not know is as it was when the transaction has left. -/
lemma RowLock.leave_of_not_knows {l : RowLock} {tx : TxId} (h : ¬ l.Knows tx) : l.leave tx = l := by
  obtain ⟨holder, queue⟩ := l
  rw [Knows, not_or] at h
  have hqueue : queue.filter (· ≠ tx) = queue := by
    refine List.filter_eq_self.mpr fun t ht => ?_
    simpa using fun heq : t = tx => h.2 (heq ▸ ht)
  simp only [leave, hqueue, if_neg h.1]

/-! ### Transactions -/

/-- A write adds its key at the end, if it is not there yet. -/
lemma Table.keys_insert {κ α : Type} [DecidableEq κ] (t : Table κ α) (k : κ) (a : α) :
    (t.insert k a).keys = if k ∈ t.keys then t.keys else t.keys ++ [k] := by
  obtain ⟨es⟩ := t
  induction es with
  | nil => rfl
  | cons e es ih => grind [keys, insert, put]

/-- Two transactions are about to change the same in the rows of an account. -/
structure Transaction.Same (account : AccountId) (t t' : Transaction) : Prop where
  deltas : t.deltas = t'.deltas
  adjusts {key : WalletKey} : key ∈ t.deltas.keys → key.account = account
  provisioned : t.provisioned.keys = t'.provisioned.keys
  provisions {key : WalletKey} : key ∈ t.provisioned.keys → key.account = account
  records : List.Forall₂ TransactionRecord.Same t.records t'.records
  events : List.Forall₂ OutboxEvent.Same t.events t'.events

namespace Transaction

variable {account : AccountId} {t t' : Transaction}

lemma same_fresh (account : AccountId) : fresh.Same account fresh where
  deltas := rfl
  adjusts h := absurd h List.not_mem_nil
  provisioned := rfl
  provisions h := absurd h List.not_mem_nil
  records := .nil
  events := .nil

/-- The same change of a balance joins two transactions. -/
lemma Same.adjust (h : t.Same account t') (c : Currency) (total : Decimal) :
    Same account { t with deltas := t.deltas.insert ⟨account, c⟩ total }
      { t' with deltas := t'.deltas.insert ⟨account, c⟩ total } where
  deltas := by rw [h.deltas]
  adjusts hk := by
    rcases Table.mem_keys_insert.mp hk with rfl | hk
    · rfl
    · exact h.adjusts hk
  provisioned := h.provisioned
  provisions := h.provisions
  records := h.records
  events := h.events

/-- A wallet for the same row joins two transactions. -/
lemma Same.provision (h : t.Same account t') (c : Currency) (id id' : WalletId) :
    Same account { t with provisioned := t.provisioned.insert ⟨account, c⟩ id }
      { t' with provisioned := t'.provisioned.insert ⟨account, c⟩ id' } where
  deltas := h.deltas
  adjusts := h.adjusts
  provisioned := by rw [Table.keys_insert, Table.keys_insert, h.provisioned]
  provisions hk := by
    rcases Table.mem_keys_insert.mp hk with rfl | hk
    · rfl
    · exact h.provisions hk
  records := h.records
  events := h.events

/-- The same record joins two transactions. -/
lemma Same.append (h : t.Same account t') {r r' : TransactionRecord}
    (hr : r.Same r') :
    Same account { t with records := t.records ++ [r] }
      { t' with records := t'.records ++ [r'] } where
  deltas := h.deltas
  adjusts := h.adjusts
  provisioned := h.provisioned
  provisions := h.provisions
  records := List.rel_append h.records (.cons hr .nil)
  events := h.events

/-- The same event joins two transactions. -/
lemma Same.enqueue (h : t.Same account t') {e e' : OutboxEvent} (he : e.Same e') :
    Same account { t with events := t.events ++ [e] } { t' with events := t'.events ++ [e'] } where
  deltas := h.deltas
  adjusts := h.adjusts
  provisioned := h.provisioned
  provisions := h.provisions
  records := h.records
  events := List.rel_append h.events (.cons he .nil)

end Transaction

end Teller
