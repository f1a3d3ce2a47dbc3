/-
What transactions that act on one store leave to each other.

* `Store.Disciplined`: transactions hold the rows that they touch, no row is held by one that has
  ended, and new wallets are for rows that have none; every act keeps that (`Disciplined.act`);
* `Store.Later`: what a transaction can rely on: its own changes, its locks and the rows under them
  stay as they are, and no wallet goes away; every act of another leaves it that (`Later.of_act`);
* `Store.Alone`: nobody else has begun and no fault is to strike; `Alone.act` keeps it;
* `Store.Path`: any number of acts of one transaction.
-/
import Teller.Proofs.Store.Act

namespace Teller.Store

variable {s s' s'' : Store} {tx other : TxId} {t t' : Transaction} {key : WalletKey}

/-! ### What every act keeps -/

/-- What holds of a store whatever transactions do. -/
structure Disciplined (s : Store) : Prop where
  isOpen_of_knows {key : WalletKey} {tx : TxId} : (s.lock key).Knows tx → s.IsOpen tx
  serial_lt {tx : TxId} : s.IsOpen tx → tx.serial < s.begun
  holder {tx : TxId} {t : Transaction} {key : WalletKey} : s.transactions.get? tx = some t →
    t.Touches key → (s.lock key).holder = some tx
  noRow {tx : TxId} {t : Transaction} {key : WalletKey} : s.transactions.get? tx = some t →
    key ∈ t.provisioned.keys → s.wallets.get? key = none

lemma isOpen_setTransaction :
    (s.setTransaction tx t).IsOpen other ↔ tx = other ∨ s.IsOpen other := by
  rw [IsOpen, get?_setTransaction]
  split
  · next h => simp [h]
  · next h => simp [h, IsOpen]

lemma isOpen_discard : (s.discard tx).IsOpen other ↔ tx ≠ other ∧ s.IsOpen other := by
  rw [IsOpen, get?_discard]
  split
  · next h => simp [h]
  · next h => simp [h, IsOpen]

lemma takeFault?_eq_some {point : FaultPoint} (h : s.takeFault? point = some s') :
    point ∈ s.faults ∧ s' = { s with faults := s.faults.erase point } := by
  rw [takeFault?] at h
  split at h
  · next hmem => exact ⟨hmem, (Option.some.inj h).symm⟩
  · simp at h

namespace Disciplined

lemma empty (lockTimeout : Nat) (ids : IdSupply) : (Store.empty lockTimeout ids).Disciplined where
  isOpen_of_knows h := absurd h RowLock.not_knows_free
  serial_lt := by simp [IsOpen, Store.empty]
  holder := by simp [Store.empty]
  noRow := by simp [Store.empty]

/-- The next transaction has not begun yet. -/
lemma not_isOpen_begun (hs : s.Disciplined) : ¬ s.IsOpen ⟨s.begun⟩ :=
  fun ho => (hs.serial_lt ho).ne rfl

/-- Faults, identifiers and deliveries do not matter. -/
lemma of_eq (hs : s.Disciplined) (hlocks : s'.locks = s.locks)
    (htransactions : s'.transactions = s.transactions) (hbegun : s'.begun = s.begun)
    (hwallets : s'.wallets = s.wallets) : s'.Disciplined := by
  obtain ⟨_, _, _, _, _, _, _, _, _⟩ := s'
  cases hlocks
  cases htransactions
  cases hbegun
  cases hwallets
  exact ⟨hs.isOpen_of_knows, hs.serial_lt, hs.holder, hs.noRow⟩

/-- A transaction that holds what it touches may change what it is about to do. -/
lemma setTransaction (hs : s.Disciplined) (hopen : s.IsOpen tx)
    (hholder : ∀ key, t.Touches key → (s.lock key).holder = some tx)
    (hnoRow : ∀ key ∈ t.provisioned.keys, s.wallets.get? key = none) :
    (s.setTransaction tx t).Disciplined where
  isOpen_of_knows h := isOpen_setTransaction.mpr (.inr (hs.isOpen_of_knows h))
  serial_lt h := by
    rcases isOpen_setTransaction.mp h with rfl | h
    · exact hs.serial_lt hopen
    · exact hs.serial_lt h
  holder {tx' t' key} ht htouch := by
    rw [get?_setTransaction] at ht
    split at ht
    · next heq =>
      obtain rfl := Option.some.inj ht
      exact heq ▸ hholder key htouch
    · exact hs.holder ht htouch
  noRow {tx' t' key} ht hk := by
    rw [get?_setTransaction] at ht
    split at ht
    · obtain rfl := Option.some.inj ht
      exact hnoRow key hk
    · exact hs.noRow ht hk

lemma begin (hs : s.Disciplined) :
    { s.setTransaction ⟨s.begun⟩ .fresh with begun := s.begun + 1 }.Disciplined where
  isOpen_of_knows h := isOpen_setTransaction.mpr (.inr (hs.isOpen_of_knows h))
  serial_lt h := by
    rcases isOpen_setTransaction.mp h with rfl | h
    · exact Nat.lt_succ_self _
    · exact Nat.lt_succ_of_lt (hs.serial_lt h)
  holder {tx' t' key} ht htouch := by
    rw [show Table.get? _ tx' = _ from get?_setTransaction] at ht
    split at ht
    · obtain rfl := Option.some.inj ht
      exact absurd htouch Transaction.not_touches_fresh
    · exact hs.holder ht htouch
  noRow {tx' t' key} ht hk := by
    rw [show Table.get? _ tx' = _ from get?_setTransaction] at ht
    split at ht
    · obtain rfl := Option.some.inj ht
      simp [Transaction.fresh, Table.keys, Table.empty] at hk
    · exact hs.noRow ht hk

lemma requestRow (hs : s.Disciplined) (hopen : s.IsOpen tx) :
    (s.requestRow tx key).Disciplined where
  isOpen_of_knows {key' tx'} h := by
    rw [lock_requestRow] at h
    split at h
    · rcases RowLock.knows_of_request h with h | rfl
      · exact hs.isOpen_of_knows h
      · exact hopen
    · exact hs.isOpen_of_knows h
  serial_lt h := hs.serial_lt h
  holder ht htouch := held_requestRow (hs.holder ht htouch)
  noRow ht hk := hs.noRow ht hk

lemma not_touches (hs : s.Disciplined) (hnot : (s.lock key).holder ≠ some tx) :
    ¬ (s.transaction tx).Touches key := by
  intro htouch
  obtain ⟨t, ht⟩ := isOpen_of_touches htouch
  rw [transaction, ht, Option.getD_some] at htouch
  exact hnot (hs.holder ht htouch)

/-- A row that has not been touched can be given up, whether it has been granted or not. -/
lemma leaveRow (hs : s.Disciplined) (hnot : ¬ (s.transaction tx).Touches key) :
    (s.leaveRow tx key).Disciplined where
  isOpen_of_knows h := hs.isOpen_of_knows (knows_of_leaveRow h)
  serial_lt h := hs.serial_lt h
  holder {tx' t' key'} ht htouch := by
    have hheld := hs.holder ht htouch
    -- the transaction itself has touched other rows only
    rcases eq_or_ne tx' tx with rfl | hne
    · have hother : key ≠ key' := by
        rintro rfl
        rw [transaction, show s.transactions.get? tx' = some t' from ht] at hnot
        exact hnot htouch
      rwa [lock_leaveRow, if_neg hother]
    · exact held_leaveRow hheld hne
  noRow ht hk := hs.noRow ht hk

lemma discard (hs : s.Disciplined) : (s.discard tx).Disciplined where
  isOpen_of_knows {key' tx'} h := by
    rw [lock_discard] at h
    obtain ⟨hknows, hne⟩ := RowLock.knows_of_leave h
    exact isOpen_discard.mpr ⟨hne.symm, hs.isOpen_of_knows hknows⟩
  serial_lt h := hs.serial_lt (isOpen_discard.mp h).2
  holder {tx' t' key'} ht htouch := by
    rw [get?_discard] at ht
    split at ht
    · simp at ht
    · next hne =>
      rw [lock_discard]
      exact RowLock.holder_leave (hs.holder ht htouch) (Ne.symm hne)
  noRow {tx' t' key'} ht hk := by
    rw [get?_discard] at ht
    split at ht
    · simp at ht
    · exact hs.noRow ht hk

/-- A commit changes no row that another transaction has in mind: the other would hold it. -/
lemma get?_commit {wallets : Table WalletKey Wallet} (hs : s.Disciplined)
    (ht : s.transactions.get? tx = some t) (hw : committedWallets s.wallets t = .ok wallets)
    (hother : (s.lock key).holder = some other) (hne : other ≠ tx) :
    wallets.get? key = s.wallets.get? key := by
  refine get?_committedWallets_of_not_touches hw fun htouch => hne ?_
  exact Option.some.inj (hother.symm.trans (hs.holder ht htouch))

/-- Every act keeps the discipline. -/
theorem act (hs : s.Disciplined) (h : Act tx s s') : s'.Disciplined := by
  cases h with
  | strike h =>
      obtain ⟨-, rfl⟩ := takeFault?_eq_some h
      exact hs.of_eq rfl rfl rfl rfl
  | begin h => exact h ▸ hs.begin
  | request key h => exact hs.requestRow h
  | leave key h => exact hs.leaveRow (hs.not_touches h)
  | adjust key total ht hheld =>
      refine hs.setTransaction ⟨_, ht⟩ (fun key' htouch => ?_) fun key' hk => hs.noRow ht hk
      -- the row that is adjusted is held, and so are those that have been touched before
      rcases htouch with hk | hk
      · rcases Table.mem_keys_insert.mp hk with rfl | hk
        · exact hheld
        · exact hs.holder ht (.inl hk)
      · exact hs.holder ht (.inr hk)
  | note records events ht =>
      exact hs.setTransaction ⟨_, ht⟩ (fun _ htouch => hs.holder ht htouch)
        fun _ hk => hs.noRow ht hk
  | draw => exact hs.of_eq rfl rfl rfl rfl
  | @provision t key now ht hheld hnew =>
      rw [walletId?, Option.or_eq_none_iff, Option.map_eq_none_iff] at hnew
      have hset : (s.setTransaction tx
          { t with provisioned := t.provisioned.insert key (s.ids.wallet now).1 }).Disciplined := by
        refine hs.setTransaction ⟨_, ht⟩ (fun key' htouch => ?_) fun key' hk => ?_
        · rcases htouch with hk | hk
          · exact hs.holder ht (.inl hk)
          · rcases Table.mem_keys_insert.mp hk with rfl | hk
            · exact hheld
            · exact hs.holder ht (.inr hk)
        · rcases Table.mem_keys_insert.mp hk with rfl | hk
          · exact hnew.2
          · exact hs.noRow ht hk
      exact hset.of_eq rfl rfl rfl rfl
  | discard => exact hs.discard
  | @commit t wallets ht hw =>
      -- a commit is a discard, after which some rows are new or have other balances
      have hd : (s.discard tx).Disciplined := hs.discard
      refine ⟨hd.isOpen_of_knows, hd.serial_lt, hd.holder, ?_⟩
      intro tx' t' key' ht' hk
      have hopen := (isOpen_discard.mp ⟨_, ht'⟩).1
      rw [show Table.get? _ tx' = _ from get?_discard, if_neg hopen] at ht'
      exact (hs.get?_commit ht hw (hs.holder ht' (.inr hk)) hopen.symm).trans (hs.noRow ht' hk)

end Disciplined

/-! ### What others leave to a transaction -/

/-- What a transaction can rely on while others act. -/
structure Later (tx : TxId) (s s' : Store) : Prop where
  content : s'.transactions.get? tx = s.transactions.get? tx
  holder {key : WalletKey} : (s.lock key).holder = some tx → (s'.lock key).holder = some tx
  row {key : WalletKey} : (s.lock key).holder = some tx → s'.wallets.get? key = s.wallets.get? key
  id {key : WalletKey} {id : WalletId} : (s.wallets.get? key).map (·.id) = some id →
    (s'.wallets.get? key).map (·.id) = some id

namespace Later

lemma refl (tx : TxId) (s : Store) : Later tx s s := ⟨rfl, fun h => h, fun _ => rfl, fun h => h⟩

lemma trans (h : Later tx s s') (h' : Later tx s' s'') : Later tx s s'' where
  content := h'.content.trans h.content
  holder hk := h'.holder (h.holder hk)
  row hk := (h'.row (h.holder hk)).trans (h.row hk)
  id hid := h'.id (h.id hid)

/-- Faults, identifiers and deliveries do not matter. -/
lemma of_eq (hlocks : s'.locks = s.locks) (htransactions : s'.transactions = s.transactions)
    (hwallets : s'.wallets = s.wallets) : Later tx s s' where
  content := by rw [htransactions]
  holder hk := by rwa [lock, hlocks]
  row _ := by rw [hwallets]
  id hid := by rwa [hwallets]

lemma setTransaction (hne : tx ≠ other) : Later other s (s.setTransaction tx t) where
  content := by rw [get?_setTransaction, if_neg hne]
  holder hk := hk
  row _ := rfl
  id hid := hid

lemma discard (hne : tx ≠ other) : Later other s (s.discard tx) where
  content := by rw [get?_discard, if_neg hne]
  holder hk := by
    rw [lock_discard]
    exact RowLock.holder_leave hk hne.symm
  row _ := rfl
  id hid := hid

lemma leaveRow (hne : tx ≠ other) (key : WalletKey) : Later other s (s.leaveRow tx key) :=
  ⟨rfl, fun hk => held_leaveRow hk hne.symm, fun _ => rfl, fun hid => hid⟩

/-- What every act of a transaction leaves to all others. -/
theorem of_act (hs : s.Disciplined) (h : Act tx s s') (hne : tx ≠ other) : Later other s s' := by
  cases h with
  | strike h =>
      obtain ⟨-, rfl⟩ := takeFault?_eq_some h
      exact of_eq rfl rfl rfl
  | begin => exact (setTransaction hne).trans (of_eq rfl rfl rfl)
  | request => exact ⟨rfl, held_requestRow, fun _ => rfl, fun hid => hid⟩
  | leave key => exact leaveRow hne key
  | adjust => exact setTransaction hne
  | note => exact setTransaction hne
  | draw => exact of_eq rfl rfl rfl
  | provision => exact (setTransaction hne).trans (of_eq rfl rfl rfl)
  | discard => exact discard hne
  | @commit t wallets ht hw =>
      have hd : Later other s (s.discard tx) := discard hne
      refine ⟨hd.content, hd.holder, fun {key} hk => hs.get?_commit ht hw hk hne.symm, ?_⟩
      intro key id hid
      by_cases hk : key ∈ t.provisioned.keys
      · -- a row that a new wallet is for has none yet
        simp [hs.noRow ht hk] at hid
      · exact (id_committedWallets hw hk).trans hid

end Later

/-! ### A transaction on its own -/

/-- No fault is to strike, and no other transaction has begun. -/
def Alone (s : Store) (tx : TxId) : Prop :=
  s.faults = [] ∧ ∀ other, s.IsOpen other → other = tx

/-- A transaction that acts on its own stays on its own. -/
lemma Alone.act (hs : s.Alone tx) (h : Act tx s s') : s'.Alone tx := by
  obtain ⟨hfaults, hothers⟩ := hs
  cases h with
  | strike h =>
      obtain ⟨hmem, -⟩ := takeFault?_eq_some h
      simp [hfaults] at hmem
  | begin => exact ⟨hfaults, fun _ ho => (isOpen_setTransaction.mp ho).elim Eq.symm (hothers _)⟩
  | request => exact ⟨hfaults, hothers⟩
  | leave => exact ⟨hfaults, hothers⟩
  | adjust => exact ⟨hfaults, fun _ ho => (isOpen_setTransaction.mp ho).elim Eq.symm (hothers _)⟩
  | note => exact ⟨hfaults, fun _ ho => (isOpen_setTransaction.mp ho).elim Eq.symm (hothers _)⟩
  | draw => exact ⟨hfaults, hothers⟩
  | provision => exact ⟨hfaults, fun _ ho => (isOpen_setTransaction.mp ho).elim Eq.symm (hothers _)⟩
  | discard => exact ⟨hfaults, fun _ ho => hothers _ (isOpen_discard.mp ho).2⟩
  | commit => exact ⟨hfaults, fun _ ho => hothers _ (isOpen_discard.mp ho).2⟩

/-- A row that is asked for in peace is granted. -/
lemma Alone.holder_request (halone : s.Alone tx) (hs : s.Disciplined) (key : WalletKey) :
    ((s.requestRow tx key).lock key).holder = some tx := by
  rw [lock_requestRow, if_pos rfl]
  exact RowLock.holder_request_eq_self fun t hne ht =>
    hne (halone.2 t (hs.isOpen_of_knows (.inl ht)))

/-- A transaction that comes to know a row is the one that acts. -/
lemma Act.knows (h : Act tx s s') (hk : (s'.lock key).Knows other) :
    (s.lock key).Knows other ∨ other = tx := by
  cases h with
  | strike h =>
      obtain ⟨-, rfl⟩ := takeFault?_eq_some h
      exact .inl hk
  | request key' h =>
      rw [lock_requestRow] at hk
      split at hk
      · next heq => exact heq ▸ RowLock.knows_of_request hk
      · exact .inl hk
  | leave => exact .inl (knows_of_leaveRow hk)
  | discard =>
      rw [lock_discard] at hk
      exact .inl (RowLock.knows_of_leave hk).1
  | @commit t wallets ht hw =>
      have hdiscard : ((s.discard tx).lock key).Knows other := hk
      rw [lock_discard] at hdiscard
      exact .inl (RowLock.knows_of_leave hdiscard).1
  | _ => exact .inl hk

/-- How long rows are waited for never changes. -/
lemma Act.lockTimeout_eq (h : Act tx s s') : s'.lockTimeout = s.lockTimeout := by
  cases h with
  | strike h =>
      obtain ⟨-, rfl⟩ := takeFault?_eq_some h
      rfl
  | _ => rfl

/-! ### Many acts -/

/-- Any number of acts of one transaction. -/
def Path (tx : TxId) : Store → Store → Prop := Relation.ReflTransGen (Act tx)

/-- Only a transaction that begins becomes open, and its number is new. -/
lemma Act.isOpen (h : Act tx s s') (ho : s'.IsOpen other) :
    s.IsOpen other ∨ (other = tx ∧ s.begun ≤ tx.serial ∧ tx.serial < s'.begun) := by
  cases h with
  | strike h =>
      obtain ⟨-, rfl⟩ := takeFault?_eq_some h
      exact .inl ho
  | begin h =>
      rcases isOpen_setTransaction.mp ho with rfl | ho
      · exact .inr ⟨rfl, h ▸ le_rfl, h ▸ Nat.lt_succ_self _⟩
      · exact .inl ho
  | request => exact .inl ho
  | leave => exact .inl ho
  | adjust key total ht => exact .inl ((isOpen_setTransaction.mp ho).elim (· ▸ ⟨_, ht⟩) id)
  | note records events ht => exact .inl ((isOpen_setTransaction.mp ho).elim (· ▸ ⟨_, ht⟩) id)
  | draw => exact .inl ho
  | provision key now ht => exact .inl ((isOpen_setTransaction.mp ho).elim (· ▸ ⟨_, ht⟩) id)
  | discard => exact .inl (isOpen_discard.mp ho).2
  | commit => exact .inl (isOpen_discard.mp ho).2

/-- A transaction takes the next number when it begins, and nobody else takes one. -/
lemma Act.begun (h : Act tx s s') :
    s'.begun = s.begun ∨ (tx.serial = s.begun ∧ s'.begun = s.begun + 1) := by
  cases h with
  | strike h =>
      obtain ⟨-, rfl⟩ := takeFault?_eq_some h
      exact .inl rfl
  | begin h => exact .inr ⟨congrArg TxId.serial h, rfl⟩
  | _ => exact .inl rfl

/-- Numbers of transactions and identifiers are never taken back. -/
lemma Act.le (h : Act tx s s') : s.begun ≤ s'.begun ∧ s.ids.drawn ≤ s'.ids.drawn := by
  cases h with
  | strike h =>
      obtain ⟨-, rfl⟩ := takeFault?_eq_some h
      exact ⟨le_rfl, le_rfl⟩
  | begin => exact ⟨Nat.le_succ _, le_rfl⟩
  | draw => exact ⟨le_rfl, Nat.le_succ _⟩
  | provision => exact ⟨le_rfl, Nat.le_succ _⟩
  | _ => exact ⟨le_rfl, le_rfl⟩

namespace Path

lemma refl (tx : TxId) (s : Store) : Path tx s s := Relation.ReflTransGen.refl

lemma act (h : Path tx s s') (ha : Act tx s' s'') : Path tx s s'' := h.tail ha

lemma disciplined (h : Path tx s s') (hs : s.Disciplined) : s'.Disciplined := by
  induction h with
  | refl => exact hs
  | tail _ ha ih => exact ih.act ha

lemma later (h : Path tx s s') (hs : s.Disciplined) (hne : tx ≠ other) : Later other s s' := by
  induction h with
  | refl => exact .refl other s
  | tail hp ha ih => exact ih.trans (.of_act (disciplined hp hs) ha hne)

lemma alone (h : Path tx s s') (hs : s.Alone tx) : s'.Alone tx := by
  induction h with
  | refl => exact hs
  | tail _ ha ih => exact ih.act ha

lemma le (h : Path tx s s') : s.begun ≤ s'.begun ∧ s.ids.drawn ≤ s'.ids.drawn := by
  induction h with
  | refl => exact ⟨le_rfl, le_rfl⟩
  | tail _ ha ih => exact ⟨ih.1.trans ha.le.1, ih.2.trans ha.le.2⟩

lemma isOpen (h : Path tx s s') (ho : s'.IsOpen other) :
    s.IsOpen other ∨ (other = tx ∧ s.begun ≤ tx.serial ∧ tx.serial < s'.begun) := by
  induction h with
  | refl => exact .inl ho
  | tail hp ha ih =>
      rcases ha.isOpen ho with ho | ⟨rfl, hle, hlt⟩
      · rcases ih ho with ho | ⟨rfl, hle, hlt⟩
        · exact .inl ho
        · exact .inr ⟨rfl, hle, hlt.trans_le ha.le.1⟩
      · exact .inr ⟨rfl, (le hp).1.trans hle, hlt⟩

lemma knows (h : Path tx s s') (hk : (s'.lock key).Knows other) :
    (s.lock key).Knows other ∨ other = tx := by
  induction h with
  | refl => exact .inl hk
  | tail _ ha ih => exact (ha.knows hk).elim ih .inr

lemma lockTimeout_eq (h : Path tx s s') : s'.lockTimeout = s.lockTimeout := by
  induction h with
  | refl => rfl
  | tail _ ha ih => exact ha.lockTimeout_eq.trans ih

lemma begun (h : Path tx s s') :
    s'.begun = s.begun ∨ (tx.serial = s.begun ∧ s'.begun = s.begun + 1) := by
  induction h with
  | refl => exact .inl rfl
  | tail _ ha ih =>
      have := ha.begun
      omega

end Path

end Teller.Store
