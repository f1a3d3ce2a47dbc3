/-
An account gets all its wallets from one transaction, or none.

* `WalletKey.first`: the row of an account that is asked for before the others;
* `Store.Admits`: a transaction has reason to ask for a row: it is a first row, or the account has
  wallets, or the transaction holds the first row;
* `Store.Orderly`: accounts have a wallet in every currency or in none, transactions make wallets in
  every currency or in none, and only those who have reason to wait for a row or hold it;
* `Store.Leaves`: what a step of one transaction leaves to all others;
* `Store.Steps`: an operation that commits nothing, in order; `Steps.of_act`: an act keeps the order
  if it is kept for the transaction itself;
* `Orderly.adjust`, `Orderly.provision` and their kin: every such operation is a step. The first row
  of an account without wallets is a lock for all its rows: whoever holds it finds the others free.
-/
import Teller.Proofs.Store.Opening

namespace Teller

/-- The row of the account that is asked for before its others. -/
def WalletKey.first (key : WalletKey) : WalletKey := ⟨key.account, .usd⟩

@[simp] lemma WalletKey.first_mk (account : AccountId) (c : Currency) :
    (⟨account, c⟩ : WalletKey).first = ⟨account, .usd⟩ := rfl

/-- The provisioning waits for the first row of its account. -/
structure ProvisionWait.IsFirst (w : ProvisionWait) : Prop where
  currency : w.currency = .usd
  all : w.currency :: w.rest = Currency.all

/-- A transaction makes the wallets of whole accounts, and changes each balance once. -/
structure Transaction.IsWhole (t : Transaction) : Prop where
  provisioned (key : WalletKey) : key ∈ t.provisioned.keys ↔ key.first ∈ t.provisioned.keys
  nodup : t.deltas.keys.Nodup

lemma Transaction.isWhole_fresh : Transaction.fresh.IsWhole where
  provisioned := by simp [fresh, Table.keys, Table.empty]
  nodup := by simp [fresh, Table.keys, Table.empty]

namespace Store

variable {s s' s'' : Store} {tx other : TxId} {t t' : Transaction} {key : WalletKey}
  {account : AccountId}

/-- The row has a wallet that has been committed. -/
def HasRow (s : Store) (key : WalletKey) : Prop := ∃ wallet, s.wallets.get? key = some wallet

lemma not_hasRow_iff : ¬ s.HasRow key ↔ s.wallets.get? key = none := by
  rw [HasRow, Option.eq_none_iff_forall_ne_some]
  exact not_exists

/-- The transaction has reason to ask for the row. -/
def Admits (s : Store) (tx : TxId) (key : WalletKey) : Prop :=
  key = key.first ∨ s.HasRow key.first ∨ (s.lock key.first).holder = some tx

/-- What holds of a store whatever is called in transactions. -/
structure Orderly (s : Store) : Prop where
  disciplined : s.Disciplined
  rows (key : WalletKey) : s.HasRow key ↔ s.HasRow key.first
  isWhole {tx : TxId} {t : Transaction} : s.transactions.get? tx = some t → t.IsWhole
  admits {key : WalletKey} {tx : TxId} : (s.lock key).Knows tx → s.Admits tx key

/-! ### What one transaction leaves to the others -/

/-- What a step of a transaction leaves to all others. -/
structure Leaves (tx : TxId) (s s' : Store) : Prop where
  disciplined : s'.Disciplined
  later {other : TxId} : tx ≠ other → Later other s s'
  knows {other : TxId} {key : WalletKey} : tx ≠ other → (s'.lock key).Knows other →
    (s.lock key).Knows other

lemma Later.hasRow (h : Later other s s') (hrow : s.HasRow key) : s'.HasRow key := by
  obtain ⟨wallet, hw⟩ := hrow
  have hid : (s'.wallets.get? key).map (·.id) = some wallet.id := h.id (by rw [hw]; rfl)
  obtain ⟨wallet', hw', -⟩ := Option.map_eq_some_iff.mp hid
  exact ⟨wallet', hw'⟩

lemma Later.admits (h : Later tx s s') (ha : s.Admits tx key) : s'.Admits tx key := by
  rcases ha with hfirst | hrow | hheld
  · exact .inl hfirst
  · exact .inr (.inl (h.hasRow hrow))
  · exact .inr (.inr (h.holder hheld))

namespace Leaves

lemma refl (hs : s.Disciplined) : Leaves tx s s := ⟨hs, fun _ => .refl _ s, fun _ h => h⟩

lemma trans (h : Leaves tx s s') (h' : Leaves tx s' s'') : Leaves tx s s'' where
  disciplined := h'.disciplined
  later hne := (h.later hne).trans (h'.later hne)
  knows hne hk := h.knows hne (h'.knows hne hk)

lemma of_act (hs : s.Disciplined) (h : Act tx s s') : Leaves tx s s' where
  disciplined := hs.act h
  later hne := .of_act hs h hne
  knows hne hk := (h.knows hk).resolve_right hne.symm

/-- A row that has not been touched is given up, whether it has been granted or not. -/
lemma leaveRow (hs : s.Disciplined) (hnot : ¬ (s.transaction tx).Touches key) :
    Leaves tx s (s.leaveRow tx key) where
  disciplined := hs.leaveRow hnot
  later hne := .leaveRow hne key
  knows _ hk := knows_of_leaveRow hk

lemma act (h : Leaves tx s s') (ha : Act tx s' s'') : Leaves tx s s'' :=
  h.trans (.of_act h.disciplined ha)

/-- A transaction of another that was open is open. -/
lemma isOpen (h : Leaves tx s s') (hne : tx ≠ other) (ho : s.IsOpen other) : s'.IsOpen other := by
  obtain ⟨t, ht⟩ := ho
  exact ⟨t, (h.later hne).content.trans ht⟩

end Leaves

namespace Orderly

lemma empty (lockTimeout : Nat) (ids : IdSupply) : (Store.empty lockTimeout ids).Orderly where
  disciplined := .empty lockTimeout ids
  rows := by simp [HasRow, Store.empty]
  isWhole := by simp [Store.empty]
  admits h := absurd h RowLock.not_knows_free

/-- A step keeps the order if it is kept for the transaction itself. -/
lemma of_leaves (hs : s.Orderly) (h : Leaves tx s s')
    (hrows : ∀ key, s'.HasRow key ↔ s'.HasRow key.first)
    (hwhole : ∀ t, s'.transactions.get? tx = some t → t.IsWhole)
    (hadmits : ∀ key, (s'.lock key).Knows tx → s'.Admits tx key) : s'.Orderly where
  disciplined := h.disciplined
  rows := hrows
  isWhole {tx' t'} ht := by
    rcases eq_or_ne tx tx' with rfl | hne
    · exact hwhole t' ht
    · exact hs.isWhole ((h.later hne).content ▸ ht)
  admits {key tx'} hk := by
    rcases eq_or_ne tx tx' with rfl | hne
    · exact hadmits key hk
    · exact (h.later hne).admits (hs.admits (h.knows hne hk))

/-- Faults, identifiers and deliveries do not matter. -/
lemma of_eq (hs : s.Orderly) (hlocks : s'.locks = s.locks)
    (htransactions : s'.transactions = s.transactions) (hbegun : s'.begun = s.begun)
    (hwallets : s'.wallets = s.wallets) : s'.Orderly := by
  have hd := hs.disciplined.of_eq hlocks htransactions hbegun hwallets
  obtain ⟨_, _, _, _, _, _, _, _, _⟩ := s'
  cases hlocks
  cases htransactions
  cases hwallets
  exact ⟨hd, hs.rows, hs.isWhole, hs.admits⟩

/-- A row of an account without wallets is free for one who holds the first row: another who knew
the row would hold the first row too. -/
lemma holder_requestRow (hs : s.Orderly) (hleaves : Leaves tx s s')
    (hnone : ¬ s.HasRow ⟨account, .usd⟩) (hfirst : (s'.lock ⟨account, .usd⟩).holder = some tx)
    {c : Currency} (hc : c ≠ .usd) :
    ((s'.requestRow tx ⟨account, c⟩).lock ⟨account, c⟩).holder = some tx := by
  rw [lock_requestRow, if_pos rfl]
  refine RowLock.holder_request_eq_self fun other hne hother => ?_
  have hknows := hleaves.knows hne.symm (.inl hother)
  rcases hs.admits hknows with heq | hrow | hheld
  · exact hc (congrArg WalletKey.currency heq)
  · exact hnone hrow
  · have hheld' := (hleaves.later hne.symm).holder hheld
    exact hne (Option.some.inj (hheld'.symm.trans hfirst))

end Orderly

/-! ### Steps -/

/-- A transaction has acted, has kept the order and has committed nothing. -/
structure Steps (tx : TxId) (s s' : Store) : Prop where
  orderly : s'.Orderly
  leaves : Leaves tx s s'
  wallets : s'.wallets = s.wallets
  outbox : s'.outbox = s.outbox

namespace Steps

lemma refl (hs : s.Orderly) : Steps tx s s := ⟨hs, .refl hs.disciplined, rfl, rfl⟩

lemma trans (h : Steps tx s s') (h' : Steps tx s' s'') : Steps tx s s'' :=
  ⟨h'.orderly, h.leaves.trans h'.leaves, h'.wallets.trans h.wallets, h'.outbox.trans h.outbox⟩

/-- An act that commits nothing is a step if the transaction itself stays in order. -/
lemma of_act (hs : s.Orderly) (h : Act tx s s') (hwallets : s'.wallets = s.wallets)
    (houtbox : s'.outbox = s.outbox)
    (hwhole : ∀ t, s'.transactions.get? tx = some t → t.IsWhole)
    (hadmits : ∀ key, (s'.lock key).Knows tx → s'.Admits tx key) : Steps tx s s' where
  orderly := by
    refine hs.of_leaves (.of_act hs.disciplined h) (fun key => ?_) hwhole hadmits
    simp only [HasRow, hwallets]
    exact hs.rows key
  leaves := .of_act hs.disciplined h
  wallets := hwallets
  outbox := houtbox

/-- An act that changes only the content of the transaction, and makes no wallet. -/
lemma setTransaction (hs : s.Orderly) (ht : s.transactions.get? tx = some t)
    (h : Act tx s (s.setTransaction tx t')) (hprovisioned : t'.provisioned = t.provisioned)
    (hnodup : t'.deltas.keys.Nodup) : Steps tx s (s.setTransaction tx t') := by
  refine of_act hs h rfl rfl (fun t'' ht'' => ?_) fun key hk => hs.admits hk
  obtain rfl := Option.some.inj ((get?_setTransaction.trans (if_pos rfl)).symm.trans ht'')
  exact ⟨fun key => hprovisioned ▸ (hs.isWhole ht).provisioned key, hnodup⟩

end Steps

namespace Orderly

/-- A fault that strikes changes nothing that transactions see. -/
lemma strike {point : FaultPoint} (hs : s.Orderly) (h : s.takeFault? point = some s') :
    Steps tx s s' := by
  have ha : Act tx s s' := .strike h
  obtain ⟨-, rfl⟩ := takeFault?_eq_some h
  exact .of_act hs ha rfl rfl (fun t ht => hs.isWhole ht) fun key hk => hs.admits hk

/-- A fault that is injected changes nothing that transactions see. -/
lemma inject (hs : s.Orderly) (point : FaultPoint) : Steps tx s (s.inject point) where
  orderly := hs.of_eq rfl rfl rfl rfl
  leaves := ⟨hs.disciplined.of_eq rfl rfl rfl rfl, fun _ => .of_eq rfl rfl rfl, fun _ hk => hk⟩
  wallets := rfl
  outbox := rfl

lemma begin (hs : s.Orderly) : Steps ⟨s.begun⟩ s s.begin.1 := by
  rw [Store.begin]
  split
  · next h => exact hs.strike h
  · refine .of_act hs (.begin rfl) rfl rfl (fun t ht => ?_) fun key hk => hs.admits hk
    obtain rfl := Option.some.inj ((get?_setTransaction.trans (if_pos rfl)).symm.trans ht)
    exact Transaction.isWhole_fresh

/-- Notes join the changes of an open transaction. -/
lemma append (hs : s.Orderly) (ho : s.IsOpen tx) (record : TransactionRecord) :
    Steps tx s (s.append tx record).1 := by
  obtain ⟨t, ht⟩ := ho
  rw [Store.append, transaction, ht, Option.getD_some]
  split
  · next h => exact hs.strike h
  · exact .setTransaction hs ht (.note _ _ ht) rfl (hs.isWhole ht).nodup

lemma enqueue (hs : s.Orderly) (ho : s.IsOpen tx) (event : OutboxEvent) :
    Steps tx s (s.enqueue tx event).1 := by
  obtain ⟨t, ht⟩ := ho
  rw [Store.enqueue, transaction, ht, Option.getD_some]
  split
  · next h => exact hs.strike h
  · exact .setTransaction hs ht (.note _ _ ht) rfl (hs.isWhole ht).nodup

/-- A transaction that has ended knows no row. -/
lemma discard (hs : s.Orderly) : Steps tx s (s.discard tx) := by
  refine .of_act hs .discard rfl rfl (fun t ht => ?_) fun key hk => ?_
  · exact absurd (get?_discard.symm.trans ht) (by simp)
  · rw [lock_discard] at hk
    exact absurd rfl (RowLock.knows_of_leave hk).2

lemma rollback (hs : s.Orderly) : Steps tx s (s.rollback tx).1 := by
  rw [Store.rollback]
  split
  · next h =>
    have hstruck : Steps tx s _ := hs.strike h
    exact hstruck.trans hstruck.orderly.discard
  · exact hs.discard

/-- A transaction gives up its place in the queue of a row. -/
lemma leaveRow (hs : s.Orderly) (hnot : (s.lock key).holder ≠ some tx) :
    Steps tx s (s.leaveRow tx key) := by
  refine .of_act hs (.leave key hnot) rfl rfl (fun t ht => hs.isWhole ht) fun key' hk => ?_
  rcases hs.admits (knows_of_leaveRow hk) with hfirst | hrow | hheld
  · exact .inl hfirst
  · exact .inr (.inl hrow)
  · refine .inr (.inr ?_)
    rw [lock_leaveRow, if_neg fun heq => hnot (by rwa [heq])]
    exact hheld

/-- A transaction asks for a row with reason. -/
lemma requestRow (hs : s.Orderly) (ho : s.IsOpen tx) (ha : s.Admits tx key) :
    Steps tx s (s.requestRow tx key) := by
  refine .of_act hs (.request key ho) rfl rfl (fun t ht => hs.isWhole ht) fun key' hk => ?_
  have ha' : s.Admits tx key' := by
    rw [lock_requestRow] at hk
    split at hk
    · next heq => exact heq ▸ ha
    · exact hs.admits hk
  rcases ha' with hfirst | hrow | hheld
  · exact .inl hfirst
  · exact .inr (.inl hrow)
  · refine .inr (.inr ?_)
    rw [lock_requestRow]
    split
    · next heq => exact RowLock.holder_request (by rwa [heq])
    · exact hheld

end Orderly

/-! ### Adjustments -/

/-- An adjustment of a row that is held changes nothing, or makes one change of a balance. -/
lemma adjustHeld_cases (s : Store) (a : Adjustment) (id : WalletId) :
    (s.adjustHeld a id).1 = s ∨ ∃ total, (s.adjustHeld a id).1 = s.setTransaction a.tx
      { s.transaction a.tx with deltas := (s.transaction a.tx).deltas.insert a.key total } := by
  rw [adjustHeld]
  split
  · exact .inl rfl
  · dsimp only
    split
    · exact .inl rfl
    · split
      · exact .inl rfl
      · split
        · exact .inl rfl
        · next total _ =>
          refine .inr ⟨total, ?_⟩
          split <;> rfl

namespace Orderly

/-- An adjustment looks at its row. -/
lemma resumeAdjust (hs : s.Orderly) (clock : Clock) (w : AdjustWait)
    (ho : s.IsOpen w.adjustment.tx) :
    Steps w.adjustment.tx s (s.resumeAdjust clock w).1 ∧
      ∀ w', (s.resumeAdjust clock w).2 = .waiting w' →
        w' = w ∧ (s.resumeAdjust clock w).1.IsOpen w.adjustment.tx := by
  obtain ⟨t, ht⟩ := ho
  rw [Store.resumeAdjust]
  by_cases hheld : (s.lock w.row.key).holder = some w.row.tx
  · rw [lookRow_of_holder hheld]
    refine ⟨?_, by simp⟩
    rcases s.adjustHeld_cases w.adjustment w.wallet with hsame | ⟨total, hset⟩
    · simp only [hsame]
      exact .refl hs
    · simp only [hset, transaction, ht, Option.getD_some]
      exact .setTransaction hs ht (.adjust _ total ht hheld) rfl
        (Table.nodup_keys_insert (hs.isWhole ht).nodup _ _)
  · rcases lookRow_of_holder_ne clock hheld with hlook | hlook
    · rw [hlook]
      exact ⟨.refl hs, fun w' hw => ⟨(Turn.waiting.inj hw).symm, t, ht⟩⟩
    · rw [hlook]
      exact ⟨hs.leaveRow hheld, by simp⟩

/-- A transaction that finds a wallet has reason to ask for its row. -/
lemma admits_of_walletId? (hs : s.Orderly) {id : WalletId} (h : s.walletId? tx key = some id)
    (ho : s.IsOpen tx) : s.Admits tx key := by
  obtain ⟨t, ht⟩ := ho
  rw [walletId?, transaction, ht, Option.getD_some, Option.or_eq_some_iff] at h
  rcases h with hmine | ⟨-, hrow⟩
  · -- the wallet is one that the transaction is about to make, like that of the first row
    have hkey : key ∈ t.provisioned.keys := by
      by_contra hnot
      rw [Table.get?_eq_none_iff.mpr hnot] at hmine
      exact absurd hmine (by simp)
    have hfirst := ((hs.isWhole ht).provisioned key).mp hkey
    exact .inr (.inr (hs.disciplined.holder ht (.inr hfirst)))
  · obtain ⟨wallet, hw, -⟩ := Option.map_eq_some_iff.mp hrow
    exact .inr (.inl ((hs.rows key).mp ⟨wallet, hw⟩))

/-- An adjustment starts. -/
lemma adjust (hs : s.Orderly) (clock : Clock) (a : Adjustment) (ho : s.IsOpen a.tx) :
    Steps a.tx s (s.adjust clock a).1 ∧
      ∀ w, (s.adjust clock a).2 = .waiting w →
        w.adjustment = a ∧ (s.adjust clock a).1.IsOpen a.tx := by
  rw [Store.adjust]
  split
  · exact ⟨.refl hs, by simp⟩
  · next id hid =>
    have hasked := hs.requestRow ho (hs.admits_of_walletId? hid ho)
    obtain ⟨hsteps, hwaits⟩ :=
      hasked.orderly.resumeAdjust clock ⟨a, id, clock.now + s.lockTimeout⟩ ho
    exact ⟨hasked.trans hsteps, fun w hw => ⟨(hwaits w hw).1 ▸ rfl, (hwaits w hw).2⟩⟩

end Orderly

/-! ### New wallets -/

/-- A transaction that holds the first row of an account without wallets makes wallets for some of
its rows. -/
structure Making (s₀ s : Store) (tx : TxId) (t₀ : Transaction) (account : AccountId)
    (made : List Currency) : Prop where
  leaves : Leaves tx s₀ s
  wallets : s.wallets = s₀.wallets
  outbox : s.outbox = s₀.outbox
  first : (s.lock ⟨account, .usd⟩).holder = some tx
  keeps {key : WalletKey} : (s₀.lock key).holder = some tx → (s.lock key).holder = some tx
  knows {key : WalletKey} : (s.lock key).Knows tx → (s₀.lock key).Knows tx ∨ key.account = account
  content : ∃ t, s.transactions.get? tx = some t ∧ t.deltas = t₀.deltas ∧
    ∀ key, key ∈ t.provisioned.keys ↔
      key ∈ t₀.provisioned.keys ∨ (key.account = account ∧ key.currency ∈ made)

namespace Making

variable {s₀ : Store} {t₀ : Transaction} {made : List Currency}

/-- With wallets for all its rows the order is restored. -/
lemma steps (h : Making s₀ s tx t₀ account Currency.all) (hs : s₀.Orderly)
    (ht : s₀.transactions.get? tx = some t₀) : Steps tx s₀ s where
  orderly := by
    refine hs.of_leaves h.leaves (fun key => ?_) (fun t' ht' => ?_) fun key hk => ?_
    · simp only [HasRow, h.wallets]
      exact hs.rows key
    · obtain ⟨t, hcontent, hdeltas, hkeys⟩ := h.content
      obtain rfl := Option.some.inj (hcontent.symm.trans ht')
      have hwhole := hs.isWhole ht
      refine ⟨fun key => ?_, hdeltas ▸ hwhole.nodup⟩
      rw [hkeys, hkeys, hwhole.provisioned key]
      simp [WalletKey.first, Currency.mem_all]
    · rcases h.knows hk with hk | hmine
      · rcases hs.admits hk with hfirst | hrow | hheld
        · exact .inl hfirst
        · exact .inr (.inl (by simpa only [HasRow, h.wallets] using hrow))
        · exact .inr (.inr (h.keeps hheld))
      · refine .inr (.inr ?_)
        rw [WalletKey.first, hmine]
        exact h.first
  leaves := h.leaves
  wallets := h.wallets
  outbox := h.outbox

/-- One more wallet is made, in a row that the transaction has asked for. -/
lemma provisionHeld (h : Making s₀ s tx t₀ account made) (hs : s₀.Orderly)
    (ht : s₀.transactions.get? tx = some t₀) (hnone : s₀.walletId? tx ⟨account, .usd⟩ = none)
    {c : Currency} (hc : c ∉ made) (hheld : (s.lock ⟨account, c⟩).holder = some tx) (now : Nat) :
    ∃ s', s.provisionHeld now tx ⟨account, c⟩ = (s', .ok ()) ∧
      Making s₀ s' tx t₀ account (made ++ [c]) := by
  obtain ⟨t, hcontent, hdeltas, hkeys⟩ := h.content
  rw [walletId?, transaction, ht, Option.getD_some, Option.or_eq_none_iff,
    Table.get?_eq_none_iff, Option.map_eq_none_iff] at hnone
  -- neither the transaction nor the store has a wallet in this currency
  have hmine : (⟨account, c⟩ : WalletKey) ∉ t.provisioned.keys := by
    rw [hkeys, (hs.isWhole ht).provisioned]
    rintro (hfirst | ⟨-, hmade⟩)
    · exact hnone.1 hfirst
    · exact hc hmade
  have hrow : s.wallets.get? ⟨account, c⟩ = none := by
    rw [h.wallets, ← not_hasRow_iff, hs.rows]
    exact not_hasRow_iff.mpr hnone.2
  have hnew : s.walletId? tx ⟨account, c⟩ = none := by
    rw [walletId?, transaction, hcontent, Option.getD_some, Option.or_eq_none_iff,
      Table.get?_eq_none_iff, Option.map_eq_none_iff]
    exact ⟨hmine, hrow⟩
  have hleaves := h.leaves.act (.provision ⟨account, c⟩ now hcontent hheld hnew)
  rw [Store.provisionHeld, hnew, transaction, hcontent, Option.getD_some]
  refine ⟨_, rfl, hleaves, h.wallets, h.outbox, h.first, h.keeps, h.knows, _,
    get?_setTransaction.trans (if_pos rfl), hdeltas, fun key => ?_⟩
  rw [Table.mem_keys_insert, hkeys]
  obtain ⟨other, d⟩ := key
  simp only [WalletKey.mk.injEq, List.mem_append, List.mem_singleton]
  tauto

/-- The other wallets follow without a wait. -/
lemma provisionFrom (h : Making s₀ s tx t₀ account made) (hs : s₀.Orderly)
    (ht : s₀.transactions.get? tx = some t₀) (hnone : s₀.walletId? tx ⟨account, .usd⟩ = none)
    (clock : Clock) {rest : List Currency} (hall : made ++ rest = Currency.all)
    (hmade : Currency.usd ∈ made) :
    ∃ s', Store.provisionFrom clock tx account rest s = (s', .done (.ok ())) ∧
      Making s₀ s' tx t₀ account Currency.all := by
  -- on the currencies that are still to come; who holds the first row is not kept waiting at them
  induction rest generalizing s made with
  | nil =>
      rw [List.append_nil] at hall
      exact ⟨s, rfl, hall ▸ h⟩
  | cons c rest ih =>
      have hc := not_mem_of_append_eq_all hall
      obtain ⟨t, hcontent, hdeltas, hkeys⟩ := h.content
      have hrow : ¬ s₀.HasRow ⟨account, .usd⟩ := by
        rw [walletId?, Option.or_eq_none_iff, Option.map_eq_none_iff] at hnone
        exact not_hasRow_iff.mpr hnone.2
      have hheld := hs.holder_requestRow h.leaves hrow h.first
        (show c ≠ .usd from fun heq => hc (heq ▸ hmade))
      -- to ask for the next row takes none away
      have hasked : Making s₀ (s.requestRow tx ⟨account, c⟩) tx t₀ account made := by
        refine ⟨h.leaves.act (.request _ ⟨t, hcontent⟩), h.wallets, h.outbox, ?_, fun hk => ?_,
          fun {key} hk => ?_, t, hcontent, hdeltas, hkeys⟩
        · rw [lock_requestRow]
          split
          · next heq => exact RowLock.holder_request (by rw [heq]; exact h.first)
          · exact h.first
        · rw [lock_requestRow]
          split
          · next heq => exact RowLock.holder_request (by rw [heq]; exact h.keeps hk)
          · exact h.keeps hk
        · rw [lock_requestRow] at hk
          split at hk
          · next heq => exact .inr (heq ▸ rfl)
          · exact h.knows hk
      obtain ⟨s', hprovisioned, hmaking⟩ :=
        hasked.provisionHeld hs ht hnone hc hheld clock.now
      obtain ⟨s'', hrest, hmaking'⟩ := ih hmaking (by rw [List.append_assoc]; exact hall)
        (List.mem_append_left _ hmade)
      refine ⟨s'', ?_, hmaking'⟩
      rw [Store.provisionFrom, Store.provisionRow, lookRow_of_holder hheld]
      simp only [ProvisionWait.row, hprovisioned]
      exact hrest

end Making

namespace Orderly

/-- A provisioning looks at the first row: it waits on, it fails without a change, or all wallets
are made at once. -/
lemma resumeProvision (hs : s.Orderly) (clock : Clock) {w : ProvisionWait} (hw : w.IsFirst)
    (ho : s.IsOpen w.tx) :
    Steps w.tx s (s.resumeProvision clock w).1 ∧
      ∀ w', (s.resumeProvision clock w).2 = .waiting w' →
        w' = w ∧ (s.resumeProvision clock w).1.IsOpen w.tx := by
  obtain ⟨t, ht⟩ := ho
  obtain ⟨tx, account, currency, rest, giveUpAt⟩ := w
  obtain ⟨rfl, hall⟩ := hw
  rw [Store.resumeProvision, Store.provisionRow]
  -- without the first row nothing is made
  by_cases hheld : (s.lock ⟨account, .usd⟩).holder = some tx
  · rw [lookRow_of_holder hheld]
    simp only [ProvisionWait.row]
    cases hid : s.walletId? tx ⟨account, .usd⟩ with
    | some id =>
        simp only [Store.provisionHeld, hid]
        exact ⟨.refl hs, by simp⟩
    | none =>
        have hmaking : Making s s tx t account [] :=
          ⟨.refl hs.disciplined, rfl, rfl, hheld, fun hk => hk, .inl, t, ht, rfl, by simp⟩
        obtain ⟨s', hprovisioned, hmaking'⟩ :=
          hmaking.provisionHeld hs ht hid (c := .usd) (by simp) hheld clock.now
        obtain ⟨s'', hrest, hmaking''⟩ := hmaking'.provisionFrom hs ht hid clock hall (by simp)
        simp only [hprovisioned, hrest]
        exact ⟨hmaking''.steps hs ht, by simp⟩
  · rcases lookRow_of_holder_ne clock
      (w := ProvisionWait.row ⟨tx, account, .usd, rest, giveUpAt⟩) hheld with hlook | hlook
    · rw [hlook]
      exact ⟨.refl hs, fun w' hw => ⟨(Turn.waiting.inj hw).symm, t, ht⟩⟩
    · rw [hlook]
      exact ⟨hs.leaveRow hheld, by simp⟩

/-- A provisioning starts. -/
lemma provision (hs : s.Orderly) (clock : Clock) (account : AccountId) (ho : s.IsOpen tx) :
    Steps tx s (s.provision clock tx account).1 ∧
      ∀ w, (s.provision clock tx account).2 = .waiting w →
        w.tx = tx ∧ w.IsFirst ∧ (s.provision clock tx account).1.IsOpen tx := by
  have hasked : Steps tx s (s.requestRow tx ⟨account, .usd⟩) := hs.requestRow ho (.inl rfl)
  have hfirst : ProvisionWait.IsFirst
      ⟨tx, account, .usd, [.eur, .rub], clock.now + s.lockTimeout⟩ := ⟨rfl, rfl⟩
  obtain ⟨hsteps, hwaits⟩ := hasked.orderly.resumeProvision clock hfirst ho
  refine ⟨hasked.trans hsteps, fun w hw => ?_⟩
  obtain ⟨rfl, hopen⟩ := hwaits w hw
  exact ⟨rfl, hfirst, hopen⟩

end Orderly

end Store

end Teller
