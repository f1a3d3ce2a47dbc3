/-
What transactions do under the locks of their rows, whatever they are called for and however a call
ends.

* `Store.Backed`: what a transaction is about to add has wallets that it can be added to;
  `Backed.commit`: so nothing of it is passed over;
* `Store.Lacks`: a transaction waits for a row that it has not got;
* `Store.Plies`: a turn of one transaction that commits nothing; `plies_adjust`,
  `plies_provisionFrom` and their kin: so are the turns of all calls but commits, and where they
  wait, a row is lacking;
* `Path.holder`: rows that are held are held to the end;
* `leaves_commit`: what a commit leaves to all others, also one that is stopped.
-/
import Teller.Proofs.Store.Shown
import Teller.Proofs.Store.Writing

namespace Teller.Store

variable {s s' s'' : Store} {tx other : TxId} {t : Transaction} {key : WalletKey}
  {a : Adjustment} {id : WalletId}

/-! ### What is about to be added -/

/-- What a transaction is about to add is one change for each row, and it finds wallets in them
all. -/
structure Backed (s : Store) (tx : TxId) : Prop where
  nodup : (s.transaction tx).deltas.keys.Nodup
  found {key : WalletKey} (h : key ∈ (s.transaction tx).deltas.keys) :
    ∃ id, s.walletId? tx key = some id

namespace Backed

lemma of_fresh (h : s.transaction tx = .fresh) : s.Backed tx where
  nodup := by simp [h, Transaction.fresh, Table.keys, Table.empty]
  found hk := by simp [h, Transaction.fresh, Table.keys, Table.empty] at hk

lemma of_not_isOpen (h : ¬ s.IsOpen tx) : s.Backed tx := of_fresh (transaction_of_not_isOpen h)

/-- Wallets that have been found stay while others act. -/
lemma later (h : s.Backed tx) (hl : Later tx s s') : s'.Backed tx := by
  have ht : s'.transaction tx = s.transaction tx := by rw [transaction, hl.content, ← transaction]
  refine ⟨ht ▸ h.nodup, fun {key} hk => ?_⟩
  obtain ⟨id, hid⟩ := h.found (ht ▸ hk)
  exact ⟨id, hl.walletId? hid⟩

lemma retains (h : s.Backed tx) (hk : Retains tx s s') : s'.Backed tx := by
  refine ⟨hk.deltas ▸ h.nodup, fun {key} hmem => ?_⟩
  obtain ⟨id, hid⟩ := h.found (hk.deltas ▸ hmem)
  exact ⟨id, hk.found hid⟩

/-- A change of a balance whose wallet has been found. -/
lemma insert (h : s.Backed tx) (hid : s.walletId? tx key = some id) (total : Decimal) :
    (s.setTransaction tx { s.transaction tx with
      deltas := (s.transaction tx).deltas.insert key total }).Backed tx := by
  set t : Transaction := { s.transaction tx with
    deltas := (s.transaction tx).deltas.insert key total }
  have ht : (s.setTransaction tx t).transaction tx = t :=
    get_transaction_setTransaction.trans (if_pos rfl)
  have hfound : ∀ key, (s.setTransaction tx t).walletId? tx key = s.walletId? tx key := by
    intro key
    rw [walletId?, ht]
    rfl
  refine ⟨?_, fun {key'} hk => ?_⟩
  · rw [ht]
    exact Table.nodup_keys_insert h.nodup key total
  · rw [hfound]
    rw [ht] at hk
    rcases Table.mem_keys_insert.mp hk with rfl | hk
    · exact ⟨id, hid⟩
    · exact h.found hk

/-- The wallet has been committed, or is about to be made. -/
lemma hasRow_or (h : s.Backed tx) (hk : key ∈ (s.transaction tx).deltas.keys) :
    s.HasRow key ∨ key ∈ (s.transaction tx).provisioned.keys := by
  obtain ⟨id, hid⟩ := h.found hk
  rw [walletId?, Option.or_eq_some_iff] at hid
  rcases hid with hmine | ⟨-, hrow⟩
  · right
    by_contra hnot
    rw [Table.get?_eq_none_iff.mpr hnot] at hmine
    cases hmine
  · obtain ⟨wallet, hw, -⟩ := Option.map_eq_some_iff.mp hrow
    exact .inl ⟨wallet, hw⟩

/-- **No change is passed over**: a commit that succeeds adds each to the balance of its row. -/
theorem commit (h : s.Backed tx) (hs : s.Disciplined) (hok : (s.commit tx).2 = .ok ())
    {delta : Decimal} (hdelta : (s.transaction tx).deltas.get? key = some delta) :
    ∃ wallet, (s.commit tx).1.wallets.get? key = some wallet ∧
      Arithmetic.sum? (s.base key) delta = some wallet.balance := by
  obtain ⟨wallets, hcommitted, rfl⟩ := committedWallets_of_commit hok
  have hk : key ∈ (s.transaction tx).deltas.keys := by
    by_contra hnot
    rw [Table.get?_eq_none_iff.mpr hnot] at hdelta
    cases hdelta
  -- new wallets are added first, with nothing in them
  have hadded := @get?_addWallets s.wallets key (s.transaction tx).provisioned.toList
  obtain ⟨wallet, hrow, hbase⟩ : ∃ wallet,
      ((s.transaction tx).provisioned.toList.foldl addWallet s.wallets).get? key = some wallet ∧
        wallet.balance = s.base key := by
    by_cases hnew : key ∈ (s.transaction tx).provisioned.keys
    · obtain ⟨t, ht⟩ := isOpen_of_touches (.inr hnew)
      have hnone : s.wallets.get? key = none :=
        hs.noRow ht (by rwa [transaction, ht, Option.getD_some] at hnew)
      obtain ⟨id, -, hrow⟩ := hadded.2 hnew
      exact ⟨_, hrow, by rw [base, hnone]; rfl⟩
    · obtain ⟨wallet, hw⟩ := (h.hasRow_or hk).resolve_right hnew
      exact ⟨wallet, (hadded.1 hnew).trans hw, (base_of_get? hw).symm⟩
  obtain ⟨balance, hsum, hrow'⟩ := get?_foldlM_addDelta h.nodup hcommitted
    (Table.mem_entries_of_get? hdelta) hrow
  exact ⟨_, hrow', hbase ▸ hsum⟩

end Backed

/-! ### Turns that commit nothing -/

/-- The transaction is open and has not got the row. -/
structure Lacks (s : Store) (w : RowWait) : Prop where
  isOpen : s.IsOpen w.tx
  holder : (s.lock w.key).holder ≠ some w.tx

/-- A transaction has acted, has committed nothing, and finds wallets for what it is about to
add. -/
structure Plies (tx : TxId) (s s' : Store) : Prop where
  path : Path tx s s'
  wallets : s'.wallets = s.wallets
  backed : s.Backed tx → s'.Backed tx

namespace Plies

lemma refl (tx : TxId) (s : Store) : Plies tx s s := ⟨.refl tx s, rfl, id⟩

lemma trans (h : Plies tx s s') (h' : Plies tx s' s'') : Plies tx s s'' where
  path := Relation.ReflTransGen.trans h.path h'.path
  wallets := h'.wallets.trans h.wallets
  backed hb := h'.backed (h.backed hb)

/-- An act that leaves the transaction the wallets that it has found. -/
lemma of_act (h : Act tx s s') (hk : Retains tx s s') : Plies tx s s' :=
  ⟨(Path.refl tx s).act h, hk.wallets, fun hb => hb.retains hk⟩

lemma strike {point : FaultPoint} (h : s.takeFault? point = some s') : Plies tx s s' :=
  of_act (.strike h) (.strike h)

lemma discard (tx : TxId) (s : Store) : Plies tx s (s.discard tx) where
  path := (Path.refl tx s).act .discard
  wallets := rfl
  backed _ := .of_not_isOpen fun ho => (isOpen_discard.mp ho).1 rfl

end Plies

lemma plies_begin (s : Store) : Plies ⟨s.begun⟩ s s.begin.1 := by
  rw [begin]
  split
  · next h => exact .strike h
  · exact ⟨(Path.refl _ s).act (.begin rfl), rfl,
      fun _ => .of_fresh (get_transaction_setTransaction.trans (if_pos rfl))⟩

lemma plies_rollback (s : Store) (tx : TxId) : Plies tx s (s.rollback tx).1 := by
  rw [rollback]
  split
  · next h => exact (Plies.strike h).trans (.discard tx _)
  · exact .discard tx s

lemma plies_append (ho : s.IsOpen tx) (record : TransactionRecord) :
    Plies tx s (s.append tx record).1 := by
  have hk := Retains.append s tx record
  obtain ⟨t, ht⟩ := ho
  rw [append, transaction, ht, Option.getD_some] at hk ⊢
  split at hk
  · next h => exact .strike h
  · exact .of_act (.note _ _ ht) hk

lemma plies_enqueue (ho : s.IsOpen tx) (event : OutboxEvent) :
    Plies tx s (s.enqueue tx event).1 := by
  have hk := Retains.enqueue s tx event
  obtain ⟨t, ht⟩ := ho
  rw [enqueue, transaction, ht, Option.getD_some] at hk ⊢
  split at hk
  · next h => exact .strike h
  · exact .of_act (.note _ _ ht) hk

/-! ### Adjustments -/

/-- An adjustment of a row that is held, whose wallet has been found. -/
lemma plies_adjustHeld (ho : s.IsOpen a.tx) (hheld : (s.lock a.key).holder = some a.tx)
    (hid : s.walletId? a.tx a.key = some id) : Plies a.tx s (s.adjustHeld a id).1 := by
  rcases s.adjustHeld_cases a id with hsame | ⟨total, hset⟩
  · rw [hsame]
    exact .refl a.tx s
  · rw [hset]
    obtain ⟨t, ht⟩ := ho
    refine ⟨(Path.refl a.tx s).act ?_, rfl, fun hb => hb.insert hid total⟩
    rw [transaction, ht, Option.getD_some]
    exact .adjust a.key total ht hheld

/-- An adjustment looks at its row. -/
lemma plies_resumeAdjust (clock : Clock) {w : AdjustWait} (ho : s.IsOpen w.adjustment.tx)
    (hid : s.walletId? w.adjustment.tx w.adjustment.key = some w.wallet) :
    Plies w.adjustment.tx s (s.resumeAdjust clock w).1 ∧
      ∀ w', (s.resumeAdjust clock w).2 = .waiting w' →
        w' = w ∧ (s.resumeAdjust clock w).1 = s ∧ s.Lacks w.row := by
  rw [resumeAdjust]
  by_cases hheld : (s.lock w.row.key).holder = some w.row.tx
  · rw [lookRow_of_holder hheld]
    exact ⟨plies_adjustHeld ho hheld hid, by simp⟩
  · rcases lookRow_of_holder_ne clock hheld with hlook | hlook
    · rw [hlook]
      exact ⟨.refl _ s, fun w' hw => ⟨(Turn.waiting.inj hw).symm, rfl, ho, hheld⟩⟩
    · rw [hlook]
      exact ⟨.of_act (.leave _ hheld) (.of_eq rfl rfl rfl), by simp⟩

/-- An adjustment starts. -/
lemma plies_adjust (clock : Clock) (ho : s.IsOpen a.tx) : Plies a.tx s (s.adjust clock a).1 ∧
    ∀ w, (s.adjust clock a).2 = .waiting w → w.adjustment = a ∧ (s.adjust clock a).1.Lacks w.row ∧
      (s.adjust clock a).1.walletId? a.tx a.key = some w.wallet := by
  rw [adjust]
  split
  · exact ⟨.refl a.tx s, by simp⟩
  · next wallet hid =>
    have hasked : Plies a.tx s (s.requestRow a.tx a.key) :=
      .of_act (.request a.key ho) (.of_eq rfl rfl rfl)
    obtain ⟨hplies, hwaits⟩ := plies_resumeAdjust (s := s.requestRow a.tx a.key) clock
      (w := ⟨a, wallet, clock.now + s.lockTimeout⟩) ho hid
    refine ⟨hasked.trans hplies, fun w hw => ?_⟩
    obtain ⟨rfl, heq, hlacks⟩ := hwaits w hw
    rw [heq]
    exact ⟨rfl, hlacks, hid⟩

/-! ### Provisioning -/

/-- A wallet is added to a row that is held. -/
lemma plies_provisionHeld (now : Nat) (ho : s.IsOpen tx) (hheld : (s.lock key).holder = some tx) :
    Plies tx s (s.provisionHeld now tx key).1 ∧ (s.provisionHeld now tx key).1.IsOpen tx := by
  have hk := Retains.provisionHeld s now tx key
  obtain ⟨t, ht⟩ := ho
  rw [provisionHeld, transaction, ht, Option.getD_some] at hk ⊢
  split at hk
  · exact ⟨.refl tx s, t, ht⟩
  · next hnone =>
    exact ⟨.of_act (.provision key now ht hheld hnone) hk, isOpen_setTransaction.mpr (.inl rfl)⟩

/-- A provisioning looks at its row, and what comes after goes on in the same way. -/
lemma plies_provisionRow (clock : Clock) {w : ProvisionWait} (ho : s.IsOpen w.tx)
    {next : Store → Store × Turn ProvisionWait (Except LedgerError Unit)}
    (hnext : ∀ s : Store, s.IsOpen w.tx → Plies w.tx s (next s).1 ∧
      ∀ w', (next s).2 = .waiting w' → w'.tx = w.tx ∧ (next s).1.Lacks w'.row) :
    Plies w.tx s (s.provisionRow clock w next).1 ∧
      ∀ w', (s.provisionRow clock w next).2 = .waiting w' →
        w'.tx = w.tx ∧ (s.provisionRow clock w next).1.Lacks w'.row := by
  rw [provisionRow]
  by_cases hheld : (s.lock w.row.key).holder = some w.row.tx
  · rw [lookRow_of_holder hheld]
    obtain ⟨hplies, hopen⟩ := plies_provisionHeld clock.now ho hheld
    dsimp only
    split
    · next heq =>
      rw [heq] at hplies
      exact ⟨hplies, by simp⟩
    · next heq =>
      rw [heq] at hplies hopen
      obtain ⟨hrest, hwaits⟩ := hnext _ hopen
      exact ⟨hplies.trans hrest, hwaits⟩
  · rcases lookRow_of_holder_ne clock hheld with hlook | hlook
    · rw [hlook]
      refine ⟨.refl _ s, fun w' hw => ?_⟩
      obtain rfl := Turn.waiting.inj hw
      exact ⟨rfl, ho, hheld⟩
    · rw [hlook]
      exact ⟨.of_act (.leave _ hheld) (.of_eq rfl rfl rfl), by simp⟩

lemma plies_provisionFrom (clock : Clock) (account : AccountId) (rest : List Currency) (s : Store)
    (ho : s.IsOpen tx) :
    Plies tx s (provisionFrom clock tx account rest s).1 ∧
      ∀ w, (provisionFrom clock tx account rest s).2 = .waiting w →
        w.tx = tx ∧ (provisionFrom clock tx account rest s).1.Lacks w.row := by
  induction rest generalizing s with
  | nil => exact ⟨.refl tx s, by simp [provisionFrom]⟩
  | cons c rest ih =>
      rw [provisionFrom]
      have hasked : Plies tx s (s.requestRow tx ⟨account, c⟩) :=
        .of_act (.request _ ho) (.of_eq rfl rfl rfl)
      obtain ⟨hplies, hwaits⟩ := plies_provisionRow (s := s.requestRow tx ⟨account, c⟩) clock
        (w := ⟨tx, account, c, rest, clock.now + s.lockTimeout⟩) ho ih
      exact ⟨hasked.trans hplies, hwaits⟩

/-- A provisioning looks at its row again. -/
lemma plies_resumeProvision (clock : Clock) {w : ProvisionWait} (ho : s.IsOpen w.tx) :
    Plies w.tx s (s.resumeProvision clock w).1 ∧
      ∀ w', (s.resumeProvision clock w).2 = .waiting w' →
        w'.tx = w.tx ∧ (s.resumeProvision clock w).1.Lacks w'.row :=
  plies_provisionRow clock ho fun s ho => plies_provisionFrom clock w.account w.rest s ho

/-! ### What is held -/

/-- A transaction gives up what it holds only at its end. -/
lemma Act.holder (h : Act tx s s') (hheld : (s.lock key).holder = some tx) (ho : s'.IsOpen tx) :
    (s'.lock key).holder = some tx := by
  cases h with
  | strike h =>
      obtain ⟨-, rfl⟩ := takeFault?_eq_some h
      exact hheld
  | request => exact held_requestRow hheld
  | leave left hnot =>
      have hne : left ≠ key := by
        rintro rfl
        exact hnot hheld
      rwa [lock_leaveRow, if_neg hne]
  | discard => exact absurd rfl (isOpen_discard.mp ho).1
  | commit => exact absurd rfl (isOpen_discard.mp ho).1
  | _ => exact hheld

lemma Path.holder (h : Path tx s s') (hs : s.Disciplined) (hheld : (s.lock key).holder = some tx)
    (ho : s'.IsOpen tx) : (s'.lock key).holder = some tx := by
  induction h with
  | refl => exact hheld
  | tail hp ha ih =>
      refine ha.holder (ih ?_) ho
      rcases ha.isOpen ho with ho | ⟨-, hle, -⟩
      · exact ho
      · -- a transaction that holds a row has begun
        have hlt := hs.serial_lt (hs.isOpen_of_knows (.inl hheld))
        exact absurd (hlt.trans_le (Path.le hp).1) (not_lt.mpr hle)

lemma Path.leaves (h : Path tx s s') (hs : s.Disciplined) : Leaves tx s s' := by
  induction h with
  | refl => exact .refl hs
  | tail _ ha ih => exact ih.act ha

/-- What a commit leaves to the others, also one that is stopped. -/
lemma leaves_commit (hs : s.Disciplined) (ho : s.IsOpen tx) (hb : s.Backed tx) :
    Leaves tx s (s.commit tx).1 ∧ (s.commit tx).1.begun = s.begun ∧
      ∀ other, (s.commit tx).1.IsOpen other ↔ tx ≠ other ∧ s.IsOpen other := by
  obtain ⟨t, ht⟩ := ho
  have hnodup : t.deltas.keys.Nodup := by
    have := hb.nodup
    rwa [transaction, ht, Option.getD_some] at this
  rcases commit_cases ht hnodup with ⟨struck, hf, hstore⟩ | ⟨-, wallets, hw, hstore⟩
  · rw [hstore]
    have hstrike : Leaves tx s struck := .of_act hs (.strike hf)
    obtain ⟨-, rfl⟩ := takeFault?_eq_some hf
    exact ⟨hstrike.act .discard, rfl, fun other => isOpen_discard⟩
  · rcases hstore with ⟨-, hstore⟩ | ⟨-, hstore⟩
    · rw [hstore]
      exact ⟨.closed hs ht hw _ _, rfl, fun other => isOpen_discard⟩
    · rw [hstore]
      exact ⟨.closed hs ht hw _ _, rfl, fun other => isOpen_discard⟩

end Teller.Store
