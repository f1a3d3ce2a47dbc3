/-
The locks of rows in a run of transactions that are used side by side.

* `Vault.Incident`: an event, or a call that waits is given up and its transaction goes on;
  `Vault.meet` follows one of them, `Vault.past` the first of a list;
* `Vault.Holds`: a transaction has got a row, which is more than that it has been granted while the
  transaction still waits;
* `Vault.IsGuarded`: the invariant of every run;
* `Vault.Stirs`: what one incident is to locks and rows, whatever it is: one transaction acts, and
  the others keep what they hold (`IsGuarded.stirs`); so the invariant is kept (`Stirs.isGuarded`);
* `Vault.LocksWell`: what the invariant says at one moment; `Vault.Continues`: what is held stays
  held, and as it is, from one moment to any later one;
* `Vault.keepsLocks_run`: the discipline of locks, in every run.
-/
import Teller.Proofs.Store.Locking
import Teller.Proofs.Trace
import Teller.Proofs.Vault.Snapshots

namespace Teller

/-- The row that a call waits for. -/
def RowCall.row : RowCall → RowWait
  | adjusting wait => wait.row
  | provisioning wait => wait.row

/-- The call is one of this transaction, which goes on without having touched the row, and the
wallet of an adjustment has been found. -/
structure RowCall.IsAwaited (s : Store) (tx : TxId) (call : RowCall) : Prop where
  fits : call.row.tx = tx
  isOpen : s.IsOpen tx
  untouched : ¬ (s.transaction tx).Touches call.row.key
  found {wait : AdjustWait} (h : call = .adjusting wait) :
    s.walletId? tx wait.adjustment.key = some wait.wallet

/-- A call goes on waiting whatever others do. -/
lemma RowCall.IsAwaited.later {s s' : Store} {tx : TxId} {call : RowCall}
    (h : call.IsAwaited s tx) (hl : Store.Later tx s s') : call.IsAwaited s' tx := by
  have ht : s'.transaction tx = s.transaction tx := by
    rw [Store.transaction, hl.content, ← Store.transaction]
  obtain ⟨t, hopen⟩ := h.isOpen
  exact ⟨h.fits, ⟨t, hl.content.trans hopen⟩, ht ▸ h.untouched,
    fun heq => hl.walletId? (h.found heq)⟩

namespace Vault

/-- What can happen to a vault, if calls can be given up. -/
inductive Incident where
  | event (event : Event)
  /-- A call that waits is given up, and its transaction can be called again. -/
  | giveUp (tx : TxId)

/-- A call that waits is given up. -/
def giveUp (v : Vault) (tx : TxId) : Vault :=
  match v.waiting.get? tx with
  | none => v
  | some call =>
    { v with store := v.store.leaveRow tx call.row.key, waiting := v.waiting.erase tx }

section Steps

variable [Arithmetic]

/-- What happens to a vault. -/
def meet (v : Vault) : Incident → Vault
  | .event event => v.step event
  | .giveUp tx => v.giveUp tx

/-- The vault after the first incidents. -/
def past (v : Vault) (incidents : List Incident) (n : ℕ) : Vault :=
  (incidents.take n).foldl meet v

end Steps

variable {v v' v'' : Vault} {tx other : TxId} {key : WalletKey} {store : Store}
  {incident : Incident} {incidents : List Incident} {waiting : Table TxId RowCall}

/-- The transaction has got the row, and not only been granted it. -/
structure Holds (v : Vault) (tx : TxId) (key : WalletKey) : Prop where
  holder : (v.store.lock key).holder = some tx
  taken {call : RowCall} : v.waiting.get? tx = some call → call.row.key ≠ key

/-! ### The invariant -/

/-- What holds of a vault whatever happens. -/
structure IsGuarded (v : Vault) : Prop where
  disciplined : v.store.Disciplined
  backed (tx : TxId) : v.store.Backed tx
  waits {tx : TxId} {call : RowCall} : v.waiting.get? tx = some call → call.IsAwaited v.store tx

lemma isGuarded_fresh (clock : Clock) (lockTimeout : ℕ) (ids : IdSupply) :
    (fresh clock lockTimeout ids).IsGuarded where
  disciplined := .empty lockTimeout ids
  backed _ := .of_fresh rfl
  waits := by simp [fresh]

/-- What one incident is to locks and rows: nothing but the doing of one transaction. -/
structure Stirs (v v' : Vault) (tx : TxId) (incident : Incident) : Prop where
  leaves : Store.Leaves tx v.store v'.store
  begun : v.store.begun ≤ v'.store.begun
  opened {other : TxId} : v'.store.IsOpen other →
    v.store.IsOpen other ∨ v.store.begun ≤ other.serial
  others {other : TxId} : tx ≠ other → v'.waiting.get? other = v.waiting.get? other
  backed : v'.store.Backed tx
  waits {call : RowCall} : v'.waiting.get? tx = some call → call.IsAwaited v'.store tx
  holds {key : WalletKey} : v.Holds tx key → v'.store.IsOpen tx → v'.Holds tx key
  /-- Only a commit writes rows, and it ends its transaction. -/
  wallets : v'.store.wallets = v.store.wallets ∨
    incident = .event (.call tx .commit) ∧ ¬ v'.store.IsOpen tx

/-- Every incident keeps the invariant. -/
lemma Stirs.isGuarded (h : v.Stirs v' tx incident) (hv : v.IsGuarded) : v'.IsGuarded where
  disciplined := h.leaves.disciplined
  backed other := by
    rcases eq_or_ne tx other with rfl | hne
    · exact h.backed
    · exact (hv.backed other).later (h.leaves.later hne)
  waits {other call} hw := by
    rcases eq_or_ne tx other with rfl | hne
    · exact h.waits hw
    · exact (hv.waits (h.others hne ▸ hw)).later (h.leaves.later hne)

/-! ### What incidents are -/

namespace IsGuarded

/-- A transaction has a turn that commits nothing; if it waits, it does so for a row that it has
not got. -/
lemma stirs_of_plies (hv : v.IsGuarded) (h : Store.Plies tx v.store store)
    (hothers : ∀ other, tx ≠ other → waiting.get? other = v.waiting.get? other)
    (hwaits : ∀ call, waiting.get? tx = some call → call.row.tx = tx ∧ store.Lacks call.row ∧
      ∀ wait, call = .adjusting wait → store.walletId? tx wait.adjustment.key = some wait.wallet) :
    v.Stirs { v with store, waiting } tx incident where
  leaves := h.path.leaves hv.disciplined
  begun := h.path.le.1
  opened ho := (h.path.isOpen ho).imp_right fun ⟨heq, hle, _⟩ => heq ▸ hle
  others := hothers _
  backed := h.backed (hv.backed tx)
  waits {call} hw := by
    obtain ⟨htx, ⟨hopen, hnot⟩, hfound⟩ := hwaits call hw
    rw [htx] at hopen hnot
    exact ⟨htx, hopen, (h.path.disciplined hv.disciplined).not_touches hnot, hfound _⟩
  holds {key} hheld hopen := by
    have hholder := h.path.holder hv.disciplined hheld.holder hopen
    refine ⟨hholder, fun {call} hw => ?_⟩
    obtain ⟨htx, hlacks, -⟩ := hwaits call hw
    rintro rfl
    exact hlacks.holder (htx.symm ▸ hholder)
  wallets := .inl h.wallets

/-- A transaction that waits for no row has a turn. -/
lemma stirs_of_free (hv : v.IsGuarded) (hfree : v.waiting.get? tx = none)
    (h : Store.Plies tx v.store store) : v.Stirs { v with store } tx incident :=
  hv.stirs_of_plies h (fun _ _ => rfl) fun call hw => absurd (hfree.symm.trans hw) (by simp)

/-- A call has come to its end. -/
lemma stirs_erase (hv : v.IsGuarded) (h : Store.Plies tx v.store store) :
    v.Stirs { v with store, waiting := v.waiting.erase tx } tx incident :=
  hv.stirs_of_plies h (fun _ hne => (Table.get?_erase ..).trans (if_neg hne))
    fun call hw => absurd ((Table.get?_erase ..).symm.trans hw) (by simp)

/-- A call waits. -/
lemma stirs_insert (hv : v.IsGuarded) (h : Store.Plies tx v.store store) {call : RowCall}
    (htx : call.row.tx = tx) (hlacks : store.Lacks call.row)
    (hfound : ∀ wait, call = .adjusting wait →
      store.walletId? tx wait.adjustment.key = some wait.wallet) :
    v.Stirs { v with store, waiting := v.waiting.insert tx call } tx incident := by
  refine hv.stirs_of_plies h (fun _ hne => (Table.get?_insert ..).trans (if_neg hne))
    fun call' hw => ?_
  obtain rfl := Option.some.inj (((Table.get?_insert ..).trans (if_pos rfl)).symm.trans hw)
  exact ⟨htx, hlacks, hfound⟩

lemma stirs_drop (hv : v.IsGuarded) (h : Store.Plies tx v.store store) :
    v.Stirs (drop { v with store } tx) tx incident :=
  hv.stirs_erase (h.trans (.discard tx store))

/-- Where only faults and time change, any transaction can be said to have acted. -/
lemma stirs_of_eq (hv : v.IsGuarded) (tx : TxId) (hlocks : v'.store.locks = v.store.locks)
    (htransactions : v'.store.transactions = v.store.transactions)
    (hwallets : v'.store.wallets = v.store.wallets) (hbegun : v'.store.begun = v.store.begun)
    (hwaiting : v'.waiting = v.waiting) : v.Stirs v' tx incident := by
  obtain ⟨⟨_, _, _, _, _, _, _, _, _⟩, _, _, _⟩ := v'
  cases hlocks
  cases htransactions
  cases hwallets
  cases hbegun
  cases hwaiting
  exact
    { leaves := ⟨hv.disciplined.of_eq rfl rfl rfl rfl, fun _ => .of_eq rfl rfl rfl, fun _ hk => hk⟩
      begun := le_rfl
      opened := .inl
      others := fun _ => rfl
      backed := (hv.backed tx).later (.of_eq rfl rfl rfl)
      waits := fun hw => (hv.waits hw).later (.of_eq rfl rfl rfl)
      holds := fun hheld _ => ⟨hheld.holder, hheld.taken⟩
      wallets := .inl rfl }

lemma stirs_afterAdjust (hv : v.IsGuarded)
    {result : Store × Turn AdjustWait (Except Failure AdjustOutcome)}
    (h : Store.Plies tx v.store result.1)
    (hwaits : ∀ w, result.2 = .waiting w → w.adjustment.tx = tx ∧ result.1.Lacks w.row ∧
      result.1.walletId? tx w.adjustment.key = some w.wallet) :
    v.Stirs (v.afterAdjust tx result) tx incident := by
  obtain ⟨store, turn⟩ := result
  rw [afterAdjust.eq_def]
  split
  · next heq =>
    cases heq
    obtain ⟨htx, hlacks, hfound⟩ := hwaits _ rfl
    refine hv.stirs_insert h htx hlacks fun wait heq => ?_
    cases heq
    exact hfound
  · next heq =>
    cases heq
    exact hv.stirs_drop h
  · next heq =>
    cases heq
    exact hv.stirs_drop h
  · next heq =>
    cases heq
    exact hv.stirs_erase h

lemma stirs_afterProvision (hv : v.IsGuarded)
    {result : Store × Turn ProvisionWait (Except LedgerError Unit)}
    (h : Store.Plies tx v.store result.1)
    (hwaits : ∀ w, result.2 = .waiting w → w.tx = tx ∧ result.1.Lacks w.row) :
    v.Stirs (v.afterProvision tx result) tx incident := by
  obtain ⟨store, turn⟩ := result
  cases turn with
  | waiting wait =>
      obtain ⟨htx, hlacks⟩ := hwaits wait rfl
      exact hv.stirs_insert h htx hlacks nofun
  | done outcome => exact hv.stirs_erase h

/-- A transaction that waits for no row is committed, or its commit is struck or stopped. -/
lemma stirs_commit (hv : v.IsGuarded) (hopen : v.store.IsOpen tx)
    (hfree : v.waiting.get? tx = none) :
    v.Stirs (v.serve tx .commit) tx (.event (.call tx .commit)) := by
  obtain ⟨hleaves, hbegun, hended⟩ := Store.leaves_commit hv.disciplined hopen (hv.backed tx)
  have hclosed : ¬ (v.serve tx .commit).store.IsOpen tx := fun ho => ((hended tx).mp ho).1 rfl
  constructor
  case leaves => exact hleaves
  case begun => exact hbegun.ge
  case opened => exact fun {other} ho => .inl ((hended other).mp ho).2
  case others => exact fun _ => rfl
  case backed => exact .of_not_isOpen hclosed
  case waits => exact fun hw => absurd (hfree.symm.trans hw) (by simp)
  case holds => exact fun _ ho => absurd ho hclosed
  case wallets => exact .inr ⟨rfl, hclosed⟩

/-- A transaction is called. -/
lemma stirs_serve (hv : v.IsGuarded) (hopen : v.store.IsOpen tx)
    (hfree : v.waiting.get? tx = none) (call : TxCall) :
    v.Stirs (v.serve tx call) tx (.event (.call tx call)) := by
  cases call with
  | adjust key amount direction =>
      obtain ⟨hplies, hwaits⟩ := Store.plies_adjust (a := ⟨tx, key, amount, direction⟩) v.clock
        hopen
      refine hv.stirs_afterAdjust hplies fun w hw => ?_
      obtain ⟨heq, hlacks, hfound⟩ := hwaits w hw
      rw [heq]
      exact ⟨rfl, hlacks, hfound⟩
  | provision account =>
      obtain ⟨hplies, hwaits⟩ := Store.plies_provisionFrom v.clock account Currency.all v.store
        hopen
      exact hv.stirs_afterProvision hplies hwaits
  | append record => exact hv.stirs_of_free hfree (Store.plies_append hopen record)
  | enqueue event => exact hv.stirs_of_free hfree (Store.plies_enqueue hopen event)
  | commit => exact hv.stirs_commit hopen hfree
  | rollback => exact hv.stirs_of_free hfree (Store.plies_rollback v.store tx)

/-- A call that waits goes on. -/
lemma stirs_goOn (hv : v.IsGuarded) {call : RowCall} (hw : v.waiting.get? tx = some call) :
    v.Stirs (v.goOn tx call) tx incident := by
  obtain ⟨htx, hopen, -, hfound⟩ := hv.waits hw
  cases call with
  | adjusting wait =>
      obtain rfl : wait.adjustment.tx = tx := htx
      obtain ⟨hplies, hwaits⟩ := Store.plies_resumeAdjust v.clock hopen (hfound rfl)
      refine hv.stirs_afterAdjust hplies fun w hw => ?_
      obtain ⟨rfl, heq, hlacks⟩ := hwaits w hw
      rw [heq]
      exact ⟨rfl, hlacks, hfound rfl⟩
  | provisioning wait =>
      obtain rfl : wait.tx = tx := htx
      obtain ⟨hplies, hwaits⟩ := Store.plies_resumeProvision v.clock hopen
      exact hv.stirs_afterProvision hplies hwaits

/-- A call that waits is given up. Its row may have been granted meanwhile, and goes to the next. -/
lemma stirs_giveUp (hv : v.IsGuarded) {call : RowCall} (hw : v.waiting.get? tx = some call) :
    v.Stirs { v with store := v.store.leaveRow tx call.row.key, waiting := v.waiting.erase tx } tx
      incident := by
  -- the row that is waited for has not been touched, so that it can be left even if it has been
  -- granted
  have hawaited := hv.waits hw
  constructor
  case leaves => exact .leaveRow hv.disciplined hawaited.untouched
  case begun => exact le_rfl
  case opened => exact .inl
  case others => exact fun hne => (Table.get?_erase ..).trans (if_neg hne)
  case backed => exact (hv.backed tx).retains (.of_eq rfl rfl rfl)
  case waits => exact fun hw => absurd ((Table.get?_erase ..).symm.trans hw) (by simp)
  case holds =>
    intro key hheld _
    refine ⟨?_, fun hw => absurd ((Table.get?_erase ..).symm.trans hw) (by simp)⟩
    rw [Store.lock_leaveRow, if_neg (hheld.taken hw)]
    exact hheld.holder
  case wallets => exact .inl rfl

/-- **One incident** is the doing of one transaction. -/
theorem stirs (hv : v.IsGuarded) (incident : Incident) :
    ∃ tx, v.Stirs (v.meet incident) tx incident := by
  -- where nothing happens any transaction can be said to have done it
  have hrests : v.Stirs v ⟨0⟩ incident := hv.stirs_of_eq ⟨0⟩ rfl rfl rfl rfl rfl
  cases incident with
  | event event =>
      cases event with
      | begin =>
          refine ⟨⟨v.store.begun⟩, hv.stirs_of_free ?_ (Store.plies_begin v.store)⟩
          rw [Option.eq_none_iff_forall_ne_some]
          exact fun call hw => hv.disciplined.not_isOpen_begun (hv.waits hw).isOpen
      | call tx call =>
          rw [meet, step]
          split
          · next hfree =>
            obtain ⟨hopen, hfree⟩ := isOpen_of_isFree hfree
            exact ⟨tx, hv.stirs_serve hopen hfree call⟩
          · exact ⟨_, hrests⟩
      | resume tx =>
          rw [meet, step]
          split
          · exact ⟨_, hrests⟩
          · next call hw => exact ⟨tx, hv.stirs_goOn hw⟩
      | drop tx => exact ⟨tx, hv.stirs_drop (.refl tx v.store)⟩
      | inject point => exact ⟨⟨0⟩, hv.stirs_of_eq ⟨0⟩ rfl rfl rfl rfl rfl⟩
      | advance millis => exact ⟨⟨0⟩, hv.stirs_of_eq ⟨0⟩ rfl rfl rfl rfl rfl⟩
      | ring => exact ⟨⟨0⟩, hv.stirs_of_eq ⟨0⟩ rfl rfl rfl rfl rfl⟩
  | giveUp tx =>
      rw [meet, giveUp]
      split
      · exact ⟨_, hrests⟩
      · next call hw => exact ⟨tx, hv.stirs_giveUp hw⟩

lemma meet (hv : v.IsGuarded) (incident : Incident) : (v.meet incident).IsGuarded := by
  obtain ⟨tx, h⟩ := hv.stirs incident
  exact h.isGuarded hv

lemma past (hv : v.IsGuarded) (incidents : List Incident) (n : ℕ) :
    (v.past incidents n).IsGuarded :=
  List.foldlRecOn (incidents.take n) Vault.meet hv fun _ hv incident _ => hv.meet incident

end IsGuarded

/-! ### At one moment -/

/-- The discipline of locks in a vault. -/
structure LocksWell (v : Vault) : Prop where
  /-- Rows are held by open transactions only, -/
  isOpen {tx : TxId} {key : WalletKey} : (v.store.lock key).holder = some tx → v.store.IsOpen tx
  /-- and each by one at most. -/
  alone {tx other : TxId} {key : WalletKey} : v.Holds tx key → v.Holds other key → tx = other
  /-- An open transaction holds every row that it is about to change or to make a wallet for. -/
  holds {tx : TxId} {t : Transaction} {key : WalletKey} : v.store.transactions.get? tx = some t →
    t.Touches key → v.Holds tx key
  /-- Every row that it is about to change has a wallet, or is about to get one from it. -/
  hasRow {tx : TxId} {t : Transaction} {key : WalletKey} : v.store.transactions.get? tx = some t →
    key ∈ t.deltas.keys → v.store.HasRow key ∨ key ∈ t.provisioned.keys
  /-- So a commit that succeeds adds all of its changes to balances. -/
  lands {tx : TxId} {t : Transaction} {key : WalletKey} {delta : Decimal} :
    v.store.transactions.get? tx = some t → t.deltas.get? key = some delta →
    (v.store.commit tx).2 = .ok () →
    ∃ wallet, (v.store.commit tx).1.wallets.get? key = some wallet ∧
      Arithmetic.sum? (v.store.base key) delta = some wallet.balance

theorem IsGuarded.locksWell (hv : v.IsGuarded) : v.LocksWell := by
  have hcontent {tx : TxId} {t : Transaction} (ht : v.store.transactions.get? tx = some t) :
      v.store.transaction tx = t := by
    rw [Store.transaction, ht, Option.getD_some]
  constructor
  case isOpen => exact fun hheld => hv.disciplined.isOpen_of_knows (.inl hheld)
  case alone => exact fun h h' => Option.some.inj (h.holder.symm.trans h'.holder)
  case holds =>
    intro tx t key ht htouch
    refine ⟨hv.disciplined.holder ht htouch, fun {call} hw => ?_⟩
    rintro rfl
    exact (hv.waits hw).untouched (hcontent ht ▸ htouch)
  case hasRow =>
    intro tx t key ht hk
    have hrow : v.store.HasRow key ∨ key ∈ (v.store.transaction tx).provisioned.keys :=
      (hv.backed tx).hasRow_or (hcontent ht ▸ hk)
    rwa [hcontent ht] at hrow
  case lands =>
    intro tx t key delta ht hdelta hok
    exact (hv.backed tx).commit hv.disciplined hok (hcontent ht ▸ hdelta)

/-! ### From one moment to another -/

/-- Who has begun and is open still has been open, and what it held it holds, unchanged. -/
structure Continues (v v' : Vault) : Prop where
  begun : v.store.begun ≤ v'.store.begun
  wasOpen {tx : TxId} : tx.serial < v.store.begun → v'.store.IsOpen tx → v.store.IsOpen tx
  holds {tx : TxId} {key : WalletKey} : v.Holds tx key → tx.serial < v.store.begun →
    v'.store.IsOpen tx → v'.Holds tx key ∧ v'.store.wallets.get? key = v.store.wallets.get? key

namespace Continues

lemma refl (v : Vault) : v.Continues v := ⟨le_rfl, fun _ ho => ho, fun hheld _ _ => ⟨hheld, rfl⟩⟩

lemma trans (h : v.Continues v') (h' : v'.Continues v'') : v.Continues v'' where
  begun := h.begun.trans h'.begun
  wasOpen hlt ho := h.wasOpen hlt (h'.wasOpen (hlt.trans_le h.begun) ho)
  holds hheld hlt ho := by
    have hlt' := hlt.trans_le h.begun
    obtain ⟨hheld', hrow⟩ := h.holds hheld hlt (h'.wasOpen hlt' ho)
    obtain ⟨hheld'', hrow'⟩ := h'.holds hheld' hlt' ho
    exact ⟨hheld'', hrow'.trans hrow⟩

end Continues

/-- The row of another is left as it is. -/
lemma Stirs.row (h : v.Stirs v' tx incident) (hheld : (v.store.lock key).holder = some other) :
    v'.store.wallets.get? key = v.store.wallets.get? key ∨
      incident = .event (.call other .commit) ∧ ¬ v'.store.IsOpen other := by
  rcases eq_or_ne tx other with rfl | hne
  · exact h.wallets.imp_left fun heq => by rw [heq]
  · exact .inl ((h.leaves.later hne).row hheld)

lemma Stirs.continues (h : v.Stirs v' tx incident) : v.Continues v' where
  begun := h.begun
  wasOpen hlt ho := (h.opened ho).resolve_right (not_le.mpr hlt)
  holds {other key} hheld _ ho := by
    have hrow := (h.row hheld.holder).resolve_right fun hcommit => hcommit.2 ho
    rcases eq_or_ne tx other with rfl | hne
    · exact ⟨h.holds hheld ho, hrow⟩
    · refine ⟨⟨(h.leaves.later hne).holder hheld.holder, fun hw => ?_⟩, hrow⟩
      exact hheld.taken (h.others hne ▸ hw)

lemma IsGuarded.continues (hv : v.IsGuarded) {m n : ℕ} (hmn : m ≤ n) :
    (v.past incidents m).Continues (v.past incidents n) :=
  Trace.rel_foldl_take (I := IsGuarded) Continues (fun _ incident hv => hv.meet incident)
    Continues.refl Continues.trans
    (fun _ incident hv => (hv.stirs incident).elim fun _ h => h.continues) hv hmn

/-! ### Runs -/

/-- The discipline of locks in a run. -/
structure KeepsLocks (v : Vault) (incidents : List Incident) : Prop where
  locksWell (n : ℕ) : (v.past incidents n).LocksWell
  /-- While somebody holds a row, only his own commit changes its wallet or makes one. -/
  row {n : ℕ} {tx : TxId} {key : WalletKey} :
    ((v.past incidents n).store.lock key).holder = some tx →
    (v.past incidents (n + 1)).store.wallets.get? key
        = (v.past incidents n).store.wallets.get? key ∨
      incidents[n]? = some (.event (.call tx .commit))
  /-- Who has got a row holds it as long as he is open, and the row stays as it is. -/
  kept {m n : ℕ} {tx : TxId} {key : WalletKey} : m ≤ n → (v.past incidents m).Holds tx key →
    (v.past incidents n).store.IsOpen tx → (v.past incidents n).Holds tx key ∧
      (v.past incidents n).store.wallets.get? key = (v.past incidents m).store.wallets.get? key

/-- **The discipline of locks**, whatever happens and in whatever order. -/
theorem keepsLocks_run (clock : Clock) (lockTimeout : ℕ) (ids : IdSupply)
    (incidents : List Incident) : (fresh clock lockTimeout ids).KeepsLocks incidents := by
  have hfresh := isGuarded_fresh clock lockTimeout ids
  constructor
  case locksWell => exact fun n => (hfresh.past incidents n).locksWell
  case row =>
    intro n tx key hheld
    cases hincident : incidents[n]? with
    | none => exact .inl (by rw [past, Trace.foldl_take_succ_of_none hincident, ← past])
    | some incident =>
        obtain ⟨acting, h⟩ := (hfresh.past incidents n).stirs incident
        rw [show (fresh clock lockTimeout ids).past incidents (n + 1) = _ from
          Trace.foldl_take_succ hincident]
        exact (h.row hheld).imp_right fun hcommit => congrArg some hcommit.1
  case kept =>
    intro m n tx key hmn hheld hopen
    have hguarded := hfresh.past incidents m
    have hbegun := hguarded.disciplined.serial_lt
      (hguarded.disciplined.isOpen_of_knows (.inl hheld.holder))
    exact (hfresh.continues hmn).holds hheld hbegun hopen

/-- A row that has been granted to a call goes to the next in the queue if the call is given up. -/
example :
    let key : WalletKey := ⟨⟨.random 0⟩, .usd⟩
    let credit (tx : TxId) : Incident := .event (.call tx (.adjust key .zero .credit))
    let v := (fresh (.atRest 0) Store.standardLockTimeout .fresh).past
      [.event .begin, .event (.call ⟨0⟩ (.provision ⟨.random 0⟩)), .event (.call ⟨0⟩ .commit),
        .event .begin, .event .begin, .event .begin, credit ⟨1⟩, credit ⟨2⟩, credit ⟨3⟩,
        .event (.call ⟨1⟩ .commit), .giveUp ⟨2⟩]
    ((v 9).store.lock key).holder = some ⟨1⟩ ∧ ((v 10).store.lock key).holder = some ⟨2⟩ ∧
      ((v 11).store.lock key).holder = some ⟨3⟩ := by
  decide +kernel

end Vault

end Teller
