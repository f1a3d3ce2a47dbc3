/-
Transactions that are used side by side, call by call.

* `Vault`: a store, the calls of transactions that wait for rows, and what has been committed;
* `Vault.Event`: a transaction begins, is called, goes on or is dropped, time passes, a fault is
  injected; `Vault.step` and `Vault.run` follow any list of events;
* `Vault.Acts`, `Vault.Commits`: what one event comes to, a step of one transaction or a commit
  (`IsSound.step_cases`);
* `Vault.IsSound`: the invariant of every run; `IsSound.run`.

A transaction may go on after any error, and end whenever it is not in the middle of a call. It
takes no call while one waits. A call that is abandoned where it stands takes its transaction with
it.
-/
import Teller.Proofs.Store.Writing

namespace Teller

/-- A call of a transaction that waits for a row. -/
inductive RowCall where
  | adjusting (wait : AdjustWait)
  | provisioning (wait : ProvisionWait)

/-- The call is one of this transaction, and a provisioning that waits does so at the first row of
its account. -/
def RowCall.Fits (tx : TxId) : RowCall → Prop
  | adjusting wait => wait.adjustment.tx = tx
  | provisioning wait => wait.tx = tx ∧ wait.IsFirst

/-- What a transaction can be called for. -/
inductive TxCall where
  | adjust (key : WalletKey) (amount : Decimal) (direction : Direction)
  | provision (account : AccountId)
  | append (record : TransactionRecord)
  | enqueue (event : OutboxEvent)
  | commit
  | rollback

/-- A commit that no fault has struck. -/
structure Commitment where
  tx : TxId
  content : Transaction
  /-- All its changes have been made; if not, one of them has stopped it. -/
  isDone : Bool

/-- The commit has made wallets of the account. -/
def Commitment.provisions (c : Commitment) (account : AccountId) : Bool :=
  c.content.provisioned.keys.any fun key => key.account = account

/-- The events that the commit has added to the outbox. -/
def Commitment.events (c : Commitment) : List OutboxEvent :=
  if c.isDone then c.content.events else []

/-- A transaction that makes wallets of an account makes the first. -/
lemma Transaction.IsWhole.first_mem {t : Transaction} {tx : TxId} {isDone : Bool}
    {account : AccountId} (h : t.IsWhole) (hp : Commitment.provisions ⟨tx, t, isDone⟩ account) :
    (⟨account, .usd⟩ : WalletKey) ∈ t.provisioned.keys := by
  rw [Commitment.provisions, List.any_eq_true] at hp
  obtain ⟨key, hkey, haccount⟩ := hp
  have hfirst := (h.provisioned key).mp hkey
  rwa [WalletKey.first, of_decide_eq_true haccount] at hfirst

/-- A store whose transactions are used side by side. -/
structure Vault where
  store : Store
  clock : Clock
  /-- The calls that wait. -/
  waiting : Table TxId RowCall
  /-- What has been committed, the oldest commit first. -/
  commits : List Commitment

namespace Vault

/-- What can happen to a vault. -/
inductive Event where
  | begin
  | call (tx : TxId) (call : TxCall)
  /-- A call that waits has a turn. -/
  | resume (tx : TxId)
  | drop (tx : TxId)
  | inject (point : FaultPoint)
  | advance (millis : Nat)
  | ring

/-- An empty vault. -/
def fresh (clock : Clock) (lockTimeout : Nat) (ids : IdSupply) : Vault :=
  ⟨.empty lockTimeout ids, clock, .empty, []⟩

/-- All committed events, the oldest first. -/
def events (v : Vault) : List OutboxEvent := v.commits.flatMap (·.events)

/-- Can the transaction be called? -/
def isFree (v : Vault) (tx : TxId) : Bool :=
  (v.store.transactions.get? tx).isSome && (v.waiting.get? tx).isNone

/-- A transaction is dropped, and its call with it. -/
def drop (v : Vault) (tx : TxId) : Vault :=
  { v with store := v.store.discard tx, waiting := v.waiting.erase tx }

section Steps

variable [Arithmetic]

/-- The vault after a turn of an adjustment. -/
def afterAdjust (v : Vault) (tx : TxId) :
    Store × Turn AdjustWait (Except Failure AdjustOutcome) → Vault
  | (store, .waiting wait) => { v with store, waiting := v.waiting.insert tx (.adjusting wait) }
  | (store, .done (.error .overflow)) => drop { v with store } tx
  | (store, .done (.error .overdrawn)) => drop { v with store } tx
  | (store, .done _) => { v with store, waiting := v.waiting.erase tx }

/-- The vault after a turn of a provisioning. -/
def afterProvision (v : Vault) (tx : TxId) :
    Store × Turn ProvisionWait (Except LedgerError Unit) → Vault
  | (store, .waiting wait) =>
    { v with store, waiting := v.waiting.insert tx (.provisioning wait) }
  | (store, .done _) => { v with store, waiting := v.waiting.erase tx }

/-- What is noted about a commit that starts now. -/
def noteCommit (v : Vault) (tx : TxId) : List Commitment :=
  match v.store.takeFault? .commit with
  | some _ => []
  | none => [⟨tx, v.store.transaction tx, (v.store.commit tx).2.isOk⟩]

/-- A transaction is called. -/
def serve (v : Vault) (tx : TxId) : TxCall → Vault
  | .adjust key amount direction =>
    v.afterAdjust tx (v.store.adjust v.clock ⟨tx, key, amount, direction⟩)
  | .provision account => v.afterProvision tx (v.store.provision v.clock tx account)
  | .append record => { v with store := (v.store.append tx record).1 }
  | .enqueue event => { v with store := (v.store.enqueue tx event).1 }
  | .commit => { v with store := (v.store.commit tx).1, commits := v.commits ++ v.noteCommit tx }
  | .rollback => { v with store := (v.store.rollback tx).1 }

/-- A call goes on. -/
def goOn (v : Vault) (tx : TxId) : RowCall → Vault
  | .adjusting wait => v.afterAdjust tx (v.store.resumeAdjust v.clock wait)
  | .provisioning wait => v.afterProvision tx (v.store.resumeProvision v.clock wait)

/-- What happens to a vault. -/
def step (v : Vault) : Event → Vault
  | .begin => { v with store := v.store.begin.1 }
  | .call tx call => if v.isFree tx then v.serve tx call else v
  | .resume tx =>
    match v.waiting.get? tx with
    | none => v
    | some call => v.goOn tx call
  | .drop tx => v.drop tx
  | .inject point => { v with store := v.store.inject point }
  | .advance millis => { v with clock := v.clock.advance millis }
  | .ring => { v with clock := v.clock.ring }

/-- All that happens to a vault. -/
def run (v : Vault) (events : List Event) : Vault := events.foldl step v

end Steps

/-! ### What one event comes to -/

variable {v v' : Vault} {tx other : TxId} {t : Transaction} {account : AccountId}
  {wallets : Table WalletKey Wallet} {isDone : Bool}

/-- A transaction has acted, and nothing has been committed. -/
structure Acts (v v' : Vault) (tx : TxId) : Prop where
  steps : v.store.Steps tx v'.store
  others {other : TxId} : tx ≠ other → v'.waiting.get? other = v.waiting.get? other
  waits {call : RowCall} : v'.waiting.get? tx = some call → v'.store.IsOpen tx ∧ call.Fits tx
  commits : v'.commits = v.commits

/-- A transaction has been committed, or its commit has been stopped. -/
structure Commits (v v' : Vault) (tx : TxId) (t : Transaction)
    (wallets : Table WalletKey Wallet) (isDone : Bool) : Prop where
  content : v.store.transactions.get? tx = some t
  free : v.waiting.get? tx = none
  writes : Store.Writes v.store.wallets t wallets
  store : v'.store = v.store.closed tx wallets (if isDone then t.records else [])
    (if isDone then t.events else [])
  waiting : v'.waiting = v.waiting
  commits : v'.commits = v.commits ++ [⟨tx, t, isDone⟩]

/-- The invariant of a vault. -/
structure IsSound (v : Vault) : Prop where
  orderly : v.store.Orderly
  waits {tx : TxId} {call : RowCall} : v.waiting.get? tx = some call →
    v.store.IsOpen tx ∧ call.Fits tx
  events : v.store.outbox.map (·.event) = v.events
  hasRow {c : Commitment} {account : AccountId} : c ∈ v.commits → c.provisions account →
    v.store.HasRow ⟨account, .usd⟩
  once (account : AccountId) : (v.commits.filter (·.provisions account)).length ≤ 1

lemma isSound_fresh (clock : Clock) (lockTimeout : Nat) (ids : IdSupply) :
    (fresh clock lockTimeout ids).IsSound where
  orderly := .empty lockTimeout ids
  waits := by simp [fresh]
  events := rfl
  hasRow := by simp [fresh]
  once := by simp [fresh]

lemma isOpen_of_isFree (h : v.isFree tx) :
    (∃ t, v.store.transactions.get? tx = some t) ∧ v.waiting.get? tx = none := by
  rw [isFree, Bool.and_eq_true, Option.isSome_iff_exists, Option.isNone_iff_eq_none] at h
  exact h

namespace IsSound

/-- Where only faults, identifiers and time change, any transaction can be said to have acted. -/
lemma acts_of_eq (hv : v.IsSound) (tx : TxId) (hstore : v.store.Steps tx v'.store)
    (htransactions : v'.store.transactions = v.store.transactions)
    (hwaiting : v'.waiting = v.waiting) (hcommits : v'.commits = v.commits) : v.Acts v' tx where
  steps := hstore
  others _ := by rw [hwaiting]
  waits {call} hw := by
    rw [Store.IsOpen, htransactions]
    exact hv.waits (hwaiting ▸ hw)
  commits := hcommits

/-- A transaction that waits for no row has acted. -/
lemma acts_of_free (hfree : v.waiting.get? tx = none) {store : Store}
    (hstore : v.store.Steps tx store) : v.Acts { v with store } tx where
  steps := hstore
  others _ := rfl
  waits hw := absurd (hfree.symm.trans hw) (by simp)
  commits := rfl

lemma acts_drop {store : Store} (hstore : v.store.Steps tx store) :
    v.Acts (drop { v with store } tx) tx where
  steps := hstore.trans hstore.orderly.discard
  others hne := (Table.get?_erase ..).trans (if_neg hne)
  waits hw := absurd ((Table.get?_erase ..).symm.trans hw) (by simp)
  commits := rfl

/-- A call has ended. -/
lemma acts_done {store : Store} (hstore : v.store.Steps tx store) :
    v.Acts { v with store, waiting := v.waiting.erase tx } tx where
  steps := hstore
  others hne := (Table.get?_erase ..).trans (if_neg hne)
  waits hw := absurd ((Table.get?_erase ..).symm.trans hw) (by simp)
  commits := rfl

/-- A call waits. -/
lemma acts_waiting {store : Store} {call : RowCall} (hstore : v.store.Steps tx store)
    (hopen : store.IsOpen tx) (hfits : call.Fits tx) :
    v.Acts { v with store, waiting := v.waiting.insert tx call } tx where
  steps := hstore
  others hne := (Table.get?_insert ..).trans (if_neg hne)
  waits {call'} hw := by
    obtain rfl := Option.some.inj (((Table.get?_insert ..).trans (if_pos rfl)).symm.trans hw)
    exact ⟨hopen, hfits⟩
  commits := rfl

lemma acts_afterAdjust {result : Store × Turn AdjustWait (Except Failure AdjustOutcome)}
    (hstore : v.store.Steps tx result.1)
    (hwaits : ∀ w, result.2 = .waiting w → result.1.IsOpen tx ∧ w.adjustment.tx = tx) :
    v.Acts (v.afterAdjust tx result) tx := by
  obtain ⟨store, turn⟩ := result
  rw [afterAdjust.eq_def]
  split
  · next heq =>
    cases heq
    exact acts_waiting hstore (hwaits _ rfl).1 (hwaits _ rfl).2
  · next heq =>
    cases heq
    exact acts_drop hstore
  · next heq =>
    cases heq
    exact acts_drop hstore
  · next heq =>
    cases heq
    exact acts_done hstore

lemma acts_afterProvision {result : Store × Turn ProvisionWait (Except LedgerError Unit)}
    (hstore : v.store.Steps tx result.1)
    (hwaits : ∀ w, result.2 = .waiting w → result.1.IsOpen tx ∧ w.tx = tx ∧ w.IsFirst) :
    v.Acts (v.afterProvision tx result) tx := by
  obtain ⟨store, turn⟩ := result
  cases turn with
  | waiting wait => exact acts_waiting hstore (hwaits _ rfl).1 (hwaits _ rfl).2
  | done outcome => exact acts_done hstore

/-- A commit is struck by a fault, or writes. -/
lemma commit_cases (hv : v.IsSound) (ht : v.store.transactions.get? tx = some t)
    (hfree : v.waiting.get? tx = none) : v.Acts (v.serve tx .commit) tx ∨
      ∃ wallets isDone, v.Commits (v.serve tx .commit) tx t wallets isDone := by
  rw [serve, noteCommit]
  -- a fault strikes before anything is written; a stopped commit has written all of it
  rcases Store.commit_cases ht (hv.orderly.isWhole ht).nodup with
    ⟨struck, hf, hstore⟩ | ⟨hf, wallets, hw, ⟨hok, hstore⟩ | ⟨hok, hstore⟩⟩
  · left
    rw [hf, hstore, List.append_nil]
    have hstrike : v.store.Steps tx struck := hv.orderly.strike hf
    exact acts_of_free hfree (hstrike.trans hstrike.orderly.discard)
  · refine .inr ⟨wallets, true, ht, hfree, hw, hstore, rfl, ?_⟩
    rw [hf, hok, Store.transaction, ht, Option.getD_some]
  · refine .inr ⟨wallets, false, ht, hfree, hw, hstore, rfl, ?_⟩
    rw [hf, hok, Store.transaction, ht, Option.getD_some]

/-- A call other than a commit. -/
lemma acts_serve (hv : v.IsSound) (ht : v.store.transactions.get? tx = some t)
    (hfree : v.waiting.get? tx = none) {call : TxCall} (hne : call ≠ .commit) :
    v.Acts (v.serve tx call) tx := by
  have hopen : v.store.IsOpen tx := ⟨t, ht⟩
  cases call with
  | adjust key amount direction =>
      obtain ⟨hsteps, hwaits⟩ := hv.orderly.adjust v.clock ⟨tx, key, amount, direction⟩ hopen
      refine acts_afterAdjust hsteps fun w hw => ?_
      obtain ⟨heq, ho⟩ := hwaits w hw
      exact ⟨ho, congrArg Adjustment.tx heq⟩
  | provision account =>
      obtain ⟨hsteps, hwaits⟩ := hv.orderly.provision v.clock account hopen
      refine acts_afterProvision hsteps fun w hw => ?_
      obtain ⟨htx, hfirst, ho⟩ := hwaits w hw
      exact ⟨ho, htx, hfirst⟩
  | append record => exact acts_of_free hfree (hv.orderly.append hopen record)
  | enqueue event => exact acts_of_free hfree (hv.orderly.enqueue hopen event)
  | commit => exact absurd rfl hne
  | rollback => exact acts_of_free hfree hv.orderly.rollback

/-- A call that waits goes on. -/
lemma acts_goOn (hv : v.IsSound) {call : RowCall} (hw : v.waiting.get? tx = some call) :
    v.Acts (v.goOn tx call) tx := by
  obtain ⟨hopen, hfits⟩ := hv.waits hw
  cases call with
  | adjusting wait =>
      obtain rfl : wait.adjustment.tx = tx := hfits
      obtain ⟨hsteps, hwaits⟩ := hv.orderly.resumeAdjust v.clock wait hopen
      refine acts_afterAdjust hsteps fun w hw => ?_
      obtain ⟨rfl, ho⟩ := hwaits w hw
      exact ⟨ho, rfl⟩
  | provisioning wait =>
      obtain ⟨rfl, hfirst⟩ : wait.tx = tx ∧ wait.IsFirst := hfits
      obtain ⟨hsteps, hwaits⟩ := hv.orderly.resumeProvision v.clock hfirst hopen
      refine acts_afterProvision hsteps fun w hw => ?_
      obtain ⟨rfl, ho⟩ := hwaits w hw
      exact ⟨ho, rfl, hfirst⟩

/-- Every event is a step of one transaction, or a commit. -/
theorem step_cases (hv : v.IsSound) (event : Event) : (∃ tx, v.Acts (v.step event) tx) ∨
    ∃ tx t wallets isDone, event = .call tx .commit ∧
      v.Commits (v.step event) tx t wallets isDone := by
  -- where nothing happens any transaction can be said to have acted
  have hrests : v.Acts v ⟨0⟩ := hv.acts_of_eq ⟨0⟩ (.refl hv.orderly) rfl rfl rfl
  cases event with
  | begin =>
      refine .inl ⟨⟨v.store.begun⟩, acts_of_free ?_ hv.orderly.begin⟩
      rw [Option.eq_none_iff_forall_ne_some]
      exact fun call hw => hv.orderly.disciplined.not_isOpen_begun (hv.waits hw).1
  | call tx call =>
      rw [step]
      split
      · next hfree =>
        obtain ⟨⟨t, ht⟩, hfree⟩ := isOpen_of_isFree hfree
        by_cases hcommit : call = .commit
        · subst hcommit
          rcases hv.commit_cases ht hfree with hacts | ⟨wallets, isDone, hcommits⟩
          · exact .inl ⟨tx, hacts⟩
          · exact .inr ⟨tx, t, wallets, isDone, rfl, hcommits⟩
        · exact .inl ⟨tx, hv.acts_serve ht hfree hcommit⟩
      · exact .inl ⟨⟨0⟩, hrests⟩
  | resume tx =>
      rw [step]
      split
      · exact .inl ⟨⟨0⟩, hrests⟩
      · next call hw => exact .inl ⟨tx, hv.acts_goOn hw⟩
  | drop tx => exact .inl ⟨tx, acts_drop (.refl hv.orderly)⟩
  | inject point => exact .inl ⟨⟨0⟩, hv.acts_of_eq ⟨0⟩ (hv.orderly.inject point) rfl rfl rfl⟩
  | advance millis => exact .inl ⟨⟨0⟩, hv.acts_of_eq ⟨0⟩ (.refl hv.orderly) rfl rfl rfl⟩
  | ring => exact .inl ⟨⟨0⟩, hv.acts_of_eq ⟨0⟩ (.refl hv.orderly) rfl rfl rfl⟩

/-- Others go on waiting whatever a transaction leaves to them. -/
lemma waits_of_leaves (hv : v.IsSound) (hleaves : Store.Leaves tx v.store v'.store)
    (hne : tx ≠ other) (hwaiting : v'.waiting.get? other = v.waiting.get? other) {call : RowCall}
    (hw : v'.waiting.get? other = some call) : v'.store.IsOpen other ∧ call.Fits other := by
  obtain ⟨hopen, hfits⟩ := hv.waits (hwaiting ▸ hw)
  exact ⟨hleaves.isOpen hne hopen, hfits⟩

lemma acts (hv : v.IsSound) (h : v.Acts v' tx) : v'.IsSound where
  orderly := h.steps.orderly
  waits {other call} hw := by
    rcases eq_or_ne tx other with rfl | hne
    · exact h.waits hw
    · exact hv.waits_of_leaves h.steps.leaves hne (h.others hne) hw
  events := by
    rw [Vault.events, h.commits, h.steps.outbox]
    exact hv.events
  hasRow {c account} hc hp := by
    rw [Store.HasRow, h.steps.wallets]
    exact hv.hasRow (h.commits ▸ hc) hp
  once account := by
    rw [h.commits]
    exact hv.once account

end IsSound

namespace Commits

/-- Rows that exist stay, with their identifiers. -/
lemma hasRow (h : v.Commits v' tx t wallets isDone) {key : WalletKey}
    (hrow : v.store.HasRow key) : v'.store.HasRow key := by
  rw [h.store]
  by_cases hk : key ∈ t.provisioned.keys
  · exact h.writes.added hk
  · obtain ⟨wallet, hw⟩ := hrow
    obtain ⟨balance, hw', -⟩ := h.writes.changed hk hw
    exact ⟨_, hw'⟩

/-- A commit that makes wallets of an account is the first that does. -/
lemma not_provisions (h : v.Commits v' tx t wallets isDone) (hv : v.IsSound)
    (hp : Commitment.provisions ⟨tx, t, isDone⟩ account) {c : Commitment} (hc : c ∈ v.commits) :
    ¬ c.provisions account := by
  intro hp'
  obtain ⟨wallet, hw⟩ := hv.hasRow hc hp'
  have hnone := hv.orderly.disciplined.noRow h.content
    ((hv.orderly.isWhole h.content).first_mem hp)
  exact absurd (hw.symm.trans hnone) (by simp)

end Commits

namespace IsSound

lemma commits (hv : v.IsSound) (h : v.Commits v' tx t wallets isDone) : v'.IsSound where
  orderly := by
    rw [h.store]
    exact hv.orderly.closed h.content h.writes _ _
  waits {other call} hw := by
    rcases eq_or_ne tx other with rfl | hne
    · rw [h.waiting, h.free] at hw
      exact absurd hw (by simp)
    · refine hv.waits_of_leaves ?_ hne (by rw [h.waiting]) hw
      rw [h.store]
      exact .closed hv.orderly.disciplined h.content h.writes _ _
  events := by
    rw [Vault.events, h.commits, h.store, List.flatMap_append, ← Vault.events, ← hv.events]
    simp [Store.closed, Commitment.events, Function.comp_def]
  hasRow {c account} hc hp := by
    rw [h.commits, List.mem_append, List.mem_singleton] at hc
    rcases hc with hc | rfl
    · exact h.hasRow (hv.hasRow hc hp)
    · rw [h.store]
      exact h.writes.added ((hv.orderly.isWhole h.content).first_mem hp)
  once account := by
    rw [h.commits, List.filter_append, List.length_append]
    by_cases hp : Commitment.provisions ⟨tx, t, isDone⟩ account
    · have hnone : v.commits.filter (·.provisions account) = [] :=
        List.filter_eq_nil_iff.mpr fun c hc => h.not_provisions hv hp hc
      simp [hnone, hp]
    · simpa [hp] using hv.once account

/-- Every event keeps the invariant. -/
theorem step (hv : v.IsSound) (event : Event) : (v.step event).IsSound := by
  rcases hv.step_cases event with ⟨tx, hacts⟩ | ⟨tx, t, wallets, isDone, -, hcommits⟩
  · exact hv.acts hacts
  · exact hv.commits hcommits

/-- Events only join the outbox, at its end and without a flag. -/
lemma exists_outbox_step (hv : v.IsSound) (event : Event) : ∃ events : List OutboxEvent,
    (v.step event).store.outbox = v.store.outbox ++ events.map fun event => ⟨event, false⟩ := by
  rcases hv.step_cases event with ⟨tx, hacts⟩ | ⟨tx, t, wallets, isDone, -, hcommits⟩
  · exact ⟨[], by rw [hacts.steps.outbox, List.map_nil, List.append_nil]⟩
  · exact ⟨_, by rw [hcommits.store, Store.closed]⟩

/-- Every run keeps the invariant. -/
theorem run (hv : v.IsSound) (events : List Event) : (v.run events).IsSound := by
  induction events generalizing v with
  | nil => exact hv
  | cons event events ih => exact ih (hv.step event)

end IsSound

end Vault

end Teller
