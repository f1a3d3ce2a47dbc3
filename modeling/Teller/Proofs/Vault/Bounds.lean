/-
Balances stay within their bounds in a run of transactions that are used side by side, as long as
what is credited is not below zero.

* `Vault.Event.IsModest`: an event that asks for no adjustment, or for a modest one;
* `Vault.IsCovered`: the invariant of such runs, kept by every modest event (`IsCovered.step`);
* `Vault.KeepsBounds`: no commit is stopped, and every balance that is ever committed is between
  zero and the largest balance;
* `Vault.keepsBounds_run`: every run of modest events is like that;
* `Vault.not_keepsBounds_negative_credit`: a credit below zero is not checked against zero, and its
  commit is stopped;
* `Vault.not_keepsBounds_eleven_digits`: with eleven fraction digits sums are rounded, and credits
  lift a balance above the largest.
-/
import Teller.Proofs.Store.Covering
import Teller.Proofs.Vault.Provisioning

namespace Teller.Vault

variable {v : Vault} {events : List Event} {event : Event} {tx : TxId} {t : Transaction}

/-- The adjustment that is asked for, if one is. -/
def Event.adjustment? : Event → Option Adjustment
  | .call tx (.adjust key amount direction) => some ⟨tx, key, amount, direction⟩
  | _ => none

/-- What is asked for is no adjustment, or a modest one. -/
def Event.IsModest (event : Event) : Prop := ∀ a ∈ event.adjustment?, a.IsModest

instance (event : Event) : Decidable event.IsModest :=
  inferInstanceAs (Decidable (∀ a ∈ event.adjustment?, a.IsModest))

/-! ### The invariant -/

/-- The invariant of a vault that is asked for modest adjustments only. -/
structure IsCovered (v : Vault) : Prop where
  store : v.store.Covered
  waits {tx : TxId} {wait : AdjustWait} : v.waiting.get? tx = some (.adjusting wait) →
    wait.adjustment.IsModest
  done {c : Commitment} : c ∈ v.commits → c.isDone = true

lemma isCovered_fresh (clock : Clock) (lockTimeout : Nat) (ids : IdSupply) :
    (fresh clock lockTimeout ids).IsCovered where
  store := Store.covered_empty lockTimeout ids
  waits := by simp [fresh]
  done := by simp [fresh]

namespace IsCovered

/-- Nothing is committed and no adjustment begins to wait. -/
lemma withStore (hv : v.IsCovered) {store : Store} (hstore : store.Covered) :
    IsCovered { v with store } :=
  ⟨hstore, hv.waits, hv.done⟩

/-- A call has ended. -/
lemma free (hv : v.IsCovered) {store : Store} (hstore : store.Covered) (tx : TxId) :
    IsCovered { v with store, waiting := v.waiting.erase tx } where
  store := hstore
  waits {other wait} hw := by
    rw [Table.get?_erase] at hw
    split at hw
    · simp at hw
    · exact hv.waits hw
  done := hv.done

/-- A call waits. -/
lemma wait (hv : v.IsCovered) {store : Store} (hstore : store.Covered) (tx : TxId) {call : RowCall}
    (hcall : ∀ wait, call = .adjusting wait → wait.adjustment.IsModest) :
    IsCovered { v with store, waiting := v.waiting.insert tx call } where
  store := hstore
  waits {other wait} hw := by
    rw [Table.get?_insert] at hw
    split at hw
    · exact hcall wait (Option.some.inj hw)
    · exact hv.waits hw
  done := hv.done

lemma drop (hv : v.IsCovered) (tx : TxId) : (v.drop tx).IsCovered :=
  hv.free (hv.store.bides (.discard v.store tx)) tx

lemma afterAdjust (hv : v.IsCovered) (tx : TxId)
    {result : Store × Turn AdjustWait (Except Failure AdjustOutcome)} (hstore : result.1.Covered)
    (hwaits : ∀ w, result.2 = .waiting w → w.adjustment.IsModest) :
    (v.afterAdjust tx result).IsCovered := by
  obtain ⟨store, turn⟩ := result
  rw [Vault.afterAdjust.eq_def]
  split
  · next heq =>
    cases heq
    refine hv.wait hstore tx fun wait hwait => ?_
    cases hwait
    exact hwaits _ rfl
  · next heq =>
    cases heq
    exact (hv.withStore hstore).drop tx
  · next heq =>
    cases heq
    exact (hv.withStore hstore).drop tx
  · next heq =>
    cases heq
    exact hv.free hstore tx

lemma afterProvision (hv : v.IsCovered) (tx : TxId)
    {result : Store × Turn ProvisionWait (Except LedgerError Unit)} (hstore : result.1.Covered) :
    (v.afterProvision tx result).IsCovered := by
  obtain ⟨store, turn⟩ := result
  cases turn with
  | waiting wait => exact hv.wait hstore tx fun wait hwait => by simp at hwait
  | done outcome => exact hv.free hstore tx

/-- A commit makes all its changes, unless a fault strikes it. -/
lemma commit (hv : v.IsCovered) (hs : v.IsSound) (ht : v.store.transactions.get? tx = some t) :
    (v.serve tx .commit).IsCovered := by
  have hd := hs.orderly.disciplined
  have hnodup := (hs.orderly.isWhole ht).nodup
  -- what is covered can be added up, so that no balance stops the commit
  obtain ⟨wallets, hcommitted, hfine⟩ := hv.store.exists_committedWallets hd ht hnodup
  rw [serve, noteCommit, Store.commit]
  cases hf : v.store.takeFault? .commit with
  | some struck =>
      have hbides : v.store.Bides (struck.discard tx) :=
        (Store.Bides.isFrame.strike hf).trans (.discard struck tx)
      refine ⟨hv.store.bides hbides, hv.waits, fun hc => hv.done ?_⟩
      rwa [List.append_nil] at hc
  | none =>
      have hclosed := hv.store.closed hd ht (Store.writes_committedWallets hnodup hcommitted) hfine
        t.records t.events
      simp only [Store.transaction, ht, Option.getD_some, hcommitted]
      refine ⟨hclosed, hv.waits, fun hc => ?_⟩
      rcases List.mem_append.mp hc with hc | hc
      · exact hv.done hc
      · obtain rfl := List.mem_singleton.mp hc
        rfl

/-- A modest call. -/
lemma serve (hv : v.IsCovered) (hs : v.IsSound) (ht : v.store.transactions.get? tx = some t)
    {call : TxCall} (hmodest : (Event.call tx call).IsModest) : (v.serve tx call).IsCovered := by
  cases call with
  | adjust key amount direction =>
      obtain ⟨hstore, hwaits⟩ := hv.store.adjust v.clock (hmodest _ rfl)
      exact hv.afterAdjust tx hstore hwaits
  | provision account =>
      have hbides := Store.Bides.isFrame.provision v.store v.clock tx account
      exact hv.afterProvision tx (hv.store.bides hbides)
  | append record => exact hv.withStore (hv.store.bides (.append v.store tx record))
  | enqueue event => exact hv.withStore (hv.store.bides (.enqueue v.store tx event))
  | commit => exact hv.commit hs ht
  | rollback => exact hv.withStore (hv.store.bides (Store.Bides.isFrame.rollback v.store tx))

/-- A call that waits goes on. -/
lemma goOn (hv : v.IsCovered) {call : RowCall} (hw : v.waiting.get? tx = some call) :
    (v.goOn tx call).IsCovered := by
  cases call with
  | adjusting wait =>
      obtain ⟨hstore, hwaits⟩ := hv.store.resumeAdjust v.clock (hv.waits hw)
      exact hv.afterAdjust tx hstore hwaits
  | provisioning wait =>
      have hbides := Store.Bides.isFrame.resumeProvision v.store v.clock wait
      exact hv.afterProvision tx (hv.store.bides hbides)

/-- Every modest event keeps the invariant. -/
theorem step (hv : v.IsCovered) (hs : v.IsSound) (hmodest : event.IsModest) :
    (v.step event).IsCovered := by
  cases event with
  | begin => exact hv.withStore (hv.store.bides (Store.Bides.isFrame.begin v.store))
  | call tx call =>
      rw [Vault.step]
      split
      · next hfree =>
        obtain ⟨⟨t, ht⟩, -⟩ := isOpen_of_isFree hfree
        exact hv.serve hs ht hmodest
      · exact hv
  | resume tx =>
      rw [Vault.step]
      split
      · exact hv
      · next call hw => exact hv.goOn hw
  | drop tx => exact hv.drop tx
  | inject point => exact hv.withStore (hv.store.bides (.of_eq rfl rfl))
  | advance millis => exact ⟨hv.store, hv.waits, hv.done⟩
  | ring => exact ⟨hv.store, hv.waits, hv.done⟩

/-- Every run of modest events keeps the invariant. -/
theorem run (hv : v.IsCovered) (hs : v.IsSound) (hmodest : ∀ event ∈ events, event.IsModest) :
    (v.run events).IsCovered := by
  induction events generalizing v with
  | nil => exact hv
  | cons event events ih =>
      obtain ⟨hfirst, hrest⟩ := List.forall_mem_cons.mp hmodest
      exact ih (hv.step hs hfirst) (hs.step event) hrest

end IsCovered

/-! ### Bounds -/

/-- What balances are in a run. -/
structure KeepsBounds (v : Vault) (events : List Event) : Prop where
  /-- Whenever it is looked at, a committed balance is between zero and the largest. -/
  bounds {n : ℕ} {key : WalletKey} {wallet : Wallet} : v.rowAfter events n key = some wallet →
    ¬ wallet.balance < .zero ∧ wallet.balance ≤ Money.maxValue
  /-- No commit is stopped by a balance. -/
  done {c : Commitment} : c ∈ (v.run events).commits → c.isDone = true

/-- In every run in which credits are not below zero and amounts have no more than ten fraction
digits, balances stay within their bounds, however transactions are used side by side and whatever
faults strike. -/
theorem keepsBounds_run (clock : Clock) (lockTimeout : Nat) (ids : IdSupply) (events : List Event)
    (hmodest : ∀ event ∈ events, event.IsModest) :
    (fresh clock lockTimeout ids).KeepsBounds events := by
  have hs := isSound_fresh clock lockTimeout ids
  have hv := isCovered_fresh clock lockTimeout ids
  constructor
  case bounds =>
    intro n key wallet hrow
    have hn : ((fresh clock lockTimeout ids).run (events.take n)).IsCovered :=
      hv.run hs fun event hmem => hmodest event (List.mem_of_mem_take hmem)
    exact (hn.store.isFineBalance hrow).bounds
  case done =>
    intro c hc
    exact (hv.run hs hmodest).done hc

/-- A run in which a wallet is credited, and debited by an amount below zero. -/
theorem keepsBounds_run_of_two_adjustments :
    (fresh (.atRest 0) Store.standardLockTimeout .fresh).KeepsBounds
      [.begin, .call ⟨0⟩ (.provision ⟨.random 0⟩),
        .call ⟨0⟩ (.adjust ⟨⟨.random 0⟩, .usd⟩ ⟨false, 1, 10, by decide, by decide⟩ .credit),
        .call ⟨0⟩ (.adjust ⟨⟨.random 0⟩, .usd⟩ ⟨true, 5, 0, by decide, by decide⟩ .debit),
        .call ⟨0⟩ .commit] :=
  keepsBounds_run _ _ _ _ (by decide +kernel)

/-- A credit below zero passes the checks: only debits are compared with the balance. Its commit is
stopped. -/
theorem not_keepsBounds_negative_credit :
    ¬ (fresh (.atRest 0) Store.standardLockTimeout .fresh).KeepsBounds
      [.begin, .call ⟨0⟩ (.provision ⟨.random 0⟩),
        .call ⟨0⟩ (.adjust ⟨⟨.random 0⟩, .usd⟩ ⟨true, 5, 0, by decide, by decide⟩ .credit),
        .call ⟨0⟩ .commit] := by
  intro h
  have hall : ∀ c ∈ ((fresh (.atRest 0) Store.standardLockTimeout .fresh).run _).commits,
      c.isDone = true := fun c hc => h.done hc
  exact absurd hall (by decide +kernel)

/-- With eleven fraction digits the bounds are not kept by credits above zero either: the sums that
are checked are rounded down to the largest balance, and the sum that is committed is rounded up. -/
theorem not_keepsBounds_eleven_digits :
    ¬ (fresh (.atRest 0) Store.standardLockTimeout .fresh).KeepsBounds
      [.begin, .call ⟨0⟩ (.provision ⟨.random 0⟩),
        .call ⟨0⟩ (.adjust ⟨⟨.random 0⟩, .usd⟩ Money.maxValue .credit), .call ⟨0⟩ .commit, .begin,
        .call ⟨1⟩ (.adjust ⟨⟨.random 0⟩, .usd⟩ ⟨false, 4, 11, by decide, by decide⟩ .credit),
        .call ⟨1⟩ (.adjust ⟨⟨.random 0⟩, .usd⟩ ⟨false, 4, 11, by decide, by decide⟩ .credit),
        .call ⟨1⟩ .commit] := by
  intro h
  have hall : ∀ wallet ∈ (fresh (.atRest 0) Store.standardLockTimeout .fresh).rowAfter _ 8
      ⟨⟨.random 0⟩, .usd⟩, wallet.balance ≤ Money.maxValue := fun wallet hw => (h.bounds hw).2
  exact absurd hall (by decide +kernel)

end Teller.Vault
