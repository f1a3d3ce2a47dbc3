/-
Accounts and their wallets in a run of transactions that are used side by side.

* `Vault.KeepsAccounts`: what this means: every account has one wallet in each currency or none, no
  wallet gets another identifier or is made again, its balance changes by commits of changes only,
  and at most one commit makes the wallets of an account;
* `Vault.keepsAccounts_run`: every run is like that.
-/
import Teller.Proofs.Trace
import Teller.Proofs.Vault.Basic

namespace Teller.Vault

variable {v : Vault} {events : List Event} {event : Event} {account : AccountId} {m n : ℕ}
  {key : WalletKey} {wallet : Wallet}

lemma run_take_succ (hevent : events[n]? = some event) :
    v.run (events.take (n + 1)) = (v.run (events.take n)).step event :=
  Trace.foldl_take_succ hevent

lemma run_take_succ_of_none (hevent : events[n]? = none) :
    v.run (events.take (n + 1)) = v.run (events.take n) :=
  Trace.foldl_take_succ_of_none hevent

/-- The currencies in which an account has a wallet. -/
def currenciesOf (v : Vault) (account : AccountId) : List Currency :=
  (v.store.walletsOf account).toList.map (·.1)

/-- A row of a wallet that has been committed, at the end of the first events. -/
def rowAfter (v : Vault) (events : List Event) (n : ℕ) (key : WalletKey) : Option Wallet :=
  (v.run (events.take n)).store.wallets.get? key

/-- The next event is a commit that makes no wallet for the row and changes its balance. -/
def Changes (v : Vault) (events : List Event) (n : ℕ) (key : WalletKey) (wallet : Wallet)
    (balance : Decimal) : Prop :=
  ∃ tx t delta, events[n]? = some (.call tx .commit) ∧
    (v.run (events.take n)).store.transactions.get? tx = some t ∧ key ∉ t.provisioned.keys ∧
    t.deltas.get? key = some delta ∧ Arithmetic.sum? wallet.balance delta = some balance

/-- What holds of the wallets of all accounts in a run. -/
structure KeepsAccounts (v : Vault) (events : List Event) : Prop where
  /-- An account has no wallet, or exactly one in each currency. -/
  whole (account : AccountId) : (v.run events).currenciesOf account = [] ∨
    (v.run events).currenciesOf account = Currency.all
  /-- A wallet stays, and keeps its identifier. -/
  kept {m n : ℕ} (h : m ≤ n) {key : WalletKey} {wallet : Wallet} :
    v.rowAfter events m key = some wallet →
      ∃ balance, v.rowAfter events n key = some ⟨wallet.id, balance⟩
  /-- The row of a wallet is only written by commits of changes of its balance. -/
  written {n : ℕ} {key : WalletKey} {wallet : Wallet} : v.rowAfter events n key = some wallet →
    v.rowAfter events (n + 1) key = some wallet ∨ ∃ balance,
      v.Changes events n key wallet balance ∧
        v.rowAfter events (n + 1) key = some ⟨wallet.id, balance⟩
  /-- No transaction is about to make a wallet that has been committed. -/
  unmade {tx : TxId} {t : Transaction} {key : WalletKey} :
    (v.run events).store.transactions.get? tx = some t → key ∈ t.provisioned.keys →
      (v.run events).store.wallets.get? key = none
  /-- At most one commit makes wallets of an account, -/
  once (account : AccountId) : ((v.run events).commits.filter (·.provisions account)).length ≤ 1
  /-- and it makes them all. -/
  made {c : Commitment} {account : AccountId} : c ∈ (v.run events).commits →
    c.provisions account → (v.run events).currenciesOf account = Currency.all

/-- An account with one wallet has one in each currency. -/
lemma IsSound.currenciesOf_eq_all (hv : v.IsSound) (h : v.store.HasRow ⟨account, .usd⟩) :
    v.currenciesOf account = Currency.all := by
  have hrow : ∀ c, ∃ wallet, v.store.wallets.get? ⟨account, c⟩ = some wallet :=
    fun c => (hv.orderly.rows ⟨account, c⟩).mpr h
  obtain ⟨usd, husd⟩ := hrow .usd
  obtain ⟨eur, heur⟩ := hrow .eur
  obtain ⟨rub, hrub⟩ := hrow .rub
  simp [currenciesOf, Store.walletsOf, CurrencyMap.toList, Currency.all, husd, heur, hrub]

/-- An account without one wallet has none. -/
lemma IsSound.currenciesOf_eq_nil (hv : v.IsSound) (h : ¬ v.store.HasRow ⟨account, .usd⟩) :
    v.currenciesOf account = [] := by
  have hrow : ∀ c, v.store.wallets.get? ⟨account, c⟩ = none := fun c =>
    Store.not_hasRow_iff.mp fun hrow => h ((hv.orderly.rows ⟨account, c⟩).mp hrow)
  simp [currenciesOf, Store.walletsOf, CurrencyMap.toList, hrow]

/-- A row is only written by commits of changes of its balance. -/
lemma IsSound.rowAfter_succ (hv : v.IsSound) (h : v.rowAfter events n key = some wallet) :
    v.rowAfter events (n + 1) key = some wallet ∨ ∃ balance,
      v.Changes events n key wallet balance ∧
        v.rowAfter events (n + 1) key = some ⟨wallet.id, balance⟩ := by
  rw [rowAfter] at h
  cases hevent : events[n]? with
  | none =>
      rw [rowAfter, run_take_succ_of_none hevent]
      exact .inl h
  | some event =>
      rw [rowAfter, run_take_succ hevent]
      have hn := hv.run (events.take n)
      rcases hn.step_cases event with ⟨tx, hacts⟩ | ⟨tx, t, wallets, isDone, rfl, hcommits⟩
      · rw [hacts.steps.wallets]
        exact .inl h
      · have hnot : key ∉ t.provisioned.keys := by
          intro hk
          rw [hn.orderly.disciplined.noRow hcommits.content hk] at h
          exact absurd h (by simp)
        obtain ⟨balance, hrow, hbalance⟩ := hcommits.writes.changed hnot h
        rw [hcommits.store]
        rcases hbalance with rfl | ⟨delta, hdelta, hsum⟩
        · exact .inl hrow
        · exact .inr ⟨balance, ⟨tx, t, delta, hevent, hcommits.content, hnot, hdelta, hsum⟩, hrow⟩

/-- A wallet stays, and keeps its identifier. -/
lemma IsSound.rowAfter_of_le (hv : v.IsSound) (hmn : m ≤ n)
    (h : v.rowAfter events m key = some wallet) :
    ∃ balance, v.rowAfter events n key = some ⟨wallet.id, balance⟩ := by
  induction n, hmn using Nat.le_induction with
  | base => exact ⟨wallet.balance, h⟩
  | succ n hmn ih =>
      obtain ⟨balance, hrow⟩ := ih
      rcases hv.rowAfter_succ hrow with hsame | ⟨balance', -, hrow'⟩
      · exact ⟨balance, hsame⟩
      · exact ⟨balance', hrow'⟩

/-- Every run keeps accounts: they get all their wallets at once and from one transaction, whatever
transactions do side by side, whatever they do after errors, and wherever they end. -/
theorem keepsAccounts_run (clock : Clock) (lockTimeout : Nat) (ids : IdSupply)
    (events : List Event) : (fresh clock lockTimeout ids).KeepsAccounts events := by
  have hv := isSound_fresh clock lockTimeout ids
  have hend := hv.run events
  constructor
  case whole =>
    intro account
    by_cases h : ((fresh clock lockTimeout ids).run events).store.HasRow ⟨account, .usd⟩
    · exact .inr (hend.currenciesOf_eq_all h)
    · exact .inl (hend.currenciesOf_eq_nil h)
  case kept =>
    intro m n hmn key wallet h
    exact hv.rowAfter_of_le hmn h
  case written =>
    intro n key wallet h
    exact hv.rowAfter_succ h
  case unmade =>
    intro tx t key ht hk
    exact hend.orderly.disciplined.noRow ht hk
  case once => exact hend.once
  case made =>
    intro c account hc hp
    exact hend.currenciesOf_eq_all (hend.hasRow hc hp)

/-- Of two transactions that make wallets of one account side by side, the second waits for the
first row, and finds the wallets of the first when it goes on. -/
example :
    let v := (fresh (.atRest 0) Store.standardLockTimeout .fresh).run
      [.begin, .begin, .call ⟨0⟩ (.provision ⟨.random 0⟩), .call ⟨1⟩ (.provision ⟨.random 0⟩),
        .call ⟨0⟩ .commit, .resume ⟨1⟩, .call ⟨1⟩ .commit]
    v.currenciesOf ⟨.random 0⟩ = Currency.all ∧
      v.commits.map (·.provisions ⟨.random 0⟩) = [true, false] := by
  decide +kernel

end Teller.Vault
