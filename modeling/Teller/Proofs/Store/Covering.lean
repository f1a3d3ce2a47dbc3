/-
What transactions are about to do leaves every balance within its bounds.

* `Decimal.IsFineBalance`: a number from zero to the largest balance with no more than ten fraction
  digits; `Decimal.Takes`: a balance can take a change and is one again;
* `Adjustment.IsModest`: an adjustment of no more than ten fraction digits that credits nothing
  below zero; one that passes the checks leaves a balance (`IsModest.next`);
* `Store.Covered`: every balance can take what any open transaction is about to add to it;
* `Store.Bides`: an operation that adds to no balance; they all keep the covering (`Covered.bides`),
  and so do modest adjustments (`Covered.adjust`, `Covered.resumeAdjust`);
* `Covered.exists_committedWallets`: no commit is stopped, and what it leaves is covered
  (`Covered.closed`).
-/
import Teller.Proofs.Store.Frame
import Teller.Proofs.Store.Writing

namespace Teller

namespace Decimal

/-! ### Balances and changes -/

/-- The largest balance in units of ten fraction digits. -/
def largestUnits : ℤ := 99999999999999999999 * 10 ^ 8

/-- The number is within the bounds of balances and has no more than ten fraction digits. -/
def IsFineBalance (d : Decimal) : Prop :=
  ∃ n, 0 ≤ n ∧ n ≤ largestUnits ∧ d.IsUnits 10 n

/-- A balance of `m` units can take a change of `n` units, and is a balance again. -/
structure Takes (balance change : Decimal) (m n : ℤ) : Prop where
  balance : balance.IsUnits 10 m
  change : change.IsUnits 10 n
  nonneg : 0 ≤ m
  le : m ≤ largestUnits
  sum_nonneg : 0 ≤ m + n
  sum_le : m + n ≤ largestUnits

variable {balance change : Decimal} {m n : ℤ}

lemma isFineBalance_zero : zero.IsFineBalance := ⟨0, le_rfl, by decide, isUnits_zero⟩

/-- The bounds that a balance has to keep. -/
lemma IsFineBalance.bounds (h : balance.IsFineBalance) :
    ¬ balance < zero ∧ balance ≤ Money.maxValue := by
  obtain ⟨n, hnonneg, hle, hn⟩ := h
  constructor
  · rw [hn.lt_iff isUnits_zero]
    omega
  · exact (hn.le_iff (isUnits_maxValue 8)).mpr hle

lemma IsFineBalance.takes_zero (h : balance.IsFineBalance) : ∃ m, balance.Takes zero m 0 := by
  obtain ⟨m, hnonneg, hle, hm⟩ := h
  exact ⟨m, hm, isUnits_zero, hnonneg, hle, by omega, by omega⟩

namespace Takes

lemma isFineBalance (h : balance.Takes change m n) : balance.IsFineBalance :=
  ⟨m, h.nonneg, h.le, h.balance⟩

/-- The sum of a balance and a change that it can take is exact. -/
lemma add? (h : balance.Takes change m n) :
    ∃ next, balance.add? change = some next ∧ next.IsUnits 10 (m + n) := by
  have hnonneg := h.sum_nonneg
  have hle := h.sum_le
  rw [largestUnits] at hle
  exact add?_isUnits (by omega) h.balance h.change (by omega)

/-- The two changes of a balance are added up exactly. -/
lemma add?_change (h : balance.Takes change m n) {more : Decimal} {k : ℤ}
    (hmore : more.IsUnits 10 k) (hnonneg : 0 ≤ m + n + k) (hle : m + n + k ≤ largestUnits) :
    ∃ total, change.add? more = some total ∧ balance.Takes total m (n + k) := by
  have hm := h.nonneg
  have hm' := h.le
  rw [largestUnits] at hle hm'
  obtain ⟨total, hsum, htotal⟩ := add?_isUnits (by omega) h.change hmore (by omega)
  exact ⟨total, hsum, h.balance, htotal, h.nonneg, h.le, by omega, by rw [largestUnits]; omega⟩

end Takes

end Decimal

/-! ### Modest adjustments -/

/-- The amount has no more than ten fraction digits, and is not below zero if it is credited. -/
def Adjustment.IsModest (a : Adjustment) : Prop :=
  a.amount.minimalScale ≤ 10 ∧ (a.direction = .credit → Decimal.zero ≤ a.amount)

instance (a : Adjustment) : Decidable a.IsModest :=
  inferInstanceAs (Decidable (_ ∧ _))

/-- An adjustment that passes the checks leaves a balance. The sum that is checked is exact, unless
it is so large that no rounding brings it below the largest balance. -/
lemma Adjustment.IsModest.next {a : Adjustment} (ha : a.IsModest) {current next : Decimal} {c : ℤ}
    (hc : current.IsUnits 10 c) (hnonneg : 0 ≤ c)
    (hdebit : ¬ (a.direction = .debit ∧ current < a.amount))
    (hnext : Store.nextBalance? current (a.direction.signed a.amount) = some next) :
    ∃ k, (a.direction.signed a.amount).IsUnits 10 k ∧ 0 ≤ c + k ∧ c + k ≤ Decimal.largestUnits := by
  obtain ⟨n, hn⟩ := Decimal.exists_isUnits_of_minimalScale_le ha.1
  -- neither a credit nor a debit that is covered goes below zero
  have hsigned : ∃ k, (a.direction.signed a.amount).IsUnits 10 k ∧ 0 ≤ c + k := by
    have hcredit := ha.2
    cases hdirection : a.direction with
    | credit =>
        rw [Decimal.isUnits_zero.le_iff hn] at hcredit
        have hle := hcredit hdirection
        exact ⟨n, hn, by omega⟩
    | debit =>
        rw [hc.lt_iff hn, not_and, not_lt] at hdebit
        have hle := hdebit hdirection
        exact ⟨-n, hn.neg, by omega⟩
  obtain ⟨k, hk, hsum⟩ := hsigned
  rw [Store.nextBalance?, Option.filter_eq_some_iff, decide_eq_true_eq] at hnext
  obtain ⟨hadd, hmax⟩ := hnext
  have hfits : c + k < 2 ^ 96 := by
    by_contra hge
    exact Decimal.not_add?_le_maxValue (show 8 ≤ 8 by omega) hc hk (not_lt.mp hge) hadd hmax
  obtain ⟨next', hadd', hunits⟩ := Decimal.add?_isUnits (by omega) hc hk (by omega)
  obtain rfl := Option.some.inj (hadd.symm.trans hadd')
  exact ⟨k, hk, hsum, (hunits.le_iff (Decimal.isUnits_maxValue 8)).mp hmax⟩

namespace Store

variable {s s' s'' : Store} {tx other : TxId} {t : Transaction} {key : WalletKey}
  {wallets : Table WalletKey Wallet}

/-! ### What is about to be added -/

/-- The committed balance of a row, zero where there is no wallet. -/
def base (s : Store) (key : WalletKey) : Decimal :=
  ((s.wallets.get? key).map (·.balance)).getD .zero

/-- What a transaction is about to add to the balance of a row. -/
def change (s : Store) (tx : TxId) (key : WalletKey) : Decimal :=
  ((s.transaction tx).deltas.get? key).getD .zero

/-- Every balance can take what any transaction is about to add to it. -/
def Covered (s : Store) : Prop := ∀ tx key, ∃ m n, (s.base key).Takes (s.change tx key) m n

lemma base_of_get? {wallet : Wallet} (h : s.wallets.get? key = some wallet) :
    s.base key = wallet.balance := by
  rw [base, h, Option.map_some, Option.getD_some]

lemma getD_baseBalance? (s : Store) (tx : TxId) (key : WalletKey) :
    (s.baseBalance? tx key).getD .zero = s.base key := by
  rw [baseBalance?, base]
  cases s.wallets.get? key with
  | some wallet => rfl
  | none => cases (s.transaction tx).provisioned.get? key <;> rfl

/-- The balances that a transaction sees are those of its rows. -/
lemma visibleBalance?_of_visibleBalances? {account : AccountId} {balances : Balances}
    (h : s.visibleBalances? tx account = some balances) (c : Currency) :
    s.visibleBalance? tx ⟨account, c⟩ = some (balances.get? c) := by
  simp only [visibleBalances?, Option.bind_eq_bind, Option.bind_eq_some_iff, Option.pure_def,
    Option.some.injEq] at h
  obtain ⟨usd, husd, eur, heur, rub, hrub, rfl⟩ := h
  cases c with
  | usd => exact husd
  | eur => exact heur
  | rub => exact hrub

/-- The balance that a transaction sees is the exact sum of the committed one and its change. -/
lemma isUnits_visible {m n : ℤ} (h : (s.base key).Takes (s.change tx key) m n)
    {balances : Balances} (hvisible : s.visibleBalances? tx key.account = some balances) :
    ((balances.get? key.currency).getD .zero).IsUnits 10 (m + n) := by
  have hrow := visibleBalance?_of_visibleBalances? hvisible key.currency
  rw [visibleBalance?] at hrow
  rw [change] at h
  cases hdelta : (s.transaction tx).deltas.get? key with
  | none =>
      rw [hdelta] at hrow h
      have hzero : n = 0 := h.change.isZero_iff.mp rfl
      rw [← Option.some.inj hrow, getD_baseBalance?, hzero, add_zero]
      exact h.balance
  | some delta =>
      rw [hdelta] at hrow h
      obtain ⟨next, hsum, hnext⟩ := h.add?
      have hsum' : Arithmetic.sum? ((s.baseBalance? tx key).getD .zero) delta = some next := by
        rw [getD_baseBalance?]
        exact hsum
      simp only [hsum', Option.map_some] at hrow
      rw [← Option.some.inj hrow]
      exact hnext

lemma covered_empty (lockTimeout : Nat) (ids : IdSupply) : (empty lockTimeout ids).Covered := by
  intro tx key
  obtain ⟨m, hm⟩ := Decimal.isFineBalance_zero.takes_zero
  exact ⟨m, 0, hm⟩

namespace Covered

lemma isFineBalance (hs : s.Covered) {wallet : Wallet} (h : s.wallets.get? key = some wallet) :
    wallet.balance.IsFineBalance := by
  obtain ⟨m, n, htakes⟩ := hs ⟨0⟩ key
  rw [base_of_get? h] at htakes
  exact htakes.isFineBalance

end Covered

/-! ### Operations that add to no balance -/

/-- No wallet is written, and what a transaction is about to add to a balance stays or is
forgotten. -/
structure Bides (s s' : Store) : Prop where
  wallets : s'.wallets = s.wallets
  change (tx : TxId) (key : WalletKey) : s'.change tx key = s.change tx key ∨
    s'.change tx key = .zero

lemma Covered.bides (hs : s.Covered) (h : s.Bides s') : s'.Covered := by
  intro tx key
  rw [base, h.wallets, ← base]
  obtain ⟨m, n, htakes⟩ := hs tx key
  rcases h.change tx key with hsame | hzero
  · rw [hsame]
    exact ⟨m, n, htakes⟩
  · rw [hzero]
    obtain ⟨m, hm⟩ := htakes.isFineBalance.takes_zero
    exact ⟨m, 0, hm⟩

namespace Bides

/-- Faults, locks and identifiers do not matter. -/
lemma of_eq (hwallets : s'.wallets = s.wallets) (htransactions : s'.transactions = s.transactions) :
    s.Bides s' where
  wallets := hwallets
  change tx key := .inl (by rw [Store.change, transaction, htransactions]; rfl)

lemma trans (h : s.Bides s') (h' : s'.Bides s'') : s.Bides s'' where
  wallets := h'.wallets.trans h.wallets
  change tx key := by
    rcases h'.change tx key with hsame | hzero
    · rw [hsame]
      exact h.change tx key
    · exact .inr hzero

lemma setTransaction (h : t.deltas = (s.transaction tx).deltas ∨ t.deltas = .empty) :
    s.Bides (s.setTransaction tx t) where
  wallets := rfl
  change other key := by
    rw [Store.change, get_transaction_setTransaction]
    split
    · next heq =>
      subst heq
      rcases h with hsame | hempty
      · exact .inl (by rw [hsame]; rfl)
      · exact .inr (by rw [hempty]; rfl)
    · exact .inl rfl

lemma discard (s : Store) (tx : TxId) : s.Bides (s.discard tx) where
  wallets := rfl
  change other key := by
    rw [Store.change, get_transaction_discard]
    split
    · exact .inr rfl
    · exact .inl rfl

lemma isFrame : IsFrame Bides where
  trans := trans
  of_eq hwallets _ _ htransactions := of_eq hwallets htransactions
  makes _ _ _ := setTransaction (.inl rfl)
  opens _ _ := setTransaction (.inr rfl)
  discard := discard

lemma append (s : Store) (tx : TxId) (record : TransactionRecord) :
    s.Bides (s.append tx record).1 := by
  rw [Store.append]
  split
  · next h => exact isFrame.strike h
  · exact setTransaction (.inl rfl)

lemma enqueue (s : Store) (tx : TxId) (event : OutboxEvent) :
    s.Bides (s.enqueue tx event).1 := by
  rw [Store.enqueue]
  split
  · next h => exact isFrame.strike h
  · exact setTransaction (.inl rfl)

end Bides

/-! ### Adjustments -/

namespace Covered

/-- A change that the row can take is made. -/
lemma insert (hs : s.Covered) {total : Decimal} {m n : ℤ}
    (h : (s.base key).Takes total m n) : (s.setTransaction tx { s.transaction tx with
      deltas := (s.transaction tx).deltas.insert key total }).Covered := by
  intro other key'
  rw [change, get_transaction_setTransaction]
  split
  · next heq =>
    subst heq
    rw [Table.get?_insert]
    split
    · next heq =>
      subst heq
      exact ⟨m, n, h⟩
    · exact hs tx key'
  · exact hs other key'

/-- A modest adjustment of a row that is held. -/
lemma adjustHeld (hs : s.Covered) {a : Adjustment} (ha : a.IsModest) (wallet : WalletId) :
    (s.adjustHeld a wallet).1.Covered := by
  obtain ⟨m, n, htakes⟩ := hs a.tx a.key
  rw [Store.adjustHeld]
  split
  · exact hs
  · next balances hvisible =>
    have hcurrent := isUnits_visible htakes hvisible
    dsimp only
    split
    · exact hs
    · next hdebit =>
      split
      · exact hs
      · next hnext =>
        rw [Option.isNone_iff_eq_none] at hnext
        obtain ⟨next, hnext⟩ := Option.ne_none_iff_exists'.mp hnext
        obtain ⟨k, hk, hnonneg, hle⟩ := ha.next hcurrent htakes.sum_nonneg hdebit hnext
        obtain ⟨total, hsum, htotal⟩ := htakes.add?_change hk hnonneg hle
        have hsum' : Arithmetic.sum? (((s.transaction a.tx).deltas.get? a.key).getD .zero)
            (a.direction.signed a.amount) = some total := hsum
        rw [hsum']
        have hset : (s.setTransaction a.tx { s.transaction a.tx with
            deltas := (s.transaction a.tx).deltas.insert a.key total }).Covered := hs.insert htotal
        dsimp only
        split
        · exact hset
        · exact hset

/-- A modest adjustment looks at its row. -/
lemma resumeAdjust (hs : s.Covered) (clock : Clock) {w : AdjustWait}
    (hw : w.adjustment.IsModest) : (s.resumeAdjust clock w).1.Covered ∧
      ∀ w', (s.resumeAdjust clock w).2 = .waiting w' → w'.adjustment.IsModest := by
  rw [Store.resumeAdjust]
  split
  · exact ⟨hs.adjustHeld hw w.wallet, by simp⟩
  · exact ⟨hs, fun w' heq => Turn.waiting.inj heq ▸ hw⟩
  · exact ⟨hs.bides (.of_eq rfl rfl), by simp⟩

/-- A modest adjustment starts. -/
lemma adjust (hs : s.Covered) (clock : Clock) {a : Adjustment} (ha : a.IsModest) :
    (s.adjust clock a).1.Covered ∧
      ∀ w, (s.adjust clock a).2 = .waiting w → w.adjustment.IsModest := by
  rw [Store.adjust]
  split
  · exact ⟨hs, by simp⟩
  · have hasked : (s.requestRow a.tx a.key).Covered := hs.bides (.of_eq rfl rfl)
    exact hasked.resumeAdjust clock ha

end Covered

/-! ### Commits -/

/-- Changes that their rows can take are all made, if there is one for each row. -/
lemma exists_foldlM_addDelta {deltas : List (WalletKey × Decimal)}
    (hnodup : (deltas.map (·.1)).Nodup)
    (hfine : ∀ key wallet, wallets.get? key = some wallet → wallet.balance.IsFineBalance)
    (htakes : ∀ key delta wallet, (key, delta) ∈ deltas → wallets.get? key = some wallet →
      ∃ m n, wallet.balance.Takes delta m n) :
    ∃ wallets', deltas.foldlM addDelta wallets = .ok wallets' ∧
      ∀ key wallet, wallets'.get? key = some wallet → wallet.balance.IsFineBalance := by
  induction deltas generalizing wallets with
  | nil => exact ⟨wallets, rfl, hfine⟩
  | cons entry deltas ih =>
      obtain ⟨key, delta⟩ := entry
      rw [List.map_cons, List.nodup_cons] at hnodup
      obtain ⟨hnot, hnodup⟩ := hnodup
      cases hrow : wallets.get? key with
      | none =>
          have hfirst : addDelta wallets (key, delta) = .ok wallets := by rw [addDelta, hrow]
          rw [List.foldlM_cons, hfirst]
          exact ih hnodup hfine fun key' delta' wallet hmem =>
            htakes key' delta' wallet (List.mem_cons_of_mem _ hmem)
      | some wallet =>
          obtain ⟨m, n, ht⟩ := htakes key delta wallet List.mem_cons_self hrow
          obtain ⟨next, hsum, hnext⟩ := ht.add?
          have hsum' : Arithmetic.sum? wallet.balance delta = some next := hsum
          have hbalance : next.IsFineBalance := ⟨m + n, ht.sum_nonneg, ht.sum_le, hnext⟩
          have hfirst : addDelta wallets (key, delta)
              = .ok (wallets.insert key { wallet with balance := next }) := by
            simp only [addDelta, hrow, hsum', if_neg hbalance.bounds.1]
          rw [List.foldlM_cons, hfirst]
          refine ih hnodup (fun key' wallet' hget => ?_) fun key' delta' wallet' hmem hget => ?_
          · rw [Table.get?_insert] at hget
            split at hget
            · obtain rfl := Option.some.inj hget
              exact hbalance
            · exact hfine key' wallet' hget
          · -- the row that has been written comes once
            have hne : key ≠ key' := by
              rintro rfl
              exact hnot (List.mem_map.mpr ⟨_, hmem, rfl⟩)
            rw [Table.get?_insert, if_neg hne] at hget
            exact htakes key' delta' wallet' (List.mem_cons_of_mem _ hmem) hget

/-- What others leave to a transaction, it is still about to add. -/
lemma Later.change_eq (h : Later tx s s') (key : WalletKey) :
    s'.change tx key = s.change tx key := by
  rw [change, change, transaction, h.content, ← transaction]

/-- A transaction holds the rows to which it is about to add something. -/
lemma Disciplined.holder_of_change (hd : s.Disciplined) (h : s.change tx key ≠ .zero) :
    (s.lock key).holder = some tx := by
  rw [change, transaction] at h
  cases ht : s.transactions.get? tx with
  | none => exact absurd (by rw [ht]; rfl) h
  | some t =>
      refine hd.holder ht (.inl ?_)
      by_contra hnot
      refine h ?_
      rw [ht, Option.getD_some, Table.get?_eq_none_iff.mpr hnot, Option.getD_none]

namespace Covered

/-- No commit is stopped, and all balances are in range after it. -/
theorem exists_committedWallets (hs : s.Covered) (hd : s.Disciplined)
    (ht : s.transactions.get? tx = some t) (hnodup : t.deltas.keys.Nodup) :
    ∃ wallets, committedWallets s.wallets t = .ok wallets ∧
      ∀ key wallet, wallets.get? key = some wallet → wallet.balance.IsFineBalance := by
  -- a row has the committed balance, or it is new and its balance is zero
  have hbase : ∀ key wallet,
      (t.provisioned.toList.foldl addWallet s.wallets).get? key = some wallet →
      wallet.balance = s.base key := by
    intro key wallet hget
    have hadded := @get?_addWallets s.wallets key t.provisioned.toList
    by_cases hk : key ∈ t.provisioned.keys
    · obtain ⟨id, -, hnew⟩ := hadded.2 hk
      obtain rfl := Option.some.inj (hnew.symm.trans hget)
      rw [base, hd.noRow ht hk, Option.map_none, Option.getD_none]
    · rw [hadded.1 hk] at hget
      exact (base_of_get? hget).symm
  refine exists_foldlM_addDelta hnodup (fun key wallet hget => ?_)
    fun key delta wallet hmem hget => ?_
  · obtain ⟨m, n, htakes⟩ := hs tx key
    rw [hbase key wallet hget]
    exact htakes.isFineBalance
  · have hchange : s.change tx key = delta := by
      rw [change, transaction, ht, Option.getD_some, Table.get?_of_mem_entries hnodup hmem,
        Option.getD_some]
    rw [hbase key wallet hget, ← hchange]
    exact hs tx key

/-- What a commit leaves is covered: the rows that others are about to change stay as they are. -/
theorem closed (hs : s.Covered) (hd : s.Disciplined) (ht : s.transactions.get? tx = some t)
    (hw : Writes s.wallets t wallets)
    (hfine : ∀ key wallet, wallets.get? key = some wallet → wallet.balance.IsFineBalance)
    (records : List TransactionRecord) (events : List OutboxEvent) :
    (s.closed tx wallets records events).Covered := by
  intro other key
  by_cases hzero : (s.closed tx wallets records events).change other key = .zero
  · have hbalance : (((wallets.get? key).map Wallet.balance).getD .zero).IsFineBalance := by
      cases hget : wallets.get? key with
      | none => exact Decimal.isFineBalance_zero
      | some wallet => exact hfine key wallet hget
    obtain ⟨m, hm⟩ := hbalance.takes_zero
    exact ⟨m, 0, hzero ▸ hm⟩
  · have hne : tx ≠ other := by
      rintro rfl
      have hended : (s.closed tx wallets records events).transactions.get? tx = none :=
        get?_discard.trans (if_pos rfl)
      exact hzero (by rw [change, transaction, hended]; rfl)
    have hlater := (Leaves.closed hd ht hw records events).later hne
    have hsame := hlater.change_eq key
    have hkept := hlater.row (hd.holder_of_change (hsame ▸ hzero))
    rw [hsame, base, hkept]
    exact hs other key

end Covered

end Store

end Teller
