/-
Two transactions that do the same for one account, each in a store of its own.

* `Tandem`: the account, the two transactions and the stores as they found them, and which
  transactions of the two stores correspond to each other;
* `Tandem.Abreast`: the two have come equally far: the stores agree about the rows of the account,
  the same has been committed since, and locks of other accounts have been left alone;
* `Tandem.InStep`: two operations have brought them there, with related results;
* `Abreast.adjust`, `Abreast.provision`, `Abreast.commit` and others: every operation of a store,
  done by both, keeps them abreast.
-/
import Teller.Proofs.Store.Anonymous
import Teller.Proofs.Store.Movement

namespace Teller

/-- Two transactions for one account, and the stores in which they act as they were before. -/
structure Tandem where
  account : AccountId
  tx : TxId
  tx' : TxId
  before : Store
  before' : Store
  /-- Which transactions of the two stores correspond to each other. -/
  partners : TxId → TxId → Prop
  biUnique : Relator.BiUnique partners
  partner : partners tx tx'

/-- Two lists have grown by related elements. -/
def Grown {α β : Type} (R : α → β → Prop) (xs₀ xs : List α) (ys₀ ys : List β) : Prop :=
  ∃ more more', xs = xs₀ ++ more ∧ ys = ys₀ ++ more' ∧ List.Forall₂ R more more'

section Grown

variable {α β : Type} {R : α → β → Prop} {xs₀ xs more : List α} {ys₀ ys more' : List β}

lemma grown_refl (xs₀ : List α) (ys₀ : List β) : Grown R xs₀ xs₀ ys₀ ys₀ :=
  ⟨[], [], (List.append_nil _).symm, (List.append_nil _).symm, .nil⟩

lemma Grown.append (h : Grown R xs₀ xs ys₀ ys) (hmore : List.Forall₂ R more more') :
    Grown R xs₀ (xs ++ more) ys₀ (ys ++ more') := by
  obtain ⟨first, first', rfl, rfl, hfirst⟩ := h
  exact ⟨first ++ more, first' ++ more', List.append_assoc .., List.append_assoc ..,
    List.rel_append hfirst hmore⟩

end Grown

namespace Store

/-- Locks of the rows of all other accounts are as they were, where the transaction is unknown. -/
def Spares (account : AccountId) (tx : TxId) (s₀ s : Store) : Prop :=
  ∀ ⦃key⦄, key.account ≠ account → ¬ (s₀.lock key).Knows tx → s.lock key = s₀.lock key

variable {account : AccountId} {tx : TxId} {s₀ s : Store}

lemma spares_refl (account : AccountId) (tx : TxId) (s : Store) : Spares account tx s s :=
  fun _ _ _ => rfl

lemma Spares.requestRow (h : Spares account tx s₀ s) (c : Currency) :
    Spares account tx s₀ (s.requestRow tx ⟨account, c⟩) := fun key hne hnot => by
  rw [lock_requestRow, if_neg (by rintro rfl; exact hne rfl)]
  exact h hne hnot

lemma Spares.leaveRow (h : Spares account tx s₀ s) (c : Currency) :
    Spares account tx s₀ (s.leaveRow tx ⟨account, c⟩) := fun key hne hnot => by
  rw [lock_leaveRow, if_neg (by rintro rfl; exact hne rfl)]
  exact h hne hnot

lemma Spares.discard (h : Spares account tx s₀ s) : Spares account tx s₀ (s.discard tx) :=
  fun key hne hnot => by
    rw [lock_discard, h hne hnot, RowLock.leave_of_not_knows hnot]

/-! ### Wallets -/

/-- Two tables of wallets hold the same balances in the rows of an account. -/
def Agree (account : AccountId) (wallets wallets' : Table WalletKey Wallet) : Prop :=
  ∀ c, Sheet.of wallets ⟨account, c⟩ = Sheet.of wallets' ⟨account, c⟩

namespace Agree

variable {wallets wallets' : Table WalletKey Wallet}

/-- The same balance is written in both. -/
lemma insert (h : Agree account wallets wallets') (key : WalletKey) (id id' : WalletId)
    (balance : Decimal) :
    Agree account (wallets.insert key ⟨id, balance⟩) (wallets'.insert key ⟨id', balance⟩) :=
  fun c => by
    rw [Sheet.of, Sheet.of, Table.get?_insert, Table.get?_insert]
    split
    · rfl
    · exact h c

lemma addWallets (h : Agree account wallets wallets')
    {entries entries' : List (WalletKey × WalletId)}
    (hkeys : entries.map (·.1) = entries'.map (·.1)) :
    Agree account (entries.foldl addWallet wallets) (entries'.foldl addWallet wallets') := by
  induction entries generalizing entries' wallets wallets' with
  | nil =>
      obtain rfl := List.map_eq_nil_iff.mp hkeys.symm
      exact h
  | cons entry entries ih =>
      obtain ⟨⟨key, id'⟩, entries', rfl, rfl, hrest⟩ := List.map_eq_cons_iff.mp hkeys.symm
      exact ih (h.insert entry.1 entry.2 id' .zero) hrest.symm

variable [Arithmetic]

/-- A change of one balance is made in both, or stopped by the same. -/
lemma addDelta (h : Agree account wallets wallets') {entry : WalletKey × Decimal}
    (hkey : entry.1.account = account) :
    SameResult (Agree account) (addDelta wallets entry) (addDelta wallets' entry) ∧
      Agree account (writeDelta wallets entry) (writeDelta wallets' entry) := by
  obtain ⟨⟨owner, c⟩, delta⟩ := entry
  obtain rfl : account = owner := hkey.symm
  have hrow := h c
  rw [Sheet.of, Sheet.of] at hrow
  simp only [Store.addDelta, writeDelta]
  cases hw : wallets.get? ⟨account, c⟩ with
  | none =>
      rw [hw] at hrow
      rw [Option.map_eq_none_iff.mp hrow.symm]
      exact ⟨.ok h, h⟩
  | some wallet =>
      rw [hw] at hrow
      obtain ⟨⟨id', balance'⟩, hw', hbalance⟩ := Option.map_eq_some_iff.mp hrow.symm
      obtain rfl : balance' = wallet.balance := hbalance
      rw [hw']
      dsimp only
      cases Arithmetic.sum? wallet.balance delta with
      | none => exact ⟨.error _, h⟩
      | some balance =>
          have hnext := h.insert ⟨account, c⟩ wallet.id id' balance
          refine ⟨?_, hnext⟩
          dsimp only
          split
          · exact .error _
          · exact .ok hnext

lemma addDeltas (h : Agree account wallets wallets') {deltas : List (WalletKey × Decimal)}
    (hkeys : ∀ entry ∈ deltas, entry.1.account = account) :
    SameResult (Agree account) (deltas.foldlM Store.addDelta wallets)
        (deltas.foldlM Store.addDelta wallets') ∧
      Agree account (writeUntilStopped deltas wallets) (writeUntilStopped deltas wallets') := by
  induction deltas generalizing wallets wallets' with
  | nil => exact ⟨.ok h, h⟩
  | cons entry deltas ih =>
      obtain ⟨hadd, hwrite⟩ := h.addDelta (hkeys entry List.mem_cons_self)
      simp only [List.foldlM_cons, writeUntilStopped]
      generalize Store.addDelta wallets entry = result at hadd ⊢
      generalize Store.addDelta wallets' entry = result' at hadd ⊢
      cases hadd with
      | error f => exact ⟨.error f, hwrite⟩
      | ok hnext => exact ih hnext fun e he => hkeys e (List.mem_cons_of_mem _ he)

variable {t t' : Transaction}

lemma committed (h : Agree account wallets wallets') (ht : t.Same account t') :
    SameResult (Agree account) (committedWallets wallets t) (committedWallets wallets' t') ∧
      Agree account (stoppedWallets wallets t) (stoppedWallets wallets' t') := by
  rw [committedWallets, committedWallets, stoppedWallets, stoppedWallets, ← ht.deltas]
  exact (h.addWallets ht.provisioned).addDeltas fun entry he =>
    ht.adjusts (List.mem_map_of_mem he)

end Agree

end Store

/-- Two transactions wait to adjust the same row of an account. -/
inductive AdjustWait.Same (account : AccountId) (tx tx' : TxId) :
    AdjustWait → AdjustWait → Prop where
  | mk (c : Currency) (amount : Decimal) (direction : Direction) (wallet wallet' : WalletId)
      (giveUpAt : ℕ) :
      Same account tx tx' ⟨⟨tx, ⟨account, c⟩, amount, direction⟩, wallet, giveUpAt⟩
        ⟨⟨tx', ⟨account, c⟩, amount, direction⟩, wallet', giveUpAt⟩

lemma AdjustWait.Same.tx_eq {account : AccountId} {tx tx' : TxId} {w w' : AdjustWait}
    (h : w.Same account tx tx' w') : w.adjustment.tx = tx ∧ w'.adjustment.tx = tx' := by
  cases h
  exact ⟨rfl, rfl⟩

/-- Two transactions wait to add a wallet to the same row of an account. -/
inductive ProvisionWait.Same (account : AccountId) (tx tx' : TxId) :
    ProvisionWait → ProvisionWait → Prop where
  | mk (c : Currency) (rest : List Currency) (giveUpAt : ℕ) :
      Same account tx tx' ⟨tx, account, c, rest, giveUpAt⟩ ⟨tx', account, c, rest, giveUpAt⟩

namespace Tandem

/-- The two transactions have done the same since they found their stores. -/
structure Abreast (p : Tandem) (s s' : Store) : Prop where
  lockTimeout : s.lockTimeout = s'.lockTimeout
  faults : s.faults = []
  faults' : s'.faults = []
  sheet (c : Currency) : s.sheet ⟨p.account, c⟩ = s'.sheet ⟨p.account, c⟩
  lock (c : Currency) : (s.lock ⟨p.account, c⟩).Same p.partners (s'.lock ⟨p.account, c⟩)
  content : (s.transaction p.tx).Same p.account (s'.transaction p.tx')
  journal : Grown TransactionRecord.Same p.before.journal s.journal p.before'.journal s'.journal
  outbox : Grown OutboxEvent.Same (p.before.outbox.map (·.event)) (s.outbox.map (·.event))
    (p.before'.outbox.map (·.event)) (s'.outbox.map (·.event))
  spares : p.before.Spares p.account p.tx s
  spares' : p.before'.Spares p.account p.tx' s'

/-- Two operations have brought the transactions equally far, with related results. -/
structure InStep (p : Tandem) {ρ ρ' : Type} (R : ρ → ρ' → Prop) (step : Store × ρ)
    (step' : Store × ρ') : Prop where
  abreast : p.Abreast step.1 step'.1
  result : R step.2 step'.2

namespace Abreast

variable {p : Tandem} {s s' : Store} {t t' : Transaction} {c : Currency} {clock : Clock}

lemma transaction_setTransaction (s : Store) (tx : TxId) (t : Transaction) :
    (s.setTransaction tx t).transaction tx = t := by
  rw [Store.transaction, Store.get?_setTransaction, if_pos rfl, Option.getD_some]

/-- Both transactions change what they are about to do. -/
lemma setTransaction (h : p.Abreast s s') (ht : t.Same p.account t') :
    p.Abreast (s.setTransaction p.tx t) (s'.setTransaction p.tx' t') :=
  { h with
    content := by rwa [transaction_setTransaction, transaction_setTransaction] }

/-- Identifiers are drawn. -/
lemma withIds (h : p.Abreast s s') (ids ids' : IdSupply) :
    p.Abreast { s with ids } { s' with ids := ids' } :=
  { h with }

lemma requestRow (h : p.Abreast s s') (c : Currency) :
    p.Abreast (s.requestRow p.tx ⟨p.account, c⟩) (s'.requestRow p.tx' ⟨p.account, c⟩) :=
  { h with
    lock := fun c' => by
      rw [Store.lock_requestRow, Store.lock_requestRow]
      split
      · exact (h.lock c).request p.biUnique p.partner
      · exact h.lock c'
    spares := h.spares.requestRow c
    spares' := h.spares'.requestRow c }

lemma leaveRow (h : p.Abreast s s') (c : Currency) :
    p.Abreast (s.leaveRow p.tx ⟨p.account, c⟩) (s'.leaveRow p.tx' ⟨p.account, c⟩) :=
  { h with
    lock := fun c' => by
      rw [Store.lock_leaveRow, Store.lock_leaveRow]
      split
      · exact (h.lock c).leave p.biUnique p.partner
      · exact h.lock c'
    spares := h.spares.leaveRow c
    spares' := h.spares'.leaveRow c }

lemma discard (h : p.Abreast s s') : p.Abreast (s.discard p.tx) (s'.discard p.tx') :=
  { h with
    lock := fun c => by
      rw [Store.lock_discard, Store.lock_discard]
      exact (h.lock c).leave p.biUnique p.partner
    content := by
      rw [Store.transaction, Store.transaction, Store.get?_discard, Store.get?_discard, if_pos rfl,
        if_pos rfl]
      exact Transaction.same_fresh p.account
    spares := h.spares.discard
    spares' := h.spares'.discard }

/-! ### What both see -/

/-- Both look at a row with the same result. -/
lemma lookRow_eq (h : p.Abreast s s') (clock : Clock) (c : Currency) (giveUpAt : ℕ) :
    s.lookRow clock ⟨p.tx, ⟨p.account, c⟩, giveUpAt⟩
      = s'.lookRow clock ⟨p.tx', ⟨p.account, c⟩, giveUpAt⟩ := by
  have hholds : s.holds p.tx ⟨p.account, c⟩ = s'.holds p.tx' ⟨p.account, c⟩ := by
    rw [Bool.eq_iff_iff, Store.holds_iff, Store.holds_iff]
    exact (h.lock c).holder_eq_iff p.biUnique p.partner
  rw [Store.lookRow, Store.lookRow, hholds]

/-- Both are about to add a wallet to a row, or neither is. -/
lemma provisioned_eq_none_iff (h : p.Abreast s s') (key : WalletKey) :
    (s.transaction p.tx).provisioned.get? key = none
      ↔ (s'.transaction p.tx').provisioned.get? key = none := by
  rw [Table.get?_eq_none_iff, Table.get?_eq_none_iff, h.content.provisioned]

/-- Both see a wallet in a row, or neither does. -/
lemma walletId?_eq_none_iff (h : p.Abreast s s') (c : Currency) :
    s.walletId? p.tx ⟨p.account, c⟩ = none ↔ s'.walletId? p.tx' ⟨p.account, c⟩ = none := by
  have hrow : s.wallets.get? ⟨p.account, c⟩ = none ↔ s'.wallets.get? ⟨p.account, c⟩ = none := by
    have hsheet := h.sheet c
    rw [Store.sheet, Store.sheet, Sheet.of, Sheet.of] at hsheet
    rw [← Option.map_eq_none_iff (f := Wallet.balance), hsheet, Option.map_eq_none_iff]
  rw [Store.walletId?, Store.walletId?, Option.or_eq_none_iff, Option.or_eq_none_iff,
    Option.map_eq_none_iff, Option.map_eq_none_iff, hrow, h.provisioned_eq_none_iff]

/-- Both see the same balance in a row, before their changes. -/
lemma baseBalance?_eq (h : p.Abreast s s') (c : Currency) :
    s.baseBalance? p.tx ⟨p.account, c⟩ = s'.baseBalance? p.tx' ⟨p.account, c⟩ := by
  have hnew : (((s.transaction p.tx).provisioned.get? ⟨p.account, c⟩).map fun _ => Decimal.zero)
      = ((s'.transaction p.tx').provisioned.get? ⟨p.account, c⟩).map fun _ => Decimal.zero := by
    have hnone := h.provisioned_eq_none_iff ⟨p.account, c⟩
    cases hid : (s.transaction p.tx).provisioned.get? ⟨p.account, c⟩ with
    | none => rw [hnone.mp hid]
    | some id =>
        obtain ⟨id', hid'⟩ := Option.ne_none_iff_exists'.mp
          (mt hnone.mpr (hid.symm ▸ Option.some_ne_none id))
        rw [hid']
        rfl
  have hold := h.sheet c
  rw [Store.sheet, Store.sheet, Sheet.of, Sheet.of] at hold
  rw [Store.baseBalance?, Store.baseBalance?, hold, hnew]

variable [Arithmetic]

lemma visibleBalances?_eq (h : p.Abreast s s') :
    s.visibleBalances? p.tx p.account = s'.visibleBalances? p.tx' p.account := by
  have hrow : ∀ c, s.visibleBalance? p.tx ⟨p.account, c⟩
      = s'.visibleBalance? p.tx' ⟨p.account, c⟩ := fun c => by
    rw [Store.visibleBalance?, Store.visibleBalance?, h.content.deltas, h.baseBalance?_eq c]
  simp only [Store.visibleBalances?, hrow]

/-! ### Adjustments -/

/-- Both adjust a row that they hold. -/
lemma adjustHeld (h : p.Abreast s s') (c : Currency) (amount : Decimal) (direction : Direction)
    (wallet wallet' : WalletId) :
    p.InStep (SameResult (AdjustOutcome.Same p.account))
      (s.adjustHeld ⟨p.tx, ⟨p.account, c⟩, amount, direction⟩ wallet)
      (s'.adjustHeld ⟨p.tx', ⟨p.account, c⟩, amount, direction⟩ wallet') := by
  simp only [Store.adjustHeld, h.visibleBalances?_eq, h.content.deltas]
  cases s'.visibleBalances? p.tx' p.account with
  | none => exact ⟨h, .error _⟩
  | some balances =>
      dsimp only
      generalize (balances.get? c).getD .zero = current
      by_cases hfunds : direction = .debit ∧ current < amount
      · simp only [if_pos hfunds]
        exact ⟨h, .ok .insufficientFunds⟩
      · simp only [if_neg hfunds]
        by_cases hrange : (Store.nextBalance? current (direction.signed amount)).isNone
        · simp only [if_pos hrange]
          exact ⟨h, .error _⟩
        · simp only [if_neg hrange]
          -- what both see is the same, and so are their changes: only wallets have other
          -- identifiers
          generalize hdeltas : (s'.transaction p.tx').deltas = deltas
          cases Arithmetic.sum? ((deltas.get? ⟨p.account, c⟩).getD .zero)
              (direction.signed amount) with
          | none => exact ⟨h, .error _⟩
          | some total =>
              have hnext := h.setTransaction (h.content.adjust c total)
              rw [h.content.deltas, hdeltas] at hnext
              simp only [hnext.visibleBalances?_eq]
              cases Store.visibleBalances? _ p.tx' p.account with
              | none => exact ⟨hnext, .error _⟩
              | some balances => exact ⟨hnext, .ok (.applied ⟨rfl, rfl⟩)⟩

/-- Both look at the row that they want to adjust. -/
lemma resumeAdjust (h : p.Abreast s s') (clock : Clock) {w w' : AdjustWait}
    (hw : w.Same p.account p.tx p.tx' w') :
    p.InStep
      (SameTurn (AdjustWait.Same p.account p.tx p.tx') (SameResult (AdjustOutcome.Same p.account)))
      (s.resumeAdjust clock w) (s'.resumeAdjust clock w') := by
  obtain ⟨c, amount, direction, wallet, wallet', giveUpAt⟩ := hw
  simp only [Store.resumeAdjust, AdjustWait.row, h.lookRow_eq]
  cases s'.lookRow clock ⟨p.tx', ⟨p.account, c⟩, giveUpAt⟩ with
  | granted =>
      have hheld := h.adjustHeld c amount direction wallet wallet'
      exact ⟨hheld.abreast, .done hheld.result⟩
  | waiting => exact ⟨h, .waiting (.mk ..)⟩
  | timedOut => exact ⟨h.leaveRow c, .done (.error _)⟩

/-- Both start to adjust a row. -/
lemma adjust (h : p.Abreast s s') (clock : Clock) (c : Currency) (amount : Decimal)
    (direction : Direction) :
    p.InStep
      (SameTurn (AdjustWait.Same p.account p.tx p.tx') (SameResult (AdjustOutcome.Same p.account)))
      (s.adjust clock ⟨p.tx, ⟨p.account, c⟩, amount, direction⟩)
      (s'.adjust clock ⟨p.tx', ⟨p.account, c⟩, amount, direction⟩) := by
  have hnone := h.walletId?_eq_none_iff c
  simp only [Store.adjust]
  cases hid : s.walletId? p.tx ⟨p.account, c⟩ with
  | none =>
      rw [hnone.mp hid]
      exact ⟨h, .done (.error _)⟩
  | some id =>
      obtain ⟨id', hid'⟩ := Option.ne_none_iff_exists'.mp
        (mt hnone.mpr (hid.symm ▸ Option.some_ne_none id))
      rw [hid', h.lockTimeout]
      exact (h.requestRow c).resumeAdjust clock (.mk ..)

/-! ### New wallets -/

omit [Arithmetic] in
/-- Both add a wallet to a row that they hold. -/
lemma provisionHeld (h : p.Abreast s s') (now : ℕ) (c : Currency) :
    p.InStep (SameResult Eq) (s.provisionHeld now p.tx ⟨p.account, c⟩)
      (s'.provisionHeld now p.tx' ⟨p.account, c⟩) := by
  have hnone := h.walletId?_eq_none_iff c
  simp only [Store.provisionHeld]
  cases hid : s.walletId? p.tx ⟨p.account, c⟩ with
  | none =>
      rw [hnone.mp hid]
      have hnext := h.setTransaction
        (h.content.provision c (s.ids.wallet now).1 (s'.ids.wallet now).1)
      exact ⟨hnext.withIds _ _, .ok rfl⟩
  | some id =>
      obtain ⟨id', hid'⟩ := Option.ne_none_iff_exists'.mp
        (mt hnone.mpr (hid.symm ▸ Option.some_ne_none id))
      rw [hid']
      exact ⟨h, .error _⟩

omit [Arithmetic] in
/-- Both look at a row for a new wallet, and go on in step from there. -/
lemma provisionRow (h : p.Abreast s s') (clock : Clock) {w w' : ProvisionWait}
    (hw : w.Same p.account p.tx p.tx' w')
    {next next' : Store → Store × Turn ProvisionWait (Except LedgerError Unit)}
    (hnext : ∀ {s s'}, p.Abreast s s' →
      p.InStep (SameTurn (ProvisionWait.Same p.account p.tx p.tx') (SameResult Eq)) (next s)
        (next' s')) :
    p.InStep (SameTurn (ProvisionWait.Same p.account p.tx p.tx') (SameResult Eq))
      (s.provisionRow clock w next) (s'.provisionRow clock w' next') := by
  obtain ⟨c, rest, giveUpAt⟩ := hw
  simp only [Store.provisionRow, ProvisionWait.row, h.lookRow_eq]
  cases s'.lookRow clock ⟨p.tx', ⟨p.account, c⟩, giveUpAt⟩ with
  | granted =>
      obtain ⟨habreast, hresult⟩ := h.provisionHeld clock.now c
      generalize s.provisionHeld clock.now p.tx ⟨p.account, c⟩ = step at habreast hresult
      generalize s'.provisionHeld clock.now p.tx' ⟨p.account, c⟩ = step' at habreast hresult
      obtain ⟨s₁, result⟩ := step
      obtain ⟨s₁', result'⟩ := step'
      cases hresult with
      | error e => exact ⟨habreast, .done (.error e)⟩
      | ok => exact hnext habreast
  | waiting => exact ⟨h, .waiting (.mk ..)⟩
  | timedOut => exact ⟨h.leaveRow c, .done (.error _)⟩

omit [Arithmetic] in
/-- Both add wallets in the given currencies. -/
lemma provisionFrom (h : p.Abreast s s') (clock : Clock) (currencies : List Currency) :
    p.InStep (SameTurn (ProvisionWait.Same p.account p.tx p.tx') (SameResult Eq))
      (Store.provisionFrom clock p.tx p.account currencies s)
      (Store.provisionFrom clock p.tx' p.account currencies s') := by
  induction currencies generalizing s s' with
  | nil => exact ⟨h, .done (.ok rfl)⟩
  | cons c rest ih =>
      rw [Store.provisionFrom, Store.provisionFrom, h.lockTimeout]
      exact (h.requestRow c).provisionRow clock (.mk ..) ih

omit [Arithmetic] in
/-- Both look again at a row for a new wallet. -/
lemma resumeProvision (h : p.Abreast s s') (clock : Clock) {w w' : ProvisionWait}
    (hw : w.Same p.account p.tx p.tx' w') :
    p.InStep (SameTurn (ProvisionWait.Same p.account p.tx p.tx') (SameResult Eq))
      (s.resumeProvision clock w) (s'.resumeProvision clock w') := by
  have hsame := hw
  obtain ⟨c, rest, giveUpAt⟩ := hw
  exact h.provisionRow clock hsame fun h => h.provisionFrom clock rest

/-! ### From the beginning to the end -/

omit [Arithmetic] in
/-- No fault is to strike. -/
lemma takeFault?_eq_none (h : p.Abreast s s') (point : FaultPoint) :
    s.takeFault? point = none ∧ s'.takeFault? point = none := by
  rw [Store.takeFault?, Store.takeFault?, h.faults, h.faults', if_neg List.not_mem_nil]
  exact ⟨rfl, rfl⟩

omit [Arithmetic] in
lemma begin (h : p.Abreast s s') (htx : p.tx = ⟨s.begun⟩) (htx' : p.tx' = ⟨s'.begun⟩) :
    ∃ s₁ s₁', s.begin = (s₁, .ok p.tx) ∧ s'.begin = (s₁', .ok p.tx') ∧ p.Abreast s₁ s₁' := by
  obtain ⟨hnone, hnone'⟩ := h.takeFault?_eq_none .begin
  have hnext := h.setTransaction (Transaction.same_fresh p.account)
  refine ⟨{ s.setTransaction p.tx .fresh with begun := s.begun + 1 },
    { s'.setTransaction p.tx' .fresh with begun := s'.begun + 1 }, ?_, ?_, { hnext with }⟩
  · rw [Store.begin, hnone, htx]
  · rw [Store.begin, hnone', htx']

omit [Arithmetic] in
/-- Both make the same record. -/
lemma newRecord (h : p.Abreast s s') (now : ℕ) (wallet wallet' : WalletId) (currency : Currency)
    (amount : Decimal) (direction : Direction) (kind : OperationKind)
    {counterparty counterparty' : Option WalletId}
    (hcounterparty : counterparty.map (fun _ => ()) = counterparty'.map fun _ => ()) :
    p.InStep TransactionRecord.Same
      (s.newRecord now wallet currency amount direction kind counterparty)
      (s'.newRecord now wallet' currency amount direction kind counterparty') := by
  refine ⟨h.withIds _ _, ?_⟩
  have hanonymous := congrArg (Option.map fun _ => (⟨.random 0⟩ : WalletId)) hcounterparty
  rw [Option.map_map, Option.map_map] at hanonymous
  exact congrArg (TransactionRecord.mk ⟨.random 0⟩ ⟨.random 0⟩ currency amount direction kind ·
    (.ofEpochMillis now)) hanonymous

omit [Arithmetic] in
/-- Both make the same notification. -/
lemma newNotification (h : p.Abreast s s') (now : ℕ) (kind : OperationKind) (money : Money)
    (balanceAfter : Balances) :
    p.InStep (fun n n' => OutboxEvent.Same (.ofNotification n) (.ofNotification n'))
      (s.newNotification now kind p.account money.value money.currency balanceAfter)
      (s'.newNotification now kind p.account money.value money.currency balanceAfter) :=
  ⟨h.withIds _ _, _, _, rfl, rfl, rfl⟩

omit [Arithmetic] in
lemma append (h : p.Abreast s s') {r r' : TransactionRecord} (hr : r.Same r') :
    ∃ s₁ s₁', s.append p.tx r = (s₁, .ok ()) ∧ s'.append p.tx' r' = (s₁', .ok ()) ∧
      p.Abreast s₁ s₁' := by
  obtain ⟨hnone, hnone'⟩ := h.takeFault?_eq_none .appendRecord
  refine ⟨_, _, ?_, ?_, h.setTransaction (h.content.append hr)⟩
  · rw [Store.append, hnone]
  · rw [Store.append, hnone']

omit [Arithmetic] in
lemma enqueue (h : p.Abreast s s') {e e' : OutboxEvent} (he : e.Same e') :
    ∃ s₁ s₁', s.enqueue p.tx e = (s₁, .ok ()) ∧ s'.enqueue p.tx' e' = (s₁', .ok ()) ∧
      p.Abreast s₁ s₁' := by
  obtain ⟨hnone, hnone'⟩ := h.takeFault?_eq_none .enqueueEvent
  refine ⟨_, _, ?_, ?_, h.setTransaction (h.content.enqueue he)⟩
  · rw [Store.enqueue, hnone]
  · rw [Store.enqueue, hnone']

omit [Arithmetic] in
lemma rollback (h : p.Abreast s s') :
    ∃ s₁ s₁', s.rollback p.tx = (s₁, .ok ()) ∧ s'.rollback p.tx' = (s₁', .ok ()) ∧
      p.Abreast s₁ s₁' := by
  obtain ⟨hnone, hnone'⟩ := h.takeFault?_eq_none .rollback
  refine ⟨_, _, ?_, ?_, h.discard⟩
  · rw [Store.rollback, hnone]
  · rw [Store.rollback, hnone']

/-- Both commit, or both are stopped by the same. -/
lemma commit (h : p.Abreast s s') : p.InStep (SameResult Eq) (s.commit p.tx) (s'.commit p.tx') := by
  have hsheet : Store.Agree p.account s.wallets s'.wallets := h.sheet
  have hdiscard := h.discard
  obtain ⟨hnone, hnone'⟩ := h.takeFault?_eq_none .commit
  rw [Store.commit, Store.commit, hnone, hnone']
  dsimp only
  obtain ⟨hcommitted, hstopped⟩ := hsheet.committed h.content
  generalize Store.committedWallets s.wallets (s.transaction p.tx) = result at hcommitted ⊢
  generalize Store.committedWallets s'.wallets (s'.transaction p.tx') = result' at hcommitted ⊢
  cases hcommitted with
  | error f => exact ⟨{ hdiscard with sheet := hstopped }, .error f⟩
  | ok hagree =>
      refine ⟨{ hdiscard with
        sheet := hagree
        journal := h.journal.append h.content.records
        outbox := ?_ }, .ok rfl⟩
      have hevents : ∀ events : List OutboxEvent,
          (events.map fun event => OutboxRow.mk event false).map (·.event) = events := by
        intro events
        rw [List.map_map]
        exact List.map_id events
      rw [List.map_append, List.map_append, hevents, hevents]
      exact h.outbox.append h.content.events

end Abreast

end Tandem

end Teller
