/-
What a transaction has been shown, and what it is about to change.

* `Store.AdjustTurn`, `Store.Adjusts`: all that a turn of an adjustment, and the adjustment of a row
  that is held, can come to;
* `Shown`: an adjustment that was made, with the snapshot that it showed; `Shown.pending?`,
  `Shown.net` and `Shown.last?` say of a list of them what they add to a row, by the sums of the
  store and exactly, and which balance was shown last;
* `Store.Recalls`: a transaction is about to add to every row what its adjustments add up to, and
  the committed balance with that is the balance that it was shown last; acts of others keep this
  (`Recalls.later`), its own adjustments extend it (`Recalls.applied`), and what it commits is what
  it was shown (`Recalls.balance_commit`).
-/
import Teller.Proofs.Store.Covering
import Teller.Proofs.Store.Verdict

namespace Teller

/-! ### Turns of adjustments -/

/-- The adjustment is a debit of more than there is. -/
def Adjustment.IsShort (a : Adjustment) (current : Decimal) : Prop :=
  a.direction = .debit ∧ current < a.amount

namespace Store

variable {s s' : Store} {tx other : TxId} {t : Transaction} {key : WalletKey} {a : Adjustment}
  {wallet : WalletId} {outcome : Except Failure AdjustOutcome}

/-- The transaction sees this balance in a row, zero where there is none. -/
def Sees (s : Store) (tx : TxId) (key : WalletKey) (current : Decimal) : Prop :=
  ∃ balances, s.visibleBalances? tx key.account = some balances ∧
    current = (balances.get? key.currency).getD .zero

/-- All that the adjustment of a row that is held can come to. -/
inductive Adjusts (s : Store) (a : Adjustment) (wallet : WalletId) :
    Store → Except Failure AdjustOutcome → Prop where
  | short {current : Decimal} (hsees : s.Sees a.tx a.key current) (hshort : a.IsShort current) :
      Adjusts s a wallet s (.ok .insufficientFunds)
  | tooLarge {current : Decimal} (hsees : s.Sees a.tx a.key current) (hnot : ¬ a.IsShort current)
      (hnext : nextBalance? current (a.direction.signed a.amount) = none) :
      Adjusts s a wallet s (.error (.refused (.validation
        (.balanceRange a.key.currency current a.direction a.amount))))
  | applied {current next total : Decimal} {balances : Balances}
      (hsees : s.Sees a.tx a.key current) (hnot : ¬ a.IsShort current)
      (hnext : nextBalance? current (a.direction.signed a.amount) = some next)
      (htotal : Arithmetic.sum? (((s.transaction a.tx).deltas.get? a.key).getD .zero)
        (a.direction.signed a.amount) = some total)
      (hshown : (s.setTransaction a.tx { s.transaction a.tx with
        deltas := (s.transaction a.tx).deltas.insert a.key total }).visibleBalances? a.tx
          a.key.account = some balances) :
      Adjusts s a wallet (s.setTransaction a.tx { s.transaction a.tx with
        deltas := (s.transaction a.tx).deltas.insert a.key total })
        (.ok (.applied ⟨a.key.account, wallet, a.key.currency, balances⟩))
  | overflow {s' : Store} (hbegun : s'.begun = s.begun) : Adjusts s a wallet s' (.error .overflow)

lemma adjusts_adjustHeld (s : Store) (a : Adjustment) (wallet : WalletId) :
    Adjusts s a wallet (s.adjustHeld a wallet).1 (s.adjustHeld a wallet).2 := by
  rw [adjustHeld]
  split
  · exact .overflow rfl
  · next balances hvisible =>
    have hsees : s.Sees a.tx a.key ((balances.get? a.key.currency).getD .zero) :=
      ⟨balances, hvisible, rfl⟩
    dsimp only
    split
    · next hshort => exact .short hsees hshort
    · next hnot =>
      split
      · next hnext => exact .tooLarge hsees hnot (Option.isNone_iff_eq_none.mp hnext)
      · next hnext =>
        rw [Option.isNone_iff_eq_none] at hnext
        obtain ⟨next, hnext⟩ := Option.ne_none_iff_exists'.mp hnext
        split
        · exact .overflow rfl
        · next total htotal =>
          split
          · exact .overflow rfl
          · next hshown => exact .applied hsees hnot hnext htotal hshown

/-- All that a turn of an adjustment can come to. Locks apart, the store changes only if the row is
held. -/
inductive AdjustTurn (s : Store) (a : Adjustment) :
    Store → Turn AdjustWait (Except Failure AdjustOutcome) → Prop where
  | missing (locks : Table WalletKey RowLock) (hnone : s.walletId? a.tx a.key = none) :
      AdjustTurn s a { s with locks }
        (.done (.error (.refused (.walletNotFound a.key.account a.key.currency))))
  | waits {w : AdjustWait} (locks : Table WalletKey RowLock) (heq : w.adjustment = a)
      (hwallet : s.walletId? a.tx a.key = some w.wallet) :
      AdjustTurn s a { s with locks } (.waiting w)
  | timedOut (locks : Table WalletKey RowLock) :
      AdjustTurn s a { s with locks } (.done (.error (.refused (rowWaitError a.key))))
  | held (locks : Table WalletKey RowLock) {wallet : WalletId} {s' : Store}
      {outcome : Except Failure AdjustOutcome}
      (hheld : ({ s with locks }.lock a.key).holder = some a.tx)
      (hwallet : s.walletId? a.tx a.key = some wallet)
      (hadjusts : Adjusts { s with locks } a wallet s' outcome) :
      AdjustTurn s a s' (.done outcome)

/-- An adjustment that waits has a turn. -/
lemma adjustTurn_resumeAdjust (clock : Clock) {w : AdjustWait}
    (hwallet : s.walletId? w.adjustment.tx w.adjustment.key = some w.wallet) :
    AdjustTurn s w.adjustment (s.resumeAdjust clock w).1 (s.resumeAdjust clock w).2 := by
  rw [resumeAdjust]
  by_cases hheld : (s.lock w.row.key).holder = some w.row.tx
  · rw [lookRow_of_holder hheld]
    exact .held s.locks hheld hwallet (adjusts_adjustHeld s w.adjustment w.wallet)
  · rcases lookRow_of_holder_ne clock hheld with hlook | hlook
    · rw [hlook]
      exact .waits s.locks rfl hwallet
    · rw [hlook]
      exact .timedOut _

/-- A turn of an adjustment begins no transaction. -/
lemma begun_resumeAdjust (s : Store) (clock : Clock) (w : AdjustWait) :
    (s.resumeAdjust clock w).1.begun = s.begun := by
  rw [resumeAdjust]
  split
  · have hadjusts := adjusts_adjustHeld s w.adjustment w.wallet
    dsimp only
    generalize s.adjustHeld w.adjustment w.wallet = adjusted at hadjusts
    obtain ⟨s', outcome⟩ := adjusted
    cases hadjusts with
    | short => rfl
    | tooLarge => rfl
    | applied => rfl
    | overflow hbegun => exact hbegun
  · rfl
  · rfl

lemma begun_adjust (s : Store) (clock : Clock) (a : Adjustment) :
    (s.adjust clock a).1.begun = s.begun := by
  rw [adjust]
  split
  · rfl
  · exact begun_resumeAdjust _ clock _

lemma AdjustTurn.of_locks {locks : Table WalletKey RowLock}
    {turn : Turn AdjustWait (Except Failure AdjustOutcome)}
    (h : AdjustTurn { s with locks } a s' turn) : AdjustTurn s a s' turn := by
  cases h with
  | missing locks hnone => exact .missing locks hnone
  | waits locks heq hwallet => exact .waits locks heq hwallet
  | timedOut locks => exact .timedOut locks
  | held locks hheld hwallet hadjusts => exact .held locks hheld hwallet hadjusts

/-- An adjustment has its first turn. -/
lemma adjustTurn_adjust (s : Store) (clock : Clock) (a : Adjustment) :
    AdjustTurn s a (s.adjust clock a).1 (s.adjust clock a).2 := by
  rw [adjust]
  split
  · next hnone => exact .missing s.locks hnone
  · next wallet hwallet =>
    have hturn := adjustTurn_resumeAdjust (s := s.requestRow a.tx a.key) clock
      (w := ⟨a, wallet, clock.now + s.lockTimeout⟩) hwallet
    exact hturn.of_locks

end Store

/-! ### What has been shown -/

/-- An adjustment that was made, and the snapshot that it showed. -/
structure Shown where
  adjustment : Adjustment
  snapshot : WalletSnapshot

namespace Shown

variable {h : List Shown} {r : Shown} {key : WalletKey}

/-- What a turn of an adjustment shows. -/
def ofTurn (a : Adjustment) : Turn AdjustWait (Except Failure AdjustOutcome) → List Shown
  | .done (.ok (.applied snapshot)) => [⟨a, snapshot⟩]
  | _ => []

/-- The adjustments of one row. -/
def ofRow (h : List Shown) (key : WalletKey) : List Shown :=
  h.filter (·.adjustment.key = key)

/-- What adjustments add to a row, by the sums of the store, if there are any. -/
def pending? (h : List Shown) (key : WalletKey) : Option Decimal :=
  (ofRow h key).foldl (fun entry r => Arithmetic.sum? (entry.getD .zero)
    (r.adjustment.direction.signed r.adjustment.amount)) none

/-- What adjustments add to a row. -/
def net (h : List Shown) (key : WalletKey) : ℚ :=
  ((ofRow h key).map fun r => r.adjustment.direction.change r.adjustment.amount).sum

/-- The balance of a row in its last snapshot. -/
def last? (h : List Shown) (key : WalletKey) : Option Decimal :=
  (ofRow h key).getLast?.map (·.snapshot.balance)

lemma ofRow_concat : ofRow (h ++ [r]) key
    = if r.adjustment.key = key then ofRow h key ++ [r] else ofRow h key := by
  rw [ofRow, List.filter_append, ← ofRow]
  split
  · next heq => simp [heq]
  · next hne => simp [hne]

lemma pending?_concat : pending? (h ++ [r]) key = if r.adjustment.key = key then
    Arithmetic.sum? ((pending? h key).getD .zero)
      (r.adjustment.direction.signed r.adjustment.amount) else pending? h key := by
  rw [pending?, ofRow_concat]
  split
  · rw [List.foldl_append, ← pending?]
    rfl
  · rfl

lemma net_concat : net (h ++ [r]) key = if r.adjustment.key = key then
    net h key + r.adjustment.direction.change r.adjustment.amount else net h key := by
  rw [net, ofRow_concat]
  split
  · simp [net]
  · rfl

lemma last?_concat : last? (h ++ [r]) key = if r.adjustment.key = key then
    some r.snapshot.balance else last? h key := by
  rw [last?, ofRow_concat]
  split
  · simp
  · rfl

lemma ofRow_eq_nil (hlast : last? h key = none) : ofRow h key = [] := by
  simpa [last?] using hlast

/-- A row without a snapshot has not been adjusted. -/
lemma pending?_eq_none (hlast : last? h key = none) : pending? h key = none := by
  rw [pending?, ofRow_eq_nil hlast]
  rfl

lemma net_eq_zero (hlast : last? h key = none) : net h key = 0 := by
  rw [net, ofRow_eq_nil hlast]
  rfl

end Shown

namespace Store

variable {s s' s'' : Store} {tx : TxId} {t : Transaction} {key : WalletKey} {a : Adjustment}
  {wallet : WalletId} {h : List Shown} {wallets wallets' : Table WalletKey Wallet}
  {current balance : Decimal}

/-! ### What does not adjust -/

/-- The transaction keeps its changes of balances and the wallets that it has found. -/
structure Retains (tx : TxId) (s s' : Store) : Prop where
  wallets : s'.wallets = s.wallets
  deltas : (s'.transaction tx).deltas = (s.transaction tx).deltas
  found {key : WalletKey} {id : WalletId} : s.walletId? tx key = some id →
    s'.walletId? tx key = some id
  begun : s'.begun = s.begun

namespace Retains

/-- Faults, locks and identifiers do not matter. -/
lemma of_eq (hwallets : s'.wallets = s.wallets) (htransactions : s'.transactions = s.transactions)
    (hbegun : s'.begun = s.begun) : Retains tx s s' := by
  obtain ⟨_, _, _, _, _, _, _, _, _⟩ := s'
  cases hwallets
  cases htransactions
  exact ⟨rfl, rfl, id, hbegun⟩

lemma refl (tx : TxId) (s : Store) : Retains tx s s := of_eq rfl rfl rfl

lemma trans (h : Retains tx s s') (h' : Retains tx s' s'') : Retains tx s s'' where
  wallets := h'.wallets.trans h.wallets
  deltas := h'.deltas.trans h.deltas
  found hid := h'.found (h.found hid)
  begun := h'.begun.trans h.begun

lemma setTransaction (hdeltas : t.deltas = (s.transaction tx).deltas)
    (hprovisioned : t.provisioned = (s.transaction tx).provisioned) :
    Retains tx s (s.setTransaction tx t) := by
  have ht : (s.setTransaction tx t).transaction tx = t :=
    get_transaction_setTransaction.trans (if_pos rfl)
  refine ⟨rfl, by rw [ht, hdeltas], fun hid => ?_, rfl⟩
  rw [walletId?, ht, hprovisioned]
  exact hid

lemma strike {point : FaultPoint} (h : s.takeFault? point = some s') : Retains tx s s' := by
  obtain ⟨-, rfl⟩ := takeFault?_eq_some h
  exact of_eq rfl rfl rfl

lemma append (s : Store) (tx : TxId) (record : TransactionRecord) :
    Retains tx s (s.append tx record).1 := by
  rw [Store.append]
  split
  · next h => exact strike h
  · exact setTransaction rfl rfl

lemma enqueue (s : Store) (tx : TxId) (event : OutboxEvent) :
    Retains tx s (s.enqueue tx event).1 := by
  rw [Store.enqueue]
  split
  · next h => exact strike h
  · exact setTransaction rfl rfl

/-- A new wallet is made where none was found. -/
lemma provisionHeld (s : Store) (now : Nat) (tx : TxId) (key : WalletKey) :
    Retains tx s (s.provisionHeld now tx key).1 := by
  rw [Store.provisionHeld]
  split
  · exact refl tx s
  · next hnone =>
    set t : Transaction := { s.transaction tx with
      provisioned := (s.transaction tx).provisioned.insert key (s.ids.wallet now).1 }
    have ht : (s.setTransaction tx t).transaction tx = t :=
      get_transaction_setTransaction.trans (if_pos rfl)
    have hset : Retains tx s (s.setTransaction tx t) := by
      refine ⟨rfl, by rw [ht], fun {key' id} hid => ?_, rfl⟩
      have hne : key ≠ key' := by
        rintro rfl
        exact absurd (hnone.symm.trans hid) (by simp)
      rw [walletId?, ht, Table.get?_insert, if_neg hne]
      exact hid
    exact hset.trans (of_eq rfl rfl rfl)

lemma provisionRow (s : Store) (clock : Clock) (w : ProvisionWait)
    {next : Store → Store × Turn ProvisionWait (Except LedgerError Unit)}
    (hnext : ∀ s : Store, Retains w.tx s (next s).1) :
    Retains w.tx s (s.provisionRow clock w next).1 := by
  have hheld := provisionHeld s clock.now w.tx w.row.key
  rw [Store.provisionRow]
  split
  · split
    · next heq =>
      rw [heq] at hheld
      exact hheld
    · next heq =>
      rw [heq] at hheld
      exact hheld.trans (hnext _)
  · exact refl w.tx s
  · exact of_eq rfl rfl rfl

lemma provisionFrom (clock : Clock) (tx : TxId) (account : AccountId) (rest : List Currency)
    (s : Store) : Retains tx s (Store.provisionFrom clock tx account rest s).1 := by
  induction rest generalizing s with
  | nil => exact refl tx s
  | cons c rest ih =>
      rw [Store.provisionFrom]
      have hasked : Retains tx s (s.requestRow tx ⟨account, c⟩) := of_eq rfl rfl rfl
      exact hasked.trans (provisionRow _ clock
        ⟨tx, account, c, rest, clock.now + s.lockTimeout⟩ ih)

lemma resumeProvision (s : Store) (clock : Clock) (w : ProvisionWait) :
    Retains w.tx s (s.resumeProvision clock w).1 :=
  provisionRow s clock w fun s => provisionFrom clock w.tx w.account w.rest s

lemma provision (s : Store) (clock : Clock) (tx : TxId) (account : AccountId) :
    Retains tx s (s.provision clock tx account).1 :=
  provisionFrom clock tx account Currency.all s

end Retains

/-! ### The invariant -/

/-- The transaction is about to make the adjustments that it has been shown, and a row with them has
the balance that was shown last. -/
structure Recalls (s : Store) (tx : TxId) (h : List Shown) : Prop where
  pending (key : WalletKey) : (s.transaction tx).deltas.get? key = Shown.pending? h key
  seen {key : WalletKey} {balance : Decimal} : Shown.last? h key = some balance →
    ∃ total, Shown.pending? h key = some total ∧
      Arithmetic.sum? (s.base key) total = some balance
  found {key : WalletKey} {balance : Decimal} : Shown.last? h key = some balance →
    ∃ id, s.walletId? tx key = some id
  exact {key : WalletKey} : (s.base key).IsFineBalance →
    ∃ m n, (s.base key).Takes (s.change tx key) m n ∧
      (s.change tx key).toRat = Shown.net h key

/-- Wallets that a transaction has found stay while others act. -/
lemma Later.walletId? (hl : Later tx s s') {id : WalletId} (hid : s.walletId? tx key = some id) :
    s'.walletId? tx key = some id := by
  rw [Store.walletId?, transaction, hl.content, ← transaction]
  rw [Store.walletId?, Option.or_eq_some_iff] at hid
  rcases hid with hmine | ⟨hnone, hrow⟩
  · rw [hmine, Option.some_or]
  · rw [hnone, Option.none_or]
    exact hl.id hrow

lemma recalls_fresh (hfresh : s.transaction tx = .fresh) : s.Recalls tx [] where
  pending key := by
    rw [hfresh]
    rfl
  seen hlast := by simp [Shown.last?, Shown.ofRow] at hlast
  found hlast := by simp [Shown.last?, Shown.ofRow] at hlast
  exact {key} hfine := by
    have hchange : s.change tx key = .zero := by
      rw [change, hfresh]
      rfl
    obtain ⟨m, hm⟩ := hfine.takes_zero
    exact ⟨m, 0, hchange ▸ hm, by rw [hchange, Decimal.toRat_zero]; rfl⟩

namespace Recalls

lemma retains (hr : s.Recalls tx h) (hk : Retains tx s s') : s'.Recalls tx h := by
  have hbase : ∀ key, s'.base key = s.base key := fun key => by rw [base, hk.wallets, ← base]
  refine ⟨fun key => ?_, fun {key balance} hlast => ?_, fun hlast => ?_, fun {key} hfine => ?_⟩
  · rw [hk.deltas]
    exact hr.pending key
  · rw [hbase]
    exact hr.seen hlast
  · obtain ⟨id, hid⟩ := hr.found hlast
    exact ⟨id, hk.found hid⟩
  · have hchange : s'.change tx key = s.change tx key := by rw [change, hk.deltas, ← change]
    rw [hbase] at hfine ⊢
    rw [hchange]
    exact hr.exact hfine

/-- What others do leaves the transaction what it has been shown: it holds the rows that it has
adjusted. -/
lemma later (hr : s.Recalls tx h) (hd : s.Disciplined) (hl : Later tx s s') :
    s'.Recalls tx h := by
  have htransaction : s'.transaction tx = s.transaction tx := by
    rw [transaction, hl.content, ← transaction]
  -- a row with a snapshot has been adjusted, so the transaction holds it and nobody changes it
  have hbase : ∀ {key balance}, Shown.last? h key = some balance → s'.base key = s.base key := by
    intro key balance hlast
    obtain ⟨total, htotal, -⟩ := hr.seen hlast
    rw [← hr.pending] at htotal
    cases ht : s.transactions.get? tx with
    | none =>
        rw [transaction, ht] at htotal
        cases htotal
    | some t =>
        rw [transaction, ht, Option.getD_some] at htotal
        have htouch : t.Touches key := by
          refine .inl ?_
          by_contra hnot
          rw [Table.get?_eq_none_iff.mpr hnot] at htotal
          cases htotal
        rw [base, hl.row (hd.holder ht htouch), ← base]
  refine ⟨fun key => ?_, fun hlast => ?_, fun hlast => ?_, fun {key} hfine => ?_⟩
  · rw [htransaction]
    exact hr.pending key
  · rw [hbase hlast]
    exact hr.seen hlast
  · obtain ⟨id, hid⟩ := hr.found hlast
    exact ⟨id, hl.walletId? hid⟩
  · have hchange : s'.change tx key = s.change tx key := by rw [change, htransaction, ← change]
    rw [hchange]
    cases hlast : Shown.last? h key with
    | some balance =>
        rw [hbase hlast] at hfine ⊢
        exact hr.exact hfine
    | none =>
        -- nothing is added to a row that has not been adjusted
        have hzero : s.change tx key = .zero := by
          rw [change, hr.pending, Shown.pending?_eq_none hlast]
          rfl
        obtain ⟨m, hm⟩ := hfine.takes_zero
        rw [hzero, Shown.net_eq_zero hlast]
        exact ⟨m, 0, hm, Decimal.toRat_zero⟩

/-- That balance is the committed one with all adjustments of the row. -/
lemma toRat_current (hr : s.Recalls tx h) (hfine : (s.base key).IsFineBalance) :
    ((Shown.last? h key).getD (s.base key)).toRat = (s.base key).toRat + Shown.net h key := by
  cases hlast : Shown.last? h key with
  | none => rw [Option.getD_none, Shown.net_eq_zero hlast, add_zero]
  | some balance =>
      obtain ⟨total, htotal, hsum⟩ := hr.seen hlast
      obtain ⟨m, n, htakes, hnet⟩ := hr.exact hfine
      have hchange : s.change tx key = total := by rw [change, hr.pending, htotal, Option.getD_some]
      rw [hchange] at htakes hnet
      obtain ⟨next, hnext, hunits⟩ := htakes.add?
      obtain rfl := Option.some.inj (hsum.symm.trans hnext)
      rw [Option.getD_some, ← hnet, show balance.toRat = _ from hunits,
        show (s.base key).toRat = _ from htakes.balance, show total.toRat = _ from htakes.change]
      push_cast
      ring

/-- An adjustment that is made joins what has been shown, if it is modest. -/
lemma applied (hr : s.Recalls a.tx h) (ha : a.IsModest) {next total : Decimal} {balances : Balances}
    (hwallet : s.walletId? a.tx a.key = some wallet) (hsees : s.Sees a.tx a.key current)
    (hnot : ¬ a.IsShort current)
    (hnext : nextBalance? current (a.direction.signed a.amount) = some next)
    (htotal : Arithmetic.sum? (((s.transaction a.tx).deltas.get? a.key).getD .zero)
      (a.direction.signed a.amount) = some total)
    (hshown : (s.setTransaction a.tx { s.transaction a.tx with
      deltas := (s.transaction a.tx).deltas.insert a.key total }).visibleBalances? a.tx
        a.key.account = some balances) :
    (s.setTransaction a.tx { s.transaction a.tx with
      deltas := (s.transaction a.tx).deltas.insert a.key total }).Recalls a.tx
        (h ++ [⟨a, ⟨a.key.account, wallet, a.key.currency, balances⟩⟩]) := by
  set t : Transaction := { s.transaction a.tx with
    deltas := (s.transaction a.tx).deltas.insert a.key total } with ht_def
  have ht : (s.setTransaction a.tx t).transaction a.tx = t :=
    get_transaction_setTransaction.trans (if_pos rfl)
  have hdelta : t.deltas.get? a.key = some total := (Table.get?_insert ..).trans (if_pos rfl)
  have hother : ∀ {key}, a.key ≠ key → t.deltas.get? key = (s.transaction a.tx).deltas.get? key :=
    fun hne => (Table.get?_insert ..).trans (if_neg hne)
  have hwalletId : ∀ key, (s.setTransaction a.tx t).walletId? a.tx key = s.walletId? a.tx key := by
    intro key
    rw [walletId?, ht]
    rfl
  -- each part for the row of the adjustment, and for the other rows, of which nothing changes
  refine ⟨fun key => ?_, fun {key balance} hlast => ?_, fun {key balance} hlast => ?_,
    fun {key} hfine => ?_⟩
  · rw [ht, Shown.pending?_concat]
    split
    · next heq =>
      subst heq
      rw [hdelta, ← hr.pending]
      exact htotal.symm
    · next hne =>
      rw [hother hne]
      exact hr.pending key
  · rw [Shown.last?_concat] at hlast
    rw [Shown.pending?_concat]
    split at hlast
    · next heq =>
      subst heq
      obtain rfl := Option.some.inj hlast
      rw [if_pos rfl, ← hr.pending]
      refine ⟨total, htotal, ?_⟩
      -- the snapshot is read from the new change
      have hrow := visibleBalance?_of_visibleBalances? hshown a.key.currency
      rw [visibleBalance?, ht, hdelta, Option.map_eq_some_iff] at hrow
      obtain ⟨balance, hsum, hbalance⟩ := hrow
      rw [getD_baseBalance?] at hsum
      rw [WalletSnapshot.balance, ← hbalance, Option.getD_some]
      exact hsum
    · next hne =>
      rw [if_neg hne]
      exact hr.seen hlast
  · rw [hwalletId]
    rw [Shown.last?_concat] at hlast
    split at hlast
    · next heq => exact ⟨wallet, heq ▸ hwallet⟩
    · exact hr.found hlast
  · rw [Shown.net_concat]
    obtain ⟨m, n, htakes, hnet⟩ := hr.exact hfine
    split
    · next heq =>
      subst heq
      obtain ⟨balances', hvisible, rfl⟩ := hsees
      -- in units both sums are sums of integers
      obtain ⟨k, hk, hnonneg, hle⟩ := ha.next (isUnits_visible htakes hvisible) htakes.sum_nonneg
        hnot hnext
      obtain ⟨total', hsum, htotal'⟩ := htakes.add?_change hk hnonneg hle
      obtain rfl := Option.some.inj (htotal.symm.trans hsum)
      have hchange : (s.setTransaction a.tx t).change a.tx a.key = total := by
        rw [change, ht, hdelta, Option.getD_some]
      refine ⟨m, n + k, hchange ▸ htotal', ?_⟩
      rw [hchange, ← hnet, ← Direction.toRat_signed, show total.toRat = _ from htotal'.change,
        show (s.change a.tx a.key).toRat = _ from htakes.change,
        show (a.direction.signed a.amount).toRat = _ from hk]
      push_cast
      ring
    · next hne =>
      have hchange : (s.setTransaction a.tx t).change a.tx key = s.change a.tx key := by
        rw [change, ht, hother hne, ← change]
      exact ⟨m, n, hchange ▸ htakes, hchange ▸ hnet⟩

end Recalls

/-! ### Commits -/

/-- Changes that are all made are made in every row that there is. -/
lemma get?_foldlM_addDelta {deltas : List (WalletKey × Decimal)}
    (hnodup : (deltas.map (·.1)).Nodup) (hd : deltas.foldlM addDelta wallets = .ok wallets')
    {delta : Decimal} (hmem : (key, delta) ∈ deltas) {w : Wallet}
    (hrow : wallets.get? key = some w) :
    ∃ balance, Arithmetic.sum? w.balance delta = some balance ∧
      wallets'.get? key = some { w with balance } := by
  -- on the changes that are still to be made
  induction deltas generalizing wallets with
  | nil => cases hmem
  | cons entry deltas ih =>
      rw [List.map_cons, List.nodup_cons] at hnodup
      rw [List.foldlM_cons] at hd
      cases hfirst : addDelta wallets entry with
      | error f => simp [hfirst, bind, Except.bind] at hd
      | ok mid =>
          rw [hfirst] at hd
          have hrest : deltas.foldlM addDelta mid = .ok wallets' := hd
          rcases List.mem_cons.mp hmem with rfl | hmem
          · -- this is the only change of the row
            have hkept := (get?_addDeltas (k := key) deltas hrest).2 hnodup.1
            simp only [addDelta, hrow] at hfirst
            split at hfirst
            · cases hfirst
            · next balance hsum =>
              split at hfirst
              · cases hfirst
              · obtain rfl := Except.ok.inj hfirst
                refine ⟨balance, hsum, ?_⟩
                rw [hkept, Table.get?_insert, if_pos rfl]
          · have hne : key ≠ entry.1 := by
              rintro rfl
              exact hnodup.1 (List.mem_map.mpr ⟨_, hmem, rfl⟩)
            exact ih hnodup.2 hrest hmem (((get?_addDelta hfirst).2 hne).trans hrow)

/-- A commit that succeeds makes all changes. -/
lemma committedWallets_of_commit (hok : (s.commit tx).2 = .ok ()) :
    ∃ wallets, committedWallets s.wallets (s.transaction tx) = .ok wallets ∧
      (s.commit tx).1.wallets = wallets := by
  rw [commit] at hok ⊢
  cases hfault : s.takeFault? .commit with
  | some struck =>
      rw [hfault] at hok
      cases hok
  | none =>
      cases hcommitted : committedWallets s.wallets (s.transaction tx) with
      | error failure =>
          simp only [hfault, hcommitted] at hok
          cases hok
      | ok wallets => exact ⟨wallets, rfl, by simp only [hcommitted]⟩

namespace Recalls

end Recalls

end Store

end Teller
