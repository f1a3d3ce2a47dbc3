/-
What one transaction does to a store in one turn, operation by operation.

* `LedgerError.isTrouble`: the errors of faults, of rows that are not granted in time and of
  deadlines, as opposed to answers that depend on balances;
* `Store.During`: a transaction has acted since the turn began, and nothing has been committed;
* `During.begin`, `During.append`, `During.enqueue`, `During.rollback`: either the operation is done
  or trouble struck, which it does not when the transaction is on its own;
* `Store.Tried`: what an attempt to make a movement comes to; `During.adjust` and
  `During.resumeAdjust` say that every attempt comes to one of these, whatever the arithmetic;
* `During.commit`: all movements are committed, or trouble struck and none is.
-/
import Teller.Proofs.Store.Movement

namespace Teller

/-- Trouble of the store or an end at a deadline, and no answer about balances. -/
def LedgerError.isTrouble : LedgerError → Bool
  | storeUnavailable _ => true
  | notificationEnqueueFailed _ => true
  | deadlineExceeded => true
  | rollbackFailed .. => true
  | _ => false

namespace Store

/-- A transaction has acted on a store, perhaps on its own, and nothing has been committed. -/
structure During (alone : Prop) (tx : TxId) (s₀ s : Store) : Prop where
  path : Path tx s₀ s
  wallets : s.wallets = s₀.wallets
  journal : s.journal = s₀.journal
  outbox : s.outbox = s₀.outbox
  disciplined : s.Disciplined
  alone : alone → s.Alone tx

variable {alone : Prop} {tx : TxId} {s₀ s s' : Store} {t : Transaction} {ms : List Movement}
  {sheet : Sheet} {m : Movement}

namespace During

lemma refl (hs : s.Disciplined) (hq : alone → s.Alone tx) : During alone tx s s :=
  ⟨.refl tx s, rfl, rfl, rfl, hs, hq⟩

lemma act (h : During alone tx s₀ s) (ha : Act tx s s') (hwallets : s'.wallets = s.wallets)
    (hjournal : s'.journal = s.journal) (houtbox : s'.outbox = s.outbox) :
    During alone tx s₀ s' where
  path := h.path.act ha
  wallets := hwallets.trans h.wallets
  journal := hjournal.trans h.journal
  outbox := houtbox.trans h.outbox
  disciplined := h.disciplined.act ha
  alone hq := (h.alone hq).act ha

lemma sheet_eq (h : During alone tx s₀ s) : s.sheet = s₀.sheet := by
  rw [Store.sheet, Store.sheet, h.wallets]

/-- A fault that strikes is an act, and a transaction that it strikes is not on its own. -/
lemma strike {point : FaultPoint} (h : During alone tx s₀ s)
    (hf : s.takeFault? point = some s') :
    During alone tx s₀ s' ∧ ¬ alone ∧ s'.transactions = s.transactions := by
  have ha : Act tx s s' := .strike hf
  obtain ⟨hmem, rfl⟩ := takeFault?_eq_some hf
  refine ⟨h.act ha rfl rfl rfl, fun hq => ?_, rfl⟩
  simp [(h.alone hq).1] at hmem

/-- An identifier is drawn. -/
lemma draw (h : During alone tx s₀ s) : During alone tx s₀ { s with ids := s.ids.next } :=
  h.act .draw rfl rfl rfl

/-- The transaction ends without a change. -/
lemma discard (h : During alone tx s₀ s) :
    During alone tx s₀ (s.discard tx) ∧ ¬ (s.discard tx).IsOpen tx :=
  ⟨h.act .discard rfl rfl rfl, fun ho => (isOpen_discard.mp ho).1 rfl⟩

/-! ### Beginning, notes and rollback -/

lemma begin (hs : s.Disciplined) (hq : alone → s.Alone ⟨s.begun⟩) :
    (∃ s' e, s.begin = (s', .error e) ∧ During alone ⟨s.begun⟩ s s' ∧ ¬ s'.IsOpen ⟨s.begun⟩ ∧
      e.isTrouble ∧ ¬ alone) ∨
    ∃ s', s.begin = (s', .ok ⟨s.begun⟩) ∧ During alone ⟨s.begun⟩ s s' ∧
      s'.transactions.get? ⟨s.begun⟩ = some .fresh := by
  have h := During.refl hs hq
  rw [Store.begin]
  cases hf : s.takeFault? .begin with
  | some s' =>
      obtain ⟨h', hnot, htransactions⟩ := h.strike hf
      refine .inl ⟨s', _, rfl, h', fun ho => ?_, rfl, hnot⟩
      rw [IsOpen, htransactions] at ho
      exact hs.not_isOpen_begun ho
  | none =>
      refine .inr ⟨_, rfl, h.act (.begin rfl) rfl rfl rfl, ?_⟩
      exact get?_setTransaction.trans (if_pos rfl)

lemma append (h : During alone tx s₀ s) (ht : s.transactions.get? tx = some t)
    (record : TransactionRecord) :
    (∃ s' e, s.append tx record = (s', .error e) ∧ During alone tx s₀ s' ∧ e.isTrouble ∧ ¬ alone) ∨
    ∃ s', s.append tx record = (s', .ok ()) ∧ During alone tx s₀ s' ∧
      s'.transactions.get? tx = some { t with records := t.records ++ [record] } := by
  rw [Store.append]
  cases hf : s.takeFault? .appendRecord with
  | some s' =>
      obtain ⟨h', hnot, -⟩ := h.strike hf
      exact .inl ⟨s', _, rfl, h', rfl, hnot⟩
  | none =>
      have heq : s.transaction tx = t := by rw [transaction, ht, Option.getD_some]
      refine .inr ⟨_, rfl, ?_, get?_setTransaction.trans (if_pos rfl) |>.trans (by rw [heq])⟩
      rw [heq]
      exact h.act (.note (t.records ++ [record]) t.events ht) rfl rfl rfl

lemma enqueue (h : During alone tx s₀ s) (ht : s.transactions.get? tx = some t)
    (event : OutboxEvent) :
    (∃ s' e, s.enqueue tx event = (s', .error e) ∧ During alone tx s₀ s' ∧ e.isTrouble ∧ ¬ alone) ∨
    ∃ s', s.enqueue tx event = (s', .ok ()) ∧ During alone tx s₀ s' ∧
      s'.transactions.get? tx = some { t with events := t.events ++ [event] } := by
  rw [Store.enqueue]
  cases hf : s.takeFault? .enqueueEvent with
  | some s' =>
      obtain ⟨h', hnot, -⟩ := h.strike hf
      exact .inl ⟨s', _, rfl, h', rfl, hnot⟩
  | none =>
      have heq : s.transaction tx = t := by rw [transaction, ht, Option.getD_some]
      refine .inr ⟨_, rfl, ?_, get?_setTransaction.trans (if_pos rfl) |>.trans (by rw [heq])⟩
      rw [heq]
      exact h.act (.note t.records (t.events ++ [event]) ht) rfl rfl rfl

lemma rollback (h : During alone tx s₀ s) : ∃ s' result, s.rollback tx = (s', result) ∧
    During alone tx s₀ s' ∧ ¬ s'.IsOpen tx ∧ (result = .ok () ∨ ¬ alone) := by
  rw [Store.rollback]
  cases hf : s.takeFault? .rollback with
  | some s' =>
      obtain ⟨h', hnot, -⟩ := h.strike hf
      exact ⟨_, _, rfl, h'.discard.1, h'.discard.2, .inr hnot⟩
  | none => exact ⟨_, _, rfl, h.discard.1, h.discard.2, .inl rfl⟩

end During

/-! ### Movements -/

lemma lookRow_of_holder {clock : Clock} {w : RowWait} (h : (s.lock w.key).holder = some w.tx) :
    s.lookRow clock w = .granted := by
  rw [lookRow, if_pos (holds_iff.mpr h)]

lemma lookRow_of_holder_ne (clock : Clock) {w : RowWait}
    (h : (s.lock w.key).holder ≠ some w.tx) :
    s.lookRow clock w = .waiting ∨ s.lookRow clock w = .timedOut := by
  rw [lookRow, if_neg (mt holds_iff.mp h)]
  split
  · exact .inr rfl
  · exact .inl rfl

/-- What an attempt to make a movement comes to. -/
inductive Tried (alone : Prop) (tx : TxId) (s₀ : Store) (t : Transaction) (ms : List Movement)
    (m : Movement) : Store → Turn AdjustWait (Except Failure AdjustOutcome) → Prop where
  /-- Somebody else holds the row. -/
  | waits {s : Store} {sheet : Sheet} {w : AdjustWait} (hd : During alone tx s₀ s)
      (hm : s.Moved tx t ms sheet) (hadj : w.adjustment = m.adjustment tx)
      (hid : (s.wallets.get? m.key).map (·.id) = some w.wallet) (hnot : ¬ alone) :
      Tried alone tx s₀ t ms m s (.waiting w)
  /-- Somebody else has held the row for too long. -/
  | troubled {s : Store} {e : LedgerError} (hd : During alone tx s₀ s) (he : e.isTrouble)
      (hnot : ¬ alone) : Tried alone tx s₀ t ms m s (.done (.error (.refused e)))
  | refused {s : Store} {sheet : Sheet} {e : LedgerError}
      {result : Except Failure AdjustOutcome} (hd : During alone tx s₀ s)
      (hm : s.Moved tx t ms sheet) (he : m.apply sheet = .error e)
      (hresult : result = .error (.refused e) ∨ (result = .ok .insufficientFunds ∧
        e = .insufficientFunds m.key.currency m.amount)) :
      Tried alone tx s₀ t ms m s (.done result)
  | moves {s : Store} {t' : Transaction} {sheet : Sheet} {wallet : WalletId}
      (hd : During alone tx s₀ s) (hm : s.Moved tx t' (ms ++ [m]) sheet)
      (hrecords : t'.records = t.records) (hevents : t'.events = t.events)
      (hid : (s.wallets.get? m.key).map (·.id) = some wallet) :
      Tried alone tx s₀ t ms m s (.done (.ok (.applied ⟨m.key.account, wallet, m.key.currency,
        .ofFn fun c => sheet ⟨m.key.account, c⟩⟩)))

section Held

variable {balance next : Decimal} {id : WalletId}

/-- An adjustment after which there is no next balance is refused, and changes nothing. -/
lemma settles_adjustHeld_of_none {a : Adjustment} {balances : Balances}
    (hseen : Settles (s.visibleBalances? a.tx a.key.account) (some balances))
    (hrow : balances.get? a.key.currency = some balance)
    (hcovered : ¬ (a.direction = .debit ∧ balance < a.amount))
    (hnone : Settles (nextBalance? balance (a.direction.signed a.amount)) none) :
    Settles (s.adjustHeld a id) (s, .error (.refused (.validation
      (.balanceRange a.key.currency balance a.direction a.amount)))) := by
  refine ⟨fun A _ => ?_⟩
  rw [adjustHeld, hseen.eq A]
  simp only [hrow, Option.getD_some]
  rw [if_neg hcovered, hnone.eq A]
  rfl

/-- A movement that is refused changes nothing. -/
lemma Moved.settles_adjustHeld_error (h : s.Moved tx t ms sheet) (hrow : sheet m.key = some balance)
    (ha : m.amount.IsAmount) {e : LedgerError}
    (he : adjusted m.key.currency balance m.amount m.direction = .error e) :
    ∃ result, Settles (s.adjustHeld (m.adjustment tx) id) (s, result) ∧
      (result = .error (.refused e) ∨ (result = .ok .insufficientFunds ∧
        e = .insufficientFunds m.key.currency m.amount)) := by
  have hbalance : balance.IsBalance := h.isProper.moves h.isAmount h.outcome hrow
  have hseen := h.settles_visibleBalances? m.key.account
  rw [adjusted] at he
  split at he
  · next hrefused =>
    refine ⟨_, ⟨fun A _ => ?_⟩, .inr ⟨rfl, (Except.error.inj he).symm⟩⟩
    rw [adjustHeld, Movement.adjustment, hseen.eq A]
    simp only [CurrencyMap.get?_ofFn, hrow, Option.getD_some]
    rw [if_pos hrefused]
  · next hrefused =>
    have hnext := settles_nextBalance? hbalance ha hrefused
    split at he
    · next hnone =>
      rw [hnone] at hnext
      have hget := (CurrencyMap.get?_ofFn (fun c => sheet ⟨m.key.account, c⟩) _).trans hrow
      exact ⟨_, settles_adjustHeld_of_none (a := m.adjustment tx) hseen hget hrefused hnext,
        .inl (congrArg _ (congrArg _ (Except.error.inj he)))⟩
    · simp at he

/-- Zero is added to without rounding. -/
lemma settles_zero_sum? (d : Decimal) : Settles (Arithmetic.sum? .zero d) (some d) := by
  have hexact : Decimal.AddsUp .zero d d :=
    ⟨rfl, by simp [Decimal.toRat, Decimal.zero, Decimal.coefficient]⟩
  exact ⟨fun _ _ => Arithmetic.Lawful.sum?_eq hexact⟩

/-- A movement that is not refused is made. -/
lemma Moved.settles_adjustHeld_ok (h : s.Moved tx t ms sheet) (hnew : m.key ∉ ms.map (·.key))
    (hrow : sheet m.key = some balance) (ha : m.amount.IsAmount)
    (hok : adjusted m.key.currency balance m.amount m.direction = .ok next) :
    Settles (s.adjustHeld (m.adjustment tx) id)
      (s.setTransaction tx { t with deltas := t.deltas.insert m.key m.delta },
        .ok (.applied ⟨m.key.account, id, m.key.currency,
          .ofFn fun c => Function.update sheet m.key (some next) ⟨m.key.account, c⟩⟩)) := by
  have hbalance : balance.IsBalance := h.isProper.moves h.isAmount h.outcome hrow
  have hseen := h.settles_visibleBalances? m.key.account
  have hmoved := h.move hnew ha (Movement.apply_of_adjusted hrow hok)
  have hseen' := hmoved.settles_visibleBalances? m.key.account
  -- it is the first change of this row, so that it is added to nothing
  have hdelta : t.deltas.get? m.key = none :=
    Table.get?_eq_none_iff.mpr fun hk => hnew (h.mem_keys_iff.mp hk)
  rw [adjusted] at hok
  split at hok
  · simp at hok
  · next hrefused =>
    have hnext := settles_nextBalance? hbalance ha hrefused
    split at hok
    · simp at hok
    · next hsome =>
      obtain rfl := Except.ok.inj hok
      rw [hsome] at hnext
      refine ⟨fun A _ => ?_⟩
      rw [adjustHeld, Movement.adjustment, hseen.eq A]
      simp only [CurrencyMap.get?_ofFn, hrow, Option.getD_some]
      rw [if_neg hrefused, hnext.eq A, h.transaction_eq, hdelta, Option.getD_none,
        (settles_zero_sum? _).eq A]
      simp only [Option.isNone_some]
      rw [if_neg (by simp), show m.direction.signed m.amount = m.delta from rfl, hseen'.eq A]

end Held

namespace During

/-- An attempt at a row that the transaction holds. -/
lemma adjustHeld (h : During alone tx s₀ s) (hm : s.Moved tx t ms sheet)
    (hnew : m.key ∉ ms.map (·.key)) (ha : m.amount.IsAmount) {id : WalletId}
    (hid : (s.wallets.get? m.key).map (·.id) = some id)
    (hheld : (s.lock m.key).holder = some tx) :
    ∃ s' result, Settles (s.adjustHeld (m.adjustment tx) id) (s', result) ∧
      Tried alone tx s₀ t ms m s' (.done result) := by
  obtain ⟨wallet, hw, rfl⟩ := Option.map_eq_some_iff.mp hid
  have hrow : sheet m.key = some wallet.balance := by
    rw [(Movement.of_foldlM_apply hm.nodup hm.outcome).2 _ hnew, Store.sheet, Sheet.of, hw]
    rfl
  cases hadj : adjusted m.key.currency wallet.balance m.amount m.direction with
  | error e =>
      obtain ⟨result, hsettles, hresult⟩ := hm.settles_adjustHeld_error hrow ha hadj
      refine ⟨s, result, hsettles, .refused h hm ?_ hresult⟩
      rw [Movement.apply, hrow, Movement.verdict, hadj]
      rfl
  | ok next =>
      have hmoved := hm.move hnew ha (Movement.apply_of_adjusted hrow hadj)
      exact ⟨_, _, hm.settles_adjustHeld_ok hnew hrow ha hadj,
        .moves (h.act (.adjust m.key m.delta hm.content hheld) rfl rfl rfl) hmoved rfl rfl hid⟩

/-- An attempt at a row that has been asked for. -/
lemma resumeAdjust (h : During alone tx s₀ s) (hm : s.Moved tx t ms sheet)
    (hnew : m.key ∉ ms.map (·.key)) (ha : m.amount.IsAmount) (clock : Clock) {w : AdjustWait}
    (hadj : w.adjustment = m.adjustment tx)
    (hid : (s.wallets.get? m.key).map (·.id) = some w.wallet)
    (halone : alone → (s.lock m.key).holder = some tx) :
    ∃ s' turn, Settles (s.resumeAdjust clock w) (s', turn) ∧ Tried alone tx s₀ t ms m s' turn := by
  obtain ⟨adjustment, id, giveUpAt⟩ := w
  obtain rfl : adjustment = m.adjustment tx := hadj
  by_cases hheld : (s.lock m.key).holder = some tx
  · obtain ⟨s', result, hsettles, htried⟩ := h.adjustHeld hm hnew ha hid hheld
    refine ⟨s', .done result, ⟨fun A _ => ?_⟩, htried⟩
    rw [Store.resumeAdjust, lookRow_of_holder hheld]
    simp only [hsettles.eq A]
  · -- somebody else has the row, so the transaction is not alone
    have hnot : ¬ alone := fun hq => hheld (halone hq)
    rcases lookRow_of_holder_ne clock (w := AdjustWait.row ⟨m.adjustment tx, id, giveUpAt⟩) hheld
      with hlook | hlook
    · refine ⟨s, .waiting ⟨m.adjustment tx, id, giveUpAt⟩, ⟨fun A _ => ?_⟩,
        .waits h hm rfl hid hnot⟩
      rw [Store.resumeAdjust, hlook]
    · refine ⟨s.leaveRow tx m.key, .done (.error (.refused (rowWaitError m.key))),
        ⟨fun A _ => ?_⟩, .troubled (h.act (.leave m.key hheld) rfl rfl rfl) rfl hnot⟩
      rw [Store.resumeAdjust, hlook]
      rfl

/-- An attempt from its start. -/
lemma adjust (h : During alone tx s₀ s) (hm : s.Moved tx t ms sheet)
    (hnew : m.key ∉ ms.map (·.key)) (ha : m.amount.IsAmount) (clock : Clock) :
    ∃ s' turn, Settles (s.adjust clock (m.adjustment tx)) (s', turn) ∧
      Tried alone tx s₀ t ms m s' turn := by
  have hrow : s.walletId? (m.adjustment tx).tx (m.adjustment tx).key
      = (s.wallets.get? m.key).map (·.id) := hm.walletId?_eq
  cases hid : (s.wallets.get? m.key).map (·.id) with
  | none =>
      have hsheet : sheet m.key = none := by
        rw [(Movement.of_foldlM_apply hm.nodup hm.outcome).2 _ hnew, Store.sheet, Sheet.of,
          Option.map_eq_none_iff.mp hid]
        rfl
      refine ⟨s, .done (.error (.refused (.walletNotFound m.key.account m.key.currency))),
        ⟨fun A _ => ?_⟩, .refused h hm ?_ (.inl rfl)⟩
      · rw [Store.adjust, hrow.trans hid]
        rfl
      · rw [Movement.apply, hsheet]
        rfl
  | some id =>
      -- the row is asked for, and looked at in the same turn
      have hasked : Act tx s (s.requestRow tx m.key) := .request m.key ⟨_, hm.content⟩
      have hm' : (s.requestRow tx m.key).Moved tx t ms sheet :=
        ⟨hm.content, hm.deltas, hm.provisioned, hm.nodup, hm.isAmount, hm.isProper, hm.outcome⟩
      obtain ⟨s', turn, hsettles, htried⟩ := (h.act hasked rfl rfl rfl).resumeAdjust hm' hnew ha
        clock (w := ⟨m.adjustment tx, id, clock.now + s.lockTimeout⟩) rfl hid
        fun hq => (h.alone hq).holder_request h.disciplined m.key
      refine ⟨s', turn, ⟨fun A _ => ?_⟩, htried⟩
      rw [Store.adjust, hrow.trans hid]
      exact hsettles.eq A

end During

/-! ### Commit -/

/-- A transaction has ended by making its changes. -/
structure Posted (tx : TxId) (s₀ s : Store) (sheet : Sheet) (records : List TransactionRecord)
    (events : List OutboxEvent) : Prop where
  path : Path tx s₀ s
  closed : ¬ s.IsOpen tx
  sheet_eq : s.sheet = sheet
  id {key : WalletKey} {id : WalletId} : (s₀.wallets.get? key).map (·.id) = some id →
    (s.wallets.get? key).map (·.id) = some id
  journal : s.journal = s₀.journal ++ records
  outbox : s.outbox = s₀.outbox ++ events.map fun event => ⟨event, false⟩

/-- A commit makes all changes, or trouble strikes and none is made. -/
lemma During.commit (h : During alone tx s₀ s) (ht : s.transactions.get? tx = some t)
    (hc : s.Commits t sheet) :
    (∃ s' e, Settles (s.commit tx) (s', .error (.refused e)) ∧ During alone tx s₀ s' ∧
      ¬ s'.IsOpen tx ∧ e.isTrouble ∧ ¬ alone) ∨
    ∃ s', Settles (s.commit tx) (s', .ok ()) ∧ Posted tx s₀ s' sheet t.records t.events := by
  cases hf : s.takeFault? .commit with
  | some struck =>
      obtain ⟨h', hnot, -⟩ := h.strike hf
      refine .inl ⟨struck.discard tx, .storeUnavailable (.injected .commit), ⟨fun A _ => ?_⟩,
        h'.discard.1, h'.discard.2, rfl, hnot⟩
      rw [Store.commit, hf]
  | none =>
      obtain ⟨wallets, hsettles, hsheet, hid⟩ := hc
      have htx : s.transaction tx = t := by rw [transaction, ht, Option.getD_some]
      refine .inr ⟨{ s.discard tx with
        wallets
        journal := s.journal ++ t.records
        outbox := s.outbox ++ t.events.map fun event => ⟨event, false⟩ }, ⟨fun A _ => ?_⟩, ?_⟩
      · rw [Store.commit, hf, htx]
        simp only [hsettles.eq A]
      · exact ⟨h.path.act (.commit ht (hsettles.eq .decimal)),
          fun ho => (isOpen_discard.mp ho).1 rfl, hsheet,
          fun {key id} hrow => hid key id (by rwa [h.wallets]), by rw [h.journal], by rw [h.outbox]⟩

end Store

end Teller
