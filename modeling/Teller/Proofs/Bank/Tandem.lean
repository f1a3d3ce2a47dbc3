/-
Two calls that do the same for one account, each at a bank of its own.

* `Reply.anonymous`, `Outcome.anonymous`: what a call gives, with all identifiers that were made for
  it replaced by one;
* `Phase.Same`: two calls wait at the same point, each with its own transaction;
* `Bank.Abreast`: the banks agree about the time, about rates, and about all that concerns the
  account;
* `Bank.InStep`: two turns have left the banks like that, and have come to the same;
* `Abreast.startCall` and `Abreast.resumeCall`: so it is with all turns of two such calls.
-/
import Teller.Bank.Call
import Teller.Proofs.Rates.Steady
import Teller.Proofs.Store.Audit
import Teller.Proofs.Store.Tandem

namespace Teller

/-! ### Results -/

/-- What a bank gives, without the identifiers that were made for it. -/
def Reply.anonymous : Reply → Reply
  | snapshot s => .snapshot s.anonymous
  | receipt r => .receipt { r with snapshot := r.snapshot.anonymous }
  | records rs => .records (rs.map (·.anonymous))
  | reply => reply

/-- The end of a call, without the identifiers that were made for it. -/
def Outcome.anonymous (o : Outcome) : Outcome := ⟨o.result.map (·.anonymous), o.trail⟩

/-- Two calls have ended alike. -/
def Outcome.Same (o o' : Outcome) : Prop := o.anonymous = o'.anonymous

/-- The account that a request is made for. The rates belong to nobody. -/
def Request.account? : Request → Option AccountId
  | openAccount account => some account
  | deposit account _ _ => some account
  | withdraw account _ _ => some account
  | exchange account _ _ _ => some account
  | balance account => some account
  | rates => none
  | pairRate _ _ => none
  | history account => some account
  | verify account => some account

lemma Outcome.Same.error (f : Failure) (trail : Option Trail) :
    Same ⟨.error f, trail⟩ ⟨.error f, trail⟩ := rfl

lemma Outcome.Same.ok {reply reply' : Reply} (h : reply.anonymous = reply'.anonymous)
    (trail : Option Trail) : Same ⟨.ok reply, trail⟩ ⟨.ok reply', trail⟩ := by
  rw [Same, anonymous, anonymous, Except.map, Except.map, h]

lemma TransactionRecord.Same.addRecord?_eq [Arithmetic] {r r' : TransactionRecord} (h : r.Same r')
    (sums : Balances) : addRecord? sums r = addRecord? sums r' := by
  have hcurrency : r.anonymous.currency = r'.anonymous.currency := congrArg _ h
  have hsigned : r.anonymous.signedAmount = r'.anonymous.signedAmount := congrArg _ h
  show addRecord? sums r.anonymous = addRecord? sums r'.anonymous
  rw [addRecord?, addRecord?, hcurrency, hsigned]

/-- Sums over records do not depend on identifiers. -/
lemma foldlM_addRecord?_eq [Arithmetic] {records records' : List TransactionRecord}
    (h : List.Forall₂ TransactionRecord.Same records records') (sums : Balances) :
    records.foldlM addRecord? sums = records'.foldlM addRecord? sums := by
  induction h generalizing sums with
  | nil => rfl
  | cons hr _ ih =>
      rw [List.foldlM_cons, List.foldlM_cons, hr.addRecord?_eq sums]
      exact congrArg _ (funext ih)

lemma map_anonymous_eq {records records' : List TransactionRecord}
    (h : List.Forall₂ TransactionRecord.Same records records') :
    records.map (·.anonymous) = records'.map (·.anonymous) :=
  List.forall₂_eq_eq_eq ▸ List.forall₂_map_left_iff.mpr (List.forall₂_map_right_iff.mpr h)

/-! ### Points -/

/-- Two calls for an account wait at the same point, each with its own transaction. -/
inductive Phase.Same (account : AccountId) (tx tx' : TxId) : Phase → Phase → Prop where
  | provisioning {w w' : ProvisionWait} (hw : w.Same account tx tx' w') :
      Same account tx tx' (.provisioning w) (.provisioning w')
  | adjusting (trail : Trail) (money : Money) {w w' : AdjustWait} (hw : w.Same account tx tx' w') :
      Same account tx tx' (.adjusting trail money w) (.adjusting trail money w')
  | crediting (trail : Trail) (source target : Money) (rate : Decimal) {w w' : AdjustWait}
      (hw : w.Same account tx tx' w') :
      Same account tx tx' (.crediting trail ⟨tx, account, source, target, rate⟩ w)
        (.crediting trail ⟨tx', account, source, target, rate⟩ w')
  | debiting (trail : Trail) (source target : Money) (rate : Decimal)
      {credited credited' : WalletSnapshot} (hcredited : credited.anonymous = credited'.anonymous)
      {w w' : AdjustWait} (hw : w.Same account tx tx' w') :
      Same account tx tx' (.debiting trail ⟨tx, account, source, target, rate⟩ credited w)
        (.debiting trail ⟨tx', account, source, target, rate⟩ credited' w')

/-- They wait for the same row. -/
lemma Phase.Same.exists_row {account : AccountId} {tx tx' : TxId} {phase phase' : Phase}
    (h : phase.Same account tx tx' phase') : ∃ c giveUpAt,
      phase.row? = some ⟨tx, ⟨account, c⟩, giveUpAt⟩ ∧
        phase'.row? = some ⟨tx', ⟨account, c⟩, giveUpAt⟩ := by
  cases h with
  | provisioning hw =>
      obtain ⟨c, rest, giveUpAt⟩ := hw
      exact ⟨c, giveUpAt, rfl, rfl⟩
  | adjusting _ _ hw | crediting _ _ _ _ hw | debiting _ _ _ _ _ hw =>
      obtain ⟨c, amount, direction, wallet, wallet', giveUpAt⟩ := hw
      exact ⟨c, giveUpAt, rfl, rfl⟩

/-- Two calls for an account wait at the same point, under the same deadline. -/
structure Call.Same (account : AccountId) (tx tx' : TxId) (c c' : Call) : Prop where
  phase : c.phase.Same account tx tx' c'.phase
  deadline : c.deadline = c'.deadline

namespace Bank

variable {σ : Type}

/-- Two banks agree about the time, about rates, and about all that concerns an account. -/
structure Abreast (p : Tandem) (steady : RateCache σ → Prop) (b b' : Bank σ) : Prop where
  clock : b.clock = b'.clock
  thresholds : b.thresholds = b'.thresholds
  store : p.Abreast b.store b'.store
  rates : steady b.rates
  rates' : steady b'.rates

/-- Two turns have left the banks like that, and have come to the same. -/
structure InStep (p : Tandem) (steady : RateCache σ → Prop) (step step' : Step σ) : Prop where
  abreast : Abreast p steady step.1 step'.1
  turn : SameTurn (Phase.Same p.account p.tx p.tx') Outcome.Same step.2 step'.2

/-- The same of two turns under a deadline. -/
structure CallInStep (p : Tandem) (steady : RateCache σ → Prop)
    (step step' : Bank σ × Turn Call Outcome) : Prop where
  abreast : Abreast p steady step.1 step'.1
  turn : SameTurn (Call.Same p.account p.tx p.tx') Outcome.Same step.2 step'.2

namespace Abreast

variable {p : Tandem} {steady : RateCache σ → Prop} {b b' : Bank σ} {s s' : Store}

lemma withStore (h : Abreast p steady b b') (hs : p.Abreast s s') :
    Abreast p steady (b.withStore s) (b'.withStore s') :=
  ⟨h.clock, h.thresholds, hs, h.rates, h.rates'⟩

lemma inStep_refuse (h : Abreast p steady b b') (e : LedgerError) :
    InStep p steady (b.refuse e) (b'.refuse e) :=
  ⟨h, .done (.error _ _)⟩

lemma inStep_reply (h : Abreast p steady b b') {reply reply' : Reply}
    (hreply : reply.anonymous = reply'.anonymous) :
    InStep p steady (b.reply (.ok reply)) (b'.reply (.ok reply')) :=
  ⟨h, .done (.ok hreply _)⟩

lemma readBalances_eq (h : p.Abreast s s') : s.readBalances p.account = s'.readBalances p.account :=
  CurrencyMap.ext fun c => by
    rw [Store.get?_readBalances, Store.get?_readBalances, h.sheet c]

/-! ### From the beginning to the end -/

lemma rollBack (h : Abreast p steady b b') (e : LedgerError) :
    ∃ b₁ b₁', b.rollBack p.tx e = (b₁, e) ∧ b'.rollBack p.tx' e = (b₁', e) ∧
      Abreast p steady b₁ b₁' := by
  obtain ⟨s₁, s₁', heq, heq', hnext⟩ := h.store.rollback
  refine ⟨_, _, ?_, ?_, h.withStore hnext⟩
  · rw [Bank.rollBack, heq]
  · rw [Bank.rollBack, heq']

lemma beginCall (h : Abreast p steady b b') (htx : p.tx = ⟨b.store.begun⟩)
    (htx' : p.tx' = ⟨b'.store.begun⟩) (kind : OperationKind)
    {next next' : Bank σ → TxId → Trail → Step σ}
    (hnext : ∀ {b b'} trail, Abreast p steady b b' →
      InStep p steady (next b p.tx trail) (next' b' p.tx' trail)) :
    InStep p steady (b.beginCall kind next) (b'.beginCall kind next') := by
  obtain ⟨s₁, s₁', heq, heq', hbegun⟩ := h.store.begin htx htx'
  rw [Bank.beginCall, Bank.beginCall, heq, heq']
  exact hnext _ (h.withStore hbegun)

lemma failCall (h : Abreast p steady b b') (trail : Trail) (f : Failure) :
    InStep p steady (b.failCall p.tx trail f) (b'.failCall p.tx' trail f) := by
  cases f with
  | refused e =>
      obtain ⟨b₁, b₁', heq, heq', hnext⟩ := h.rollBack e
      rw [Bank.failCall, Bank.failCall, heq, heq']
      exact ⟨hnext, .done (.error _ _)⟩
  | overflow => exact ⟨h.withStore h.store.discard, .done (.error _ _)⟩
  | overdrawn => exact ⟨h.withStore h.store.discard, .done (.error _ _)⟩

variable [Arithmetic]

lemma commitCall (h : Abreast p steady b b') (trail : Trail) {reply reply' : Reply}
    (hreply : reply.anonymous = reply'.anonymous) :
    InStep p steady (b.commitCall p.tx trail reply) (b'.commitCall p.tx' trail reply') := by
  obtain ⟨habreast, hresult⟩ := h.store.commit
  rw [Bank.commitCall, Bank.commitCall]
  generalize b.store.commit p.tx = step at habreast hresult ⊢
  generalize b'.store.commit p.tx' = step' at habreast hresult ⊢
  obtain ⟨s₁, result⟩ := step
  obtain ⟨s₁', result'⟩ := step'
  cases hresult with
  | error f => cases f <;> exact ⟨h.withStore habreast, .done (.error _ _)⟩
  | ok => exact ⟨h.withStore habreast, .done (.ok hreply _)⟩

omit [Arithmetic] in
/-- Both notify about the same. -/
lemma notify (h : Abreast p steady b b') (kind : OperationKind) (money : Money)
    (balanceAfter : Balances) :
    ∃ b₁ b₁', b.notify p.tx kind p.account money balanceAfter = (b₁, .ok ()) ∧
      b'.notify p.tx' kind p.account money balanceAfter = (b₁', .ok ()) ∧
      Abreast p steady b₁ b₁' := by
  obtain ⟨habreast, hsame⟩ := h.store.newNotification b.clock.now kind money balanceAfter
  simp only [Bank.notify, ← h.clock]
  generalize b.store.newNotification b.clock.now kind p.account money.value money.currency
    balanceAfter = step at habreast hsame ⊢
  generalize b'.store.newNotification b.clock.now kind p.account money.value money.currency
    balanceAfter = step' at habreast hsame ⊢
  obtain ⟨s₁, s₁', heq, heq', hnext⟩ := habreast.enqueue hsame
  refine ⟨_, _, ?_, ?_, h.withStore hnext⟩
  · rw [heq]
  · rw [heq']

/-! ### Deposits and withdrawals -/

omit [Arithmetic] in
lemma applied_same {account : AccountId} (money : Money)
    {result result' : Except Failure AdjustOutcome}
    (h : SameResult (AdjustOutcome.Same account) result result') :
    SameResult (WalletSnapshot.Same account) (applied money result) (applied money result') := by
  rcases h with f | ⟨hsame | _⟩
  · exact .error f
  · exact .ok ‹_›
  · exact .error _

/-- The mutations of both are noted in the same way. -/
lemma noticeAndCommit (h : Abreast p steady b b') (trail : Trail) (kind : OperationKind)
    (money : Money) (balanceAfter : Balances) {threshold threshold' : Decimal}
    (hsame : threshold = threshold') {reply reply' : Reply}
    (hreply : reply.anonymous = reply'.anonymous) :
    InStep p steady
      (if threshold ≤ money.value then
        match b.notify p.tx kind p.account money balanceAfter with
        | (b, .error e) => b.failCall p.tx (trail.request .notify) (.refused e)
        | (b, .ok ()) => b.commitCall p.tx (trail.request .notify) reply
      else b.commitCall p.tx trail reply)
      (if threshold' ≤ money.value then
        match b'.notify p.tx' kind p.account money balanceAfter with
        | (b, .error e) => b.failCall p.tx' (trail.request .notify) (.refused e)
        | (b, .ok ()) => b.commitCall p.tx' (trail.request .notify) reply'
      else b'.commitCall p.tx' trail reply') := by
  subst hsame
  by_cases hthreshold : threshold ≤ money.value
  · obtain ⟨b₁, b₁', heq, heq', hnext⟩ := h.notify kind money balanceAfter
    rw [if_pos hthreshold, if_pos hthreshold, heq, heq']
    exact hnext.commitCall _ hreply
  · rw [if_neg hthreshold, if_neg hthreshold]
    exact h.commitCall _ hreply

lemma recordAdjustment (h : Abreast p steady b b') (trail : Trail) (money : Money)
    {snapshot snapshot' : WalletSnapshot} (hsnapshot : snapshot.Same p.account snapshot') :
    InStep p steady (b.recordAdjustment p.tx trail money snapshot)
      (b'.recordAdjustment p.tx' trail money snapshot') := by
  obtain ⟨habreast, hrecord⟩ := h.store.newRecord b.clock.now snapshot.wallet snapshot'.wallet
    money.currency money.value (trail.request .audit).kind.direction (trail.request .audit).kind
    (rfl : Option.map _ none = _)
  simp only [Bank.recordAdjustment, ← h.clock, hsnapshot.account_eq, hsnapshot.account_eq',
    WalletSnapshot.balances_eq_of_anonymous hsnapshot.anonymous_eq]
  generalize b.store.newRecord b.clock.now snapshot.wallet money.currency money.value
    (trail.request .audit).kind.direction (trail.request .audit).kind none = step
    at habreast hrecord ⊢
  generalize b'.store.newRecord b.clock.now snapshot'.wallet money.currency money.value
    (trail.request .audit).kind.direction (trail.request .audit).kind none = step'
    at habreast hrecord ⊢
  obtain ⟨s₁, s₁', heq, heq', hnext⟩ := habreast.append hrecord
  rw [heq, heq']
  have hreply : Reply.anonymous (.snapshot snapshot) = Reply.anonymous (.snapshot snapshot') :=
    congrArg Reply.snapshot hsnapshot.anonymous_eq
  exact (h.withStore hnext).noticeAndCommit _ _ money snapshot.balances
    (congrArg Thresholds.deposit h.thresholds) hreply

/-- Both have had a turn at the row of a deposit or withdrawal. -/
lemma afterAdjustment (h : Abreast p steady b b') (trail : Trail) (money : Money)
    {step step' : Store × Turn AdjustWait (Except Failure AdjustOutcome)}
    (hstep : p.InStep (SameTurn (AdjustWait.Same p.account p.tx p.tx')
      (SameResult (AdjustOutcome.Same p.account))) step step') :
    InStep p steady (b.afterAdjustment p.tx trail money step)
      (b'.afterAdjustment p.tx' trail money step') := by
  obtain ⟨s₁, turn⟩ := step
  obtain ⟨s₁', turn'⟩ := step'
  obtain ⟨habreast, hturn⟩ := hstep
  cases hturn with
  | waiting hw => exact ⟨h.withStore habreast, .waiting (.adjusting trail money hw)⟩
  | done hresult =>
      have happlied := applied_same money hresult
      simp only [Bank.afterAdjustment]
      generalize applied money _ = result at happlied ⊢
      generalize applied money _ = result' at happlied ⊢
      cases happlied with
      | error f => exact (h.withStore habreast).failCall trail f
      | ok hsnapshot =>
          exact (h.withStore habreast).recordAdjustment trail money hsnapshot

lemma startAdjustment (h : Abreast p steady b b') (htx : p.tx = ⟨b.store.begun⟩)
    (htx' : p.tx' = ⟨b'.store.begun⟩) (kind : OperationKind) (money : Money) :
    InStep p steady (b.startAdjustment kind p.account money)
      (b'.startAdjustment kind p.account money) := by
  refine h.beginCall htx htx' kind fun {b b'} trail h => ?_
  have hadjust := h.store.adjust b.clock money.currency money.value kind.direction
  rw [← h.clock]
  exact h.afterAdjustment _ money hadjust

lemma resumeAdjustment (h : Abreast p steady b b') (trail : Trail) (money : Money)
    {w w' : AdjustWait} (hw : w.Same p.account p.tx p.tx' w') :
    InStep p steady (b.resumeAdjustment trail money w) (b'.resumeAdjustment trail money w') := by
  have hadjust := h.store.resumeAdjust b.clock hw
  obtain ⟨htx, htx'⟩ := hw.tx_eq
  rw [Bank.resumeAdjustment, Bank.resumeAdjustment, ← h.clock, htx, htx']
  exact h.afterAdjustment trail money hadjust

/-! ### Exchanges -/

omit [Arithmetic] in
/-- Both make the same two records. -/
lemma exchangeRecords (h : Abreast p steady b b') (source target : Money) (rate : Decimal)
    (credited debited credited' debited' : WalletSnapshot) :
    ∃ s₁ credit debit s₁' credit' debit',
      b.exchangeRecords ⟨p.tx, p.account, source, target, rate⟩ credited debited
        = (s₁, credit, debit) ∧
      b'.exchangeRecords ⟨p.tx', p.account, source, target, rate⟩ credited' debited'
        = (s₁', credit', debit') ∧
      p.Abreast s₁ s₁' ∧ credit.Same credit' ∧ debit.Same debit' := by
  obtain ⟨habreast, hcredit⟩ := h.store.newRecord b.clock.now credited.wallet credited'.wallet
    target.currency target.value .credit .transfer
    (rfl : Option.map _ (some debited.wallet) = Option.map _ (some debited'.wallet))
  obtain ⟨habreast', hdebit⟩ := habreast.newRecord b.clock.now debited.wallet debited'.wallet
    source.currency source.value .debit .transfer
    (rfl : Option.map _ (some credited.wallet) = Option.map _ (some credited'.wallet))
  refine ⟨_, _, _, _, _, _, rfl, ?_, habreast', hcredit, hdebit⟩
  rw [Bank.exchangeRecords, ← h.clock]

omit [Arithmetic] in
lemma receipt_eq (tx tx' : TxId) (source target : Money) (rate : Decimal)
    {credited credited' debited debited' : WalletSnapshot}
    (hcredited : credited.anonymous = credited'.anonymous)
    (hdebited : debited.Same p.account debited') :
    Reply.anonymous
        (.receipt (exchangeReceipt ⟨tx, p.account, source, target, rate⟩ credited debited))
      = Reply.anonymous
        (.receipt (exchangeReceipt ⟨tx', p.account, source, target, rate⟩ credited' debited')) := by
  simp only [Reply.anonymous, exchangeReceipt, ExchangeReceipt.of, WalletSnapshot.anonymous,
    WalletSnapshot.currency_eq_of_anonymous hcredited, hdebited.account_eq, hdebited.account_eq',
    WalletSnapshot.balances_eq_of_anonymous hdebited.anonymous_eq]

lemma recordExchange (h : Abreast p steady b b') (trail : Trail) (source target : Money)
    (rate : Decimal) {credited credited' debited debited' : WalletSnapshot}
    (hcredited : credited.anonymous = credited'.anonymous)
    (hdebited : debited.Same p.account debited') :
    InStep p steady
      (b.recordExchange trail ⟨p.tx, p.account, source, target, rate⟩ credited debited)
      (b'.recordExchange trail ⟨p.tx', p.account, source, target, rate⟩ credited' debited') := by
  obtain ⟨s₁, credit, debit, s₁', credit', debit', heq, heq', h₁, hcredit, hdebit⟩ :=
    h.exchangeRecords source target rate credited debited credited' debited'
  obtain ⟨s₂, s₂', hfirst, hfirst', h₂⟩ := h₁.append hcredit
  obtain ⟨s₃, s₃', hsecond, hsecond', h₃⟩ := h₂.append hdebit
  simp only [Bank.recordExchange, heq, heq', hfirst, hfirst', hsecond, hsecond',
    WalletSnapshot.balances_eq_of_anonymous hcredited]
  exact (h.withStore h₃).noticeAndCommit _ _ target credited.balances
    (congrArg Thresholds.exchange h.thresholds)
    (receipt_eq _ _ source target rate hcredited hdebited)

/-- Both have had a turn at the row of the source of an exchange. -/
lemma afterDebit (h : Abreast p steady b b') (trail : Trail) (source target : Money)
    (rate : Decimal) {credited credited' : WalletSnapshot}
    (hcredited : credited.anonymous = credited'.anonymous)
    {step step' : Store × Turn AdjustWait (Except Failure AdjustOutcome)}
    (hstep : p.InStep (SameTurn (AdjustWait.Same p.account p.tx p.tx')
      (SameResult (AdjustOutcome.Same p.account))) step step') :
    InStep p steady (b.afterDebit trail ⟨p.tx, p.account, source, target, rate⟩ credited step)
      (b'.afterDebit trail ⟨p.tx', p.account, source, target, rate⟩ credited' step') := by
  obtain ⟨s₁, turn⟩ := step
  obtain ⟨s₁', turn'⟩ := step'
  obtain ⟨habreast, hturn⟩ := hstep
  cases hturn with
  | waiting hw =>
      exact ⟨h.withStore habreast, .waiting (.debiting trail source target rate hcredited hw)⟩
  | done hresult =>
      have happlied := applied_same source hresult
      simp only [Bank.afterDebit]
      generalize applied source _ = result at happlied ⊢
      generalize applied source _ = result' at happlied ⊢
      cases happlied with
      | error f => exact (h.withStore habreast).failCall trail f
      | ok hdebited =>
          exact (h.withStore habreast).recordExchange trail source target rate hcredited hdebited

/-- Both have had a turn at the row of the target of an exchange. -/
lemma afterCredit (h : Abreast p steady b b') (trail : Trail) (source target : Money)
    (rate : Decimal) {step step' : Store × Turn AdjustWait (Except Failure AdjustOutcome)}
    (hstep : p.InStep (SameTurn (AdjustWait.Same p.account p.tx p.tx')
      (SameResult (AdjustOutcome.Same p.account))) step step') :
    InStep p steady (b.afterCredit trail ⟨p.tx, p.account, source, target, rate⟩ step)
      (b'.afterCredit trail ⟨p.tx', p.account, source, target, rate⟩ step') := by
  obtain ⟨s₁, turn⟩ := step
  obtain ⟨s₁', turn'⟩ := step'
  obtain ⟨habreast, hturn⟩ := hstep
  cases hturn with
  | waiting hw => exact ⟨h.withStore habreast, .waiting (.crediting trail source target rate hw)⟩
  | done hresult =>
      have happlied := applied_same target hresult
      simp only [Bank.afterCredit, ← h.clock]
      generalize applied target _ = result at happlied ⊢
      generalize applied target _ = result' at happlied ⊢
      cases happlied with
      | error f => exact (h.withStore habreast).failCall trail f
      | ok hcredited =>
          exact (h.withStore habreast).afterDebit _ source target rate hcredited.anonymous_eq
            (habreast.adjust b.clock source.currency source.value .debit)

lemma startTransfer (h : Abreast p steady b b') (htx : p.tx = ⟨b.store.begun⟩)
    (htx' : p.tx' = ⟨b'.store.begun⟩) (source : Money) (quote : PairQuote) :
    InStep p steady (b.startTransfer p.account source quote)
      (b'.startTransfer p.account source quote) := by
  simp only [Bank.startTransfer]
  cases quote.convert source with
  | error e => exact h.inStep_refuse e
  | ok target =>
      dsimp only
      split
      · refine h.beginCall htx htx' .transfer fun {b b'} trail h => ?_
        rw [← h.clock]
        exact h.afterCredit _ source target quote.rate
          (h.store.adjust b.clock target.currency target.value .credit)
      · exact h.inStep_refuse _

/-! ### New accounts -/

/-- Both have had a turn at a row of a new account. -/
lemma afterProvisioning (h : Abreast p steady b b')
    {step step' : Store × Turn ProvisionWait (Except LedgerError Unit)}
    (hstep : p.InStep (SameTurn (ProvisionWait.Same p.account p.tx p.tx') (SameResult Eq)) step
      step') :
    InStep p steady (b.afterProvisioning p.tx p.account step)
      (b'.afterProvisioning p.tx' p.account step') := by
  obtain ⟨s₁, turn⟩ := step
  obtain ⟨s₁', turn'⟩ := step'
  obtain ⟨habreast, hturn⟩ := hstep
  cases hturn with
  | waiting hw => exact ⟨h.withStore habreast, .waiting (.provisioning hw)⟩
  | done hresult =>
      cases hresult with
      | error e =>
          obtain ⟨b₁, b₁', heq, heq', hnext⟩ := (h.withStore habreast).rollBack e
          rw [Bank.afterProvisioning, Bank.afterProvisioning, heq, heq']
          exact hnext.inStep_refuse e
      | ok =>
          -- both commits go through, or both are stopped by the same
          obtain ⟨hcommitted, hresult⟩ := habreast.commit
          simp only [Bank.afterProvisioning]
          dsimp only at hcommitted hresult
          generalize s₁.commit p.tx = step at hcommitted hresult ⊢
          generalize s₁'.commit p.tx' = step' at hcommitted hresult ⊢
          obtain ⟨s₂, result⟩ := step
          obtain ⟨s₂', result'⟩ := step'
          cases hresult with
          | error f => exact ⟨h.withStore hcommitted, .done (.error f none)⟩
          | ok =>
              refine (h.withStore hcommitted).inStep_reply ?_
              rw [readBalances_eq hcommitted]

lemma startProvisioning (h : Abreast p steady b b') (htx : p.tx = ⟨b.store.begun⟩)
    (htx' : p.tx' = ⟨b'.store.begun⟩) :
    InStep p steady (b.startProvisioning p.account) (b'.startProvisioning p.account) := by
  obtain ⟨s₁, s₁', heq, heq', hbegun⟩ := h.store.begin htx htx'
  rw [Bank.startProvisioning, Bank.startProvisioning, heq, heq', ← h.clock]
  exact (h.withStore hbegun).afterProvisioning (hbegun.provisionFrom b.clock Currency.all)

lemma resumeProvisioning (h : Abreast p steady b b') {w w' : ProvisionWait}
    (hw : w.Same p.account p.tx p.tx' w') :
    InStep p steady (b.resumeProvisioning w) (b'.resumeProvisioning w') := by
  have hresume := h.store.resumeProvision b.clock hw
  obtain ⟨c, rest, giveUpAt⟩ := hw
  rw [Bank.resumeProvisioning, Bank.resumeProvisioning, ← h.clock]
  exact h.afterProvisioning hresume

/-! ### Calls -/

section Calls

variable {states : RateClient σ → Prop} {rate : CurrencyPair → Except RateError Decimal}
  [RateProvider σ] (hsteady : RateClient.IsSteady states rate)

include hsteady

/-- Both price an exchange alike. -/
lemma startExchange (h : Abreast p (RateCache.IsSteady states rate) b b')
    (htx : p.tx = ⟨b.store.begun⟩) (htx' : p.tx' = ⟨b'.store.begun⟩) (source : Money)
    (target : Currency) :
    InStep p (RateCache.IsSteady states rate) (b.startExchange p.account source target)
      (b'.startExchange p.account source target) := by
  have hrates := h.rates.read hsteady b.clock (.pair ⟨source.currency, target⟩)
  have hrates' := h.rates'.read hsteady b.clock (.pair ⟨source.currency, target⟩)
  have hturn := h.rates.read_pair hsteady b.clock ⟨source.currency, target⟩
  have hturn' := h.rates'.read_pair hsteady b.clock ⟨source.currency, target⟩
  rw [Bank.startExchange, Bank.startExchange, ← h.clock]
  -- only the rate has to be the same for both: when it was observed may differ
  rw [← RateCache.timeless_fst] at hrates hrates'
  generalize RateCache.timeless (b.rates.read b.clock (.pair ⟨source.currency, target⟩)) = read
    at hrates hturn ⊢
  generalize RateCache.timeless (b'.rates.read b.clock (.pair ⟨source.currency, target⟩)) = read'
    at hrates' hturn' ⊢
  obtain ⟨rates, turn⟩ := read
  obtain ⟨rates', turn'⟩ := read'
  obtain rfl : turn = _ := hturn
  obtain rfl : turn' = _ := hturn'
  have hbank : Abreast p (RateCache.IsSteady states rate) { b with rates }
      { b' with rates := rates' } :=
    ⟨h.clock, h.thresholds, h.store, hrates, hrates'⟩
  cases RateCache.verdict (q := .pair ⟨source.currency, target⟩)
    (rate ⟨source.currency, target⟩) with
  | error e => exact hbank.inStep_refuse _
  | ok rate => exact hbank.startTransfer htx htx' source _

/-- Two calls for the account that are started alike have the same first turn. -/
theorem start (h : Abreast p (RateCache.IsSteady states rate) b b')
    (htx : p.tx = ⟨b.store.begun⟩) (htx' : p.tx' = ⟨b'.store.begun⟩)
    (hhistory : List.Forall₂ TransactionRecord.Same (b.store.transactionRecords p.account)
      (b'.store.transactionRecords p.account))
    {request : Request} (haccount : request.account? = some p.account) :
    InStep p (RateCache.IsSteady states rate) (b.start request) (b'.start request) := by
  -- deposits and withdrawals differ in their kind only
  have hchecked : ∀ kind currency amount, InStep p (RateCache.IsSteady states rate)
      (b.startChecked kind p.account currency amount)
      (b'.startChecked kind p.account currency amount) := fun kind currency amount => by
    rw [Bank.startChecked, Bank.startChecked]
    cases Money.positive amount currency with
    | error e => exact h.inStep_refuse e
    | ok money => exact h.startAdjustment htx htx' kind money
  cases request with
  | openAccount account =>
      obtain rfl := Option.some.inj haccount
      exact h.startProvisioning htx htx'
  | deposit account currency amount =>
      obtain rfl := Option.some.inj haccount
      exact hchecked .deposit currency amount
  | withdraw account currency amount =>
      obtain rfl := Option.some.inj haccount
      exact hchecked .withdraw currency amount
  | exchange account source target amount =>
      obtain rfl := Option.some.inj haccount
      rw [Bank.start, Bank.start]
      split
      · exact h.inStep_refuse _
      · cases Money.positive amount source with
        | error e => exact h.inStep_refuse e
        | ok money => exact h.startExchange hsteady htx htx' money target
  | balance account =>
      obtain rfl := Option.some.inj haccount
      refine h.inStep_reply ?_
      rw [readBalances_eq h.store]
  | rates => simp [Request.account?] at haccount
  | pairRate source target => simp [Request.account?] at haccount
  | history account =>
      obtain rfl := Option.some.inj haccount
      exact h.inStep_reply (congrArg Reply.records (map_anonymous_eq hhistory))
  | verify account =>
      obtain rfl := Option.some.inj haccount
      -- the report comes from the balances and the history, which are the same at both
      have hsame : b.store.reconcile p.account = b'.store.reconcile p.account := by
        rw [Store.reconcile, Store.reconcile, readBalances_eq h.store, netBalances?, netBalances?,
          foldlM_addRecord?_eq hhistory]
      rw [Bank.start, Bank.start, hsame]
      exact ⟨h, .done rfl⟩

omit hsteady in
/-- Two calls that wait at the same point for the account have the same turn there. -/
theorem resume (h : Abreast p steady b b') {phase phase' : Phase}
    (hphase : phase.Same p.account p.tx p.tx' phase') :
    InStep p steady (b.resume phase) (b'.resume phase') := by
  cases hphase with
  | provisioning hw => exact h.resumeProvisioning hw
  | adjusting trail money hw => exact h.resumeAdjustment trail money hw
  | crediting trail source target rate hw =>
      rw [Bank.resume, Bank.resume, ← h.clock]
      exact h.afterCredit trail source target rate (h.store.resumeAdjust b.clock hw)
  | debiting trail source target rate hcredited hw =>
      rw [Bank.resume, Bank.resume, ← h.clock]
      exact h.afterDebit trail source target rate hcredited (h.store.resumeAdjust b.clock hw)

end Calls

omit [Arithmetic] in
/-- Both are given up where they wait. -/
lemma abandon (h : Abreast p steady b b') {phase phase' : Phase}
    (hphase : phase.Same p.account p.tx p.tx' phase') :
    Abreast p steady (b.abandon phase) (b'.abandon phase') := by
  obtain ⟨c, giveUpAt, hrow, hrow'⟩ := hphase.exists_row
  rw [Bank.abandon, Bank.abandon, hrow, hrow']
  exact h.withStore h.store.discard

/-! ### Deadlines -/

omit [Arithmetic] in
/-- Two turns that are in step are so under a deadline. -/
lemma underDeadline {step step' : Step σ} (h : InStep p steady step step') (deadline : Option ℕ) :
    CallInStep p steady (Bank.underDeadline deadline step) (Bank.underDeadline deadline step') := by
  obtain ⟨b, turn⟩ := step
  obtain ⟨b', turn'⟩ := step'
  obtain ⟨habreast, hturn⟩ := h
  cases hturn with
  | done houtcome => exact ⟨habreast, .done houtcome⟩
  | waiting hphase =>
      -- both have the same clock, so both are given up or neither
      have hclock : b.clock = b'.clock := habreast.clock
      rw [Bank.underDeadline, Bank.underDeadline, ← hclock]
      split
      · exact ⟨habreast.abandon hphase, .done (.error _ none)⟩
      · exact ⟨habreast, .waiting ⟨hphase, rfl⟩⟩

/-- The first turn of two calls for the account that are started alike. -/
theorem startCall {states : RateClient σ → Prop} {rate : CurrencyPair → Except RateError Decimal}
    [RateProvider σ] (hsteady : RateClient.IsSteady states rate)
    (h : Abreast p (RateCache.IsSteady states rate) b b') (htx : p.tx = ⟨b.store.begun⟩)
    (htx' : p.tx' = ⟨b'.store.begun⟩)
    (hhistory : List.Forall₂ TransactionRecord.Same (b.store.transactionRecords p.account)
      (b'.store.transactionRecords p.account))
    {request : Request} (haccount : request.account? = some p.account) (deadline : Option ℕ) :
    CallInStep p (RateCache.IsSteady states rate) (b.startCall deadline request)
      (b'.startCall deadline request) :=
  underDeadline (h.start hsteady htx htx' hhistory haccount) deadline

/-- Any other turn of two calls for the account that wait at the same point. -/
theorem resumeCall [RateProvider σ] (h : Abreast p steady b b') {c c' : Call}
    (hcall : c.Same p.account p.tx p.tx' c') :
    CallInStep p steady (b.resumeCall c) (b'.resumeCall c') := by
  rw [Bank.resumeCall, Bank.resumeCall, hcall.deadline]
  exact underDeadline (h.resume hcall.phase) c'.deadline

end Abreast

end Bank

end Teller
