/-
Which rows a call asks for.

* `Request.Concerns`: a request is about a row, and not only to read it; `Errand.Concerns`: an
  errand changes the row, or makes a wallet for it;
* `Ticket.concerns_of_errand?`: errands are about the rows that their requests are about;
* `Bank.avoids_start`, `Bank.avoids_resume_of_idles`, `Bank.avoids_resume_of_carries`: no turn of a
  call makes a row known that its request is not about.
-/
import Teller.Proofs.Bank.Came
import Teller.Proofs.Store.Rows

namespace Teller

/-! ### Requests and errands -/

/-- The request is about the row, and not only to read it. -/
def Request.Concerns (key : WalletKey) : Request → Prop
  | openAccount account => account = key.account
  | deposit account currency _ => ⟨account, currency⟩ = key
  | withdraw account currency _ => ⟨account, currency⟩ = key
  | exchange account source target _ => ⟨account, source⟩ = key ∨ ⟨account, target⟩ = key
  | balance _ => False
  | rates => False
  | pairRate .. => False
  | history _ => False
  | verify _ => False

instance (key : WalletKey) (request : Request) : Decidable (request.Concerns key) := by
  cases request <;> rw [Request.Concerns] <;> infer_instance

/-- The errand changes the row, or makes a wallet for it. -/
def Errand.Concerns (key : WalletKey) : Errand → Prop
  | opening account => account = key.account
  | e => ∃ m ∈ e.movements, m.key = key

variable {key : WalletKey}

/-- Errands are about the rows that their requests are about. -/
theorem Ticket.concerns_of_errand? {t : Ticket} {e : Errand} (h : t.errand? = some (.ok e))
    (hc : e.Concerns key) : t.request.Concerns key := by
  obtain ⟨request, obtained⟩ := t
  cases asks_of_errand? h with
  | opening account => exact hc
  | deposit | withdraw =>
      obtain ⟨m, hm, rfl⟩ := hc
      rw [List.mem_singleton.mp hm]
      rfl
  | exchange account source target rate hne =>
      obtain ⟨m, hm, rfl⟩ := hc
      rcases List.mem_pair.mp hm with rfl | rfl
      · exact .inr rfl
      · exact .inl rfl

/-! ### Transactions -/

namespace Bank

open Store

variable {σ : Type} {b : Bank σ} {tx : TxId} {trail : Trail}

lemma avoids_rollBack (b : Bank σ) (tx : TxId) (e : LedgerError) :
    Avoids key b.store (b.rollBack tx e).1.store := by
  have h : Avoids key b.store (b.store.rollback tx).1 := avoids_rollback b.store tx
  rw [rollBack]
  split
  · next heq =>
    rw [heq] at h
    exact h
  · next heq =>
    rw [heq] at h
    exact h

lemma avoids_failCall (b : Bank σ) (tx : TxId) (trail : Trail) (f : Failure) :
    Avoids key b.store (b.failCall tx trail f).1.store := by
  cases f with
  | refused e => exact avoids_rollBack b tx e
  | overflow => exact avoids_discard b.store tx
  | overdrawn => exact avoids_discard b.store tx

lemma avoids_commitCall (b : Bank σ) (tx : TxId) (trail : Trail) (reply : Reply) :
    Avoids key b.store (b.commitCall tx trail reply).1.store := by
  have h : Avoids key b.store (b.store.commit tx).1 := avoids_commit b.store tx
  simp only [commitCall]
  split
  all_goals
    next heq =>
      rw [heq] at h
      exact h

/-- A transaction avoids what it avoids once it has begun. -/
lemma avoids_beginCall (b : Bank σ) (kind : OperationKind) {next : Bank σ → TxId → Trail → Step σ}
    (hnext : ∀ b tx trail, Avoids key b.store (next b tx trail).1.store) :
    Avoids key b.store (b.beginCall kind next).1.store := by
  have h : Avoids key b.store b.store.begin.1 := avoids_begin b.store
  simp only [beginCall]
  split
  · next store tx heq =>
    rw [heq] at h
    exact h.trans (hnext (b.withStore store) tx _)
  · next heq =>
    rw [heq] at h
    exact h

lemma avoids_notify (b : Bank σ) (tx : TxId) (kind : OperationKind) (account : AccountId)
    (money : Money) (seen : Balances) :
    Avoids key b.store (b.notify tx kind account money seen).1.store := by
  have h : Avoids key b.store { b.store with ids := b.store.ids.next } := avoids_of_locks rfl
  exact h.trans (avoids_enqueue _ tx _)

/-- The notification, if the amount calls for one, and the commit. -/
lemma avoids_noticeAndCommit (b : Bank σ) (tx : TxId) (trail : Trail) (threshold : Decimal)
    (kind : OperationKind) (account : AccountId) (money : Money) (seen : Balances) (reply : Reply) :
    Avoids key b.store (if threshold ≤ money.value then
      match b.notify tx kind account money seen with
      | (b, .error e) => b.failCall tx (trail.request .notify) (.refused e)
      | (b, .ok ()) => b.commitCall tx (trail.request .notify) reply
    else b.commitCall tx trail reply).1.store := by
  split
  · have h : Avoids key b.store (b.notify tx kind account money seen).1.store :=
      avoids_notify b tx kind account money seen
    split
    · next b' e heq =>
      rw [heq] at h
      exact h.trans (avoids_failCall b' tx _ _)
    · next b' heq =>
      rw [heq] at h
      exact h.trans (avoids_commitCall b' tx _ reply)
  · exact avoids_commitCall b tx trail reply

/-! ### Deposits, withdrawals and openings -/

lemma avoids_recordAdjustment (b : Bank σ) (tx : TxId) (trail : Trail) (money : Money)
    (snapshot : WalletSnapshot) :
    Avoids key b.store (b.recordAdjustment tx trail money snapshot).1.store := by
  have h : Avoids key b.store (b.store.newRecord b.clock.now snapshot.wallet money.currency
      money.value (trail.request .audit).kind.direction (trail.request .audit).kind none).1 :=
    avoids_of_locks rfl
  simp only [recordAdjustment]
  generalize b.store.newRecord b.clock.now snapshot.wallet money.currency money.value
    (trail.request .audit).kind.direction (trail.request .audit).kind none = drawn at h ⊢
  obtain ⟨drawn, record⟩ := drawn
  have happend : Avoids key b.store (drawn.append tx record).1 :=
    h.trans (avoids_append drawn tx record)
  dsimp only
  split
  · next store e heq =>
    rw [heq] at happend
    exact happend.trans (avoids_failCall (b.withStore store) tx _ _)
  · next store heq =>
    rw [heq] at happend
    exact happend.trans (avoids_noticeAndCommit (b.withStore store) ..)

lemma avoids_afterAdjustment (b : Bank σ) (tx : TxId) (trail : Trail) (money : Money)
    (adjusted : Store × Turn AdjustWait (Except Failure AdjustOutcome)) :
    Avoids key adjusted.1 (b.afterAdjustment tx trail money adjusted).1.store := by
  obtain ⟨store, wait | result⟩ := adjusted
  · exact avoids_refl key store
  · simp only [afterAdjustment]
    split
    · exact avoids_failCall (b.withStore store) tx trail _
    · exact avoids_recordAdjustment (b.withStore store) tx trail money _

lemma avoids_afterProvisioning (b : Bank σ) (tx : TxId) (account : AccountId)
    (provisioned : Store × Turn ProvisionWait (Except LedgerError Unit)) :
    Avoids key provisioned.1 (b.afterProvisioning tx account provisioned).1.store := by
  obtain ⟨store, wait | (e | _)⟩ := provisioned
  · exact avoids_refl key store
  · exact avoids_rollBack (b.withStore store) tx e
  · have h : Avoids key store (store.commit tx).1 := avoids_commit store tx
    simp only [afterProvisioning]
    split
    · next heq =>
      rw [heq] at h
      exact h
    · next heq =>
      rw [heq] at h
      exact h

lemma avoids_startAdjustment (b : Bank σ) (kind : OperationKind) {account : AccountId}
    {money : Money} (hne : (⟨account, money.currency⟩ : WalletKey) ≠ key) :
    Avoids key b.store (b.startAdjustment kind account money).1.store := by
  refine avoids_beginCall b kind fun b tx trail => ?_
  have hadjust : Avoids key b.store (b.store.adjust b.clock
      ⟨tx, ⟨account, money.currency⟩, money.value, kind.direction⟩).1 :=
    avoids_adjust b.store b.clock hne
  exact hadjust.trans (avoids_afterAdjustment b tx _ money _)

lemma avoids_startChecked (b : Bank σ) (kind : OperationKind) {account : AccountId}
    {currency : Currency} (amount : Decimal) (hne : (⟨account, currency⟩ : WalletKey) ≠ key) :
    Avoids key b.store (b.startChecked kind account currency amount).1.store := by
  rw [startChecked]
  split
  · exact avoids_refl key b.store
  · next money hm =>
    obtain ⟨rfl, -⟩ := Money.isAmount_of_positive hm
    exact avoids_startAdjustment b kind hne

lemma avoids_startProvisioning (b : Bank σ) {account : AccountId} (hne : account ≠ key.account) :
    Avoids key b.store (b.startProvisioning account).1.store := by
  have h : Avoids key b.store b.store.begin.1 := avoids_begin b.store
  rw [startProvisioning]
  split
  · next heq =>
    rw [heq] at h
    exact h
  · next store tx heq =>
    rw [heq] at h
    exact (h.trans (avoids_provision store b.clock tx hne)).trans
      (avoids_afterProvisioning (b.withStore store) tx account _)

/-! ### Exchanges -/

lemma avoids_recordExchange (b : Bank σ) (trail : Trail) (e : Exchange)
    (credited debited : WalletSnapshot) :
    Avoids key b.store (b.recordExchange trail e credited debited).1.store := by
  have h : Avoids key b.store (b.exchangeRecords e credited debited).1 := avoids_of_locks rfl
  simp only [recordExchange]
  generalize b.exchangeRecords e credited debited = drawn at h ⊢
  obtain ⟨drawn, credit, debit⟩ := drawn
  have hcredit : Avoids key b.store (drawn.append e.tx credit).1 :=
    h.trans (avoids_append drawn e.tx credit)
  dsimp only
  split
  · next store error heq =>
    rw [heq] at hcredit
    exact hcredit.trans (avoids_failCall (b.withStore store) e.tx _ _)
  · next store heq =>
    rw [heq] at hcredit
    have hdebit : Avoids key b.store (store.append e.tx debit).1 :=
      hcredit.trans (avoids_append store e.tx debit)
    split
    · next store' error heq' =>
      rw [heq'] at hdebit
      exact hdebit.trans (avoids_failCall (b.withStore store') e.tx _ _)
    · next store' heq' =>
      rw [heq'] at hdebit
      exact hdebit.trans (avoids_noticeAndCommit (b.withStore store') ..)

lemma avoids_afterDebit (b : Bank σ) (trail : Trail) (e : Exchange) (credited : WalletSnapshot)
    (adjusted : Store × Turn AdjustWait (Except Failure AdjustOutcome)) :
    Avoids key adjusted.1 (b.afterDebit trail e credited adjusted).1.store := by
  obtain ⟨store, wait | result⟩ := adjusted
  · exact avoids_refl key store
  · simp only [afterDebit]
    split
    · exact avoids_failCall (b.withStore store) e.tx trail _
    · exact avoids_recordExchange (b.withStore store) trail e credited _

/-- Once its target has been credited, an exchange asks for the row of its source. -/
lemma avoids_afterCredit (b : Bank σ) (trail : Trail) {e : Exchange} (hne : e.debit.key ≠ key)
    (adjusted : Store × Turn AdjustWait (Except Failure AdjustOutcome)) :
    Avoids key adjusted.1 (b.afterCredit trail e adjusted).1.store := by
  obtain ⟨store, wait | result⟩ := adjusted
  · exact avoids_refl key store
  · simp only [afterCredit]
    split
    · exact avoids_failCall (b.withStore store) e.tx trail _
    · have hadjust : Avoids key store (store.adjust b.clock
          ⟨e.tx, ⟨e.account, e.source.currency⟩, e.source.value, .debit⟩).1 :=
        avoids_adjust store b.clock hne
      exact hadjust.trans (avoids_afterDebit (b.withStore store) _ e _ _)

lemma avoids_startTransfer (b : Bank σ) {account : AccountId} {source : Money}
    {quote : PairQuote} (hsource : (⟨account, source.currency⟩ : WalletKey) ≠ key)
    (htarget : (⟨account, quote.pair.target⟩ : WalletKey) ≠ key) :
    Avoids key b.store (b.startTransfer account source quote).1.store := by
  rw [startTransfer]
  split
  · exact avoids_refl key b.store
  · next target hconvert =>
    split
    · next hpos =>
      rw [← (PairQuote.isAmount_of_convert hconvert hpos).1] at htarget
      refine avoids_beginCall b .transfer fun b tx trail => ?_
      have hadjust : Avoids key b.store (b.store.adjust b.clock
          ⟨tx, ⟨account, target.currency⟩, target.value, .credit⟩).1 :=
        avoids_adjust b.store b.clock htarget
      have hdebit : (Exchange.debit ⟨tx, account, source, target, quote.rate⟩).key ≠ key := hsource
      exact hadjust.trans (avoids_afterCredit b _ hdebit _)
    · exact avoids_refl key b.store

lemma avoids_afterPricing (b : Bank σ) {account : AccountId} {source : Money} {target : Currency}
    (hsource : (⟨account, source.currency⟩ : WalletKey) ≠ key)
    (htarget : (⟨account, target⟩ : WalletKey) ≠ key)
    (priced : RateCache σ × Turn Fetch (Except RateError Decimal)) :
    Avoids key b.store (b.afterPricing account source target priced).1.store := by
  obtain ⟨rates, fetch | (e | rate)⟩ := priced
  · exact avoids_refl key b.store
  · exact avoids_refl key b.store
  · exact avoids_startTransfer { b with rates } hsource htarget

/-! ### Calls -/

lemma avoids_afterTable (b : Bank σ)
    (read : RateCache σ × Turn Fetch (Except RateError (Observed RateTable))) :
    Avoids key b.store (b.afterTable read).1.store := by
  obtain ⟨rates, fetch | (e | table)⟩ := read <;> exact avoids_refl key b.store

lemma avoids_afterPair (b : Bank σ) (pair : CurrencyPair)
    (read : RateCache σ × Turn Fetch (Except RateError (Observed Decimal))) :
    Avoids key b.store (b.afterPair pair read).1.store := by
  obtain ⟨rates, fetch | (e | rate)⟩ := read <;> exact avoids_refl key b.store

/-- A call that is given up makes no row known. -/
lemma Avoids.underDeadline {s : Store} {step : Step σ} (h : Avoids key s step.1.store)
    (deadline : Option ℕ) : Avoids key s (underDeadline deadline step).1.store := by
  obtain ⟨b, phase | outcome⟩ := step
  · rw [Bank.underDeadline]
    split
    · refine h.trans ?_
      rw [abandon]
      split
      · exact avoids_discard b.store _
      · exact avoids_refl key b.store
    · exact h
  · exact h

variable [RateProvider σ]

/-- A call that starts makes no row known that it is not about. -/
theorem avoids_start (b : Bank σ) {request : Request} (hnot : ¬ request.Concerns key) :
    Avoids key b.store (b.start request).1.store := by
  cases request with
  | openAccount account => exact avoids_startProvisioning b hnot
  | deposit account currency amount => exact avoids_startChecked b .deposit amount hnot
  | withdraw account currency amount => exact avoids_startChecked b .withdraw amount hnot
  | exchange account source target amount =>
      rw [Request.Concerns, not_or] at hnot
      rw [start]
      split
      · exact avoids_refl key b.store
      · split
        · exact avoids_refl key b.store
        · next money hm =>
          obtain ⟨rfl, -⟩ := Money.isAmount_of_positive hm
          exact avoids_afterPricing b hnot.1 hnot.2 _
  | balance account => exact avoids_refl key b.store
  | rates => exact avoids_afterTable b _
  | pairRate source target =>
      rw [start]
      split
      · exact avoids_refl key b.store
      · exact avoids_afterPair b _ _
  | history account => exact avoids_refl key b.store
  | verify account => exact avoids_refl key b.store

/-- Nor does one that has touched nothing yet. -/
theorem avoids_resume_of_idles (b : Bank σ) {phase : Phase} {ticket : Ticket}
    (h : phase.Idles ticket) (hnot : ¬ ticket.request.Concerns key) :
    Avoids key b.store (b.resume phase).1.store := by
  cases h with
  | @pricing account source target fetch hrequest =>
      rw [hrequest, Request.Concerns, not_or] at hnot
      exact avoids_afterPricing b hnot.1 hnot.2 _
  | readingTable => exact avoids_afterTable b _
  | readingPair => exact avoids_afterPair b _ _

/-- Nor does one that waits for a row. -/
theorem avoids_resume_of_carries (b : Bank σ) {s : Store} {phase : Phase} {ticket : Ticket}
    (h : phase.Carries s tx ticket) (hnot : ¬ ticket.request.Concerns key) :
    Avoids key b.store (b.resume phase).1.store := by
  cases h with
  | @provisioning wait t done herrand =>
      have hne : wait.account ≠ key.account := mt (Ticket.concerns_of_errand? herrand) hnot
      exact (avoids_resumeProvision b.store b.clock hne).trans
        (avoids_afterProvisioning b wait.tx wait.account _)
  | adjusting =>
      exact (avoids_resumeAdjust b.store b.clock _).trans (avoids_afterAdjustment b _ _ _ _)
  | @crediting trail exchange wait herrand =>
      have hne : exchange.debit.key ≠ key := fun heq =>
        hnot (Ticket.concerns_of_errand? herrand ⟨exchange.debit, by simp [Exchange.errand,
          Errand.movements, Exchange.debit], heq⟩)
      exact (avoids_resumeAdjust b.store b.clock wait).trans (avoids_afterCredit b trail hne _)
  | debiting =>
      exact (avoids_resumeAdjust b.store b.clock _).trans (avoids_afterDebit b _ _ _ _)

end Bank

end Teller
