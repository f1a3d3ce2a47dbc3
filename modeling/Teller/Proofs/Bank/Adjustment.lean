/-
Turns of deposits and withdrawals, and of openings of accounts.

* `Bank.comes_failCall`: a transaction that fails is gone, whether or not its rollback succeeds;
* `Bank.comes_commitCall`: one that has done everything carries out its errand or is gone too;
* `Bank.comes_startAdjustment`, `Bank.comes_resumeAdjustment`, `Bank.comes_startProvisioning`,
  `Bank.comes_resumeProvisioning`: every turn comes to what `Bank.Came` lists.
-/
import Teller.Proofs.Bank.Came

namespace Teller

lemma Trail.kind_request (t : Trail) (stage : Stage) : (t.request stage).kind = t.kind := rfl

namespace Bank

variable {σ : Type} {alone : Prop} {s₀ : Store} {tx : TxId} {ticket : Ticket} {b : Bank σ}

/-- What a turn of this call on this bank comes to. -/
abbrev CameOn (alone : Prop) (b : Bank σ) (s₀ : Store) (tx : TxId) (ticket : Ticket) :
    Store → Turn Phase (Except Failure Reply) → Prop :=
  Came alone b.thresholds b.clock.now s₀ tx ticket

namespace Comes

variable {P : Store → Turn Phase (Except Failure Reply) → Prop}

/-- A turn without sums. -/
lemma of_eq {f : [Arithmetic] → Step σ} (step : Step σ) (hf : Settles f step)
    (hclock : step.1.clock = b.clock) (hthresholds : step.1.thresholds = b.thresholds)
    (hP : P step.1.store (step.2.map id (·.result))) : Comes b P f :=
  ⟨step, hf, hclock, hthresholds, hP⟩

lemma congr {f g : [Arithmetic] → Step σ} (h : Comes b P g)
    (hfg : ∀ (A : Arithmetic) [A.Lawful], f = g) : Comes b P f := by
  obtain ⟨step, hg, hrest⟩ := h
  exact ⟨step, ⟨fun A _ => (hfg A).trans (hg.eq A)⟩, hrest⟩

end Comes

/-! ### The end of a transaction -/

lemma isTrouble_withRollbackFailure (e trouble : LedgerError) :
    (e.withRollbackFailure trouble).isTrouble := rfl

/-- Trouble, or the reason why the errand is refused for the balances of this store. -/
def Explains (alone : Prop) (s₀ : Store) (ticket : Ticket) (e : LedgerError) : Prop :=
  (e.isTrouble ∧ ¬ alone) ∨ ticket.outcome? s₀.sheet = some (.error e)

lemma Explains.came {thresholds : Thresholds} {now : Nat} {s : Store} {e : LedgerError}
    (he : Explains alone s₀ ticket e) (hd : s₀.During alone tx s) (hclosed : ¬ s.IsOpen tx) :
    Came alone thresholds now s₀ tx ticket s (.done (.error (.refused e))) := by
  rcases he with ⟨he, hnot⟩ | he
  · exact .troubled hd hclosed he hnot
  · exact .refused hd hclosed he

/-- A failed transaction is gone. Its error stays, unless the rollback fails as well. -/
lemma Explains.rollBack {e : LedgerError} (he : Explains alone s₀ ticket e)
    (h : s₀.During alone tx b.store) :
    ∃ s e', b.rollBack tx e = (b.withStore s, e') ∧ s₀.During alone tx s ∧ ¬ s.IsOpen tx ∧
      Explains alone s₀ ticket e' := by
  obtain ⟨s, result, heq, hd, hclosed, hresult⟩ := h.rollback
  rw [Bank.rollBack, heq]
  cases result with
  | ok => exact ⟨s, e, rfl, hd, hclosed, he⟩
  | error trouble =>
      refine ⟨s, _, rfl, hd, hclosed, .inl ⟨isTrouble_withRollbackFailure e trouble, ?_⟩⟩
      exact hresult.resolve_left (by simp)

lemma comes_failCall (h : s₀.During alone tx b.store) (trail : Trail) {e : LedgerError}
    (he : Explains alone s₀ ticket e) :
    Comes b (CameOn alone b s₀ tx ticket) (b.failCall tx trail (.refused e)) := by
  obtain ⟨s, e', heq, hd, hclosed, he'⟩ := he.rollBack h
  refine .of_eq _ ⟨fun _ _ => rfl⟩ ?_ ?_ ?_
  · rw [failCall, heq]
    rfl
  · rw [failCall, heq]
    rfl
  · rw [failCall, heq]
    exact he'.came hd hclosed

lemma comes_commitCall (h : s₀.During alone tx b.store) (trail : Trail) {t : Transaction}
    {sheet : Sheet} {errand : Errand} {reply : Reply} (ht : b.store.transactions.get? tx = some t)
    (hc : b.store.Commits t sheet) (herrand : ticket.errand? = some (.ok errand))
    (hposts : ∀ s, Store.Posted tx s₀ s sheet t.records t.events →
      errand.Posts b.thresholds b.clock.now tx s₀ s reply) :
    Comes b (CameOn alone b s₀ tx ticket) (b.commitCall tx trail reply) := by
  rcases h.commit ht hc with ⟨s, e, hsettles, hd, hclosed, he, hnot⟩ | ⟨s, hsettles, hp⟩
  · refine .of_eq (b.withStore s,
      .done ⟨.error (.refused e), some ((trail.request .commit).request .failed)⟩)
      ⟨fun A _ => ?_⟩ rfl rfl (.troubled hd hclosed he hnot)
    rw [commitCall, hsettles.eq A]
  · refine .of_eq (b.withStore s, .done ⟨.ok reply, some ((trail.request .commit).request .done)⟩)
      ⟨fun A _ => ?_⟩ rfl rfl (.posts herrand (hposts s hp))
    rw [commitCall, hsettles.eq A]

/-- The transaction of a mutation begins, or trouble strikes. -/
lemma comes_beginCall (hs : b.store.Disciplined) (hq : alone → b.store.Alone ⟨b.store.begun⟩)
    (kind : OperationKind) {next : [Arithmetic] → Bank σ → TxId → Trail → Step σ}
    (hnext : ∀ s trail, trail.kind = kind → b.store.During alone ⟨b.store.begun⟩ s →
      s.transactions.get? ⟨b.store.begun⟩ = some .fresh →
      Comes b (CameOn alone b b.store ⟨b.store.begun⟩ ticket)
        (next (b.withStore s) ⟨b.store.begun⟩ trail)) :
    Comes b (CameOn alone b b.store ⟨b.store.begun⟩ ticket) (b.beginCall kind next) := by
  rcases Store.During.begin hs hq with ⟨s, e, heq, hd, hclosed, he, hnot⟩ | ⟨s, heq, hd, hcontent⟩
  · refine .of_eq (b.withStore s, .done ⟨.error (.refused e),
      some (((Trail.start kind).request .acquireConnection).request .failed)⟩) ⟨fun A _ => ?_⟩
      rfl rfl (.troubled hd hclosed he hnot)
    rw [beginCall, heq]
  · refine (hnext s (((Trail.start kind).request .acquireConnection).request .beginTx) rfl hd
      hcontent).congr fun A _ => ?_
    rw [beginCall, heq]

lemma notify_cases (h : s₀.During alone tx b.store) {t : Transaction}
    (ht : b.store.transactions.get? tx = some t) (kind : OperationKind) (account : AccountId)
    (money : Money) (seen : Balances) :
    (∃ s e, b.notify tx kind account money seen = (b.withStore s, .error e) ∧
      s₀.During alone tx s ∧ e.isTrouble ∧ ¬ alone) ∨
    ∃ s id, b.notify tx kind account money seen = (b.withStore s, .ok ()) ∧
      s₀.During alone tx s ∧ s.transactions.get? tx = some { t with events := t.events ++
        [.ofNotification ⟨id, kind, account, money.value, money.currency, seen,
          .ofEpochMillis b.clock.now⟩] } := by
  simp only [notify, Store.newNotification, IdSupply.event]
  rcases h.draw.enqueue ht _ with ⟨s, e, heq, hd, he, hnot⟩ | ⟨s, heq, hd, hcontent⟩
  · exact .inl ⟨s, e, by rw [heq], hd, he, hnot⟩
  · exact .inr ⟨s, _, by rw [heq], hd, hcontent⟩

/-- The notification, if the amount calls for one, and the commit. -/
lemma comes_noticeAndCommit (h : s₀.During alone tx b.store) (trail : Trail) {t : Transaction}
    {sheet : Sheet} {errand : Errand} {reply : Reply} {threshold : Decimal} {kind : OperationKind}
    {account : AccountId} {money : Money} {seen : Balances}
    (ht : b.store.transactions.get? tx = some t) (hevents : t.events = [])
    (hc : b.store.Commits t sheet) (herrand : ticket.errand? = some (.ok errand))
    (hposts : ∀ s id, Store.Posted tx s₀ s sheet t.records
      (money.notices threshold id kind account seen b.clock.now) →
      errand.Posts b.thresholds b.clock.now tx s₀ s reply) :
    Comes b (CameOn alone b s₀ tx ticket)
      (if threshold ≤ money.value then
        match b.notify tx kind account money seen with
        | (b, .error e) => b.failCall tx (trail.request .notify) (.refused e)
        | (b, .ok ()) => b.commitCall tx (trail.request .notify) reply
      else b.commitCall tx trail reply) := by
  by_cases hlarge : threshold ≤ money.value
  · simp only [if_pos hlarge]
    rcases notify_cases h ht kind account money seen with
      ⟨s, e, heq, hd, he, hnot⟩ | ⟨s, id, heq, hd, hcontent⟩
    · simp only [heq]
      exact comes_failCall (b := b.withStore s) hd _ (.inl ⟨he, hnot⟩)
    · simp only [heq]
      refine comes_commitCall (b := b.withStore s) hd _ hcontent
        (hc.congr (hd.wallets.trans h.wallets.symm) rfl rfl) herrand fun s' hp => ?_
      refine hposts s' id ?_
      rw [Money.notices, if_pos hlarge]
      rwa [hevents] at hp
  · simp only [if_neg hlarge]
    refine comes_commitCall h _ ht hc herrand fun s' hp => ?_
    -- without a notice any identifier will do
    refine hposts s' ⟨.random 0⟩ ?_
    rw [Money.notices, if_neg hlarge]
    rwa [hevents] at hp

/-! ### Deposits and withdrawals -/

/-- A movement that is refused ends the call with the reason. -/
lemma applied_eq_error {money : Money} {result : Except Failure AdjustOutcome} {e : LedgerError}
    (h : result = .error (.refused e) ∨
      (result = .ok .insufficientFunds ∧ e = .insufficientFunds money.currency money.value)) :
    applied money result = .error (.refused e) := by
  rcases h with rfl | ⟨rfl, rfl⟩ <;> rfl

variable {account : AccountId} {money : Money} {trail : Trail}

/-- The end of a deposit or withdrawal whose row has been adjusted. -/
lemma comes_recordAdjustment (h : s₀.During alone tx b.store) {t : Transaction}
    {sheet : Sheet} {wallet : WalletId}
    (herrand : ticket.errand? = some (.ok (.adjustment trail.kind account money)))
    (hm : b.store.Moved tx t [money.movement account trail.kind.direction] sheet)
    (hrecords : t.records = []) (hevents : t.events = [])
    (hid : (b.store.wallets.get? ⟨account, money.currency⟩).map (·.id) = some wallet) :
    Comes b (CameOn alone b s₀ tx ticket) (b.recordAdjustment tx trail money
      ⟨account, wallet, money.currency, sheet.account account⟩) := by
  have hsheet : (money.movement account trail.kind.direction).apply s₀.sheet = .ok sheet :=
    h.sheet_eq ▸ Movement.foldlM_apply_singleton hm.outcome
  simp only [recordAdjustment, Store.newRecord, IdSupply.record, Trail.kind_request]
  rcases h.draw.append hm.content ⟨⟨.timeOrdered b.clock.now b.store.ids.drawn⟩, wallet,
      money.currency, money.value, trail.kind.direction, trail.kind, none,
      .ofEpochMillis b.clock.now⟩ with ⟨s, e, heq, hd, he, hnot⟩ | ⟨s, heq, hd, hcontent⟩
  · simp only [heq]
    exact comes_failCall (b := b.withStore s) hd _ (.inl ⟨he, hnot⟩)
  · simp only [heq]
    refine comes_noticeAndCommit (b := b.withStore s) hd _ hcontent hevents
      (hm.commits.congr (hd.wallets.trans h.wallets.symm) rfl rfl) herrand fun s' id hp => ?_
    rw [hrecords] at hp
    exact .adjustment hsheet (by rwa [← h.wallets]) hp

/-- A deposit or withdrawal after a turn at its row. -/
lemma comes_afterAdjustment
    (herrand : ticket.errand? = some (.ok (.adjustment trail.kind account money)))
    {f : [Arithmetic] → Store × Turn AdjustWait (Except Failure AdjustOutcome)}
    (hf : ∃ s turn, Settles f (s, turn) ∧ Store.Tried alone tx s₀ .fresh []
      (money.movement account trail.kind.direction) s turn) :
    Comes b (CameOn alone b s₀ tx ticket) (b.afterAdjustment tx trail money f) := by
  obtain ⟨s, turn, hsettles, htried⟩ := hf
  -- whatever sums go by, the row is adjusted alike, so that one turn stands for all
  suffices h : Comes b (CameOn alone b s₀ tx ticket) (b.afterAdjustment tx trail money (s, turn)) by
    exact h.congr fun A _ => by rw [hsettles.eq A]
  cases htried with
  | waits hd hm hadj hid hnot =>
      exact .of_eq _ ⟨fun _ _ => rfl⟩ rfl rfl
        (.waits hd (.adjusting herrand hadj hm.content hid) hnot)
  | troubled hd he hnot =>
      exact comes_failCall (b := b.withStore s) hd _ (.inl ⟨he, hnot⟩)
  | @refused sheet e result hd hm he hresult =>
      have happlied : applied money result = .error (.refused e) := applied_eq_error hresult
      simp only [afterAdjustment, happlied]
      refine comes_failCall (b := b.withStore s) hd _ (.inr ?_)
      rw [← hd.sheet_eq, Ticket.outcome?_of_errand? herrand]
      exact congrArg some ((Movement.foldlM_apply_concat hm.outcome).trans he)
  | moves hd hm hrecords hevents hid =>
      exact comes_recordAdjustment (b := b.withStore s) hd herrand hm hrecords hevents hid

/-- A deposit or withdrawal from its start. -/
lemma comes_startAdjustment (hs : b.store.Disciplined) (hp : b.store.sheet.IsProper)
    (hq : alone → b.store.Alone ⟨b.store.begun⟩) {kind : OperationKind}
    (herrand : ticket.errand? = some (.ok (.adjustment kind account money))) :
    Comes b (CameOn alone b b.store ⟨b.store.begun⟩ ticket)
      (b.startAdjustment kind account money) := by
  refine comes_beginCall hs hq kind fun s trail hkind hd hcontent => ?_
  have hp' : s.sheet.IsProper := hd.sheet_eq.symm ▸ hp
  have ha := (Ticket.isSound_of_errand? herrand).isAmount _ (List.mem_singleton_self _)
  obtain rfl := hkind
  have hadjust := hd.adjust (.fresh hcontent hp') List.not_mem_nil ha b.clock
  exact @comes_afterAdjustment σ alone b.store ⟨b.store.begun⟩ ticket (b.withStore s) account money
    (trail.request .mutate) herrand _ hadjust

/-- A deposit or withdrawal that has waited for its row. -/
lemma comes_resumeAdjustment (hs : b.store.Disciplined) (hp : b.store.sheet.IsProper)
    {wait : AdjustWait}
    (herrand : ticket.errand? = some (.ok (.adjustment trail.kind account money)))
    (hadj : wait.adjustment = (money.movement account trail.kind.direction).adjustment tx)
    (hcontent : b.store.transactions.get? tx = some .fresh)
    (hid : (b.store.wallets.get? ⟨account, money.currency⟩).map (·.id) = some wait.wallet) :
    Comes b (CameOn False b b.store tx ticket) (b.resumeAdjustment trail money wait) := by
  have ha := (Ticket.isSound_of_errand? herrand).isAmount _ (List.mem_singleton_self _)
  have hd : b.store.During False tx b.store := .refl hs False.elim
  have htx : wait.adjustment.tx = tx := by rw [hadj]; rfl
  simp only [resumeAdjustment, htx]
  exact comes_afterAdjustment herrand
    (hd.resumeAdjust (.fresh hcontent hp) List.not_mem_nil ha b.clock hadj hid False.elim)

/-! ### Openings -/

/-- An opening that fails is rolled back. -/
lemma comes_undoProvisioning {s : Store} (hd : s₀.During alone tx s) (account : AccountId)
    {e : LedgerError} (he : Explains alone s₀ ticket e) :
    Comes b (CameOn alone b s₀ tx ticket)
      (b.afterProvisioning tx account (s, .done (.error e))) := by
  obtain ⟨s', e', heq, hd', hclosed, he'⟩ := he.rollBack (b := b.withStore s) hd
  refine .of_eq (b.withStore s', .done ⟨.error (.refused e'), none⟩) ⟨fun A _ => ?_⟩ rfl rfl
    (he'.came hd' hclosed)
  rw [afterProvisioning, heq]
  rfl

/-- An opening after a turn at one of its rows. -/
lemma comes_afterProvisioning (herrand : ticket.errand? = some (.ok (.opening account)))
    {s : Store} {turn : Turn ProvisionWait (Except LedgerError Unit)}
    (h : Store.Provisioned alone tx s₀ account s turn) :
    Comes b (CameOn alone b s₀ tx ticket) (b.afterProvisioning tx account (s, turn)) := by
  cases h with
  | @waits t done w hd ho htx haccount hall hnot =>
      obtain rfl := haccount
      exact .of_eq _ ⟨fun _ _ => rfl⟩ rfl rfl
        (.waits hd (.provisioning herrand htx ho hall) hnot)
  | troubled hd he hnot => exact comes_undoProvisioning hd account (.inl ⟨he, hnot⟩)
  | refused hd he =>
      refine comes_undoProvisioning hd account (.inr ?_)
      rw [Ticket.outcome?_of_errand? herrand]
      exact congrArg some he
  | @opens t hd ho =>
      -- all rows are made, and the commit comes in the same turn
      obtain ⟨sheet, hsheet, hc⟩ := ho.commits hd.disciplined
      rw [hd.sheet_eq] at hsheet
      rcases hd.commit ho.content hc with
        ⟨s', e, hsettles, hd', hclosed, he, hnot⟩ | ⟨s', hsettles, hp⟩
      · refine .of_eq (b.withStore s', .done ⟨.error (.refused e), none⟩) ⟨fun A _ => ?_⟩ rfl rfl
          (.troubled hd' hclosed he hnot)
        rw [afterProvisioning, hsettles.eq A]
        rfl
      · rw [ho.records, ho.events] at hp
        -- the reply is read from the store after the commit
        have hread : s'.readBalances account = sheet.account account := by
          rw [Sheet.account, ← hp.sheet_eq]
          rfl
        refine .of_eq (b.withStore s', .done ⟨.ok (.balances (sheet.account account)), none⟩)
          ⟨fun A _ => ?_⟩ rfl rfl (.posts herrand (.opening hsheet hp))
        rw [afterProvisioning, hsettles.eq A, ← hread]
        rfl

/-- An opening from its start. -/
lemma comes_startProvisioning (hs : b.store.Disciplined)
    (hq : alone → b.store.Alone ⟨b.store.begun⟩)
    (herrand : ticket.errand? = some (.ok (.opening account))) :
    Comes b (CameOn alone b b.store ⟨b.store.begun⟩ ticket) (b.startProvisioning account) := by
  rcases Store.During.begin hs hq with ⟨s, e, heq, hd, hclosed, he, hnot⟩ | ⟨s, heq, hd, hcontent⟩
  · refine .of_eq (b.withStore s, .done ⟨.error (.refused e), none⟩) ⟨fun A _ => ?_⟩ rfl rfl
      (.troubled hd hclosed he hnot)
    rw [startProvisioning, heq]
    rfl
  · obtain ⟨s', turn, hturn, hprov⟩ := hd.provision hcontent b.clock account
    refine (comes_afterProvisioning (b := b.withStore s) herrand hprov).congr fun A _ => ?_
    rw [startProvisioning, heq]
    simp only [hturn, withStore]

/-- An opening that has waited for a row. -/
lemma comes_resumeProvisioning (hs : b.store.Disciplined) {wait : ProvisionWait} {t : Transaction}
    {done : List Currency} (herrand : ticket.errand? = some (.ok (.opening wait.account)))
    (htx : wait.tx = tx) (ho : b.store.Opened tx t wait.account done)
    (hall : done ++ wait.currency :: wait.rest = Currency.all) :
    Comes b (CameOn False b b.store tx ticket) (b.resumeProvisioning wait) := by
  have hd : b.store.During False tx b.store := .refl hs False.elim
  obtain ⟨s, turn, hturn, hprov⟩ := hd.resumeProvision ho b.clock htx rfl hall not_false
  refine (comes_afterProvisioning herrand hprov).congr fun A _ => ?_
  rw [resumeProvisioning, htx, hturn]

end Bank

end Teller
