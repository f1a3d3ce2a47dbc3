/-
Turns of exchanges.

* `Bank.comes_afterDebit`, `Bank.comes_afterCredit`: from row to row, with what the transaction has
  credited already;
* `Bank.comes_afterPricing`: an exchange whose rate has been asked for goes on with the answer,
  waits for it or ends.
-/
import Teller.Proofs.Bank.Adjustment

namespace Teller

lemma Errand.outcome_exchange {e : Exchange} {sheet : Sheet} :
    e.errand.outcome sheet = [e.credit, e.debit].foldlM Movement.apply sheet := rfl

/-- The two rows of an exchange differ. -/
lemma Errand.IsSound.debit_not_mem {e : Exchange} (h : e.errand.IsSound) :
    e.debit.key ∉ [e.credit].map (·.key) := by
  intro hmem
  rw [List.map_singleton, List.mem_singleton] at hmem
  exact (List.nodup_cons.mp h.nodup).1 (List.mem_singleton.mpr hmem.symm)

/-- Its debit is of an amount. -/
lemma Errand.IsSound.isAmount_debit {e : Exchange} (h : e.errand.IsSound) :
    e.debit.amount.IsAmount :=
  h.isAmount _ (List.mem_cons_of_mem _ (List.mem_singleton_self _))

namespace Bank

variable {σ : Type} {alone : Prop} {s₀ : Store} {tx : TxId} {ticket : Ticket} {b : Bank σ}
  {exchange : Exchange} {trail : Trail}

/-! ### From row to row -/

/-- The end of an exchange both of whose rows have been adjusted. -/
lemma comes_recordExchange (h : s₀.During alone tx b.store) {t : Transaction} {sheet : Sheet}
    {credited : WalletSnapshot} {debited : WalletId}
    (herrand : ticket.errand? = some (.ok exchange.errand)) (htx : exchange.tx = tx)
    (hm : b.store.Moved tx t [exchange.credit, exchange.debit] sheet)
    (hrecords : t.records = []) (hevents : t.events = [])
    (hcredited : (b.store.wallets.get? exchange.credit.key).map (·.id) = some credited.wallet)
    (hcurrency : credited.currency = exchange.target.currency)
    (hseen : credited.balances.get? exchange.target.currency = sheet exchange.credit.key)
    (hdebited : (b.store.wallets.get? exchange.debit.key).map (·.id) = some debited) :
    Comes b (CameOn alone b s₀ tx ticket) (b.recordExchange trail exchange credited
      ⟨exchange.account, debited, exchange.source.currency, sheet.account exchange.account⟩) := by
  have hsheet : [exchange.credit, exchange.debit].foldlM Movement.apply s₀.sheet = .ok sheet :=
    h.sheet_eq ▸ hm.outcome
  obtain ⟨_, wallet, currency, seen⟩ := credited
  obtain rfl : currency = exchange.target.currency := hcurrency
  simp only [recordExchange, exchangeRecords, exchangeReceipt, Store.newRecord, IdSupply.record,
    htx]
  -- the record of the credit
  rcases h.draw.draw.append hm.content ⟨⟨.timeOrdered b.clock.now b.store.ids.drawn⟩, wallet,
      exchange.target.currency, exchange.target.value, .credit, .transfer, some debited,
      .ofEpochMillis b.clock.now⟩ with ⟨s, e, heq, hd, he, hnot⟩ | ⟨s, heq, hd, hcontent⟩
  · simp only [heq]
    exact comes_failCall (b := b.withStore s) hd _ (.inl ⟨he, hnot⟩)
  simp only [heq]
  -- the record of the debit
  rcases hd.append hcontent ⟨⟨.timeOrdered b.clock.now b.store.ids.next.drawn⟩, debited,
      exchange.source.currency, exchange.source.value, .debit, .transfer, some wallet,
      .ofEpochMillis b.clock.now⟩ with ⟨s', e, heq', hd', he, hnot⟩ | ⟨s', heq', hd', hcontent'⟩
  · simp only [heq']
    exact comes_failCall (b := b.withStore s') hd' _ (.inl ⟨he, hnot⟩)
  simp only [heq']
  refine comes_noticeAndCommit (b := b.withStore s') hd' _ hcontent' hevents
    (hm.commits.congr (hd'.wallets.trans h.wallets.symm) rfl rfl) herrand fun s'' id hp => ?_
  rw [h.wallets] at hcredited hdebited
  rw [hrecords] at hp
  exact .exchange hsheet hcredited hdebited hseen hp

/-- An exchange whose target has been credited, after a turn at the row of its source. -/
lemma comes_afterDebit {t : Transaction} {credited : WalletSnapshot} {mid : Sheet}
    (herrand : ticket.errand? = some (.ok exchange.errand)) (htx : exchange.tx = tx)
    (hrecords : t.records = []) (hevents : t.events = [])
    (hcredited : (s₀.wallets.get? exchange.credit.key).map (·.id) = some credited.wallet)
    (hcurrency : credited.currency = exchange.target.currency)
    (hmid : exchange.credit.apply s₀.sheet = .ok mid)
    (hseen : credited.balances.get? exchange.target.currency = mid exchange.credit.key)
    {f : [Arithmetic] → Store × Turn AdjustWait (Except Failure AdjustOutcome)}
    (hf : ∃ s turn, Settles f (s, turn) ∧
      Store.Tried alone tx s₀ t [exchange.credit] exchange.debit s turn) :
    Comes b (CameOn alone b s₀ tx ticket) (b.afterDebit trail exchange credited f) := by
  obtain ⟨s, turn, hsettles, htried⟩ := hf
  -- whatever sums go by, the row is adjusted alike, so that one turn stands for all
  suffices h : Comes b (CameOn alone b s₀ tx ticket)
      (b.afterDebit trail exchange credited (s, turn)) by
    exact h.congr fun A _ => by rw [hsettles.eq A]
  cases htried with
  | @waits sheet w hd hm hadj hid hnot =>
      -- only the credit has been made so far
      have hsame : mid = sheet := by
        have hcredit := Movement.foldlM_apply_singleton hm.outcome
        rw [hd.sheet_eq, hmid] at hcredit
        exact Except.ok.inj hcredit
      rw [← hd.wallets] at hcredited
      exact .of_eq _ ⟨fun _ _ => rfl⟩ rfl rfl (.waits hd (.debiting herrand htx hadj hm hrecords
        hevents hcredited hcurrency (hsame ▸ hseen) hid) hnot)
  | troubled hd he hnot =>
      simp only [afterDebit, applied, htx]
      exact comes_failCall (b := b.withStore s) hd _ (.inl ⟨he, hnot⟩)
  | @refused sheet e result hd hm he hresult =>
      have happlied : applied exchange.source result = .error (.refused e) :=
        applied_eq_error hresult
      simp only [afterDebit, happlied, htx]
      refine comes_failCall (b := b.withStore s) hd _ (.inr ?_)
      rw [← hd.sheet_eq, Ticket.outcome?_of_errand? herrand]
      exact congrArg some ((Movement.foldlM_apply_concat hm.outcome).trans he)
  | @moves t' sheet wallet hd hm hrecords' hevents' hid =>
      -- the balances of the receipt were seen before the debit, which leaves the row of the target
      have hseen' : credited.balances.get? exchange.target.currency
          = sheet exchange.credit.key := by
        obtain ⟨mid', hcredit, hdebit⟩ := Movement.foldlM_apply_pair hm.outcome
        rw [hd.sheet_eq, hmid] at hcredit
        obtain rfl := Except.ok.inj hcredit
        have hne : exchange.credit.key ≠ exchange.debit.key := by
          have hnodup := hm.nodup
          rw [List.map_append, List.nodup_append] at hnodup
          exact hnodup.2.2 _ (List.mem_singleton_self _) _ (List.mem_singleton_self _)
        rw [hseen, Movement.apply_of_ne hdebit hne]
      exact comes_recordExchange (b := b.withStore s) hd herrand htx hm
        (hrecords'.trans hrecords) (hevents'.trans hevents) (by rwa [withStore, hd.wallets])
        hcurrency hseen' hid

/-- An exchange after a turn at the row of its target. -/
lemma comes_afterCredit
    (herrand : ticket.errand? = some (.ok exchange.errand)) (htx : exchange.tx = tx)
    {f : [Arithmetic] → Store × Turn AdjustWait (Except Failure AdjustOutcome)}
    (hf : ∃ s turn, Settles f (s, turn) ∧
      Store.Tried alone tx s₀ .fresh [] exchange.credit s turn) :
    Comes b (CameOn alone b s₀ tx ticket) (b.afterCredit trail exchange f) := by
  obtain ⟨s, turn, hsettles, htried⟩ := hf
  suffices h : Comes b (CameOn alone b s₀ tx ticket) (b.afterCredit trail exchange (s, turn)) by
    exact h.congr fun A _ => by rw [hsettles.eq A]
  have hsound := Ticket.isSound_of_errand? herrand
  cases htried with
  | waits hd hm hadj hid hnot =>
      exact .of_eq _ ⟨fun _ _ => rfl⟩ rfl rfl
        (.waits hd (.crediting herrand htx hadj hm.content hid) hnot)
  | troubled hd he hnot =>
      simp only [afterCredit, applied, htx]
      exact comes_failCall (b := b.withStore s) hd _ (.inl ⟨he, hnot⟩)
  | @refused sheet e result hd hm he hresult =>
      have happlied : applied exchange.target result = .error (.refused e) :=
        applied_eq_error hresult
      simp only [afterCredit, happlied, htx]
      refine comes_failCall (b := b.withStore s) hd _ (.inr ?_)
      -- an exchange fails as its first movement does
      obtain rfl : s.sheet = sheet := Except.ok.inj hm.outcome
      rw [← hd.sheet_eq, Ticket.outcome?_of_errand? herrand]
      have hrefused : exchange.errand.outcome s.sheet = .error e := by
        rw [Errand.outcome_exchange, List.foldlM_cons, he]
        rfl
      exact congrArg some hrefused
  | @moves t' sheet wallet hd hm hrecords hevents hid =>
      have hcredit := Movement.foldlM_apply_singleton hm.outcome
      have hadjust := hd.adjust hm hsound.debit_not_mem hsound.isAmount_debit b.clock
      rw [show exchange.debit.adjustment tx = ⟨exchange.tx,
        ⟨exchange.account, exchange.source.currency⟩, exchange.source.value, .debit⟩ from
          htx ▸ rfl] at hadjust
      exact comes_afterDebit (b := b.withStore s) herrand htx hrecords hevents
        (by rwa [← hd.wallets]) rfl (hd.sheet_eq ▸ hcredit) (CurrencyMap.get?_ofFn _ _) hadjust

/-! ### Prices -/

variable {account : AccountId} {source : Money}

/-- A ticket that is refused before anything has been touched. -/
lemma comes_refuse (hs : b.store.Disciplined) (hq : alone → b.store.Alone ⟨b.store.begun⟩)
    {e : LedgerError} (he : ticket.errand? = some (.error e)) :
    Comes b (CameOn alone b b.store ⟨b.store.begun⟩ ticket) (b.refuse e) := by
  refine .of_eq (b.refuse e) ⟨fun _ _ => rfl⟩ rfl rfl
    (.refused (.refl hs hq) hs.not_isOpen_begun ?_)
  rw [Ticket.outcome?, he]
  rfl

/-- An exchange that has been priced. -/
lemma comes_startTransfer (hs : b.store.Disciplined) (hp : b.store.sheet.IsProper)
    (hq : alone → b.store.Alone ⟨b.store.begun⟩) {target : Currency} {rate : Decimal}
    (hticket : ticket.errand? = some (Errand.priced account source target (.ok rate))) :
    Comes b (CameOn alone b b.store ⟨b.store.begun⟩ ticket)
      (b.startTransfer account source ⟨⟨source.currency, target⟩, rate⟩) := by
  rw [Errand.priced] at hticket
  cases hconvert : PairQuote.convert ⟨⟨source.currency, target⟩, rate⟩ source with
  | error e =>
      rw [hconvert] at hticket
      simp only [startTransfer, hconvert]
      exact comes_refuse hs hq hticket
  | ok money =>
      rw [hconvert] at hticket
      simp only [startTransfer, hconvert]
      by_cases hpos : money.isPositive
      · simp only [if_pos hpos] at hticket ⊢
        refine comes_beginCall hs hq .transfer fun s trail _ hd hcontent => ?_
        have hp' : s.sheet.IsProper := hd.sheet_eq.symm ▸ hp
        have ha := (Ticket.isSound_of_errand? hticket).isAmount _ List.mem_cons_self
        have hadjust := hd.adjust (.fresh hcontent hp') List.not_mem_nil ha b.clock
        exact @comes_afterCredit σ alone b.store ⟨b.store.begun⟩ ticket (b.withStore s)
          ⟨⟨b.store.begun⟩, account, source, money, rate⟩ (trail.request .mutate) hticket rfl _
          hadjust
      · simp only [if_neg hpos] at hticket ⊢
        exact comes_refuse hs hq hticket

/-- An exchange after a turn of the fetch of its rate. -/
lemma comes_afterPricing (hs : b.store.Disciplined) (hp : b.store.sheet.IsProper)
    (hq : alone → b.store.Alone ⟨b.store.begun⟩) {target : Currency}
    {turn : Turn Fetch (Except RateError Decimal)} {rates : RateCache σ}
    (hrequest : ticket.request = .exchange account source.currency target source.value)
    (hobtained : ticket.obtained = turn.result?) (hne : source.currency ≠ target)
    (hsource : Money.positive source.value source.currency = .ok source) :
    Comes b (CameOn alone b b.store ⟨b.store.begun⟩ ticket)
      (b.afterPricing account source target (rates, turn)) := by
  -- the errand is known as soon as the answer about the rate is
  have herrand : ticket.errand? = ticket.obtained.map (Errand.priced account source target) := by
    simp only [Ticket.errand?, hrequest, if_neg hne, hsource]
  cases turn with
  | waiting fetch =>
      exact .of_eq _ ⟨fun _ _ => rfl⟩ rfl rfl
        (.idles hs.not_isOpen_begun (.pricing hrequest hobtained hne hsource))
  | done result =>
      rw [hobtained] at herrand
      cases result with
      | error e => exact comes_refuse (b := { b with rates }) hs hq herrand
      | ok rate => exact comes_startTransfer (b := { b with rates }) hs hp hq herrand

end Bank

end Teller
