/-
What a turn of a call comes to.

* `Phase.Idles`: a call waits without having touched anything; `Phase.Carries`: it waits for a row,
  and its transaction has come exactly as far as the phase says; `Carries.later` says that this
  stays so while others act;
* `Bank.Came`: a turn leaves the call waiting or ends it, in trouble, refused for the balances that
  it found, or with its errand carried out;
* `Bank.Comes`: so it is whatever the arithmetic.
-/
import Teller.Proofs.Bank.Errand

namespace Teller

/-- A turn with its point and its result replaced by their images. -/
def Turn.map {Point Point' Result Result' : Type} (f : Point → Point') (g : Result → Result') :
    Turn Point Result → Turn Point' Result'
  | waiting point => .waiting (f point)
  | done result => .done (g result)

lemma Turn.exists_of_map_eq_done {Point Point' Result Result' : Type} {f : Point → Point'}
    {g : Result → Result'} {turn : Turn Point Result} {result : Result'}
    (h : turn.map f g = .done result) : ∃ result', turn = .done result' ∧ g result' = result := by
  cases turn with
  | waiting point => simp [map] at h
  | done result' => exact ⟨result', rfl, Turn.done.inj h⟩

/-- The result of a turn that ended a computation. -/
def Turn.result? {Point Result : Type} : Turn Point Result → Option Result
  | waiting _ => none
  | done result => some result

/-- The credit of the target of an exchange. -/
def Exchange.credit (e : Exchange) : Movement := e.target.movement e.account .credit

/-- The debit of the source of an exchange. -/
def Exchange.debit (e : Exchange) : Movement := e.source.movement e.account .debit

/-- What an exchange is about, apart from its transaction. -/
def Exchange.errand (e : Exchange) : Errand := .exchange e.account e.source e.target e.rate

/-! ### Where a call waits -/

namespace Phase

/-- The transaction of a call that waits for a row. -/
def tx? (p : Phase) : Option TxId := p.row?.map (·.tx)

/-- A call that waits has touched nothing yet. -/
inductive Idles (ticket : Ticket) : Phase → Prop where
  | pricing {account : AccountId} {source : Money} {target : Currency} {fetch : Fetch}
      (hrequest : ticket.request = .exchange account source.currency target source.value)
      (hobtained : ticket.obtained = none) (hne : source.currency ≠ target)
      (hsource : Money.positive source.value source.currency = .ok source) :
      Idles ticket (.pricing account source target fetch)
  | readingTable {fetch : Fetch} (hrequest : ticket.request = .rates) :
      Idles ticket (.readingTable fetch)
  | readingPair {pair : CurrencyPair} {fetch : Fetch}
      (hrequest : ticket.request = .pairRate pair.source pair.target) :
      Idles ticket (.readingPair pair fetch)

/-- A call that waits for a row has a transaction, which has come as far as the phase says. -/
inductive Carries (s : Store) (tx : TxId) (ticket : Ticket) : Phase → Prop where
  | provisioning {wait : ProvisionWait} {t : Transaction} {done : List Currency}
      (herrand : ticket.errand? = some (.ok (.opening wait.account))) (htx : wait.tx = tx)
      (ho : s.Opened tx t wait.account done)
      (hall : done ++ wait.currency :: wait.rest = Currency.all) :
      Carries s tx ticket (.provisioning wait)
  | adjusting {trail : Trail} {account : AccountId} {money : Money} {wait : AdjustWait}
      (herrand : ticket.errand? = some (.ok (.adjustment trail.kind account money)))
      (hadj : wait.adjustment = (money.movement account trail.kind.direction).adjustment tx)
      (hcontent : s.transactions.get? tx = some .fresh)
      (hid : (s.wallets.get? ⟨account, money.currency⟩).map (·.id) = some wait.wallet) :
      Carries s tx ticket (.adjusting trail money wait)
  | crediting {trail : Trail} {exchange : Exchange} {wait : AdjustWait}
      (herrand : ticket.errand? = some (.ok exchange.errand)) (htx : exchange.tx = tx)
      (hadj : wait.adjustment = exchange.credit.adjustment tx)
      (hcontent : s.transactions.get? tx = some .fresh)
      (hid : (s.wallets.get? exchange.credit.key).map (·.id) = some wait.wallet) :
      Carries s tx ticket (.crediting trail exchange wait)
  | debiting {trail : Trail} {exchange : Exchange} {credited : WalletSnapshot} {wait : AdjustWait}
      {t : Transaction} {sheet : Sheet}
      (herrand : ticket.errand? = some (.ok exchange.errand)) (htx : exchange.tx = tx)
      (hadj : wait.adjustment = exchange.debit.adjustment tx)
      (hm : s.Moved tx t [exchange.credit] sheet) (hrecords : t.records = [])
      (hevents : t.events = [])
      (hcredited : (s.wallets.get? exchange.credit.key).map (·.id) = some credited.wallet)
      (hcurrency : credited.currency = exchange.target.currency)
      (hseen : credited.balances.get? exchange.target.currency = sheet exchange.credit.key)
      (hid : (s.wallets.get? exchange.debit.key).map (·.id) = some wait.wallet) :
      Carries s tx ticket (.debiting trail exchange credited wait)

lemma Idles.tx?_eq {phase : Phase} {ticket : Ticket} (h : phase.Idles ticket) :
    phase.tx? = none := by
  cases h <;> rfl

/-- A call that waits has no errand yet, or will never have one. -/
lemma Idles.errand?_eq {phase : Phase} {ticket : Ticket} (h : phase.Idles ticket) :
    ticket.errand? = none := by
  cases h with
  | pricing hrequest hobtained hne hsource =>
      simp only [Ticket.errand?, hrequest, if_neg hne, hsource, hobtained, Option.map_none]
  | readingTable hrequest => rw [Ticket.errand?, hrequest]
  | readingPair hrequest => rw [Ticket.errand?, hrequest]

/-- A reading of balances never waits. -/
lemma Idles.request_ne_balance {phase : Phase} {ticket : Ticket} (h : phase.Idles ticket)
    (account : AccountId) : ticket.request ≠ .balance account := by
  cases h with
  | pricing hrequest => simp [hrequest]
  | readingTable hrequest => simp [hrequest]
  | readingPair hrequest => simp [hrequest]

/-- A call that waits for a row has an errand. -/
lemma Carries.exists_errand {phase : Phase} {s : Store} {tx : TxId} {ticket : Ticket}
    (h : phase.Carries s tx ticket) : ∃ errand, ticket.errand? = some (.ok errand) := by
  cases h with
  | provisioning herrand => exact ⟨_, herrand⟩
  | adjusting herrand => exact ⟨_, herrand⟩
  | crediting herrand => exact ⟨_, herrand⟩
  | debiting herrand => exact ⟨_, herrand⟩

lemma Carries.isMutation {phase : Phase} {s : Store} {tx : TxId} {ticket : Ticket}
    (h : phase.Carries s tx ticket) : ticket.request.isMutation = true := by
  obtain ⟨errand, herrand⟩ := h.exists_errand
  exact Ticket.isMutation_of_errand? herrand

lemma Carries.tx?_eq {phase : Phase} {s : Store} {tx : TxId} {ticket : Ticket}
    (h : phase.Carries s tx ticket) : phase.tx? = some tx := by
  cases h with
  | provisioning herrand htx => exact congrArg some htx
  | adjusting herrand hadj => exact congrArg (fun a : Adjustment => some a.tx) hadj
  | crediting herrand htx hadj => exact congrArg (fun a : Adjustment => some a.tx) hadj
  | debiting herrand htx hadj => exact congrArg (fun a : Adjustment => some a.tx) hadj

lemma Carries.isOpen {phase : Phase} {s : Store} {tx : TxId} {ticket : Ticket}
    (h : phase.Carries s tx ticket) : s.IsOpen tx := by
  cases h with
  | provisioning _ _ ho => exact ⟨_, ho.content⟩
  | adjusting _ _ hcontent => exact ⟨_, hcontent⟩
  | crediting _ _ _ hcontent => exact ⟨_, hcontent⟩
  | debiting _ _ _ hm => exact ⟨_, hm.content⟩

/-- A transaction that waits has come as far as it had, whatever others do. -/
theorem Carries.later {s s' : Store} {tx : TxId} {ticket : Ticket} {phase : Phase}
    (h : phase.Carries s tx ticket) (hl : s.Later tx s') (hs : s.Disciplined)
    (hs' : s'.sheet.IsProper) : phase.Carries s' tx ticket := by
  cases h with
  | provisioning herrand htx ho hall => exact .provisioning herrand htx (ho.later hl) hall
  | adjusting herrand hadj hcontent hid =>
      exact .adjusting herrand hadj (hl.content.trans hcontent) (hl.id hid)
  | crediting herrand htx hadj hcontent hid =>
      exact .crediting herrand htx hadj (hl.content.trans hcontent) (hl.id hid)
  | debiting herrand htx hadj hm hrecords hevents hcredited hcurrency hseen hid =>
      obtain ⟨sheet', hm', hsame⟩ := hm.later hl hs hs'
      have hseen' := hseen.trans (hsame _ (List.mem_singleton_self _)).symm
      exact .debiting herrand htx hadj hm' hrecords hevents (hl.id hcredited) hcurrency hseen'
        (hl.id hid)

end Phase

/-! ### What a turn comes to -/

/-- What a store and its rates answer to a request that changes nothing. -/
inductive Store.Answers (s : Store) : Request → Except Failure Reply → Prop where
  | balance (account : AccountId) :
      Answers s (.balance account) (.ok (.balances (s.readBalances account)))
  | history (account : AccountId) :
      Answers s (.history account) (.ok (.records (s.transactionRecords account)))
  | verify (account : AccountId) :
      Answers s (.verify account) ((s.reconcile account).map .report)
  | rates (table : Observed RateTable) : Answers s .rates (.ok (.rates table))
  | pairRate (quote : Observed PairQuote) :
      Answers s (.pairRate quote.value.pair.source quote.value.pair.target) (.ok (.quote quote))
  | noRates (e : LedgerError) : Answers s .rates (.error (.refused e))
  | noPairRate (source target : Currency) (e : LedgerError) :
      Answers s (.pairRate source target) (.error (.refused e))

lemma Store.Answers.not_isMutation {s : Store} {request : Request}
    {result : Except Failure Reply} (h : s.Answers request result) :
    ¬ request.isMutation = true := by
  cases h <;> simp [Request.isMutation]

namespace Bank

/-- What a turn of a call comes to, in which its transaction is perhaps alone with the store. -/
inductive Came (alone : Prop) (thresholds : Thresholds) (now : Nat) (s₀ : Store) (tx : TxId)
    (ticket : Ticket) : Store → Turn Phase (Except Failure Reply) → Prop where
  | idles {phase : Phase} (hclosed : ¬ s₀.IsOpen tx) (h : phase.Idles ticket) :
      Came alone thresholds now s₀ tx ticket s₀ (.waiting phase)
  | answers {result : Except Failure Reply} (hclosed : ¬ s₀.IsOpen tx)
      (h : s₀.Answers ticket.request result) :
      Came alone thresholds now s₀ tx ticket s₀ (.done result)
  | waits {s : Store} {phase : Phase} (hd : s₀.During alone tx s) (hc : phase.Carries s tx ticket)
      (hnot : ¬ alone) : Came alone thresholds now s₀ tx ticket s (.waiting phase)
  | troubled {s : Store} {e : LedgerError} (hd : s₀.During alone tx s) (hclosed : ¬ s.IsOpen tx)
      (he : e.isTrouble) (hnot : ¬ alone) :
      Came alone thresholds now s₀ tx ticket s (.done (.error (.refused e)))
  | refused {s : Store} {e : LedgerError} (hd : s₀.During alone tx s) (hclosed : ¬ s.IsOpen tx)
      (he : ticket.outcome? s₀.sheet = some (.error e)) :
      Came alone thresholds now s₀ tx ticket s (.done (.error (.refused e)))
  | posts {s : Store} {errand : Errand} {reply : Reply}
      (herrand : ticket.errand? = some (.ok errand))
      (hp : errand.Posts thresholds now tx s₀ s reply) :
      Came alone thresholds now s₀ tx ticket s (.done (.ok reply))

namespace Came

variable {alone : Prop} {thresholds : Thresholds} {now : Nat} {s₀ s : Store} {tx : TxId}
  {ticket : Ticket} {phase : Phase} {turn : Turn Phase (Except Failure Reply)}

/-- All that a turn does to a store are acts of its transaction. -/
lemma path (h : Came alone thresholds now s₀ tx ticket s turn) : Store.Path tx s₀ s := by
  cases h with
  | idles => exact .refl tx _
  | answers => exact .refl tx _
  | waits hd => exact hd.path
  | troubled hd => exact hd.path
  | refused hd => exact hd.path
  | posts _ hp =>
      obtain ⟨_, _, hp⟩ := hp.posted
      exact hp.path

/-- A turn leaves all balances in range. -/
lemma isProper (h : Came alone thresholds now s₀ tx ticket s turn) (hs : s₀.sheet.IsProper) :
    s.sheet.IsProper := by
  cases h with
  | idles => exact hs
  | answers => exact hs
  | waits hd => exact hd.sheet_eq.symm ▸ hs
  | troubled hd => exact hd.sheet_eq.symm ▸ hs
  | refused hd => exact hd.sheet_eq.symm ▸ hs
  | posts herrand hp => exact (Ticket.isSound_of_errand? herrand).isProper hs hp.outcome

/-- A call that waits after a turn has no transaction, or one that has come so far. -/
lemma waiting (h : Came alone thresholds now s₀ tx ticket s (.waiting phase)) :
    (phase.Idles ticket ∧ ¬ s.IsOpen tx) ∨ phase.Carries s tx ticket := by
  cases h with
  | idles hclosed h => exact .inl ⟨h, hclosed⟩
  | waits _ hc => exact .inr hc

/-- A call that has ended has no transaction any more. -/
lemma closed {result : Except Failure Reply}
    (h : Came alone thresholds now s₀ tx ticket s (.done result)) : ¬ s.IsOpen tx := by
  cases h with
  | answers hclosed => exact hclosed
  | troubled _ hclosed => exact hclosed
  | refused _ hclosed => exact hclosed
  | posts _ hp =>
      obtain ⟨_, _, hp⟩ := hp.posted
      exact hp.closed

/-- A call about a change that fails is refused, and does not stop at a sum or a balance. -/
lemma refused_of_error {failure : Failure} (hmutation : ticket.request.isMutation = true)
    (h : Came alone thresholds now s₀ tx ticket s (.done (.error failure))) :
    ∃ e, failure = .refused e := by
  cases h with
  | answers hclosed hanswers => exact absurd hmutation hanswers.not_isMutation
  | troubled => exact ⟨_, rfl⟩
  | refused => exact ⟨_, rfl⟩

/-- A call that is alone with the store, and has an answer, ends: it is refused and nothing is
committed, or its errand is carried out. -/
lemma done_of_alone (h : Came True thresholds now s₀ tx ticket s turn)
    {answer : Except LedgerError Errand} (herrand : ticket.errand? = some answer) :
    (∃ e, turn = .done (.error (.refused e)) ∧ s₀.During True tx s ∧
      ticket.outcome? s₀.sheet = some (.error e)) ∨
    ∃ errand reply, turn = .done (.ok reply) ∧ ticket.errand? = some (.ok errand) ∧
      errand.Posts thresholds now tx s₀ s reply := by
  cases h with
  | idles hclosed hidles => simp [hidles.errand?_eq] at herrand
  | answers hclosed hanswers =>
      exact absurd (Ticket.isMutation_of_errand? herrand) hanswers.not_isMutation
  | waits hd hc hnot => exact absurd trivial hnot
  | troubled hd hclosed he hnot => exact absurd trivial hnot
  | refused hd hclosed he => exact .inl ⟨_, rfl, hd, he⟩
  | posts herrand' hp => exact .inr ⟨_, _, rfl, herrand', hp⟩

/-- A call without an answer has no transaction, and nothing is committed. -/
lemma kept_of_errand?_eq_none (h : Came alone thresholds now s₀ tx ticket s turn)
    (herrand : ticket.errand? = none) : ¬ s.IsOpen tx ∧
      s.wallets = s₀.wallets ∧ s.journal = s₀.journal ∧ s.outbox = s₀.outbox := by
  cases h with
  | idles hclosed => exact ⟨hclosed, rfl, rfl, rfl⟩
  | answers hclosed => exact ⟨hclosed, rfl, rfl, rfl⟩
  | waits hd hc =>
      obtain ⟨errand, hsome⟩ := hc.exists_errand
      simp [hsome] at herrand
  | troubled hd hclosed => exact ⟨hclosed, hd.wallets, hd.journal, hd.outbox⟩
  | refused hd hclosed => exact ⟨hclosed, hd.wallets, hd.journal, hd.outbox⟩
  | posts hsome => simp [hsome] at herrand

end Came

variable {σ : Type}

/-- By every lawful arithmetic a turn comes to the same, which has this property. -/
def Comes (b₀ : Bank σ) (P : Store → Turn Phase (Except Failure Reply) → Prop)
    (f : [Arithmetic] → Step σ) : Prop :=
  ∃ step : Step σ, Settles f step ∧ step.1.clock = b₀.clock ∧ step.1.thresholds = b₀.thresholds ∧
    P step.1.store (step.2.map id (·.result))

end Bank

end Teller
