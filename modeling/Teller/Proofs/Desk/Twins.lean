/-
Two runs, in one of which the calls for other accounts are not made.

* `Event.without?`, `withoutOthers`: a run from which the calls made for all accounts but one have
  been removed; the calls that remain are numbered anew;
* `Desk.Twins`: two desks agree about all that concerns the account, apart from identifiers;
* `Twins.spares`: they still do when the account has been left alone at both;
* `Twins.start_own`, `Twins.resume_own`: so they do when a call for the account has a turn at both.
-/
import Teller.Proofs.Desk.Privacy

namespace Teller

/-! ### Runs without some of their calls -/

/-- Is the request made for another account? -/
def Request.isForeign (account : AccountId) (r : Request) : Bool :=
  r.account?.any (· ≠ account)

/-- The requests of a run, in the order of their calls. -/
def requestsOf {σ : Type} (events : List (Event σ)) : List Request :=
  events.filterMap fun
    | .start _ request => some request
    | _ => none

section Numbers

variable (account : AccountId) (requests : List Request)

/-- Does the call with this number remain? -/
def remains (id : ℕ) : Bool := requests[id]?.any fun r => !r.isForeign account

/-- The number of a call among those that remain. -/
def rank (id : ℕ) : ℕ := (requests.take id).countP fun r => !r.isForeign account

/-- An event of a run as it is without the calls made for other accounts. -/
def Event.without? {σ : Type} : Event σ → Option (Event σ)
  | .start deadline request =>
    if request.isForeign account then none else some (.start deadline request)
  | .resume id =>
    if remains account requests id then some (.resume (rank account requests id)) else none
  | event => some event

/-- A run without the calls made for other accounts. -/
def withoutOthers {σ : Type} (events : List (Event σ)) : List (Event σ) :=
  events.filterMap (Event.without? account (requestsOf events))

variable {account requests} {id id' : ℕ} {r : Request}

lemma isForeign_eq_false_iff :
    r.isForeign account = false ↔ r.account? = none ∨ r.account? = some account := by
  rw [Request.isForeign]
  cases r.account? <;> simp

lemma rank_succ (account : AccountId) (h : requests[id]? = some r) :
    rank account requests (id + 1)
      = rank account requests id + if r.isForeign account then 0 else 1 := by
  rw [rank, rank, List.take_add_one, h, Option.toList_some, List.countP_append,
    List.countP_singleton]
  cases r.isForeign account <;> rfl

lemma rank_mono (h : id ≤ id') : rank account requests id ≤ rank account requests id' :=
  (List.take_sublist_take_left h).countP_le

lemma remains_iff : remains account requests id = true
    ↔ ∃ r, requests[id]? = some r ∧ r.isForeign account = false := by
  simp [remains, Option.any_eq_true]

lemma remains_of_own (hr : requests[id]? = some r) (haccount : r.account? = some account) :
    remains account requests id = true :=
  remains_iff.mpr ⟨r, hr, isForeign_eq_false_iff.mpr (.inr haccount)⟩

lemma remains_of_none (account : AccountId) (hr : requests[id]? = some r)
    (hnone : r.account? = none) : remains account requests id = true :=
  remains_iff.mpr ⟨r, hr, isForeign_eq_false_iff.mpr (.inl hnone)⟩

/-- No two calls that remain get the same number. -/
lemma eq_of_rank_eq (h : remains account requests id = true)
    (h' : remains account requests id' = true)
    (hrank : rank account requests id = rank account requests id') : id = id' := by
  have hlt : ∀ {i j}, remains account requests i = true → i < j →
      rank account requests i < rank account requests j := fun {i j} hi hij => by
    obtain ⟨r, hr, hforeign⟩ := remains_iff.mp hi
    have hsucc := rank_succ account hr
    rw [hforeign] at hsucc
    have hle : rank account requests (i + 1) ≤ rank account requests j := rank_mono hij
    simp only [Bool.false_eq_true, if_false] at hsucc
    omega
  rcases lt_trichotomy id id' with hid | hid | hid
  · exact absurd hrank (hlt h hid).ne
  · exact hid
  · exact absurd hrank (hlt h' hid).ne'

lemma rank_ne (hne : id ≠ id') (h : remains account requests id = true)
    (h' : remains account requests id' = true) :
    rank account requests id ≠ rank account requests id' :=
  fun hrank => hne (eq_of_rank_eq h h' hrank)

lemma requestsOf_concat {σ : Type} (events : List (Event σ)) (event : Event σ) :
    requestsOf (events ++ [event]) = requestsOf events ++ requestsOf [event] :=
  List.filterMap_append

/-- The calls for other accounts, and no others, have been removed. -/
lemma requestsOf_without {σ : Type} (account : AccountId) (requests : List Request)
    (events : List (Event σ)) :
    requestsOf (events.filterMap (Event.without? account requests))
      = (requestsOf events).filter fun r => !r.isForeign account := by
  rw [requestsOf, List.filterMap_filterMap, requestsOf, List.filter_filterMap]
  refine List.filterMap_congr fun event _ => ?_
  cases event with
  | start deadline request =>
      cases hforeign : request.isForeign account <;> simp [Event.without?, Option.filter, hforeign]
  | resume id => cases hid : remains account requests id <;> simp [Event.without?, hid]
  | _ => rfl

lemma isCalm_without {σ : Type} {events : List (Event σ)}
    (hcalm : ∀ event ∈ events, event.isCalm = true) :
    ∀ event ∈ events.filterMap (Event.without? account requests), event.isCalm = true := by
  intro event he
  obtain ⟨event', he', hevent⟩ := List.mem_filterMap.mp he
  have hcalm' := hcalm event' he'
  cases event' with
  | start deadline request =>
      rw [Event.without?] at hevent
      split at hevent
      · simp at hevent
      · exact Option.some.inj hevent ▸ hcalm'
  | resume id =>
      rw [Event.without?] at hevent
      split at hevent
      · exact Option.some.inj hevent ▸ rfl
      · simp at hevent
  | _ => exact Option.some.inj hevent ▸ hcalm'

end Numbers

/-! ### Two desks -/

lemma Call.Same.tx?_eq {account : AccountId} {tx tx' : TxId} {c c' : Call}
    (h : c.Same account tx tx' c') : c.phase.tx? = some tx ∧ c'.phase.tx? = some tx' := by
  obtain ⟨currency, giveUpAt, hrow, hrow'⟩ := h.phase.exists_row
  rw [Phase.tx?, Phase.tx?, hrow, hrow']
  exact ⟨rfl, rfl⟩

/-- Two calls have ended alike, one of them in a run in which it has another number. -/
inductive Entry.Same (account : AccountId) (requests : List Request) : Entry → Entry → Prop where
  | mk (id : ℕ) {ticket ticket' : Ticket} {outcome outcome' : Outcome}
      (hrequest : ticket.request = ticket'.request) (houtcome : outcome.Same outcome') :
      Same account requests (.ended id ticket outcome)
        (.ended (rank account requests id) ticket' outcome')

namespace Desk

variable {σ : Type} {account : AccountId} {requests : List Request} {d d' d₁ d₁' : Desk σ}
  {id j : ℕ} {r : Request} {event event' : Event σ} {tx tx' : TxId} {ticket ticket' : Ticket}
  {turn turn' : Bank σ × Turn Call Outcome}

/-- Two calls for an account wait in the same way, and their transactions are about to change the
same. -/
structure Beside (account : AccountId) (d d' : Desk σ) (w w' : Ticket × Call) : Prop where
  isFor : w.1.request.account? = some account
  request : w.1.request = w'.1.request
  waits : ∃ tx tx', w.2.Same account tx tx' w'.2 ∧
    (d.bank.store.transaction tx).Same account (d'.bank.store.transaction tx')

/-- Two transactions belong to the same call for the account. -/
def Partners (account : AccountId) (requests : List Request) (d d' : Desk σ) (tx tx' : TxId) :
    Prop :=
  ∃ id, d.OwnsFor account id tx ∧ d'.OwnsFor account (rank account requests id) tx'

/-- Two desks agree about all that concerns an account, apart from identifiers. The calls of one of
them have numbers as in the run without the calls for other accounts. -/
structure Twins (account : AccountId) (requests : List Request) (d d' : Desk σ) : Prop where
  clock : d.bank.clock = d'.bank.clock
  thresholds : d.bank.thresholds = d'.bank.thresholds
  lockTimeout : d.bank.store.lockTimeout = d'.bank.store.lockTimeout
  sheet (c : Currency) : d.bank.store.sheet ⟨account, c⟩ = d'.bank.store.sheet ⟨account, c⟩
  lock (c : Currency) : (d.bank.store.lock ⟨account, c⟩).Same (Partners account requests d d')
    (d'.bank.store.lock ⟨account, c⟩)
  history : List.Forall₂ TransactionRecord.Same (d.bank.store.transactionRecords account)
    (d'.bank.store.transactionRecords account)
  events : List.Forall₂ OutboxEvent.Same (d.bank.store.eventsOf account)
    (d'.bank.store.eventsOf account)
  results : List.Forall₂ (Entry.Same account requests) (d.log.filter (·.isResultFor account))
    (d'.log.filter (·.isResultFor account))
  numbered {id : ℕ} {w : Ticket × Call} : d.waiting.get? id = some w →
    requests[id]? = some w.1.request
  /-- The calls for the account wait at the same points. -/
  own {id : ℕ} {r : Request} : requests[id]? = some r → r.account? = some account →
    Option.Rel (Beside account d d') (d.waiting.get? id)
      (d'.waiting.get? (rank account requests id))
  neutral {id : ℕ} {r : Request} {w : Ticket × Call} : requests[id]? = some r → r.account? = none →
    d'.waiting.get? (rank account requests id) = some w → w.1.request.account? = none

lemma twins_fresh (account : AccountId) (requests : List Request) (clock : Clock) (lockTimeout : ℕ)
    (ids : IdSupply) (rates : RateCache σ) (thresholds : Thresholds) :
    Twins account requests (fresh clock lockTimeout ids rates thresholds)
      (fresh clock lockTimeout ids rates thresholds) where
  clock := rfl
  thresholds := rfl
  lockTimeout := rfl
  sheet _ := rfl
  lock _ := RowLock.same_free
  history := .nil
  events := .nil
  results := .nil
  numbered h := by simp [fresh] at h
  own _ _ := .none
  neutral _ _ h := by simp [fresh] at h

namespace Twins

variable (ht : Twins account requests d d')

include ht

lemma remains_of_ownsFor (ho : d.OwnsFor account id tx) :
    remains account requests id = true := by
  obtain ⟨ticket, call, hw, -, haccount⟩ := ho
  exact remains_of_own (ht.numbered hw) haccount

/-- A call for the account waits at the same point as long as it has no turn. -/
lemma own_of_eq (hr : requests[id]? = some r) (haccount : r.account? = some account)
    (hw : d₁.waiting.get? id = d.waiting.get? id)
    (hw' : d₁'.waiting.get? (rank account requests id)
      = d'.waiting.get? (rank account requests id))
    (hcontent : ∀ {tx}, d.Owns id tx → d₁.bank.store.transaction tx = d.bank.store.transaction tx)
    (hcontent' : ∀ {tx}, d'.Owns (rank account requests id) tx →
      d₁'.bank.store.transaction tx = d'.bank.store.transaction tx) :
    Option.Rel (Beside account d₁ d₁') (d₁.waiting.get? id)
      (d₁'.waiting.get? (rank account requests id)) := by
  have hown := ht.own hr haccount
  rw [hw, hw']
  generalize hget : d.waiting.get? id = w at hown
  generalize hget' : d'.waiting.get? (rank account requests id) = w' at hown
  cases hown with
  | none => exact .none
  | @some w w' hbeside =>
      obtain ⟨tx, tx', hcall, hsame⟩ := hbeside.waits
      have hmine : d.Owns id tx := ⟨w.1, w.2, hget, hcall.tx?_eq.1⟩
      have hmine' : d'.Owns (rank account requests id) tx' := ⟨w'.1, w'.2, hget', hcall.tx?_eq.2⟩
      refine .some ⟨hbeside.isFor, hbeside.request, tx, tx', hcall, ?_⟩
      rw [hcontent hmine, hcontent' hmine']
      exact hsame

/-- What leaves the account alone at both desks keeps them in agreement. -/
theorem spares {who who' : Option ℕ} (hl : d.Spares account who d₁)
    (hr : d'.Spares account who' d₁') (hclock : d₁.bank.clock = d₁'.bank.clock)
    (hwho : ∀ {i r}, requests[i]? = some r → r.account? = some account →
      some i ≠ who ∧ some (rank account requests i) ≠ who')
    (hnumbered : ∀ {i w}, d₁.waiting.get? i = some w → requests[i]? = some w.1.request)
    (hneutral : ∀ {i r w}, requests[i]? = some r → r.account? = none →
      d₁'.waiting.get? (rank account requests i) = some w → w.1.request.account? = none) :
    Twins account requests d₁ d₁' where
  clock := hclock
  thresholds := hl.thresholds.trans (ht.thresholds.trans hr.thresholds.symm)
  lockTimeout := hl.lockTimeout.trans (ht.lockTimeout.trans hr.lockTimeout.symm)
  sheet c := by
    rw [Store.sheet, Store.sheet, Sheet.of, Sheet.of, hl.unmoved.wallet, hr.unmoved.wallet]
    exact ht.sheet c
  lock c := by
    rw [hl.lock, hr.lock]
    refine (ht.lock c).mono fun {t t'} hpartners _ _ => ?_
    -- partners belong to the same call of the account, which has no turn here
    obtain ⟨i, ho, ho'⟩ := hpartners
    have hmine := ho
    obtain ⟨ticket, call, hw, -, haccount⟩ := hmine
    obtain ⟨hne, hne'⟩ := hwho (ht.numbered hw) haccount
    refine ⟨i, ?_, ?_⟩
    · rwa [OwnsFor, hl.waiting hne]
    · rwa [OwnsFor, hr.waiting hne']
  history := by
    rw [hl.unmoved.records, hr.unmoved.records]
    exact ht.history
  events := by
    rw [hl.unmoved.events, hr.unmoved.events]
    exact ht.events
  results := by
    rw [hl.results, hr.results]
    exact ht.results
  numbered := hnumbered
  own {i r} hr' haccount := by
    obtain ⟨hne, hne'⟩ := hwho hr' haccount
    exact ht.own_of_eq hr' haccount (hl.waiting hne) (hr.waiting hne') (hl.transaction hne)
      (hr.transaction hne')
  neutral := hneutral

end Twins

/-! ### Turns of the account's own calls -/

/-- What is needed of a desk to follow it from event to event. -/
structure IsFit (states : RateClient σ → Prop) (rate : CurrencyPair → Except RateError Decimal)
    (d : Desk σ) : Prop where
  isSound : d.IsSound
  isPrivate : d.IsPrivate states rate
  isAudited : d.bank.store.IsAudited

/-- Two transactions are those that act in turns of one call, or belong to another call for the
account. -/
def PartnersIn (account : AccountId) (requests : List Request) (d d' : Desk σ) (id : ℕ)
    (tx tx' t t' : TxId) : Prop :=
  (t = tx ∧ t' = tx') ∨
    ∃ i ≠ id, d.OwnsFor account i t ∧ d'.OwnsFor account (rank account requests i) t'

lemma tx_unique (ho : d.Owns id tx) (ho' : d.Owns id tx') : tx = tx' := by
  obtain ⟨ticket, call, hw, htx⟩ := ho
  obtain ⟨ticket', call', hw', htx'⟩ := ho'
  obtain ⟨rfl, rfl⟩ := Prod.mk.inj (Option.some.inj (hw.symm.trans hw'))
  exact Option.some.inj (htx.symm.trans htx')

variable [RateProvider σ]

section Own

variable (ht : Twins account requests d d') (hd : d.IsSound) (hd' : d'.IsSound)
  (hturn : d.HasTurn event d₁ id tx ticket turn)
  (hturn' : d'.HasTurn event' d₁' (rank account requests id) tx' ticket' turn')
  (hid : remains account requests id = true)

include ht hd hd' hturn hturn' hid

lemma Twins.biUnique_partnersIn :
    Relator.BiUnique (PartnersIn account requests d d' id tx tx') := by
  have hne : ∀ {i t}, i ≠ id → d.OwnsFor account i t →
      rank account requests i ≠ rank account requests id := fun hi ho =>
    rank_ne hi (ht.remains_of_ownsFor ho) hid
  constructor
  · rintro t₁ t' t₂ (⟨rfl, rfl⟩ | ⟨i, hi, ho, ho'⟩) (⟨rfl, h⟩ | ⟨j, hj, hoj, hoj'⟩)
    · rfl
    · exact absurd rfl (hturn'.ne_of_owns (hne hj hoj) hoj'.owns)
    · exact absurd h.symm (hturn'.ne_of_owns (hne hi ho) ho'.owns)
    · have hrank := hd'.unique ho'.owns hoj'.owns
      obtain rfl := eq_of_rank_eq (ht.remains_of_ownsFor ho) (ht.remains_of_ownsFor hoj) hrank
      exact tx_unique ho.owns hoj.owns
  · rintro t t₁' t₂' (⟨rfl, rfl⟩ | ⟨i, hi, ho, ho'⟩) (⟨h, rfl⟩ | ⟨j, hj, hoj, hoj'⟩)
    · rfl
    · exact absurd rfl (hturn.ne_of_owns hj hoj.owns)
    · exact absurd h.symm (hturn.ne_of_owns hi ho.owns)
    · obtain rfl := hd.unique ho.owns hoj.owns
      exact tx_unique ho'.owns hoj'.owns

/-- The transactions that act in turns of one call, at the two desks. -/
def Twins.tandem : Tandem where
  account := account
  tx := tx
  tx' := tx'
  before := d.bank.store
  before' := d'.bank.store
  partners := PartnersIn account requests d d' id tx tx'
  biUnique := ht.biUnique_partnersIn hd hd' hturn hturn' hid
  partner := .inl ⟨rfl, rfl⟩

variable {states : RateClient σ → Prop} {rate : CurrencyPair → Except RateError Decimal}

/-- Before the turns the two banks are abreast. -/
lemma Twins.abreast (hp : d.IsPrivate states rate) (hp' : d'.IsPrivate states rate)
    (hcontent : (d.bank.store.transaction tx).Same account (d'.bank.store.transaction tx')) :
    Bank.Abreast (ht.tandem hd hd' hturn hturn' hid) (RateCache.IsSteady states rate) d.bank
      d'.bank where
  clock := ht.clock
  thresholds := ht.thresholds
  store :=
    { lockTimeout := ht.lockTimeout
      faults := hp.faults
      faults' := hp'.faults
      sheet := ht.sheet
      lock := fun c => (ht.lock c).mono fun {t t'} hpartners _ _ => by
        obtain ⟨i, ho, ho'⟩ := hpartners
        by_cases hi : i = id
        · subst hi
          exact .inl ⟨hturn.eq_of_owns ho.owns, hturn'.eq_of_owns ho'.owns⟩
        · exact .inr ⟨i, hi, ho, ho'⟩
      content := hcontent
      journal := grown_refl ..
      outbox := grown_refl ..
      spares := Store.spares_refl ..
      spares' := Store.spares_refl .. }
  rates := hp.rates
  rates' := hp'.rates

section InStep

variable (haccount : ticket.request.account? = some account)
  (hrequest : ticket.request = ticket'.request) {steady : RateCache σ → Prop}
  (hstep : Bank.CallInStep (ht.tandem hd hd' hturn hturn' hid) steady turn turn')

include haccount hrequest hstep

/-- After turns that come to the same, the rows of the account are held by partners. -/
lemma Twins.lock_inStep (c : Currency) : ((d.step event).bank.store.lock ⟨account, c⟩).Same
    (Partners account requests (d.step event) (d'.step event'))
    ((d'.step event').bank.store.lock ⟨account, c⟩) := by
  have hsame : ((d.step event).bank.store.lock ⟨account, c⟩).Same
      (PartnersIn account requests d d' id tx tx')
      ((d'.step event').bank.store.lock ⟨account, c⟩) := by
    rw [hturn.bank_step, hturn'.bank_step]
    exact hstep.abreast.store.lock c
  refine hsame.mono fun {t t'} hpartners hk hk' => ?_
  have hopen := (hd.step event).disciplined.isOpen_of_knows hk
  have hopen' := (hd'.step event').disciplined.isOpen_of_knows hk'
  rcases hpartners with ⟨rfl, rfl⟩ | ⟨i, hi, ho, ho'⟩
  · -- the two that acted still know the row, so their call waits
    exact ⟨id, hturn.ownsFor_of_isOpen haccount hopen,
      hturn'.ownsFor_of_isOpen (hrequest ▸ haccount) hopen'⟩
  · have hi' := rank_ne hi (ht.remains_of_ownsFor ho) hid
    exact ⟨i, (hturn.ownsFor_step hi).mpr ho, (hturn'.ownsFor_step hi').mpr ho'⟩

/-- The same results have been added to the logs. -/
lemma Twins.results_inStep : List.Forall₂ (Entry.Same account requests)
    ((d.step event).log.filter (·.isResultFor account))
    ((d'.step event').log.filter (·.isResultFor account)) := by
  rw [hturn.filter_log, hturn'.filter_log]
  refine List.rel_append ht.results ?_
  have hturns := hstep.turn
  generalize turn.2 = result at hturns
  generalize turn'.2 = result' at hturns
  cases hturns with
  | waiting => exact .nil
  | done houtcome =>
      rw [filter_noteEnd haccount, filter_noteEnd (hrequest ▸ haccount)]
      exact .cons (.mk id hrequest houtcome) .nil

/-- The calls for the account wait at the same points. -/
lemma Twins.own_inStep {i : ℕ} (hr : requests[i]? = some r) (hown : r.account? = some account) :
    Option.Rel (Beside account (d.step event) (d'.step event')) ((d.step event).waiting.get? i)
      ((d'.step event').waiting.get? (rank account requests i)) := by
  -- the call that has a turn goes on alike at both; the others stay as they are
  by_cases hi : i = id
  · subst hi
    have hturns := hstep.turn
    generalize hresult : turn.2 = result at hturns
    generalize hresult' : turn'.2 = result' at hturns
    cases hturns with
    | done houtcome =>
        rw [hturn.get?_of_done hresult, hturn'.get?_of_done hresult']
        exact .none
    | waiting hcall =>
        rw [hturn.get?_self.mpr ⟨rfl, hresult⟩, hturn'.get?_self.mpr ⟨rfl, hresult'⟩]
        refine .some ⟨haccount, hrequest, tx, tx', hcall, ?_⟩
        rw [hturn.bank_step, hturn'.bank_step]
        exact hstep.abreast.store.content
  · have hi' := rank_ne hi (remains_of_own hr hown) hid
    refine ht.own_of_eq hr hown (hturn.get?_of_ne hi) (hturn'.get?_of_ne hi') (fun ho => ?_)
      fun ho => ?_
    · exact hturn.transaction_eq hd hi ho
    · exact hturn'.transaction_eq hd' hi' ho

/-- Turns of one call for the account that come to the same keep two desks in agreement. -/
theorem Twins.of_inStep (ha : d.bank.store.IsAudited) (ha' : d'.bank.store.IsAudited)
    (hnumber : requests[id]? = some ticket.request)
    (hapart : (d.step event).bank.store.names.Apart)
    (hapart' : (d'.step event').bank.store.names.Apart) :
    Twins account requests (d.step event) (d'.step event') := by
  have hbank := hturn.bank_step
  have hbank' := hturn'.bank_step
  obtain ⟨records, records', hjournal, hjournal', hrecords⟩ := hstep.abreast.store.journal
  obtain ⟨events, events', houtbox, houtbox', hevents⟩ := hstep.abreast.store.outbox
  -- all that is added in the turn belongs to the account, at both desks
  obtain ⟨hhistory, hnotices⟩ := hturn.grown haccount ha hapart hjournal houtbox
  obtain ⟨hhistory', hnotices'⟩ :=
    hturn'.grown (hrequest ▸ haccount) ha' hapart' hjournal' houtbox'
  constructor
  case clock => exact hbank ▸ hbank' ▸ hstep.abreast.clock
  case thresholds => exact hbank ▸ hbank' ▸ hstep.abreast.thresholds
  case lockTimeout => exact hbank ▸ hbank' ▸ hstep.abreast.store.lockTimeout
  case sheet => exact hbank ▸ hbank' ▸ hstep.abreast.store.sheet
  case lock => exact ht.lock_inStep hd hd' hturn hturn' hid haccount hrequest hstep
  case history =>
    rw [hbank, hbank', hhistory, hhistory']
    exact List.rel_append ht.history hrecords
  case events =>
    rw [hbank, hbank', hnotices, hnotices']
    exact List.rel_append ht.events hevents
  case results => exact ht.results_inStep hd hd' hturn hturn' hid haccount hrequest hstep
  case numbered =>
    intro i w hw
    by_cases hi : i = id
    · subst hi
      obtain ⟨hticket, -⟩ := hturn.get?_self.mp (show _ = some (w.1, w.2) from hw)
      rw [hticket]
      exact hnumber
    · rw [hturn.get?_of_ne hi] at hw
      exact ht.numbered hw
  case own =>
    intro i r hr hown
    exact ht.own_inStep hd hd' hturn hturn' hid haccount hrequest hstep hr hown
  case neutral =>
    intro i r w hr hnone hw
    -- a call for no account is not the one that has this turn
    have hi : i ≠ id := by
      rintro rfl
      obtain rfl := Option.some.inj (hr.symm.trans hnumber)
      simp [haccount] at hnone
    rw [hturn'.get?_of_ne (rank_ne hi (remains_of_none account hr hnone) hid)] at hw
    exact ht.neutral hr hnone hw

end InStep

end Own

variable {states : RateClient σ → Prop} {rate : CurrencyPair → Except RateError Decimal}
  (hsteady : RateClient.IsSteady states rate) {deadline : Option ℕ} {request : Request}

include hsteady

/-- A call for the account that starts at both desks. -/
theorem Twins.start_own (ht : Twins account requests d d') (hf : d.IsFit states rate)
    (hf' : d'.IsFit states rate) (hstarted : d'.started = rank account requests d.started)
    (hnumber : requests[d.started]? = some request) (haccount : request.account? = some account)
    (hapart : (d.step (.start deadline request)).bank.store.names.Apart)
    (hapart' : (d'.step (.start deadline request)).bank.store.names.Apart) :
    Twins account requests (d.step (.start deadline request))
      (d'.step (.start deadline request)) := by
  have hid : remains account requests d.started = true :=
    remains_of_own hnumber haccount
  obtain ⟨d₁, tx, ticket, hturn, hticket, -⟩ :=
    hf.isPrivate.exists_hasTurn hsteady hf.isSound (.start deadline request)
  obtain ⟨d₁', tx', ticket', hturn', hticket', -⟩ :=
    hf'.isPrivate.exists_hasTurn hsteady hf'.isSound (.start deadline request)
  obtain ⟨htx, hfresh⟩ := hturn.tx_eq hf.isSound.get?_started hf.isSound
  obtain ⟨htx', hfresh'⟩ := hturn'.tx_eq hf'.isSound.get?_started hf'.isSound
  rw [hstarted] at hturn'
  have hcontent : (d.bank.store.transaction tx).Same account (d'.bank.store.transaction tx') := by
    rw [hfresh, hfresh']
    exact Transaction.same_fresh account
  have habreast := ht.abreast hf.isSound hf'.isSound hturn hturn' hid hf.isPrivate hf'.isPrivate
    hcontent
  have hstep := habreast.startCall hsteady htx htx' ht.history haccount deadline
  exact ht.of_inStep hf.isSound hf'.isSound hturn hturn' hid (hticket ▸ haccount)
    (hticket.trans hticket'.symm) hstep hf.isAudited hf'.isAudited (hticket ▸ hnumber) hapart
    hapart'

/-- A call for the account that goes on at both desks. -/
theorem Twins.resume_own (ht : Twins account requests d d') (hf : d.IsFit states rate)
    (hf' : d'.IsFit states rate) {w w' : Ticket × Call} (hw : d.waiting.get? id = some w)
    (hw' : d'.waiting.get? (rank account requests id) = some w')
    (hbeside : Beside account d d' w w')
    (hapart : (d.step (.resume id)).bank.store.names.Apart)
    (hapart' : (d'.step (.resume (rank account requests id))).bank.store.names.Apart) :
    Twins account requests (d.step (.resume id))
      (d'.step (.resume (rank account requests id))) := by
  obtain ⟨ticket, call⟩ := w
  obtain ⟨ticket', call'⟩ := w'
  have hid : remains account requests id = true :=
    remains_of_own (ht.numbered hw) hbeside.isFor
  obtain ⟨d₁, tx, ticket₁, hturn, hticket, -⟩ :=
    hf.isPrivate.exists_hasTurn hsteady hf.isSound (.resume hw)
  obtain ⟨d₁', tx', ticket₁', hturn', hticket', -⟩ :=
    hf'.isPrivate.exists_hasTurn hsteady hf'.isSound (.resume hw')
  obtain ⟨t, t', hcall, hcontent⟩ := hbeside.waits
  obtain rfl := hturn.eq_of_owns ⟨ticket, call, hw, hcall.tx?_eq.1⟩
  obtain rfl := hturn'.eq_of_owns ⟨ticket', call', hw', hcall.tx?_eq.2⟩
  have habreast := ht.abreast hf.isSound hf'.isSound hturn hturn' hid hf.isPrivate hf'.isPrivate
    hcontent
  exact ht.of_inStep hf.isSound hf'.isSound hturn hturn' hid (hticket ▸ hbeside.isFor)
    (hticket.trans (hbeside.request.trans hticket'.symm)) (habreast.resumeCall hcall) hf.isAudited
    hf'.isAudited (hticket ▸ ht.numbered hw) hapart hapart'

end Desk

end Teller
