/-
What the calls for one account leave to those for all others.

* `Desk.Turns`: an event in which a call has a turn;
* `Desk.OwnsFor`: a call for an account that waits has this transaction;
* `Desk.IsPrivate`: the invariant of every run without faults and with rates that never change:
  every row is held and waited for by calls for its account only; `IsPrivate.run`;
* `IsPrivate.unmoved`: a turn of a call moves nothing that belongs to another account.
-/
import Teller.Proofs.Desk.Deadline
import Teller.Proofs.Desk.Ownership

namespace Teller

/-- Nothing is made to fail, and the rates stay as they are. -/
def Event.isCalm {σ : Type} : Event σ → Bool
  | inject _ => false
  | requote _ => false
  | _ => true

/-- Is this the end of a call for an account? -/
def Entry.isResultFor (account : AccountId) : Entry → Bool
  | ended _ ticket _ => ticket.request.account? = some account
  | _ => false

lemma Request.account?_ne_none {request : Request} (h : request.isMutation = true) :
    request.account? ≠ none := by
  cases request with
  | rates => simp [isMutation] at h
  | pairRate => simp [isMutation] at h
  | _ => simp [account?]

namespace Desk

variable {σ : Type} {d : Desk σ} {event : Event σ} {id id' : ℕ} {tx tx' : TxId} {ticket : Ticket}
  {request : Request} {turn : Bank σ × Turn Call Outcome} {account : AccountId}

/-- A call for an account that waits has this transaction. -/
def OwnsFor (d : Desk σ) (account : AccountId) (id : ℕ) (tx : TxId) : Prop :=
  ∃ ticket call, d.waiting.get? id = some (ticket, call) ∧ call.phase.tx? = some tx ∧
    ticket.request.account? = some account

lemma OwnsFor.owns (h : d.OwnsFor account id tx) : d.Owns id tx := by
  obtain ⟨ticket, call, hw, htx, -⟩ := h
  exact ⟨ticket, call, hw, htx⟩

/-- Every row is held and waited for by calls for its account only. -/
structure IsPrivate (states : RateClient σ → Prop) (rate : CurrencyPair → Except RateError Decimal)
    (d : Desk σ) : Prop where
  faults : d.bank.store.faults = []
  rates : d.bank.rates.IsSteady states rate
  /-- A call for an account does not wait for anything but a row. -/
  tx? {id : ℕ} {ticket : Ticket} {call : Call} : d.waiting.get? id = some (ticket, call) →
    ticket.request.account? ≠ none → call.phase.tx? ≠ none
  knows {key : WalletKey} {tx : TxId} : (d.bank.store.lock key).Knows tx →
    ∃ id, d.OwnsFor key.account id tx

lemma isPrivate_fresh {states : RateClient σ → Prop}
    {rate : CurrencyPair → Except RateError Decimal}
    (clock : Clock) (lockTimeout : ℕ) (ids : IdSupply) {rates : RateCache σ}
    (hrates : rates.IsSteady states rate) (thresholds : Thresholds) :
    (fresh clock lockTimeout ids rates thresholds).IsPrivate states rate where
  faults := rfl
  rates := hrates
  tx? := by simp [fresh]
  knows h := absurd h RowLock.not_knows_free

/-- The result that a turn of a call for the account adds to the log. -/
lemma filter_noteEnd (haccount : ticket.request.account? = some account) (outcome : Outcome) :
    (noteEnd id ticket (.done outcome)).filter (·.isResultFor account)
      = [.ended id ticket outcome] := by
  simp [noteEnd, Entry.isResultFor, haccount]

variable [RateProvider σ]

/-- An event in which a call has a turn. -/
inductive Turns (d : Desk σ) : Event σ → ℕ → Request → Bank σ × Turn Call Outcome → Prop where
  | start (deadline : Option ℕ) (request : Request) :
      Turns d (.start deadline request) d.started request (d.bank.startCall deadline request)
  | resume {id : ℕ} {ticket : Ticket} {call : Call}
      (hw : d.waiting.get? id = some (ticket, call)) :
      Turns d (.resume id) id ticket.request (d.bank.resumeCall call)

omit [RateProvider σ] in
/-- A call that has not come yet does not wait. -/
lemma IsSound.get?_started (hd : d.IsSound) : d.waiting.get? d.started = none :=
  Option.eq_none_iff_forall_not_mem.mpr fun _ hw => (hd.lt hw).ne rfl

/-- No time passes in a turn. -/
lemma Turns.clock_eq (h : d.Turns event id request turn) (hd : d.IsSound) :
    turn.1.clock = d.bank.clock := by
  have hdeadline : ∀ (deadline : Option ℕ) {step : Bank.Step σ},
      step.1.clock = d.bank.clock → (Bank.underDeadline deadline step).1.clock = d.bank.clock := by
    rintro deadline ⟨b, phase | outcome⟩ hclock
    · rw [Bank.underDeadline]
      split
      · rw [Bank.abandon]
        split <;> exact hclock
      · exact hclock
    · exact hclock
  cases h with
  | start deadline request =>
      exact hdeadline deadline (Bank.clock_start hd.disciplined hd.isProper request)
  | @resume id ticket call hw =>
      refine hdeadline call.deadline (hd.clock_operation (?_ : d.operation? (.resume id) = some _))
      rw [operation?, hw, Option.map_some]

lemma Turns.bank_step (h : d.Turns event id request turn) : (d.step event).bank = turn.1 := by
  cases h with
  | start deadline request => rfl
  | resume hw =>
      rw [Desk.step, hw]
      rfl

/-- Whatever waits after a turn of a call is that call, or has waited before. -/
lemma Turns.waiting_cases (h : d.Turns event id request turn) {w : Ticket × Call}
    (hw : (d.step event).waiting.get? id' = some w) :
    (id' = id ∧ w.1.request = request) ∨ d.waiting.get? id' = some w := by
  by_cases hne : id' = id
  · refine .inl ⟨hne, ?_⟩
    subst hne
    cases h with
    | start deadline request =>
        obtain ⟨hticket, -⟩ := get?_waiting_after_self.mp (show _ = some (w.1, w.2) from hw)
        rw [hticket]
    | resume hget =>
        rw [Desk.step, hget] at hw
        obtain ⟨hticket, -⟩ := get?_waiting_after_self.mp (show _ = some (w.1, w.2) from hw)
        rw [hticket]
        rfl
  · refine .inr ?_
    cases h with
    | start deadline request => exact (get?_waiting_after hne).symm.trans hw
    | resume hget =>
        rw [Desk.step, hget] at hw
        exact (get?_waiting_after hne).symm.trans hw

namespace HasTurn

variable {d₁ : Desk σ} (h : d.HasTurn event d₁ id tx ticket turn)

include h

lemma waiting_eq : d₁.waiting = d.waiting := by
  rcases h.received with ⟨-, rfl, -⟩ | ⟨deadline, -, -, rfl, -⟩
  · rfl
  · rfl

lemma bank_step : (d.step event).bank = turn.1 := by
  rw [h.step_eq]
  rfl

/-- All that is done to the store is done by the transaction that acts. -/
lemma path : Store.Path tx d.bank.store turn.1.store := h.bank_eq ▸ h.came.path

/-- All that a turn of a call for an account adds belongs to the account. -/
lemma grown (haccount : ticket.request.account? = some account) (ha : d.bank.store.IsAudited)
    (hapart : (d.step event).bank.store.names.Apart) {records : List TransactionRecord}
    (hjournal : turn.1.store.journal = d.bank.store.journal ++ records) {events : List OutboxEvent}
    (houtbox : turn.1.store.outbox.map (·.event) = d.bank.store.outbox.map (·.event) ++ events) :
    turn.1.store.transactionRecords account = d.bank.store.transactionRecords account ++ records ∧
      turn.1.store.eventsOf account = d.bank.store.eventsOf account ++ events := by
  rw [h.bank_step] at hapart
  rw [← h.bank_eq] at ha hjournal houtbox ⊢
  exact h.came.grown haccount ha hapart hjournal houtbox

/-- All other calls wait as they did. -/
lemma get?_of_ne (hne : id' ≠ id) : (d.step event).waiting.get? id' = d.waiting.get? id' := by
  rw [h.step_eq, get?_waiting_after hne, h.waiting_eq]

lemma get?_self {ticket' : Ticket} {call : Call} :
    (d.step event).waiting.get? id = some (ticket', call) ↔
      ticket' = ticket ∧ turn.2 = .waiting call := by
  rw [h.step_eq]
  exact get?_waiting_after_self

lemma get?_of_done {outcome : Outcome} (hdone : turn.2 = .done outcome) :
    (d.step event).waiting.get? id = none := by
  refine Option.eq_none_iff_forall_not_mem.mpr fun w hw => ?_
  have hwaiting := (h.get?_self.mp (show _ = some (w.1, w.2) from hw)).2
  simp [hdone] at hwaiting

lemma ownsFor_step (hne : id' ≠ id) :
    (d.step event).OwnsFor account id' tx' ↔ d.OwnsFor account id' tx' := by
  rw [OwnsFor, OwnsFor, h.get?_of_ne hne]

/-- The transaction that acts belongs to no other call. -/
lemma ne_of_owns (hne : id' ≠ id) (ho : d.Owns id' tx') : tx ≠ tx' := by
  rw [Owns, ← h.waiting_eq] at ho
  exact h.acts.ne h.isSound hne ho

/-- Transactions of other calls are about to change what they were about to change. -/
lemma transaction_eq (hd : d.IsSound) (hne : id' ≠ id) (ho : d.Owns id' tx') :
    (d.step event).bank.store.transaction tx' = d.bank.store.transaction tx' := by
  have hlater := h.path.later hd.disciplined (h.ne_of_owns hne ho)
  rw [h.bank_step, Store.transaction, Store.transaction, hlater.content]

/-- The call has no other transaction. -/
lemma eq_of_owns (ho : d.Owns id tx') : tx' = tx := by
  rw [Owns, ← h.waiting_eq] at ho
  exact h.acts.eq ho

/-- A call that has a turn is made for the account for which it has a transaction. -/
lemma account?_eq (hd : d.IsSound) (ho : d.OwnsFor account id tx') :
    ticket.request.account? = some account := by
  obtain ⟨ticket', call, hw, -, haccount⟩ := ho
  rcases h.received with ⟨-, -, ticket'', call'', hw', hrequest⟩ | ⟨deadline, -, rfl, -, -⟩
  · obtain ⟨rfl, rfl⟩ := Prod.mk.inj (Option.some.inj (hw'.symm.trans hw))
    exact hrequest ▸ haccount
  · exact absurd (hd.lt hw) (lt_irrefl _)

/-- The result that a turn adds to the log, if there is one. -/
lemma filter_log (account : AccountId) : (d.step event).log.filter (·.isResultFor account)
    = d.log.filter (·.isResultFor account)
      ++ (noteEnd id ticket turn.2).filter (·.isResultFor account) := by
  have hbegin : (noteBegin id d₁.bank turn.1).filter (·.isResultFor account) = [] := by
    rw [noteBegin]
    split <;> rfl
  have hlog : d₁.log.filter (·.isResultFor account) = d.log.filter (·.isResultFor account) := by
    rcases h.received with ⟨-, rfl, -⟩ | ⟨deadline, -, -, rfl, -⟩
    · rfl
    · rw [Desk.receive, List.filter_append]
      exact List.append_nil _
  rw [h.step_eq, Desk.after, List.filter_append, List.filter_append, hbegin, hlog, List.append_nil]

/-- A call that has not waited before acts in a transaction that begins. -/
lemma tx_eq (hnone : d.waiting.get? id = none) (hd : d.IsSound) :
    tx = ⟨d.bank.store.begun⟩ ∧ d.bank.store.transaction tx = .fresh := by
  have htx : tx = ⟨d.bank.store.begun⟩ := by
    rcases h.acts.mine with ⟨ticket', call, hw, -⟩ | ⟨heq, -⟩
    · rw [h.waiting_eq, hnone] at hw
      simp at hw
    · rw [heq, h.bank_eq]
  have hclosed : d.bank.store.transactions.get? tx = none :=
    Option.eq_none_iff_forall_not_mem.mpr fun t ht =>
      hd.disciplined.not_isOpen_begun ⟨t, htx ▸ ht⟩
  rw [Store.transaction, hclosed]
  exact ⟨htx, rfl⟩

/-- A transaction that acted and is open afterwards belongs to the call. -/
lemma ownsFor_of_isOpen (haccount : ticket.request.account? = some account)
    (ho : (d.step event).bank.store.IsOpen tx) : (d.step event).OwnsFor account id tx := by
  rw [h.bank_step] at ho
  obtain ⟨ticket', call, hw, htx⟩ := h.came.owns_of_isOpen ho
  rw [← h.step_eq] at hw
  exact ⟨ticket', call, hw, htx, (h.get?_self.mp hw).1 ▸ haccount⟩

end HasTurn

variable {states : RateClient σ → Prop} {rate : CurrencyPair → Except RateError Decimal}
  (hsteady : RateClient.IsSteady states rate)

include hsteady

/-- A call for no account reads rates in its turn, and nothing else happens; a call for an account
keeps step with itself. -/
lemma IsPrivate.exists_hasTurn (hp : d.IsPrivate states rate) (hd : d.IsSound)
    (h : d.Turns event id request turn) : ∃ d₁ tx ticket, d.HasTurn event d₁ id tx ticket turn ∧
      ticket.request = request ∧
      ((request.account? = none ∧ ∃ rates : RateCache σ, rates.IsSteady states rate ∧
          turn.1 = { d.bank with rates } ∧
          ∀ call, turn.2 = .waiting call → call.phase.row? = none) ∨
        ∃ account, request.account? = some account ∧
          Bank.CallInStep (Tandem.self account tx d.bank.store) (RateCache.IsSteady states rate)
            turn turn) := by
  cases h with
  | start deadline request =>
      obtain ⟨hthresholds, hcame⟩ :=
        Bank.came_startCall hd.disciplined hd.isProper deadline request
      refine ⟨d.receive request, ⟨d.bank.store.begun⟩, ⟨request, d.bank.rateAtStart? request⟩,
        ⟨rfl, .inr ⟨deadline, rfl, rfl, rfl, rfl⟩, hd.acts_receive request,
          isSound_receive hd request, hcame, hthresholds⟩, rfl, ?_⟩
      -- a call for no account reads rates; one for an account finds its own transaction still empty
      cases haccount : request.account? with
      | none =>
          exact .inl ⟨rfl, (Bank.onlyReads_start hsteady hp.rates haccount).underDeadline deadline⟩
      | some account =>
          refine .inr ⟨account, rfl, ?_⟩
          have hcontent : (d.bank.store.transaction ⟨d.bank.store.begun⟩).Same account
              (d.bank.store.transaction ⟨d.bank.store.begun⟩) := by
            have hnone : d.bank.store.transactions.get? ⟨d.bank.store.begun⟩ = none :=
              Option.eq_none_iff_forall_not_mem.mpr fun t ht =>
                hd.disciplined.not_isOpen_begun ⟨t, ht⟩
            rw [Store.transaction, hnone]
            exact Transaction.same_fresh account
          have hbank : Bank.Abreast (Tandem.self account ⟨d.bank.store.begun⟩ d.bank.store)
              (RateCache.IsSteady states rate) d.bank d.bank :=
            ⟨rfl, rfl, Tandem.abreast_self hp.faults hcontent, hp.rates, hp.rates⟩
          exact hbank.startCall hsteady rfl rfl (List.forall₂_same.mpr fun _ _ => rfl) haccount
            deadline
  | @resume id ticket call hw =>
      obtain ⟨tx, hacts, hcomes⟩ := hd.exists_acts hw
      obtain ⟨hthresholds, hcame⟩ := hcomes.standard
      refine ⟨d, tx, ticket.answered (d.bank.rateAtResume? call.phase),
        ⟨?_, .inl ⟨rfl, rfl, ticket, call, hw, rfl⟩, hacts, hd, hcame, hthresholds⟩, rfl, ?_⟩
      · rw [Desk.step, hw]
      -- a call that idles is for no account, one that waits at a row is for that of the row
      cases haccount : ticket.request.account? with
      | none =>
          rcases hd.waits hw with hidles | ⟨tx', hc⟩
          · exact .inl ⟨rfl, (Bank.onlyReads_resume hsteady hp.rates hidles haccount).underDeadline
              call.deadline⟩
          · exact absurd haccount (Request.account?_ne_none hc.isMutation)
      | some account =>
          refine .inr ⟨account, rfl, ?_⟩
          rcases hd.waits hw with hidles | ⟨tx', hc⟩
          · exact absurd hidles.tx?_eq (hp.tx? hw (by simp [haccount]))
          · obtain rfl : tx' = tx := hacts.eq ⟨ticket, call, hw, hc.tx?_eq⟩
            obtain ⟨hphase, hcontent⟩ := hc.same haccount
            have hbank : Bank.Abreast (Tandem.self account tx' d.bank.store)
                (RateCache.IsSteady states rate) d.bank d.bank :=
              ⟨rfl, rfl, Tandem.abreast_self hp.faults hcontent, hp.rates, hp.rates⟩
            exact hbank.resumeCall ⟨hphase, rfl⟩

omit hsteady in
/-- The transaction that acts in a turn knows no rows of other accounts. -/
lemma IsPrivate.account?_of_knows (hp : d.IsPrivate states rate) (hd : d.IsSound) {d₁ : Desk σ}
    (h : d.HasTurn event d₁ id tx ticket turn) {key : WalletKey}
    (hk : (d.bank.store.lock key).Knows tx) : ticket.request.account? = some key.account := by
  obtain ⟨id', ho⟩ := hp.knows hk
  by_cases hne : id' = id
  · exact h.account?_eq hd (hne ▸ ho)
  · exact absurd rfl (h.ne_of_owns hne ho.owns)

/-- Every turn keeps the rows apart. -/
lemma IsPrivate.turns (hp : d.IsPrivate states rate) (hd : d.IsSound)
    (h : d.Turns event id request turn) : (d.step event).IsPrivate states rate := by
  obtain ⟨d₁, tx, ticket, hturn, rfl, hcases⟩ := hp.exists_hasTurn hsteady hd h
  have hbank := hturn.bank_step
  -- with rates only, all rows stay as they are; else rows of the account alone are asked for
  rcases hcases with ⟨hnone, rates, hrates, hturn₁, -⟩ | ⟨account, haccount, hstep⟩
  · refine ⟨?_, ?_, fun {id' ticket' call} hw hsome => ?_, fun {key tx'} hk => ?_⟩
    · rw [hbank, hturn₁]
      exact hp.faults
    · rw [hbank, hturn₁]
      exact hrates
    · by_cases hne : id' = id
      · subst hne
        obtain ⟨rfl, -⟩ := hturn.get?_self.mp hw
        exact absurd hnone hsome
      · rw [hturn.get?_of_ne hne] at hw
        exact hp.tx? hw hsome
    · rw [hbank, hturn₁] at hk
      obtain ⟨id', ho⟩ := hp.knows hk
      refine ⟨id', (hturn.ownsFor_step ?_).mpr ho⟩
      rintro rfl
      simp [hturn.account?_eq hd ho] at hnone
  · refine ⟨?_, ?_, fun {id' ticket' call} hw hsome => ?_, fun {key tx'} hk => ?_⟩
    · rw [hbank]
      exact hstep.abreast.store.faults
    · rw [hbank]
      exact hstep.abreast.rates
    · by_cases hne : id' = id
      · subst hne
        have hwaiting := hstep.turn
        rw [(hturn.get?_self.mp hw).2] at hwaiting
        cases hwaiting with
        | waiting hcall =>
            obtain ⟨c, giveUpAt, hrow, -⟩ := hcall.phase.exists_row
            simp [Phase.tx?, hrow]
      · rw [hturn.get?_of_ne hne] at hw
        exact hp.tx? hw hsome
    · have hmine := hturn.ownsFor_of_isOpen haccount
      have hopen := (hd.step event).disciplined.isOpen_of_knows hk
      rw [hbank] at hk
      by_cases hbefore : (d.bank.store.lock key).Knows tx'
      · obtain ⟨id', ho⟩ := hp.knows hbefore
        by_cases hne : id' = id
        · subst hne
          obtain rfl := hturn.eq_of_owns ho.owns
          obtain rfl := Option.some.inj (haccount.symm.trans (hturn.account?_eq hd ho))
          exact ⟨id', hmine hopen⟩
        · exact ⟨id', (hturn.ownsFor_step hne).mpr ho⟩
      · -- the transaction that acts has just asked for a row, of its own account
        obtain rfl := (hturn.path.knows hk).resolve_left hbefore
        by_cases hkey : key.account = account
        · exact ⟨id, hkey ▸ hmine hopen⟩
        · rw [hstep.abreast.store.spares hkey hbefore] at hk
          exact absurd hk hbefore

omit hsteady [RateProvider σ] in
lemma isPrivate_of_eq {d' : Desk σ} (hp : d.IsPrivate states rate)
    (hwaiting : d'.waiting = d.waiting) (hlocks : d'.bank.store.locks = d.bank.store.locks)
    (hfaults : d'.bank.store.faults = d.bank.store.faults) (hrates : d'.bank.rates = d.bank.rates) :
    d'.IsPrivate states rate where
  faults := hfaults.trans hp.faults
  rates := hrates ▸ hp.rates
  tx? hw := hp.tx? (hwaiting ▸ hw)
  knows {key tx} hk := by
    rw [Store.lock, hlocks] at hk
    obtain ⟨id, ho⟩ := hp.knows hk
    refine ⟨id, ?_⟩
    rwa [OwnsFor, hwaiting]

/-- Every event without a fault keeps the rows apart. -/
theorem IsPrivate.step (hp : d.IsPrivate states rate) (hd : d.IsSound)
    (hcalm : event.isCalm = true) : (d.step event).IsPrivate states rate := by
  cases event with
  | start deadline request => exact hp.turns hsteady hd (.start deadline request)
  | resume id =>
      cases hw : d.waiting.get? id with
      | none =>
          rw [Desk.step, hw]
          exact hp
      | some pair => exact hp.turns hsteady hd (.resume hw)
  | advance millis => exact isPrivate_of_eq hp rfl rfl rfl rfl
  | ring => exact isPrivate_of_eq hp rfl rfl rfl rfl
  | publish ids => exact isPrivate_of_eq hp rfl rfl rfl rfl
  | inject point => simp [Event.isCalm] at hcalm
  | requote rates => simp [Event.isCalm] at hcalm

/-- So does every run. -/
theorem IsPrivate.run (hp : d.IsPrivate states rate) (hd : d.IsSound) {events : List (Event σ)}
    (hcalm : ∀ event ∈ events, event.isCalm = true) : (d.run events).IsPrivate states rate := by
  induction events generalizing d with
  | nil => exact hp
  | cons event events ih =>
      exact ih (hp.step hsteady hd (hcalm event List.mem_cons_self)) (hd.step event)
        fun e he => hcalm e (List.mem_cons_of_mem _ he)

/-! ### What is left alone -/

/-- A turn of a call leaves the locks of the rows of all other accounts as they are. -/
lemma IsPrivate.lock_eq (hp : d.IsPrivate states rate) (hd : d.IsSound)
    (h : d.Turns event id request turn) (hother : request.account? ≠ some account) (c : Currency) :
    (d.step event).bank.store.lock ⟨account, c⟩ = d.bank.store.lock ⟨account, c⟩ := by
  obtain ⟨d₁, tx, ticket, hturn, rfl, hcases⟩ := hp.exists_hasTurn hsteady hd h
  rw [hturn.bank_step]
  rcases hcases with ⟨-, rates, -, hturn₁, -⟩ | ⟨account', haccount, hstep⟩
  · rw [hturn₁]
  · have hne : account ≠ account' := by
      rintro rfl
      exact hother haccount
    exact hstep.abreast.store.spares hne fun hk => hother (hp.account?_of_knows hd hturn hk)

/-- A turn of a call moves nothing that belongs to another account. -/
theorem IsPrivate.unmoved (hp : d.IsPrivate states rate) (hd : d.IsSound)
    (ha : d.bank.store.IsAudited) (h : d.Turns event id request turn)
    (hother : request.account? ≠ some account)
    (hapart : (d.step event).bank.store.names.Apart) :
    d.bank.store.Unmoved account (d.step event).bank.store := by
  obtain ⟨d₁, tx, ticket, hturn, rfl, -⟩ := hp.exists_hasTurn hsteady hd h
  rw [hturn.bank_step] at hapart ⊢
  exact hturn.bank_eq ▸ hturn.came.unmoved hother (hturn.bank_eq.symm ▸ ha) hapart

omit hsteady [RateProvider σ] in
/-- What belongs to an account is as it was, and all calls but perhaps one wait as they did. -/
structure Spares (account : AccountId) (who : Option ℕ) (d d' : Desk σ) : Prop where
  thresholds : d'.bank.thresholds = d.bank.thresholds
  lockTimeout : d'.bank.store.lockTimeout = d.bank.store.lockTimeout
  unmoved : d.bank.store.Unmoved account d'.bank.store
  lock (c : Currency) : d'.bank.store.lock ⟨account, c⟩ = d.bank.store.lock ⟨account, c⟩
  results : d'.log.filter (·.isResultFor account) = d.log.filter (·.isResultFor account)
  waiting {id : ℕ} : some id ≠ who → d'.waiting.get? id = d.waiting.get? id
  transaction {id : ℕ} {tx : TxId} : some id ≠ who → d.Owns id tx →
    d'.bank.store.transaction tx = d.bank.store.transaction tx

omit hsteady [RateProvider σ] in
lemma spares_refl (account : AccountId) (who : Option ℕ) (d : Desk σ) : d.Spares account who d :=
  ⟨rfl, rfl, ⟨fun _ => rfl, rfl, rfl⟩, fun _ => rfl, rfl, fun _ => rfl, fun _ _ => rfl⟩

omit hsteady in
/-- An event that is no turn of a call. -/
lemma rests_step (d : Desk σ) {event : Event σ} (h : d.caller? event = none) :
    d.Rests (d.step event) := by
  cases event with
  | start => simp [caller?] at h
  | resume => simp [caller?] at h
  | publish ids =>
      exact ⟨rfl, rfl, rfl, rfl, rfl, Store.events_markPublished d.bank.store ids, rfl, rfl, rfl,
        rfl, rfl⟩
  | _ => exact ⟨rfl, rfl, rfl, rfl, rfl, rfl, rfl, rfl, rfl, rfl, rfl⟩

omit hsteady [RateProvider σ] in
/-- Where nothing has a turn, all that belongs to an account stays. -/
lemma Rests.spares {d' : Desk σ} (h : d.Rests d')
    (hlockTimeout : d'.bank.store.lockTimeout = d.bank.store.lockTimeout) (account : AccountId) :
    d.Spares account none d' where
  thresholds := h.thresholds
  lockTimeout := hlockTimeout
  unmoved :=
    { wallet := fun c => by rw [h.wallets]
      records := by
        rw [Store.transactionRecords, Store.transactionRecords, Store.walletsOf, Store.walletsOf,
          h.wallets, h.journal]
      events := by rw [Store.eventsOf, Store.eventsOf, h.events] }
  lock c := by rw [Store.lock, Store.lock, h.locks]
  results := by rw [h.log]
  waiting _ := by rw [h.waiting]
  transaction _ _ := by rw [Store.transaction, Store.transaction, h.transactions]

/-- A turn of a call leaves to all other accounts what belongs to them. -/
theorem IsPrivate.spares (hp : d.IsPrivate states rate) (hd : d.IsSound)
    (ha : d.bank.store.IsAudited) (h : d.Turns event id request turn)
    (hother : request.account? ≠ some account)
    (hapart : (d.step event).bank.store.names.Apart) :
    d.Spares account (some id) (d.step event) := by
  have hunmoved := hp.unmoved hsteady hd ha h hother hapart
  have hlock := hp.lock_eq hsteady hd h hother
  obtain ⟨d₁, tx, ticket, hturn, rfl, -⟩ := hp.exists_hasTurn hsteady hd h
  have hpath : Store.Path tx d.bank.store (d.step event).bank.store :=
    hturn.bank_step ▸ hturn.path
  refine ⟨?_, hpath.lockTimeout_eq, hunmoved, hlock, ?_, fun hne => ?_, fun hne ho => ?_⟩
  · rw [hturn.bank_step, hturn.thresholds]
  · rw [hturn.filter_log]
    cases turn.2 with
    | waiting call => exact List.append_nil _
    | done outcome =>
        rw [noteEnd, List.filter_cons_of_neg, List.filter_nil, List.append_nil]
        simpa [Entry.isResultFor] using hother
  · exact hturn.get?_of_ne fun heq => hne (congrArg some heq)
  · exact hturn.transaction_eq hd (fun heq => hne (congrArg some heq)) ho

omit hsteady [RateProvider σ] in
/-- A call for an account that waits, waits for a row of it, which only calls for that account hold
and wait for. -/
theorem IsPrivate.exists_row (hp : d.IsPrivate states rate) (hd : d.IsSound) {call : Call}
    (hw : d.waiting.get? id = some (ticket, call))
    (haccount : ticket.request.account? = some account) :
    ∃ row, call.phase.row? = some row ∧ row.key.account = account ∧
      ∀ tx, (d.bank.store.lock row.key).Knows tx → ∃ id', d.OwnsFor account id' tx := by
  rcases hd.waits hw with hidles | ⟨tx, hc⟩
  · exact absurd hidles.tx?_eq (hp.tx? hw (by simp [haccount]))
  · obtain ⟨c, giveUpAt, hrow, -⟩ := (hc.same haccount).1.exists_row
    exact ⟨_, hrow, rfl, fun tx' hk => hp.knows hk⟩

end Desk

end Teller
