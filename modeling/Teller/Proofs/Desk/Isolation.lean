/-
No call for an account makes a difference to any other account.

* `Twins.left`, `Twins.right`: two desks that agree about an account still do when a call that is
  not for it has a turn at one of them;
* `Twins.step`: so they do after an event of a run, and what it is without the calls for other
  accounts;
* `Desk.Isolates`, `Desk.isolates_run`: whether the calls for other accounts are made or not, all
  that concerns the account is the same, apart from identifiers.
-/
import Teller.Proofs.Desk.Twins

namespace Teller

namespace Desk

variable {σ : Type} {account : AccountId} {requests : List Request} {d d' : Desk σ} {id : ℕ}
  {r request : Request} {deadline : Option ℕ} {event : Event σ} {turn : Bank σ × Turn Call Outcome}
  {events : List (Event σ)} [RateProvider σ] {states : RateClient σ → Prop}
  {rate : CurrencyPair → Except RateError Decimal} {clock : Clock} {lockTimeout : ℕ}
  {ids : IdSupply} {rates : RateCache σ} {thresholds : Thresholds}

/-! ### Events -/

section Events

variable (hsteady : RateClient.IsSteady states rate) (ht : Twins account requests d d')

include hsteady ht

/-- A call that is not for the account has a turn in the run in which all calls are made. -/
theorem Twins.left (hf : d.IsFit states rate) (h : d.Turns event id request turn)
    (hother : request.account? ≠ some account) (hnumber : requests[id]? = some request)
    (hapart : (d.step event).bank.store.names.Apart) :
    Twins account requests (d.step event) d' := by
  have hspares := hf.isPrivate.spares hsteady hf.isSound hf.isAudited h hother hapart
  refine ht.spares hspares (spares_refl account none d') ?_ (fun {i r} hr haccount => ?_)
    (fun {i w} hw => ?_) ht.neutral
  · rw [h.bank_step, h.clock_eq hf.isSound, ht.clock]
  · refine ⟨fun heq => hother ?_, by simp⟩
    rw [Option.some.inj heq, hnumber] at hr
    exact Option.some.inj hr ▸ haccount
  · rcases h.waiting_cases hw with ⟨rfl, hrequest⟩ | hw
    · rw [hrequest]
      exact hnumber
    · exact ht.numbered hw

/-- A call for no account has a turn in the other run. -/
theorem Twins.right (hf' : d'.IsFit states rate) (hr : requests[id]? = some r)
    (hnone : r.account? = none) (h : d'.Turns event (rank account requests id) request turn)
    (hnone' : request.account? = none) (hapart : (d'.step event).bank.store.names.Apart) :
    Twins account requests d (d'.step event) := by
  have hspares := hf'.isPrivate.spares hsteady hf'.isSound hf'.isAudited h
    (show request.account? ≠ some account by simp [hnone']) hapart
  refine ht.spares (spares_refl account none d) hspares ?_ (fun {i r'} hr' haccount => ?_)
    ht.numbered (fun {i r' w} hr' hnone'' hw => ?_)
  · rw [h.bank_step, h.clock_eq hf'.isSound, ht.clock]
  · -- a call for the account has another number than a call for no account
    refine ⟨by simp, fun heq => ?_⟩
    obtain rfl := eq_of_rank_eq (remains_of_own hr' haccount) (remains_of_none account hr hnone)
      (Option.some.inj heq)
    obtain rfl := Option.some.inj (hr.symm.trans hr')
    simp [hnone] at haccount
  · rcases h.waiting_cases hw with ⟨-, hrequest⟩ | hw
    · rw [hrequest]
      exact hnone'
    · exact ht.neutral hr' hnone'' hw

/-- A call starts, and is made in the other run as well if it is not for another account. -/
theorem Twins.start (hf : d.IsFit states rate) (hf' : d'.IsFit states rate)
    (hstarted : d'.started = rank account requests d.started)
    (hnumber : requests[d.started]? = some request)
    (hapart : (d.step (.start deadline request)).bank.store.names.Apart)
    (hapart' : (d'.run ((Event.start deadline request).without? account requests).toList
      ).bank.store.names.Apart) :
    Twins account requests (d.step (.start deadline request))
      (d'.run ((Event.start deadline request).without? account requests).toList) := by
  have hleft := fun hother =>
    ht.left hsteady hf (.start deadline request) hother hnumber hapart
  cases hforeign : request.isForeign account with
  | true =>
      simp only [Event.without?, hforeign, if_true, Option.toList_none]
      refine hleft fun haccount => ?_
      simp [isForeign_eq_false_iff.mpr (.inr haccount)] at hforeign
  | false =>
      simp only [Event.without?, hforeign, Bool.false_eq_true, if_false, Option.toList_some]
        at hapart' ⊢
      rcases isForeign_eq_false_iff.mp hforeign with hnone | haccount
      · -- it may end differently in the two runs: it is made in one of them, and then in the other
        have hturn : d'.Turns (.start deadline request) (rank account requests d.started) request
            (d'.bank.startCall deadline request) := hstarted ▸ .start deadline request
        exact (hleft (by simp [hnone])).right hsteady hf' hnumber hnone hturn hnone hapart'
      · exact ht.start_own hsteady hf hf' hstarted hnumber haccount hapart hapart'

/-- If a call that is not for the account waits, it may go on in the first run. -/
lemma Twins.resume_left (hf : d.IsFit states rate)
    (hother : ∀ r, requests[id]? = some r → r.account? ≠ some account)
    (hapart : (d.step (.resume id)).bank.store.names.Apart) :
    Twins account requests (d.step (.resume id)) d' := by
  cases hw : d.waiting.get? id with
  | none =>
      rw [Desk.step, hw]
      exact ht
  | some w =>
      have hnumber := ht.numbered hw
      exact ht.left hsteady hf (.resume hw) (hother _ hnumber) hnumber hapart

/-- If a call for no account waits, it may go on in the other run. -/
lemma Twins.resume_right (hf' : d'.IsFit states rate) (hr : requests[id]? = some r)
    (hnone : r.account? = none)
    (hapart : (d'.step (.resume (rank account requests id))).bank.store.names.Apart) :
    Twins account requests d (d'.step (.resume (rank account requests id))) := by
  cases hw : d'.waiting.get? (rank account requests id) with
  | none =>
      rw [Desk.step, hw]
      exact ht
  | some w =>
      exact ht.right hsteady hf' hr hnone (.resume hw) (ht.neutral hr hnone hw) hapart

/-- A call goes on, in the other run as well if it is made there. -/
theorem Twins.resume (hf : d.IsFit states rate) (hf' : d'.IsFit states rate)
    (hapart : (d.step (.resume id)).bank.store.names.Apart)
    (hapart' : (d'.run ((Event.resume id).without? account requests).toList
      ).bank.store.names.Apart) :
    Twins account requests (d.step (.resume id))
      (d'.run ((Event.resume id).without? account requests).toList) := by
  cases hid : remains account requests id with
  | false =>
      simp only [Event.without?, hid, Bool.false_eq_true, if_false, Option.toList_none]
      refine ht.resume_left hsteady hf (fun r hr haccount => ?_) hapart
      simp [remains_of_own hr haccount] at hid
  | true =>
      simp only [Event.without?, hid, if_true, Option.toList_some] at hapart' ⊢
      obtain ⟨r, hr, hforeign⟩ := remains_iff.mp hid
      rcases isForeign_eq_false_iff.mp hforeign with hnone | haccount
      · have hother : ∀ r', requests[id]? = some r' → r'.account? ≠ some account := by
          rintro r' hr' haccount
          obtain rfl := Option.some.inj (hr.symm.trans hr')
          simp [hnone] at haccount
        exact (ht.resume_left hsteady hf hother hapart).resume_right hsteady hf' hr hnone hapart'
      · have hown := ht.own hr haccount
        generalize hw : d.waiting.get? id = w at hown
        generalize hw' : d'.waiting.get? (rank account requests id) = w' at hown
        cases hown with
        | none =>
            show Twins account requests (d.step (.resume id)) (d'.step (.resume _))
            rw [Desk.step, Desk.step, hw, hw']
            exact ht
        | some hbeside => exact ht.resume_own hsteady hf hf' hw hw' hbeside hapart hapart'

omit hsteady in
/-- No call has a turn, in neither run. -/
lemma Twins.rests (hl : d.caller? event = none) (hr : d'.caller? event = none)
    (hlockTimeout : (d.step event).bank.store.lockTimeout = d.bank.store.lockTimeout)
    (hlockTimeout' : (d'.step event).bank.store.lockTimeout = d'.bank.store.lockTimeout)
    (hclock : (d.step event).bank.clock = (d'.step event).bank.clock) :
    Twins account requests (d.step event) (d'.step event) := by
  have hrests := d.rests_step hl
  have hrests' := d'.rests_step hr
  exact ht.spares (hrests.spares hlockTimeout account) (hrests'.spares hlockTimeout' account) hclock
    (fun _ _ => by simp) (fun hw => ht.numbered (hrests.waiting ▸ hw))
    fun hr' hnone hw => ht.neutral hr' hnone (hrests'.waiting ▸ hw)

/-- The same happens in both runs, if it is not about a call for another account. -/
theorem Twins.step (hf : d.IsFit states rate) (hf' : d'.IsFit states rate)
    (hstarted : d'.started = rank account requests d.started) (hcalm : event.isCalm = true)
    (hnumber : ∀ deadline request, event = .start deadline request →
      requests[d.started]? = some request)
    (hapart : (d.step event).bank.store.names.Apart)
    (hapart' : (d'.run (event.without? account requests).toList).bank.store.names.Apart) :
    Twins account requests (d.step event) (d'.run (event.without? account requests).toList) := by
  cases event with
  | start deadline request =>
      exact ht.start hsteady hf hf' hstarted (hnumber deadline request rfl) hapart hapart'
  | resume id => exact ht.resume hsteady hf hf' hapart hapart'
  | advance millis => exact ht.rests rfl rfl rfl rfl (congrArg (·.advance millis) ht.clock)
  | ring => exact ht.rests rfl rfl rfl rfl (congrArg Clock.ring ht.clock)
  | publish ids => exact ht.rests rfl rfl rfl rfl ht.clock
  | inject point => simp [Event.isCalm] at hcalm
  | requote rates => simp [Event.isCalm] at hcalm

end Events

/-! ### Runs -/

section Runs

/-- The calls of a run are numbered in their order. -/
lemma started_run (d : Desk σ) (events : List (Event σ)) :
    (d.run events).started = d.started + (requestsOf events).length := by
  induction events using List.reverseRecOn with
  | nil => rfl
  | append_singleton events event ih =>
      rw [run_concat, requestsOf_concat, List.length_append, ← Nat.add_assoc, ← ih]
      cases event with
      | start deadline request => rfl
      | resume id =>
          rw [Desk.step]
          split <;> rfl
      | _ => rfl

/-- A call that comes next gets the number that belongs to it, in both runs. -/
lemma started_without (hbegins : requestsOf events <+: requests) :
    ((fresh clock lockTimeout ids rates thresholds).run
        (events.filterMap (Event.without? account requests))).started
      = rank account requests
        ((fresh clock lockTimeout ids rates thresholds).run events).started := by
  obtain ⟨rest, rfl⟩ := hbegins
  simp only [started_run, requestsOf_without, ← List.countP_eq_length_filter, rank, fresh,
    Nat.zero_add, List.take_left]

/-- Identifiers that are different at the end of a run were different before. -/
lemma IsSound.apart_of_run (hd : d.IsSound) (hapart : (d.run events).bank.store.names.Apart) :
    d.bank.store.names.Apart := by
  induction events generalizing d with
  | nil => exact hapart
  | cons event events ih => exact (ih (hd.step event) hapart).of_le (hd.names_step event)

omit [RateProvider σ] in
lemma isFit_fresh (clock : Clock) (lockTimeout : ℕ) (ids : IdSupply)
    (hrates : rates.IsSteady states rate) (thresholds : Thresholds) :
    (fresh clock lockTimeout ids rates thresholds).IsFit states rate :=
  ⟨isSound_fresh .., isPrivate_fresh clock lockTimeout ids hrates thresholds, isAudited_fresh ..⟩

variable (hsteady : RateClient.IsSteady states rate)

include hsteady

lemma IsFit.run (hf : d.IsFit states rate) (hcalm : ∀ event ∈ events, event.isCalm = true)
    (hapart : (d.run events).bank.store.names.Apart) : (d.run events).IsFit states rate where
  isSound := hf.isSound.run events
  isPrivate := hf.isPrivate.run hsteady hf.isSound hcalm
  isAudited := hf.isSound.isAudited_run hf.isAudited hapart

/-- A run and what is left of it without the calls for other accounts come to the same for the
account. -/
theorem twins_run (hrates : rates.IsSteady states rate) (hbegins : requestsOf events <+: requests)
    (hcalm : ∀ event ∈ events, event.isCalm = true)
    (hapart : ((fresh clock lockTimeout ids rates thresholds).run events).bank.store.names.Apart)
    (hapart' : ((fresh clock lockTimeout ids rates thresholds).run
      (events.filterMap (Event.without? account requests))).bank.store.names.Apart) :
    Twins account requests ((fresh clock lockTimeout ids rates thresholds).run events)
      ((fresh clock lockTimeout ids rates thresholds).run
        (events.filterMap (Event.without? account requests))) := by
  have hf := isFit_fresh clock lockTimeout ids hrates thresholds
  -- from the end of the run, for its calls have the numbers that they have in all of `requests`
  induction events using List.reverseRecOn with
  | nil => exact twins_fresh ..
  | append_singleton events event ih =>
      have hsplit : (events ++ [event]).filterMap (Event.without? account requests)
          = events.filterMap (Event.without? account requests)
            ++ (event.without? account requests).toList := by
        rw [List.filterMap_append]
        cases hevent : event.without? account requests <;> simp [hevent]
      rw [run_concat] at hapart ⊢
      rw [hsplit, run_append] at hapart' ⊢
      rw [requestsOf_concat] at hbegins
      have hbegins' := (List.prefix_append ..).trans hbegins
      have hcalm' : ∀ event ∈ events, event.isCalm = true := fun event he =>
        hcalm event (List.mem_append_left _ he)
      have hbefore := hapart.of_le ((hf.isSound.run events).names_step event)
      have hbefore' := (hf.isSound.run _).apart_of_run hapart'
      refine (ih hbegins' hcalm' hbefore hbefore').step hsteady
        (hf.run hsteady hcalm' hbefore) (hf.run hsteady (isCalm_without hcalm') hbefore')
        (started_without hbegins') (hcalm event (by simp)) (fun deadline request heq => ?_) hapart
        hapart'
      subst heq
      rw [started_run]
      obtain ⟨rest, rfl⟩ := hbegins
      simp [fresh, requestsOf]

end Runs

/-! ### Isolation -/

/-- Whether the calls for other accounts are made or not, all that concerns the account is the same,
apart from identifiers. -/
structure Isolates (account : AccountId) (d : Desk σ) (events : List (Event σ)) : Prop where
  /-- The same calls for the account have ended, in the same order, and alike. -/
  results : List.Forall₂ (Entry.Same account (requestsOf events))
    ((d.run events).log.filter (·.isResultFor account))
    ((d.run (withoutOthers account events)).log.filter (·.isResultFor account))
  /-- The same calls for the account wait. -/
  waits {id : ℕ} {r : Request} : (requestsOf events)[id]? = some r → r.account? = some account →
    ((d.run events).waiting.get? id).isSome
      = ((d.run (withoutOthers account events)).waiting.get?
          (rank account (requestsOf events) id)).isSome
  balances : (d.run events).bank.store.readBalances account
    = (d.run (withoutOthers account events)).bank.store.readBalances account
  history : List.Forall₂ TransactionRecord.Same
    ((d.run events).bank.store.transactionRecords account)
    ((d.run (withoutOthers account events)).bank.store.transactionRecords account)
  outbox : List.Forall₂ OutboxEvent.Same ((d.run events).bank.store.eventsOf account)
    ((d.run (withoutOthers account events)).bank.store.eventsOf account)
  /-- No turn of a call for another account changes a wallet, a record or an event of the
  account. -/
  unmoved {n id : ℕ} {event : Event σ} {request : Request} {turn : Bank σ × Turn Call Outcome} :
    events[n]? = some event → (d.run (events.take n)).Turns event id request turn →
    request.account? ≠ some account →
    (d.run (events.take n)).bank.store.Unmoved account (d.run (events.take (n + 1))).bank.store
  /-- If a call for the account waits, it waits for a row of the account, and only calls for the
  account hold this row or wait for it. -/
  unhindered {n id : ℕ} {ticket : Ticket} {call : Call} :
    (d.run (events.take n)).waiting.get? id = some (ticket, call) →
    ticket.request.account? = some account →
    ∃ row, call.phase.row? = some row ∧ row.key.account = account ∧
      ∀ tx, ((d.run (events.take n)).bank.store.lock row.key).Knows tx →
        ∃ id', (d.run (events.take n)).OwnsFor account id' tx

/-- In every run without faults, with rates that are had at once and never change, and whose wallets
have identifiers of their own, every account is isolated from all others. -/
theorem isolates_run (hsteady : RateClient.IsSteady states rate) (clock : Clock) (lockTimeout : ℕ)
    (ids : IdSupply) (hrates : rates.IsSteady states rate) (thresholds : Thresholds)
    (account : AccountId) (hcalm : ∀ event ∈ events, event.isCalm = true)
    (hapart : ((fresh clock lockTimeout ids rates thresholds).run events).bank.store.names.Apart)
    (hapart' : ((fresh clock lockTimeout ids rates thresholds).run
      (withoutOthers account events)).bank.store.names.Apart) :
    (fresh clock lockTimeout ids rates thresholds).Isolates account events := by
  have ht : Twins account (requestsOf events) _ _ :=
    twins_run hsteady hrates List.prefix_rfl hcalm hapart hapart'
  have hf := isFit_fresh clock lockTimeout ids hrates thresholds
  -- wallets that are told apart at the end of the run are so at each point of it
  have hbefore : ∀ n, ((fresh clock lockTimeout ids rates thresholds).run
      (events.take n)).bank.store.names.Apart := fun n => by
    rw [← List.take_append_drop n events, run_append] at hapart
    exact (hf.isSound.run _).apart_of_run hapart
  have hfits : ∀ n, ((fresh clock lockTimeout ids rates thresholds).run
      (events.take n)).IsFit states rate := fun n =>
    hf.run hsteady (fun event he => hcalm event (List.mem_of_mem_take he)) (hbefore n)
  constructor
  case results => exact ht.results
  case waits =>
    intro id r hr haccount
    have hown := ht.own hr haccount
    rw [withoutOthers]
    generalize Table.get? _ id = w at hown ⊢
    generalize Table.get? _ (rank account (requestsOf events) id) = w' at hown ⊢
    cases hown <;> rfl
  case balances =>
    refine CurrencyMap.ext fun c => ?_
    rw [Store.get?_readBalances, Store.get?_readBalances]
    exact ht.sheet c
  case history => exact ht.history
  case outbox => exact ht.events
  case unmoved =>
    intro n id event request turn hevent hturn hother
    have hapart := hbefore (n + 1)
    rw [run_take_succ hevent] at hapart ⊢
    exact (hfits n).isPrivate.unmoved hsteady (hfits n).isSound (hfits n).isAudited hturn hother
      hapart
  case unhindered =>
    intro n id ticket call hw haccount
    exact (hfits n).isPrivate.exists_row (hfits n).isSound hw haccount

/-- Two accounts are opened, and money is paid in and exchanged in turns; the first account is not
concerned by what is done with the second. -/
theorem isolates_run_of_two_accounts :
    let provider := (SimulatedProvider.named "").setPair ⟨.usd, .eur⟩
      ⟨false, 9, 1, by decide, by decide⟩
    let first : AccountId := ⟨.random 0⟩
    let second : AccountId := ⟨.random 1⟩
    let paid : Decimal := ⟨false, 1250, 2, by decide, by decide⟩
    (fresh (.atRest 0) Store.standardLockTimeout .fresh
      (.empty ⟨provider, none⟩ RateCache.standardTtl) .standard).Isolates first
        [.start none (.openAccount second), .start none (.openAccount first),
          .start none (.deposit second .usd paid), .start none (.deposit first .usd paid),
          .start none (.exchange second .usd .eur paid), .advance 10,
          .start none (.exchange first .usd .eur paid), .start none (.history first)] := by
  intro provider first second paid
  have hprovider := SimulatedProvider.isSteady_quotes provider.pairs
  have hquotes : SimulatedProvider.Quotes provider.pairs provider := ⟨rfl, rfl, rfl⟩
  exact isolates_run (RateClient.isSteady_isPlain hprovider) _ _ _
    (RateCache.isSteady_empty ⟨hquotes, rfl⟩ _) _ _ (by decide)
    (apart_run _ _ _ _ _ _ (by decide +kernel)) (apart_run _ _ _ _ _ _ (by decide +kernel))

end Desk

end Teller
