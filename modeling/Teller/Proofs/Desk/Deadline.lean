/-
What a deadline does to a call, and what it does not.

* `Desk.operation?`: what the operation itself comes to in an event that is a turn of a call,
  whatever the deadline of the call; `Desk.deadline?`, that deadline;
* `IsSound.exists_after`: a turn is the turn of its operation under its deadline;
* `Desk.StartsUnder`: a call is started with a deadline; `IsSound.deadline?_eq` says that all of its
  turns are made under it;
* `Desk.KeepsDeadlines`: from its deadline on a call has one turn at most, and is given up in it if
  it would have to wait; `Desk.keepsDeadlines_run`: every run is like that;
* `Desk.CommitsInTime`: nothing is committed after a deadline;
  `Desk.not_commitsInTime_late_deposit`: a run that is not like that.
-/
import Teller.Proofs.Desk.Atomicity

namespace Teller

namespace Bank

variable {σ : Type} {b : Bank σ} {tx : TxId} {ticket : Ticket} {deadline : Option ℕ}

/-- A call that waits after a turn waits under its deadline, which has not come. -/
lemma underDeadline_eq_waiting {step : Step σ} {call : Call}
    (h : (underDeadline deadline step).2 = .waiting call) : call.deadline = deadline := by
  obtain ⟨b', phase | outcome⟩ := step
  · rw [underDeadline] at h
    split at h
    · simp at h
    · rw [← Turn.waiting.inj h]
  · simp [underDeadline] at h

/-- A call that would have to wait is given up once its deadline has come. -/
lemma underDeadline_of_isOver {phase : Phase} (h : b.clock.isOver deadline) :
    underDeadline deadline (b, .waiting phase)
      = (b.abandon phase, .done ⟨.error (.refused .deadlineExceeded), none⟩) :=
  if_pos h

lemma Comes.clock_eq {P : Store → Turn Phase (Except Failure Reply) → Prop}
    {f : [Arithmetic] → Step σ} (h : Comes b P f) : (@f .decimal).1.clock = b.clock := by
  obtain ⟨step, hsettles, hclock, -⟩ := h
  rw [show @f .decimal = step from hsettles.eq .decimal, hclock]

variable [RateProvider σ]

/-- No time passes while a call starts. -/
lemma clock_start (hs : b.store.Disciplined) (hp : b.store.sheet.IsProper) (request : Request) :
    (b.start request).1.clock = b.clock := by
  cases request with
  | verify account => rfl
  | _ => exact (comes_start hs hp False.elim _ (by simp)).clock_eq

end Bank

namespace Desk

variable {σ : Type} {d : Desk σ} {id limit m n : ℕ} {event : Event σ} {events : List (Event σ)}

/-- The deadline under which a turn of a call is made. -/
def deadline? (d : Desk σ) : Event σ → Option ℕ
  | .start deadline _ => deadline
  | .resume id => (d.waiting.get? id).bind (·.2.deadline)
  | _ => none

variable [RateProvider σ]

/-- What the operation of a call comes to in a turn, whatever the deadline of the call. -/
def operation? (d : Desk σ) : Event σ → Option (Bank.Step σ)
  | .start _ request => some (d.bank.start request)
  | .resume id => (d.waiting.get? id).map fun waiting => d.bank.resume waiting.2.phase
  | _ => none

/-- No time passes in a turn. -/
lemma IsSound.clock_operation (hd : d.IsSound) {step : Bank.Step σ}
    (h : d.operation? event = some step) : step.1.clock = d.bank.clock := by
  cases event with
  | start deadline request =>
      obtain rfl := Option.some.inj h
      exact Bank.clock_start hd.disciplined hd.isProper request
  | resume id =>
      obtain ⟨⟨ticket, call⟩, hw, rfl⟩ := Option.map_eq_some_iff.mp h
      rcases hd.waits hw with hidles | ⟨tx, hc⟩
      · exact (Bank.comes_resume_of_idles hd.disciplined hd.isProper False.elim hidles).clock_eq
      · exact (Bank.comes_resume_of_carries hd.disciplined hd.isProper hc).clock_eq
  | _ => simp [operation?] at h

/-- A turn of a call is the turn of its operation under its deadline. -/
lemma exists_after {step : Bank.Step σ} (h : d.operation? event = some step)
    (hcaller : d.caller? event = some id) :
    ∃ (d₁ : Desk σ) (ticket : Ticket), d₁.bank = d.bank ∧
      d.step event = d₁.after id ticket (Bank.underDeadline (d.deadline? event) step) := by
  cases event with
  | start deadline request =>
      obtain rfl := Option.some.inj h
      obtain rfl := Option.some.inj hcaller
      exact ⟨d.receive request, _, rfl, rfl⟩
  | resume id' =>
      obtain rfl := Option.some.inj hcaller
      obtain ⟨⟨ticket, call⟩, hw, rfl⟩ := Option.map_eq_some_iff.mp h
      refine ⟨d, ticket.answered (d.bank.rateAtResume? call.phase), rfl, ?_⟩
      simp only [Desk.step, hw, deadline?, Option.bind_some]
      rfl
  | _ => simp [operation?] at h

/-! ### The deadline of a call -/

/-- A call is started with this deadline. -/
def StartsUnder (d : Desk σ) (events : List (Event σ)) (id limit : ℕ) : Prop :=
  ∃ m request, events[m]? = some (.start (some limit) request) ∧
    id = (d.run (events.take m)).started

/-- A call that waits after an event waited before it, under the same deadline. -/
lemma exists_waiting_of_step (hlt : id < d.started) {ticket : Ticket} {call : Call}
    (h : (d.step event).waiting.get? id = some (ticket, call)) :
    ∃ ticket' call', d.waiting.get? id = some (ticket', call') ∧
      call'.deadline = call.deadline := by
  cases event with
  | start deadline request =>
      rw [Desk.step, get?_waiting_after hlt.ne] at h
      exact ⟨ticket, call, h, rfl⟩
  | resume id' =>
      rw [Desk.step] at h
      split at h
      · exact ⟨ticket, call, h, rfl⟩
      · next ticket' call' hw =>
        -- the call itself has had a turn, or another has
        by_cases hne : id = id'
        · subst hne
          obtain ⟨-, hturn⟩ := get?_waiting_after_self.mp h
          exact ⟨ticket', call', hw, (Bank.underDeadline_eq_waiting hturn).symm⟩
        · rw [get?_waiting_after hne] at h
          exact ⟨ticket, call, h, rfl⟩
  | _ => exact ⟨ticket, call, h, rfl⟩

lemma started_step (d : Desk σ) (deadline : Option ℕ) (request : Request) :
    (d.step (.start deadline request)).started = d.started + 1 := rfl

lemma started_le_step (d : Desk σ) (event : Event σ) : d.started ≤ (d.step event).started := by
  cases event with
  | start deadline request => exact Nat.le_succ _
  | resume id =>
      rw [Desk.step]
      split <;> exact le_rfl
  | _ => exact le_rfl

lemma started_le_run_take (d : Desk σ) (events : List (Event σ)) (h : m ≤ n) :
    (d.run (events.take m)).started ≤ (d.run (events.take n)).started :=
  Trace.rel_foldl_take (I := fun _ => True) (fun d d' : Desk σ => d.started ≤ d'.started)
    (fun _ _ h => h) (fun _ => le_rfl) le_trans (fun d event _ => d.started_le_step event) trivial h

/-- A call that has a turn has been started by then. -/
lemma IsSound.lt_started (hd : d.IsSound) {step : Bank.Step σ} (h : d.operation? event = some step)
    (hcaller : d.caller? event = some id) : id < (d.step event).started := by
  cases event with
  | start deadline request => exact Option.some.inj hcaller ▸ Nat.lt_succ_self _
  | resume id' =>
      obtain rfl := Option.some.inj hcaller
      obtain ⟨waiting, hw, -⟩ := Option.map_eq_some_iff.mp h
      exact (hd.lt hw).trans_le (d.started_le_step _)
  | _ => simp [operation?] at h

/-- A call that waits does so under the deadline with which it was started. -/
lemma deadline_of_waiting {request : Request} {ticket : Ticket} {call : Call}
    (hstart : events[m]? = some (.start (some limit) request)) (hlt : m < n)
    (hw : (d.run (events.take n)).waiting.get? (d.run (events.take m)).started
      = some (ticket, call)) : call.deadline = some limit := by
  -- on the events since the start of the call
  induction n, hlt using Nat.le_induction generalizing ticket call with
  | base =>
      rw [run_take_succ hstart] at hw
      exact Bank.underDeadline_eq_waiting (get?_waiting_after_self.mp hw).2
  | succ n hlt ih =>
      cases hget : events[n]? with
      | none =>
          rw [run_take_succ_of_none hget] at hw
          exact ih hw
      | some event =>
          have hstarted := d.started_le_run_take events hlt
          rw [run_take_succ hstart, started_step] at hstarted
          rw [run_take_succ hget] at hw
          obtain ⟨ticket', call', hw', hsame⟩ := exists_waiting_of_step hstarted hw
          exact hsame ▸ ih hw'

/-- All turns of a call are made under the deadline with which it was started. -/
lemma IsSound.deadline?_eq (hd : d.IsSound) (hstart : d.StartsUnder events id limit)
    (hget : events[n]? = some event) (hcaller : (d.run (events.take n)).caller? event = some id)
    {step : Bank.Step σ} (hop : (d.run (events.take n)).operation? event = some step) :
    (d.run (events.take n)).deadline? event = some limit := by
  obtain ⟨m, request, hm, rfl⟩ := hstart
  rcases lt_trichotomy n m with hlt | rfl | hlt
  · -- the call has not been started yet
    have hid := (hd.run (events.take n)).lt_started hop hcaller
    rw [← run_take_succ hget] at hid
    exact absurd (d.started_le_run_take events hlt) hid.not_ge
  · obtain rfl := Option.some.inj (hget.symm.trans hm)
    rfl
  · cases event with
    | start deadline request' =>
        have hid := d.started_le_run_take events hlt
        rw [run_take_succ hm, started_step] at hid
        exact absurd (Option.some.inj hcaller) (Nat.lt_of_succ_le hid).ne'
    | resume id' =>
        obtain rfl := Option.some.inj hcaller
        obtain ⟨⟨ticket, call⟩, hw, -⟩ := Option.map_eq_some_iff.mp hop
        rw [deadline?, hw]
        exact deadline_of_waiting hm hlt hw
    | _ => simp [operation?] at hop

/-! ### Runs -/

/-- An event of a run is a turn of this call, in which its operation comes to this. -/
def IsTurn (d : Desk σ) (events : List (Event σ)) (id n : ℕ) (step : Bank.Step σ) : Prop :=
  ∃ event, events[n]? = some event ∧ (d.run (events.take n)).caller? event = some id ∧
    (d.run (events.take n)).operation? event = some step

/-- What a deadline does to a call. -/
structure KeepsDeadlines (d : Desk σ) (events : List (Event σ)) : Prop where
  /-- A call that would have to wait when its deadline has come is given up: it ends then and there,
  has not changed the books in any of its turns, and nothing that it began is left. -/
  givesUp {id limit n : ℕ} {b : Bank σ} {phase : Phase} : d.StartsUnder events id limit →
    d.IsTurn events id n (b, .waiting phase) →
    (d.run (events.take n)).bank.clock.hasRung limit →
    (∃ ticket, (d.run (events.take (n + 1))).log.getLast?
        = some (.ended id ticket ⟨.error (.refused .deadlineExceeded), none⟩)) ∧
      (∀ k, ¬ d.Writes events id k) ∧
      ∀ tx, .began id tx ∈ (d.run (events.take (n + 1))).log →
        ¬ (d.run (events.take (n + 1))).bank.store.IsOpen tx ∧
          ∀ key, ¬ ((d.run (events.take (n + 1))).bank.store.lock key).Knows tx
  /-- A call that does not have to wait any more ends as it would without a deadline. -/
  finishes {id limit n : ℕ} {b : Bank σ} {outcome : Outcome} : d.StartsUnder events id limit →
    d.IsTurn events id n (b, .done outcome) →
    (d.run (events.take (n + 1))).bank = b ∧
      ∃ ticket, (d.run (events.take (n + 1))).log.getLast? = some (.ended id ticket outcome)
  /-- So if a call changes the books after its deadline, it does so in its first turn since then. -/
  writes {id limit k n : ℕ} {step : Bank.Step σ} : d.StartsUnder events id limit →
    d.Writes events id n → d.IsTurn events id k step → k < n →
    ¬ (d.run (events.take k)).bank.clock.hasRung limit

/-- A turn of a call in a run. -/
lemma IsSound.exists_after_run (hd : d.IsSound) (hstart : d.StartsUnder events id limit)
    {step : Bank.Step σ} (hturn : d.IsTurn events id n step) :
    ∃ (d₁ : Desk σ) (ticket : Ticket),
      d.run (events.take (n + 1))
          = d₁.after id ticket (Bank.underDeadline (some limit) step) ∧
        step.1.clock = (d.run (events.take n)).bank.clock := by
  obtain ⟨event, hget, hcaller, hop⟩ := hturn
  obtain ⟨d₁, ticket, -, hstep⟩ := exists_after hop hcaller
  refine ⟨d₁, ticket, ?_, (hd.run (events.take n)).clock_operation hop⟩
  rw [run_take_succ hget, hstep, hd.deadline?_eq hstart hget hcaller hop]

omit [RateProvider σ] in
lemma getLast?_log_after {ticket : Ticket} {turn : Bank σ × Turn Call Outcome} {outcome : Outcome}
    (h : turn.2 = .done outcome) :
    (d.after id ticket turn).log.getLast? = some (.ended id ticket outcome) := by
  rw [after, h, noteEnd, List.getLast?_concat]

/-- A call that would have to wait when its deadline has come ends in that turn. -/
lemma IsSound.getLast?_of_waiting (hd : d.IsSound) (hstart : d.StartsUnder events id limit)
    {b : Bank σ} {phase : Phase} (hturn : d.IsTurn events id n (b, .waiting phase))
    (hrung : (d.run (events.take n)).bank.clock.hasRung limit) :
    ∃ ticket, (d.run (events.take (n + 1))).log.getLast?
      = some (.ended id ticket ⟨.error (.refused .deadlineExceeded), none⟩) := by
  obtain ⟨d₁, ticket, hafter, hclock⟩ := hd.exists_after_run hstart hturn
  have hover : b.clock.isOver (some limit) = true := hclock ▸ hrung
  rw [hafter, Bank.underDeadline_of_isOver hover]
  exact ⟨ticket, getLast?_log_after rfl⟩

/-- A call that does not have to wait ends in that turn, and the bank is as its operation leaves
it. -/
lemma IsSound.getLast?_of_done (hd : d.IsSound) (hstart : d.StartsUnder events id limit)
    {b : Bank σ} {outcome : Outcome} (hturn : d.IsTurn events id n (b, .done outcome)) :
    (d.run (events.take (n + 1))).bank = b ∧
      ∃ ticket, (d.run (events.take (n + 1))).log.getLast? = some (.ended id ticket outcome) := by
  obtain ⟨d₁, ticket, hafter, -⟩ := hd.exists_after_run hstart hturn
  rw [hafter]
  exact ⟨rfl, ticket, getLast?_log_after rfl⟩

/-- A turn of a call from its deadline on is its last. -/
lemma IsSound.exists_ended (hd : d.IsSound) (hstart : d.StartsUnder events id limit)
    {step : Bank.Step σ} (hturn : d.IsTurn events id n step)
    (hrung : (d.run (events.take n)).bank.clock.hasRung limit) :
    ∃ ticket outcome, .ended id ticket outcome ∈ (d.run (events.take (n + 1))).log := by
  obtain ⟨b, phase | outcome⟩ := step
  · obtain ⟨ticket, hlast⟩ := hd.getLast?_of_waiting hstart hturn hrung
    exact ⟨ticket, _, List.mem_of_getLast? hlast⟩
  · obtain ⟨-, ticket, hlast⟩ := hd.getLast?_of_done hstart hturn
    exact ⟨ticket, outcome, List.mem_of_getLast? hlast⟩

/-- Every run is like that, whatever its calls have to wait for, and for how long. -/
theorem keepsDeadlines_run (clock : Clock) (lockTimeout : Nat) (ids : IdSupply)
    (rates : RateCache σ) (thresholds : Thresholds) (events : List (Event σ)) :
    (fresh clock lockTimeout ids rates thresholds).KeepsDeadlines events := by
  have hd := isSound_fresh clock lockTimeout ids rates thresholds
  have hl := logs_fresh clock lockTimeout ids rates thresholds
  constructor
  case givesUp =>
    intro id limit n b phase hstart hturn hrung
    obtain ⟨ticket, hlast⟩ := hd.getLast?_of_waiting hstart hturn hrung
    have hended := List.mem_of_getLast? hlast
    refine ⟨⟨ticket, hlast⟩, fun k => ?_, fun tx hbegan => ?_⟩
    · exact hd.not_writes_of_failed hl ((hd.log_prefix_run _).subset hended) rfl k
    · have hclosed := (hl.run hd (events.take (n + 1))).not_isOpen hended hbegan
      exact ⟨hclosed, fun key hknows =>
        hclosed ((hd.run (events.take (n + 1))).disciplined.isOpen_of_knows hknows)⟩
  case finishes =>
    intro id limit n b outcome hstart hturn
    exact hd.getLast?_of_done hstart hturn
  case writes =>
    intro id limit k n step hstart hwrites hturn hlt hrung
    obtain ⟨ticket, outcome, hended⟩ := hd.exists_ended hstart hturn hrung
    obtain ⟨event, hget, hcaller, hne⟩ := hwrites
    have hended' := (hd.log_prefix_run_take hlt).subset hended
    rw [run_take_succ hget, (hl.run hd _).step_eq_of_ended hended' hcaller] at hne
    exact hne rfl

/-! ### What is committed after a deadline -/

/-- Nothing is committed after the deadline of its call, and a call that starts after its deadline
commits nothing. -/
structure CommitsInTime (d : Desk σ) (events : List (Event σ)) : Prop where
  inTime {id limit n : ℕ} : d.StartsUnder events id limit → d.Writes events id n →
    (d.run (events.take n)).bank.clock.now ≤ limit
  late {limit m : ℕ} {request : Request} :
    events[m]? = some (.start (some limit) request) →
    limit < (d.run (events.take m)).bank.clock.now →
    ∀ n, ¬ d.Writes events (d.run (events.take m)).started n

/-- A deposit that is made ten milliseconds after its deadline, and does not have to wait, is
committed. -/
theorem not_commitsInTime_late_deposit :
    ¬ (fresh (.atRest 0) Store.standardLockTimeout .fresh
      (.empty ⟨SimulatedProvider.named "", none⟩ RateCache.standardTtl) .standard).CommitsInTime
        [.start none (.openAccount ⟨.random 0⟩), .advance 10, .ring,
          .start (some 0) (.deposit ⟨.random 0⟩ .usd ⟨false, 1250, 2, by decide, by decide⟩)] := by
  intro h
  refine h.late (m := 3) rfl (by decide +kernel) 3 ⟨_, rfl, rfl, fun hsame => ?_⟩
  have hlength := congrArg (fun books => books.journal.length) hsame
  exact absurd hlength (by decide +kernel)

end Desk

end Teller
