/-
The stages of the operations at a desk, from their start to their end.

* `Desk.openedAt`: a desk that has just been opened at a bank, in whatever state that is;
* `Desk.KeepsTrack`: the invariant of every run: calls wait on their tracks, and have ended in one
  of the ways of `Outcome.Closes`; `KeepsTrack.after` is its step;
* `Desk.FollowsStages`: what this means for the trails that the calls of a run leave: no stage is
  asked for that may not follow, and the last stages tell what has become of the transaction;
* `Desk.followsStages_run`: every run is like that.
-/
import Teller.Proofs.Desk.Deadline
import Teller.Proofs.Desk.Stages

namespace Teller

/-- The trail that a turn leaves. -/
def Bank.trail? : Turn Phase Outcome → Option Trail
  | .waiting phase => phase.trail?
  | .done outcome => outcome.trail

lemma Bank.Treads.isAccepted {ticket : Ticket} {opened written : Prop} {turn : Turn Phase Outcome}
    (h : Bank.Treads ticket opened written turn) {t : Trail} (ht : Bank.trail? turn = some t) :
    t.IsAccepted := by
  cases turn with
  | waiting phase => exact (h.1.reaches ht).isAccepted
  | done outcome =>
      obtain ⟨stage, hlast⟩ := h.exists_reaches ht
      exact hlast.isAccepted

namespace Desk

variable {σ : Type} {d d' : Desk σ} {id : ℕ} {ticket : Ticket} {event : Event σ}
  {events : List (Event σ)} {turn : Bank σ × Turn Call Outcome} {wrote wrote' : ℕ → Prop}

/-- A desk that has just been opened at a bank, in whatever state that is. -/
def openedAt (b : Bank σ) : Desk σ := ⟨b, .empty, 0, []⟩

/-- A transaction of the call has begun. -/
def HasBegun (d : Desk σ) (id : ℕ) : Prop := ∃ tx, .began id tx ∈ d.log

/-! ### The invariant -/

/-- All calls keep to their stages, where `wrote` says which have changed the books. -/
structure KeepsTrack (d : Desk σ) (wrote : ℕ → Prop) : Prop where
  unborn {id : ℕ} : d.started ≤ id → ¬ d.HasBegun id ∧ ¬ wrote id
  lt {id : ℕ} {waiting : Ticket × Call} : d.waiting.get? id = some waiting → id < d.started
  waits {id : ℕ} {ticket : Ticket} {call : Call} : d.waiting.get? id = some (ticket, call) →
    Bank.Treads ticket (d.HasBegun id) (wrote id) (.waiting call.phase)
  left {id : ℕ} {ticket : Ticket} {outcome : Outcome} : .ended id ticket outcome ∈ d.log →
    id < d.started ∧ d.waiting.get? id = none
  ended {id : ℕ} {ticket : Ticket} {outcome : Outcome} : .ended id ticket outcome ∈ d.log →
    outcome.Closes ticket (d.HasBegun id) (wrote id)

lemma hasBegun_after {id' : ℕ} : (d.after id ticket turn).HasBegun id' ↔
    d.HasBegun id' ∨ id' = id ∧ d.bank.store.begun < turn.1.store.begun := by
  constructor
  · rintro ⟨tx, h⟩
    rcases mem_log_after.mp h with h | h | h
    · exact .inl ⟨tx, h⟩
    · obtain ⟨hlt, heq⟩ := mem_noteBegin.mp h
      exact .inr ⟨(Entry.began.inj heq).1, hlt⟩
    · obtain ⟨_, -, heq⟩ := mem_noteEnd h
      exact absurd heq (by simp)
  · rintro (⟨tx, h⟩ | ⟨rfl, hlt⟩)
    · exact ⟨tx, mem_log_after.mpr (.inl h)⟩
    · exact ⟨_, mem_log_after.mpr (.inr (.inl (mem_noteBegin.mpr ⟨hlt, rfl⟩)))⟩

lemma hasBegun_receive {request : Request} :
    (d.receive request).HasBegun id ↔ d.HasBegun id := by
  simp [HasBegun, receive]

lemma mem_log_of_receive {request : Request} {outcome : Outcome}
    (he : .ended id ticket outcome ∈ (d.receive request).log) : .ended id ticket outcome ∈ d.log :=
  (List.mem_append.mp he).resolve_right (by simp)

namespace KeepsTrack

lemma congr (h : d.KeepsTrack wrote) (hstarted : d'.started = d.started)
    (hwaiting : d'.waiting = d.waiting) (hlog : d'.log = d.log)
    (hwrote : ∀ id, wrote' id ↔ wrote id) : d'.KeepsTrack wrote' := by
  obtain rfl : wrote' = wrote := funext fun id => propext (hwrote id)
  obtain ⟨bank, waiting, started, log⟩ := d
  obtain ⟨bank', waiting', started', log'⟩ := d'
  cases hstarted
  cases hwaiting
  cases hlog
  exact ⟨h.unborn, h.lt, h.waits, h.left, h.ended⟩

/-- A call has come, and has not had a turn yet. -/
lemma receive (h : d.KeepsTrack wrote) (request : Request) :
    (d.receive request).KeepsTrack wrote := by
  constructor
  case unborn =>
    intro id hle
    rw [hasBegun_receive]
    exact h.unborn (Nat.le_of_succ_le hle)
  case lt => exact fun hw => Nat.lt_succ_of_lt (h.lt hw)
  case waits =>
    intro id ticket call hw
    rw [propext hasBegun_receive]
    exact h.waits hw
  case left =>
    intro id ticket outcome he
    obtain ⟨hlt, hnone⟩ := h.left (mem_log_of_receive he)
    exact ⟨Nat.lt_succ_of_lt hlt, hnone⟩
  case ended =>
    intro id ticket outcome he
    rw [propext hasBegun_receive]
    exact h.ended (mem_log_of_receive he)

/-- One turn: what is said of the call of which it is one is what the turn makes of its stages, and
of the others nothing changes. -/
theorem after (h : d.KeepsTrack wrote) (hlt : id < d.started) (hwrote : ¬ wrote id)
    (hnot : ∀ ticket' outcome, .ended id ticket' outcome ∉ d.log)
    (hturn : Bank.Treads ticket (d.HasBegun id ∨ d.bank.store.begun < turn.1.store.begun)
      (turn.1.store.books ≠ d.bank.store.books) (turn.2.map (·.phase) fun outcome => outcome)) :
    (d.after id ticket turn).KeepsTrack
      fun id' => wrote id' ∨ id' = id ∧ turn.1.store.books ≠ d.bank.store.books := by
  -- it had not written before, so that it has written now if this turn has
  have hself : Bank.Treads ticket ((d.after id ticket turn).HasBegun id)
      (wrote id ∨ id = id ∧ turn.1.store.books ≠ d.bank.store.books)
      (turn.2.map (·.phase) fun outcome => outcome) := by
    simpa [hasBegun_after, hwrote] using hturn
  have hother : ∀ {id'}, id' ≠ id →
      ((d.after id ticket turn).HasBegun id' ↔ d.HasBegun id') ∧
      ((wrote id' ∨ id' = id ∧ turn.1.store.books ≠ d.bank.store.books) ↔ wrote id') := by
    intro id' hne
    simp [hasBegun_after, hne]
  constructor
  case unborn =>
    intro id' hle
    have hne : id' ≠ id := (hlt.trans_le hle).ne'
    rw [(hother hne).1, (hother hne).2]
    exact h.unborn hle
  case lt =>
    intro id' waiting hw
    by_cases hne : id' = id
    · exact hne ▸ hlt
    · rw [get?_waiting_after hne] at hw
      exact h.lt hw
  case waits =>
    intro id' ticket' call hw
    by_cases hne : id' = id
    · subst hne
      obtain ⟨rfl, hcall⟩ := get?_waiting_after_self.mp hw
      rw [hcall] at hself
      exact hself
    · rw [get?_waiting_after hne] at hw
      rw [propext (hother hne).1, propext (hother hne).2]
      exact h.waits hw
  case left =>
    intro id' ticket' outcome he
    rcases mem_log_after.mp he with he | he | he
    · -- an end that was noted before is that of another call
      have hne : id' ≠ id := fun heq => hnot _ _ (heq ▸ he)
      rw [get?_waiting_after hne]
      exact h.left he
    · exact absurd (mem_noteBegin.mp he).2 (by simp)
    · obtain ⟨_, hdone, heq⟩ := mem_noteEnd he
      obtain ⟨rfl, -, -⟩ := Entry.ended.inj heq
      refine ⟨hlt, ?_⟩
      rw [Desk.after, hdone]
      exact (Table.get?_erase ..).trans (if_pos rfl)
  case ended =>
    intro id' ticket' outcome he
    rcases mem_log_after.mp he with he | he | he
    · have hne : id' ≠ id := fun heq => hnot _ _ (heq ▸ he)
      rw [propext (hother hne).1, propext (hother hne).2]
      exact h.ended he
    · exact absurd (mem_noteBegin.mp he).2 (by simp)
    · obtain ⟨_, hdone, heq⟩ := mem_noteEnd he
      obtain ⟨rfl, rfl, rfl⟩ := Entry.ended.inj heq
      rw [hdone] at hself
      exact hself

end KeepsTrack

/-! ### Runs -/

variable [RateProvider σ]

/-- Every event keeps the invariant. -/
theorem KeepsTrack.step (h : d.KeepsTrack wrote) (event : Event σ) :
    (d.step event).KeepsTrack
      fun id => wrote id ∨ d.caller? event = some id ∧ (d.step event).books ≠ d.books := by
  cases event with
  | start deadline request =>
      -- its number is new: no transaction has begun for it, and nothing is written
      obtain ⟨hnone, hwrote⟩ := h.unborn le_rfl
      have hbegun : ¬ (d.receive request).HasBegun d.started := mt hasBegun_receive.mp hnone
      have hturn := Bank.treads_underDeadline (Bank.treads_start hbegun d.bank request) deadline
      have hnot : ∀ ticket' outcome,
          .ended d.started ticket' outcome ∉ (d.receive request).log := fun _ _ he =>
        (h.left (mem_log_of_receive he)).1.ne rfl
      refine ((h.receive request).after (Nat.lt_succ_self _) hwrote hnot hturn).congr
        rfl rfl rfl fun id => ?_
      rw [caller?, Option.some_inj, eq_comm]
      rfl
  | resume id =>
      cases hw : d.waiting.get? id with
      | none =>
          have hsame : d.step (.resume id) = d := by rw [Desk.step, hw]
          rw [hsame]
          exact h.congr rfl rfl rfl fun id' => by simp
      | some waiting =>
          obtain ⟨ticket, call⟩ := waiting
          -- the call goes on from the stage that its phase and its transaction show
          obtain ⟨htrack, hbegun, hwrote⟩ := h.waits hw
          have hturn := Bank.treads_underDeadline (d.bank.treads_resume htrack hbegun) call.deadline
          have hnot : ∀ ticket' outcome, .ended id ticket' outcome ∉ d.log := fun _ _ he => by
            simp [(h.left he).2] at hw
          have hafter := h.after (h.lt hw) hwrote hnot hturn
          have hstep : d.step (.resume id)
              = d.after id (ticket.answered (d.bank.rateAtResume? call.phase))
                (d.bank.resumeCall call) := by
            rw [Desk.step, hw]
          rw [hstep]
          refine hafter.congr rfl rfl rfl fun id' => ?_
          rw [caller?, Option.some_inj, eq_comm (a := id)]
          rfl
  | _ => exact h.congr rfl rfl rfl fun id => by simp [caller?]

lemma not_writes_of_le {n : ℕ} (hle : events.length ≤ n) : ¬ d.Writes events id n := by
  rintro ⟨_, hget, -⟩
  simp [List.getElem?_eq_none hle] at hget

lemma writes_concat {n : ℕ} : d.Writes (events ++ [event]) id n ↔ d.Writes events id n ∨
    n = events.length ∧ (d.run events).caller? event = some id ∧
      ((d.run events).step event).books ≠ (d.run events).books := by
  have htake : ∀ {m}, m ≤ events.length → (events ++ [event]).take m = events.take m :=
    fun hle => List.take_append_of_le_length hle
  -- before, at and after the added event
  rcases lt_trichotomy n events.length with hlt | rfl | hlt
  · rw [Writes, Writes, htake hlt.le, htake hlt, List.getElem?_append_left hlt]
    simp [hlt.ne]
  · rw [Writes, htake le_rfl, List.take_length, List.take_of_length_le (by simp), run_concat]
    simp [not_writes_of_le]
  · have hle : (events ++ [event]).length ≤ n := by simpa using hlt
    simp [not_writes_of_le hlt.le, not_writes_of_le hle, hlt.ne']

/-- So does every run, of whatever bank. -/
theorem keepsTrack_run (b : Bank σ) (events : List (Event σ)) :
    ((openedAt b).run events).KeepsTrack fun id => ∃ n, (openedAt b).Writes events id n := by
  -- from the end of the run, for what is written is counted from its start
  induction events using List.reverseRecOn with
  | nil => constructor <;> intros <;> simp_all [openedAt, Desk.run, HasBegun, Writes]
  | append_singleton events event ih =>
      rw [run_concat]
      refine (ih.step event).congr rfl rfl rfl fun id => ?_
      simp [writes_concat, exists_or]

/-- What the operation of a call comes to in a turn. -/
lemma KeepsTrack.treads (h : d.KeepsTrack wrote) {step : Bank.Step σ}
    (hop : d.operation? event = some step) :
    ∃ ticket opened written, Bank.Treads ticket opened written step.2 := by
  cases event with
  | start deadline request =>
      obtain rfl := Option.some.inj hop
      exact ⟨_, _, _, Bank.treads_start not_false d.bank request⟩
  | resume id =>
      obtain ⟨⟨ticket, call⟩, hw, rfl⟩ := Option.map_eq_some_iff.mp hop
      obtain ⟨htrack, hbegun, -⟩ := h.waits hw
      exact ⟨_, _, _, d.bank.treads_resume htrack hbegun⟩
  | _ => simp [operation?] at hop

/-- Where the books are in order at the start, every mutation comes to an end of its own or is given
up. -/
lemma IsSound.returns (hd : d.IsSound) {outcome : Outcome} (hnot : .ended id ticket outcome ∉ d.log)
    (he : .ended id ticket outcome ∈ (d.run events).log)
    (hmutation : ticket.request.isMutation = true) : outcome.Returns := by
  obtain ⟨n, event, d₁, tx, turn, -, h, hturn⟩ := hd.exists_turn_of_ended_run hnot he
  have hcame := h.came
  rw [Came, hturn] at hcame
  cases hresult : outcome.result with
  | ok reply => exact .inl ⟨reply, hresult⟩
  | error f =>
      rw [Turn.map, hresult] at hcame
      obtain ⟨e, rfl⟩ := hcame.refused_of_error hmutation
      exact .inr ⟨e, hresult⟩

/-! ### Trails -/

/-- The calls of a run follow the stages of their operations. -/
structure FollowsStages (d : Desk σ) (events : List (Event σ)) : Prop where
  /-- In no turn has a stage been asked for that could not follow the one before it. -/
  accepted {id n : ℕ} {step : Bank.Step σ} {t : Trail} : d.IsTurn events id n step →
    Bank.trail? step.2 = some t → t.IsAccepted
  /-- A call that has money to move leaves a trail, unless it is given up at its deadline. -/
  traced {id : ℕ} {ticket : Ticket} {outcome : Outcome} {errand : Errand} :
    .ended id ticket outcome ∈ (d.run events).log → ticket.errand? = some (.ok errand) →
    errand.movements ≠ [] → outcome.trail = none →
    outcome.result = .error (.refused .deadlineExceeded)
  /-- The last stage is that of an operation that is done if and only if what the call was about has
  been committed and it had a reply. -/
  done {id : ℕ} {ticket : Ticket} {outcome : Outcome} {t : Trail} :
    .ended id ticket outcome ∈ (d.run events).log → outcome.trail = some t →
    (t.progress.stage = .done ↔
      (∃ n, d.Writes events id n) ∧ ∃ reply, outcome.result = .ok reply)
  /-- Otherwise it is that of one that has failed. -/
  failed {id : ℕ} {ticket : Ticket} {outcome : Outcome} {t : Trail} :
    .ended id ticket outcome ∈ (d.run events).log → outcome.trail = some t → outcome.Returns →
    (t.progress.stage = .failed ↔
      ¬ ((∃ n, d.Writes events id n) ∧ ∃ reply, outcome.result = .ok reply))
  /-- The rollback is passed if and only if a transaction has begun and the call fails otherwise
  than by its commit. -/
  rolledBack {id : ℕ} {ticket : Ticket} {outcome : Outcome} {t : Trail} :
    .ended id ticket outcome ∈ (d.run events).log → outcome.trail = some t →
    (.rollback ∈ t.requests ↔ (d.run events).HasBegun id ∧
      ∃ e, outcome.result = .error (.refused e) ∧ e ≠ .commitStruck)
  /-- The commit is passed if and only if the call has a reply or fails by its commit. -/
  committed {id : ℕ} {ticket : Ticket} {outcome : Outcome} {t : Trail} :
    .ended id ticket outcome ∈ (d.run events).log → outcome.trail = some t → outcome.Returns →
    (.commit ∈ t.requests ↔ (∃ reply, outcome.result = .ok reply) ∨
      outcome.result = .error (.refused .commitStruck))
  /-- No call that can change something is stopped, if the books were in order. -/
  returns {id : ℕ} {ticket : Ticket} {outcome : Outcome} : d.IsSound →
    .ended id ticket outcome ∈ (d.run events).log → ticket.request.isMutation = true →
    outcome.Returns

/-- Every run is like that, whatever the state of the bank at which the desk was opened, whatever
faults strike, however long rows are waited for and wherever calls are given up. -/
theorem followsStages_run (b : Bank σ) (events : List (Event σ)) :
    (openedAt b).FollowsStages events := by
  have h := keepsTrack_run b events
  constructor
  case accepted =>
    intro id n step t hturn ht
    obtain ⟨event, -, -, hop⟩ := hturn
    obtain ⟨ticket, opened, written, htreads⟩ := (keepsTrack_run b (events.take n)).treads hop
    exact htreads.isAccepted ht
  case traced =>
    intro id ticket outcome errand he herrand hmoves ht
    exact (h.ended he).eq_of_trail_eq_none ht herrand hmoves
  case done => exact fun he ht => (h.ended he).stage_eq_done_iff ht
  case failed => exact fun he ht => (h.ended he).stage_eq_failed_iff ht
  case rolledBack => exact fun he ht => (h.ended he).rollback_mem_iff ht
  case committed => exact fun he ht => (h.ended he).commit_mem_iff ht
  case returns => exact fun hd he => hd.returns (by simp [openedAt]) he

/-- A deposit whose commit is struck has asked for the commit, and for no rollback. -/
example :
    let d := (fresh (.atRest 0) Store.standardLockTimeout .fresh
      (.empty ⟨SimulatedProvider.named "", none⟩ RateCache.standardTtl) .standard).run
        [.start none (.openAccount ⟨.random 0⟩), .inject .commit,
          .start none (.deposit ⟨.random 0⟩ .usd ⟨false, 1250, 2, by decide, by decide⟩)]
    (d.log.getLast?.bind fun
      | .ended _ _ outcome => outcome.trail.map (·.requests)
      | _ => none)
      = some [.acquireConnection, .beginTx, .mutate, .audit, .notify, .commit, .failed] := by
  decide +kernel

end Desk

end Teller
