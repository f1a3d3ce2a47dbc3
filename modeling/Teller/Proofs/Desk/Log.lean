/-
What the log of a desk says.

* `AtEach`: something holds at each entry of a log, in view of the entries before it;
* `Entry.Follows`: a call is started once and ended at most once, after its start, and each
  transaction begins in one call;
* `Desk.Logs`: the log agrees with the calls that wait and with the transactions that are open;
  `Desk.Logs.run` says that it does so after every run;
* `Desk.IsSound.rel_run_take`: what every event respects is respected between any two moments.
-/
import Teller.Proofs.Desk.Basic
import Teller.Proofs.Trace

namespace Teller

/-! ### Entries in their places -/

/-- Something holds at each entry of a log, in view of the entries before it. -/
def AtEach (P : List Entry → Entry → Prop) (log : List Entry) : Prop :=
  ∀ before entry after, log = before ++ entry :: after → P before entry

section AtEach

variable {P : List Entry → Entry → Prop} {log : List Entry} {entry : Entry}

lemma atEach_nil : AtEach P [] := by
  intro before entry after h
  simp at h

lemma atEach_concat : AtEach P (log ++ [entry]) ↔ AtEach P log ∧ P log entry := by
  constructor
  · intro h
    refine ⟨fun before e after heq => h before e (after ++ [entry]) ?_, h log entry [] rfl⟩
    rw [heq, List.append_assoc, List.cons_append]
  · rintro ⟨hlog, hentry⟩ before e after heq
    rcases List.eq_nil_or_concat after with rfl | ⟨after, last, rfl⟩
    · obtain ⟨rfl, hlast⟩ := List.append_inj' heq rfl
      obtain rfl := (List.cons.inj hlast).1
      exact hentry
    · rw [List.concat_eq_append, ← List.cons_append, ← List.append_assoc] at heq
      exact hlog before e after (List.append_inj' heq rfl).1

end AtEach

/-- What can be said of an entry in view of those before it. -/
def Entry.Follows (before : List Entry) : Entry → Prop
  | started id _ => ∀ request, started id request ∉ before
  | began _ tx => ∀ id, began id tx ∉ before
  | ended id ticket _ =>
    started id ticket.request ∈ before ∧ ∀ ticket' outcome, ended id ticket' outcome ∉ before

/-- A call ends only once. -/
lemma AtEach.ended_unique {log : List Entry} (h : AtEach Entry.Follows log) {id : Nat}
    {ticket ticket' : Ticket} {outcome outcome' : Outcome}
    (he : .ended id ticket outcome ∈ log) (he' : .ended id ticket' outcome' ∈ log) :
    ticket = ticket' ∧ outcome = outcome' := by
  obtain ⟨before, after, rfl⟩ := List.append_of_mem he
  have hfollows := h before _ after rfl
  rcases List.mem_append.mp he' with hin | hin
  · exact absurd hin (hfollows.2 ticket' outcome')
  · rcases List.mem_cons.mp hin with heq | hin
    · cases heq
      exact ⟨rfl, rfl⟩
    · obtain ⟨mid, rest, rfl⟩ := List.append_of_mem hin
      have hlater := h (before ++ .ended id ticket outcome :: mid) (.ended id ticket' outcome') rest
        (by simp)
      exact absurd (by simp) (hlater.2 ticket outcome)

namespace Desk

variable {σ : Type} {d : Desk σ} {id : Nat} {tx : TxId} {ticket : Ticket}
  {turn : Bank σ × Turn Call Outcome}

/-! ### What a log agrees with -/

/-- The log agrees with the calls that wait and with the transactions that are open. -/
structure Logs (d : Desk σ) : Prop where
  started {id : Nat} {request : Request} : .started id request ∈ d.log → id < d.started
  began {id : Nat} {tx : TxId} : .began id tx ∈ d.log → tx.serial < d.bank.store.begun
  mine {id : Nat} {tx : TxId} : .began id tx ∈ d.log → d.bank.store.IsOpen tx → d.Owns id tx
  noted {id : Nat} {tx : TxId} : d.Owns id tx → .began id tx ∈ d.log
  awaited {id : Nat} {ticket : Ticket} {call : Call} : d.waiting.get? id = some (ticket, call) →
    .started id ticket.request ∈ d.log
  ended {id : Nat} {ticket : Ticket} {outcome : Outcome} : .ended id ticket outcome ∈ d.log →
    id < d.started ∧ d.waiting.get? id = none
  follows : AtEach Entry.Follows d.log

lemma logs_fresh (clock : Clock) (lockTimeout : Nat) (ids : IdSupply) (rates : RateCache σ)
    (thresholds : Thresholds) : (fresh clock lockTimeout ids rates thresholds).Logs where
  started := by simp [fresh]
  began := by simp [fresh]
  mine := by simp [fresh]
  noted := by simp [fresh, Owns]
  awaited := by simp [fresh]
  ended := by simp [fresh]
  follows := atEach_nil

/-- A call that has ended has no open transaction. -/
lemma Logs.not_isOpen (hl : d.Logs) {outcome : Outcome} (he : .ended id ticket outcome ∈ d.log)
    (hb : .began id tx ∈ d.log) : ¬ d.bank.store.IsOpen tx := by
  intro ho
  obtain ⟨_, _, hw, -⟩ := hl.mine hb ho
  rw [(hl.ended he).2] at hw
  exact absurd hw (by simp)

lemma Logs.receive (hl : d.Logs) (request : Request) : (d.receive request).Logs where
  started {id request'} h := by
    rcases List.mem_append.mp h with h | h
    · exact Nat.lt_succ_of_lt (hl.started h)
    · obtain ⟨rfl, -⟩ := Entry.started.inj (List.mem_singleton.mp h)
      exact Nat.lt_succ_self _
  began h := hl.began ((List.mem_append.mp h).resolve_right (by simp))
  mine h ho := hl.mine ((List.mem_append.mp h).resolve_right (by simp)) ho
  noted ho := List.mem_append_left _ (hl.noted ho)
  awaited hw := List.mem_append_left _ (hl.awaited hw)
  ended h := by
    obtain ⟨hlt, hw⟩ := hl.ended ((List.mem_append.mp h).resolve_right (by simp))
    exact ⟨Nat.lt_succ_of_lt hlt, hw⟩
  follows := atEach_concat.mpr ⟨hl.follows, fun _ h => (hl.started h).ne rfl⟩

/-! ### Turns -/

/-- All that is noted before the end of a call is that a transaction has begun. -/
lemma mem_noteBegin {entry : Entry} {before after : Bank σ} : entry ∈ noteBegin id before after ↔
    before.store.begun < after.store.begun ∧ entry = .began id ⟨before.store.begun⟩ := by
  rw [noteBegin]
  split <;> simp [*]

/-- The transaction that is noted after a turn is the one that acts. -/
lemma Came.of_mem_noteBegin (hcame : d.Came tx ticket turn) {id' : Nat} {tx' : TxId}
    (h : .began id' tx' ∈ noteBegin id d.bank turn.1) :
    id' = id ∧ tx' = tx ∧ tx.serial = d.bank.store.begun ∧
      d.bank.store.begun < turn.1.store.begun := by
  obtain ⟨hlt, heq⟩ := mem_noteBegin.mp h
  obtain ⟨rfl, rfl⟩ := Entry.began.inj heq
  have hserial := (hcame.path.begun.resolve_left hlt.ne').1
  exact ⟨rfl, by rw [← hserial], hserial, hlt⟩

/-- A transaction that has begun in a turn, and has not ended, is noted. -/
lemma Came.mem_noteBegin_of_isOpen (hcame : d.Came tx ticket turn) (ho : turn.1.store.IsOpen tx)
    (hnot : ¬ d.bank.store.IsOpen tx) : .began id tx ∈ noteBegin id d.bank turn.1 := by
  obtain ⟨-, hle, hlt⟩ := (hcame.path.isOpen ho).resolve_left hnot
  have hserial := (hcame.path.begun.resolve_left (hle.trans_lt hlt).ne').1
  exact mem_noteBegin.mpr ⟨hle.trans_lt hlt, by rw [← hserial]⟩

lemma Logs.atEach_noteBegin (hl : d.Logs) (id : Nat) (turn : Bank σ × Turn Call Outcome) :
    AtEach Entry.Follows (d.log ++ noteBegin id d.bank turn.1) := by
  rw [noteBegin]
  split
  · exact atEach_concat.mpr ⟨hl.follows, fun _ h => (hl.began h).ne rfl⟩
  · rw [List.append_nil]
    exact hl.follows

/-- What a turn adds to the log, entry by entry. -/
lemma mem_log_after {entry : Entry} : entry ∈ (d.after id ticket turn).log ↔
    entry ∈ d.log ∨ entry ∈ noteBegin id d.bank turn.1 ∨ entry ∈ noteEnd id ticket turn.2 := by
  rw [after, List.mem_append, List.mem_append, or_assoc]

lemma mem_noteEnd {entry : Entry} (h : entry ∈ noteEnd id ticket turn.2) :
    ∃ outcome, turn.2 = .done outcome ∧ entry = .ended id ticket outcome := by
  cases hturn : turn.2 with
  | waiting call => simp [hturn, noteEnd] at h
  | done outcome =>
      rw [hturn] at h
      exact ⟨outcome, rfl, List.mem_singleton.mp h⟩

/-- Every turn keeps the log in agreement. -/
theorem Logs.after (hl : d.Logs) (hd : d.IsSound) (ha : d.Acts id tx)
    (hcame : d.Came tx ticket turn) (hstarted : .started id ticket.request ∈ d.log)
    (hnot : ∀ ticket' outcome, .ended id ticket' outcome ∉ d.log) :
    (d.after id ticket turn).Logs where
  started {id' request} h := by
    rcases mem_log_after.mp h with h | h | h
    · exact hl.started h
    · exact absurd (mem_noteBegin.mp h).2 (by simp)
    · obtain ⟨_, -, heq⟩ := mem_noteEnd h
      exact absurd heq (by simp)
  began {id' tx'} h := by
    rcases mem_log_after.mp h with h | h | h
    · exact (hl.began h).trans_le hcame.path.le.1
    · obtain ⟨-, rfl, hserial, hlt⟩ := hcame.of_mem_noteBegin h
      exact hserial ▸ hlt
    · obtain ⟨_, -, heq⟩ := mem_noteEnd h
      exact absurd heq (by simp)
  mine {id' tx'} h ho := by
    rcases mem_log_after.mp h with h | h | h
    · -- noted before this turn, so its number had been given out: it is not the new one
      have hbefore := (hcame.path.isOpen ho).resolve_right fun hnew => by
        obtain ⟨rfl, hle, -⟩ := hnew
        exact (hl.began h).not_ge hle
      have howns := hl.mine h hbefore
      by_cases hne : id' = id
      · subst hne
        obtain rfl := ha.eq howns
        exact hcame.owns_of_isOpen ho
      · exact (owns_after hne).mpr howns
    · obtain ⟨rfl, rfl, -, -⟩ := hcame.of_mem_noteBegin h
      exact hcame.owns_of_isOpen ho
    · obtain ⟨_, -, heq⟩ := mem_noteEnd h
      exact absurd heq (by simp)
  noted {id' tx'} ho := by
    refine mem_log_after.mpr ?_
    by_cases hne : id' = id
    · subst hne
      -- the call had its transaction before, or this is the turn in which it began
      obtain ⟨call, -, rfl, hc⟩ := hcame.of_owns_after ho
      rcases ha.mine with hmine | ⟨rfl, -⟩
      · exact .inl (hl.noted hmine)
      · exact .inr (.inl (hcame.mem_noteBegin_of_isOpen hc.isOpen hd.disciplined.not_isOpen_begun))
    · exact .inl (hl.noted ((owns_after hne).mp ho))
  awaited {id' ticket' call} hw := by
    refine mem_log_after.mpr (.inl ?_)
    by_cases hne : id' = id
    · subst hne
      obtain ⟨rfl, -⟩ := get?_waiting_after_self.mp hw
      exact hstarted
    · rw [get?_waiting_after hne] at hw
      exact hl.awaited hw
  ended {id' ticket' outcome} h := by
    rcases mem_log_after.mp h with hold | h | h
    · -- a call that had ended before is not the one that has this turn
      have hne : id' ≠ id := by
        rintro rfl
        exact hnot _ _ hold
      rw [get?_waiting_after hne]
      exact hl.ended hold
    · exact absurd (mem_noteBegin.mp h).2 (by simp)
    · obtain ⟨_, hturn, heq⟩ := mem_noteEnd h
      obtain ⟨rfl, -, -⟩ := Entry.ended.inj heq
      refine ⟨ha.lt, ?_⟩
      rw [Desk.after, hturn]
      exact (Table.get?_erase ..).trans (if_pos rfl)
  follows := by
    have hbegin := hl.atEach_noteBegin id turn
    cases hturn : turn.2 with
    | waiting call =>
        rw [Desk.after, hturn, noteEnd, List.append_nil]
        exact hbegin
    | done outcome =>
        rw [Desk.after, hturn, noteEnd]
        -- the new entry is the last: its call is noted as started, and not yet as ended
        refine atEach_concat.mpr
          ⟨hbegin, List.mem_append_left _ hstarted, fun ticket' outcome' => ?_⟩
        rw [List.mem_append, not_or]
        exact ⟨hnot _ _, fun h => absurd (mem_noteBegin.mp h).2 (by simp)⟩

/-! ### Runs -/

variable [RateProvider σ]

/-- A call that has a turn has been started and has not ended. -/
lemma HasTurn.logs {event : Event σ} {d₁ : Desk σ} (h : d.HasTurn event d₁ id tx ticket turn)
    (hl : d.Logs) : d₁.Logs ∧ .started id ticket.request ∈ d₁.log ∧
      ∀ ticket' outcome, .ended id ticket' outcome ∉ d₁.log := by
  rcases h.received with ⟨-, rfl, ticket', call, hw, hrequest⟩ | ⟨deadline, -, rfl, rfl, -⟩
  · refine ⟨hl, hrequest ▸ hl.awaited hw, fun _ _ he => ?_⟩
    rw [(hl.ended he).2] at hw
    exact absurd hw (by simp)
  · refine ⟨hl.receive _, by simp [Desk.receive], fun _ _ he => ?_⟩
    have hbefore := (List.mem_append.mp he).resolve_right (by simp)
    exact (hl.ended hbefore).1.ne rfl

/-- Every event keeps the log in agreement. -/
theorem Logs.step (hl : d.Logs) (hd : d.IsSound) (event : Event σ) : (d.step event).Logs := by
  rcases hd.step_cases event with h | ⟨d₁, id, tx, ticket, turn, h⟩
  · refine ⟨fun he => ?_, fun he => ?_, fun he ho => ?_, fun ho => ?_, fun hw => ?_, fun he => ?_,
      ?_⟩
    · rw [h.log] at he
      exact h.started ▸ hl.started he
    · rw [h.log] at he
      exact h.begun ▸ hl.began he
    · rw [h.log] at he
      rw [Store.IsOpen, h.transactions] at ho
      rw [Owns, h.waiting]
      exact hl.mine he ho
    · rw [Owns, h.waiting] at ho
      exact h.log ▸ hl.noted ho
    · rw [h.waiting] at hw
      exact h.log ▸ hl.awaited hw
    · rw [h.log] at he
      rw [h.started, h.waiting]
      exact hl.ended he
    · exact h.log ▸ hl.follows
  · obtain ⟨hl₁, hstarted, hnot⟩ := h.logs hl
    exact h.step_eq ▸ hl₁.after h.isSound h.acts h.came hstarted hnot

/-- After every run of a desk the log is in agreement. -/
theorem Logs.run (hl : d.Logs) (hd : d.IsSound) (events : List (Event σ)) :
    (d.run events).Logs := by
  induction events generalizing d with
  | nil => exact hl
  | cons event events ih => exact ih (hl.step hd event) (hd.step event)

/-! ### Runs, event by event -/

section Events

variable {event : Event σ} {events : List (Event σ)}

lemma run_take_succ {n : ℕ} (h : events[n]? = some event) :
    d.run (events.take (n + 1)) = (d.run (events.take n)).step event :=
  Trace.foldl_take_succ h

lemma run_take_succ_of_none {n : ℕ} (h : events[n]? = none) :
    d.run (events.take (n + 1)) = d.run (events.take n) :=
  Trace.foldl_take_succ_of_none h

/-- What every event respects is respected between any two moments of a run. -/
lemma IsSound.rel_run_take (hd : d.IsSound) (R : Desk σ → Desk σ → Prop)
    (hrefl : ∀ d, R d d) (htrans : ∀ {d₁ d₂ d₃}, R d₁ d₂ → R d₂ d₃ → R d₁ d₃)
    (hstep : ∀ {d : Desk σ}, d.IsSound → ∀ event, R d (d.step event)) {m n : ℕ} (h : m ≤ n) :
    R (d.run (events.take m)) (d.run (events.take n)) :=
  Trace.rel_foldl_take R (fun _ event hd => hd.step event) hrefl htrans
    (fun _ event hd => hstep hd event) hd h

/-- Logs only grow. -/
lemma IsSound.log_prefix_step (hd : d.IsSound) (event : Event σ) :
    d.log <+: (d.step event).log := by
  rcases hd.step_cases event with h | ⟨d₁, id, tx, ticket, turn, h⟩
  · rw [h.log]
  · rw [h.step_eq, Desk.after, List.append_assoc]
    refine List.IsPrefix.trans ?_ (List.prefix_append _ _)
    rcases h.received with ⟨-, rfl, -⟩ | ⟨deadline, -, -, rfl, -⟩
    · exact List.prefix_refl _
    · exact List.prefix_append _ _

lemma IsSound.log_prefix_run_take (hd : d.IsSound) {m n : ℕ} (h : m ≤ n) :
    (d.run (events.take m)).log <+: (d.run (events.take n)).log :=
  hd.rel_run_take (fun d d' => d.log <+: d'.log) (fun d => List.prefix_refl d.log)
    List.IsPrefix.trans IsSound.log_prefix_step h

lemma IsSound.log_prefix_run (hd : d.IsSound) (n : ℕ) :
    (d.run (events.take n)).log <+: (d.run events).log := by
  rcases le_total n events.length with h | h
  · have hprefix : (d.run (events.take n)).log <+: (d.run (events.take events.length)).log :=
      hd.log_prefix_run_take h
    rwa [List.take_length] at hprefix
  · rw [List.take_of_length_le h]

/-- A call ends in a turn of its own. -/
lemma IsSound.exists_turn_of_ended (hd : d.IsSound) {outcome : Outcome}
    (hnot : .ended id ticket outcome ∉ d.log)
    (he : .ended id ticket outcome ∈ (d.step event).log) :
    ∃ d₁ tx turn, d.HasTurn event d₁ id tx ticket turn ∧ turn.2 = .done outcome := by
  rcases hd.step_cases event with h | ⟨d₁, id', tx, ticket', turn, h⟩
  · rw [h.log] at he
    exact absurd he hnot
  · rw [h.step_eq] at he
    rcases mem_log_after.mp he with he | he | he
    · rcases h.received with ⟨-, rfl, -⟩ | ⟨deadline, -, -, rfl, -⟩
      · exact absurd he hnot
      · exact absurd ((List.mem_append.mp he).resolve_right (by simp)) hnot
    · exact absurd (mem_noteBegin.mp he).2 (by simp)
    · obtain ⟨outcome', hturn, heq⟩ := mem_noteEnd he
      obtain ⟨rfl, rfl, rfl⟩ := Entry.ended.inj heq
      exact ⟨d₁, tx, turn, h, hturn⟩

/-- Every entry has come with some event. -/
lemma exists_event_of_mem_log {entry : Entry} (hnot : entry ∉ d.log)
    (he : entry ∈ (d.run events).log) : ∃ n event, events[n]? = some event ∧
      entry ∉ (d.run (events.take n)).log ∧ entry ∈ (d.run (events.take (n + 1))).log := by
  induction events generalizing d with
  | nil => exact absurd he hnot
  | cons event events ih =>
      by_cases hfirst : entry ∈ (d.step event).log
      · exact ⟨0, event, rfl, hnot, hfirst⟩
      · obtain ⟨n, event', hevent, hbefore, hafter⟩ := ih hfirst he
        exact ⟨n + 1, event', hevent, hbefore, hafter⟩

/-- A call that has ended in a run did so in one of its turns. -/
lemma IsSound.exists_turn_of_ended_run (hd : d.IsSound) {outcome : Outcome}
    (hnot : .ended id ticket outcome ∉ d.log)
    (he : .ended id ticket outcome ∈ (d.run events).log) :
    ∃ n event d₁ tx turn, events[n]? = some event ∧
      (d.run (events.take n)).HasTurn event d₁ id tx ticket turn ∧ turn.2 = .done outcome := by
  obtain ⟨n, event, hevent, hbefore, hafter⟩ := exists_event_of_mem_log hnot he
  rw [run_take_succ hevent] at hafter
  obtain ⟨d₁, tx, turn, h, hturn⟩ := (hd.run (events.take n)).exists_turn_of_ended hbefore hafter
  exact ⟨n, event, d₁, tx, turn, hevent, h, hturn⟩

end Events

end Desk

end Teller
