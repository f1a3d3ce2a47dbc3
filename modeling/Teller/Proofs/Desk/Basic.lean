/-
Many calls to one bank, in any order of their turns.

* `Desk`: a bank, the calls that wait, and a log of what has happened to calls;
* `Event`: a call starts or has a turn, time passes, alarms ring, a fault is injected, events are
  marked as delivered, the source of rates changes; `Desk.step` and `Desk.run` follow any list of
  events;
* `Desk.Owns`: a call that waits has this transaction;
* `Desk.IsSound`: the invariant of every run: each open transaction belongs to one call that waits,
  and has come exactly as far as that call; `Desk.IsSound.run`.
-/
import Teller.Proofs.Bank.Call
import Teller.Proofs.Store.Outbox

namespace Teller

/-! ### Desks -/

/-- What is noted about a call. -/
inductive Entry where
  | started (id : Nat) (request : Request)
  /-- A transaction has begun in a turn of the call. -/
  | began (id : Nat) (tx : TxId)
  | ended (id : Nat) (ticket : Ticket) (outcome : Outcome)

/-- A bank and the calls to it. -/
structure Desk (σ : Type) where
  bank : Bank σ
  /-- The calls that wait. -/
  waiting : Table Nat (Ticket × Call)
  /-- The number of calls so far. -/
  started : Nat
  /-- What has been noted, the oldest entry first. -/
  log : List Entry

/-- What can happen at a desk. -/
inductive Event (σ : Type) where
  | start (deadline : Option Nat) (request : Request)
  /-- A call that waits has a turn. -/
  | resume (id : Nat)
  | advance (millis : Nat)
  | ring
  | inject (point : FaultPoint)
  | publish (ids : List EventId)
  /-- The source of rates and all that is known of them change. -/
  | requote (rates : RateCache σ)

namespace Desk

variable {σ : Type}

/-- A desk that has just been set up. -/
def fresh (clock : Clock) (lockTimeout : Nat) (ids : IdSupply) (rates : RateCache σ)
    (thresholds : Thresholds) : Desk σ :=
  ⟨⟨clock, .empty lockTimeout ids, rates, thresholds⟩, .empty, 0, []⟩

/-- The desk with another store. -/
def withStore (d : Desk σ) (store : Store) : Desk σ := { d with bank := d.bank.withStore store }

/-- A transaction that has begun between two banks is noted. -/
def noteBegin (id : Nat) (before after : Bank σ) : List Entry :=
  if before.store.begun < after.store.begun then [.began id ⟨before.store.begun⟩] else []

/-- A call that has ended is noted. -/
def noteEnd (id : Nat) (ticket : Ticket) : Turn Call Outcome → List Entry
  | .waiting _ => []
  | .done outcome => [.ended id ticket outcome]

/-- The calls that wait after a turn of one of them. -/
def waitingAfter (waiting : Table Nat (Ticket × Call)) (id : Nat) (ticket : Ticket) :
    Turn Call Outcome → Table Nat (Ticket × Call)
  | .waiting call => waiting.insert id (ticket, call)
  | .done _ => waiting.erase id

/-- The desk after a turn of a call. -/
def after (d : Desk σ) (id : Nat) (ticket : Ticket) (turn : Bank σ × Turn Call Outcome) :
    Desk σ where
  bank := turn.1
  waiting := waitingAfter d.waiting id ticket turn.2
  started := d.started
  log := d.log ++ noteBegin id d.bank turn.1 ++ noteEnd id ticket turn.2

/-- A call has come. -/
def receive (d : Desk σ) (request : Request) : Desk σ :=
  { d with started := d.started + 1, log := d.log ++ [.started d.started request] }

variable [RateProvider σ]

/-- What happens at a desk. -/
def step [Arithmetic] (d : Desk σ) : Event σ → Desk σ
  | .start deadline request =>
    (d.receive request).after d.started ⟨request, d.bank.rateAtStart? request⟩
      (d.bank.startCall deadline request)
  | .resume id =>
    match d.waiting.get? id with
    | none => d
    | some (ticket, call) =>
      d.after id (ticket.answered (d.bank.rateAtResume? call.phase)) (d.bank.resumeCall call)
  | .advance millis => { d with bank := { d.bank with clock := d.bank.clock.advance millis } }
  | .ring => { d with bank := { d.bank with clock := d.bank.clock.ring } }
  | .inject point => d.withStore (d.bank.store.inject point)
  | .publish ids => d.withStore (d.bank.store.markPublished ids)
  | .requote rates => { d with bank := { d.bank with rates } }

/-- All that happens at a desk. -/
def run [Arithmetic] (d : Desk σ) (events : List (Event σ)) : Desk σ := events.foldl step d

lemma run_append [Arithmetic] (d : Desk σ) (events events' : List (Event σ)) :
    d.run (events ++ events') = (d.run events).run events' :=
  List.foldl_append

lemma run_concat [Arithmetic] (d : Desk σ) (events : List (Event σ)) (event : Event σ) :
    d.run (events ++ [event]) = (d.run events).step event :=
  d.run_append events [event]

end Desk

/-! ### What holds of every desk -/

namespace Desk

variable {σ : Type} {d : Desk σ} {id : Nat} {tx : TxId} {ticket : Ticket}
  {turn : Bank σ × Turn Call Outcome}

/-- A call that waits has this transaction. -/
def Owns (d : Desk σ) (id : Nat) (tx : TxId) : Prop :=
  ∃ ticket call, d.waiting.get? id = some (ticket, call) ∧ call.phase.tx? = some tx

/-- The invariant of a desk. -/
structure IsSound (d : Desk σ) : Prop where
  disciplined : d.bank.store.Disciplined
  isProper : d.bank.store.sheet.IsProper
  lt {id : Nat} {waiting : Ticket × Call} : d.waiting.get? id = some waiting → id < d.started
  waits {id : Nat} {ticket : Ticket} {call : Call} : d.waiting.get? id = some (ticket, call) →
    call.phase.Idles ticket ∨ ∃ tx, call.phase.Carries d.bank.store tx ticket
  unique {id id' : Nat} {tx : TxId} : d.Owns id tx → d.Owns id' tx → id = id'
  owned {tx : TxId} : d.bank.store.IsOpen tx → ∃ id, d.Owns id tx

lemma isSound_fresh (clock : Clock) (lockTimeout : Nat) (ids : IdSupply) (rates : RateCache σ)
    (thresholds : Thresholds) : (fresh clock lockTimeout ids rates thresholds).IsSound where
  disciplined := .empty lockTimeout ids
  isProper := by simp [fresh, Sheet.IsProper, Store.sheet, Sheet.of, Store.empty]
  lt := by simp [fresh]
  waits := by simp [fresh]
  unique := by simp [fresh, Owns]
  owned := by simp [fresh, Store.IsOpen, Store.empty]

/-- A transaction of a call that waits has come as far as the call. -/
lemma IsSound.carries (hd : d.IsSound) (h : d.Owns id tx) :
    ∃ ticket call, d.waiting.get? id = some (ticket, call) ∧
      call.phase.Carries d.bank.store tx ticket := by
  obtain ⟨ticket, call, hw, htx⟩ := h
  refine ⟨ticket, call, hw, ?_⟩
  rcases hd.waits hw with hidles | ⟨tx', hc⟩
  · rw [hidles.tx?_eq] at htx
    exact absurd htx (by simp)
  · rw [hc.tx?_eq] at htx
    exact Option.some.inj htx ▸ hc

lemma IsSound.isOpen (hd : d.IsSound) (h : d.Owns id tx) : d.bank.store.IsOpen tx := by
  obtain ⟨_, _, _, hc⟩ := hd.carries h
  exact hc.isOpen

/-! ### Turns -/

/-- A turn of one call leaves all others where they wait. -/
lemma get?_waiting_after {id' : Nat} (hne : id' ≠ id) :
    (d.after id ticket turn).waiting.get? id' = d.waiting.get? id' := by
  simp only [after, waitingAfter]
  split
  · exact (Table.get?_insert ..).trans (if_neg hne.symm)
  · exact (Table.get?_erase ..).trans (if_neg hne.symm)

/-- The call whose turn it was waits where the turn left it, if it waits. -/
lemma get?_waiting_after_self {ticket' : Ticket} {call : Call} :
    (d.after id ticket turn).waiting.get? id = some (ticket', call) ↔
      ticket' = ticket ∧ turn.2 = .waiting call := by
  simp only [after, waitingAfter]
  split
  · next call' heq =>
    rw [Table.get?_insert, if_pos rfl]
    grind
  · next heq =>
    rw [Table.get?_erase, if_pos rfl]
    grind

/-- A call has a turn in which this transaction acts: its own, or one that begins if it has none. -/
structure Acts (d : Desk σ) (id : Nat) (tx : TxId) : Prop where
  lt : id < d.started
  mine : d.Owns id tx ∨ (tx = ⟨d.bank.store.begun⟩ ∧ ∀ tx', ¬ d.Owns id tx')

/-- Transactions of other calls are others. -/
lemma Acts.ne (ha : d.Acts id tx) (hd : d.IsSound) {id' : Nat} {tx' : TxId} (hne : id' ≠ id)
    (ho : d.Owns id' tx') : tx ≠ tx' := by
  rintro rfl
  rcases ha.mine with hmine | ⟨rfl, -⟩
  · exact hne (hd.unique ho hmine)
  · exact hd.disciplined.not_isOpen_begun (hd.isOpen ho)

/-- A call has no other transaction than the one that acts. -/
lemma Acts.eq (ha : d.Acts id tx) {tx' : TxId} (ho : d.Owns id tx') : tx' = tx := by
  obtain ⟨ticket, call, hw, htx⟩ := ho
  rcases ha.mine with ⟨ticket', call', hw', htx'⟩ | ⟨-, hnone⟩
  · obtain ⟨rfl, rfl⟩ := Prod.mk.inj (Option.some.inj (hw.symm.trans hw'))
    exact Option.some.inj (htx.symm.trans htx')
  · exact absurd ⟨ticket, call, hw, htx⟩ (hnone tx')

/-- What a turn of a call comes to. -/
abbrev Came (d : Desk σ) (tx : TxId) (ticket : Ticket) (turn : Bank σ × Turn Call Outcome) : Prop :=
  Bank.Came False d.bank.thresholds d.bank.clock.now d.bank.store tx ticket turn.1.store
    (turn.2.map (·.phase) (·.result))

/-- A call that waits after its turn waits with the transaction that acted, or with none. -/
lemma Came.of_owns_after (hcame : d.Came tx ticket turn) {tx' : TxId}
    (ho : (d.after id ticket turn).Owns id tx') :
    ∃ call, turn.2 = .waiting call ∧ tx' = tx ∧ call.phase.Carries turn.1.store tx ticket := by
  obtain ⟨ticket', call, hw, htx⟩ := ho
  obtain ⟨rfl, hturn⟩ := get?_waiting_after_self.mp hw
  rw [Came, hturn] at hcame
  rcases hcame.waiting with ⟨hidles, -⟩ | hc
  · rw [hidles.tx?_eq] at htx
    exact absurd htx (by simp)
  · rw [hc.tx?_eq] at htx
    exact ⟨call, hturn, (Option.some.inj htx).symm, hc⟩

/-- A transaction that is open after a turn in which it acted belongs to the call. -/
lemma Came.owns_of_isOpen (hcame : d.Came tx ticket turn) (ho : turn.1.store.IsOpen tx) :
    (d.after id ticket turn).Owns id tx := by
  cases hturn : turn.2 with
  | waiting call =>
      rw [Came, hturn] at hcame
      rcases hcame.waiting with ⟨-, hclosed⟩ | hc
      · exact absurd ho hclosed
      · exact ⟨ticket, call, get?_waiting_after_self.mpr ⟨rfl, hturn⟩, hc.tx?_eq⟩
  | done outcome =>
      rw [Came, hturn] at hcame
      exact absurd ho hcame.closed

lemma owns_after {id' : Nat} {tx' : TxId} (hne : id' ≠ id) :
    (d.after id ticket turn).Owns id' tx' ↔ d.Owns id' tx' := by
  rw [Owns, Owns, get?_waiting_after hne]

/-- Every turn keeps the invariant. -/
theorem IsSound.after (hd : d.IsSound) (ha : d.Acts id tx) (hcame : d.Came tx ticket turn) :
    (d.after id ticket turn).IsSound where
  disciplined := hcame.path.disciplined hd.disciplined
  isProper := hcame.isProper hd.isProper
  lt {id' waiting} hw := by
    by_cases hne : id' = id
    · exact hne ▸ ha.lt
    · rw [get?_waiting_after hne] at hw
      exact hd.lt hw
  waits {id' ticket' call'} hw := by
    by_cases hne : id' = id
    · subst hne
      obtain ⟨rfl, hturn⟩ := get?_waiting_after_self.mp hw
      rw [Came, hturn] at hcame
      rcases hcame.waiting with ⟨hidles, -⟩ | hc
      · exact .inl hidles
      · exact .inr ⟨tx, hc⟩
    · rw [get?_waiting_after hne] at hw
      rcases hd.waits hw with hidles | ⟨tx', hc⟩
      · exact .inl hidles
      · -- another call waits with another transaction, which can rely on the rows that it holds
        have hother := ha.ne hd hne ⟨ticket', call', hw, hc.tx?_eq⟩
        exact .inr ⟨tx', hc.later (hcame.path.later hd.disciplined hother) hd.disciplined
          (hcame.isProper hd.isProper)⟩
  unique {id₁ id₂ tx'} h₁ h₂ := by
    -- the transaction of the call that has the turn is no other call's
    by_cases hne₁ : id₁ = id
    · by_cases hne₂ : id₂ = id
      · exact hne₁.trans hne₂.symm
      · obtain ⟨_, _, rfl, -⟩ := hcame.of_owns_after (hne₁ ▸ h₁)
        exact absurd rfl (ha.ne hd hne₂ ((owns_after hne₂).mp h₂))
    · by_cases hne₂ : id₂ = id
      · obtain ⟨_, _, rfl, -⟩ := hcame.of_owns_after (hne₂ ▸ h₂)
        exact absurd rfl (ha.ne hd hne₁ ((owns_after hne₁).mp h₁))
      · exact hd.unique ((owns_after hne₁).mp h₁) ((owns_after hne₂).mp h₂)
  owned {tx'} ho := by
    rcases eq_or_ne tx' tx with rfl | hne
    · exact ⟨id, hcame.owns_of_isOpen ho⟩
    · have hbefore := (hcame.path.isOpen ho).resolve_right fun h => hne h.1
      obtain ⟨id', ho'⟩ := hd.owned hbefore
      refine ⟨id', (owns_after ?_).mpr ho'⟩
      rintro rfl
      exact hne (ha.eq ho')

/-! ### Runs -/

section Provider

variable [RateProvider σ]

omit [RateProvider σ] in
lemma isSound_receive (hd : d.IsSound) (request : Request) : (d.receive request).IsSound where
  disciplined := hd.disciplined
  isProper := hd.isProper
  lt hw := Nat.lt_succ_of_lt (hd.lt hw)
  waits hw := hd.waits hw
  unique h h' := hd.unique h h'
  owned ho := hd.owned ho

omit [RateProvider σ] in
/-- A call that starts has no transaction yet. -/
lemma IsSound.acts_receive (hd : d.IsSound) (request : Request) :
    (d.receive request).Acts d.started ⟨d.bank.store.begun⟩ where
  lt := Nat.lt_succ_self _
  mine := by
    refine .inr ⟨rfl, fun tx' ho => ?_⟩
    obtain ⟨_, _, hw, -⟩ := ho
    exact (hd.lt hw).ne rfl

/-- A call that goes on acts with the transaction that it has, or with the next. -/
lemma IsSound.exists_acts (hd : d.IsSound) {call : Call}
    (hw : d.waiting.get? id = some (ticket, call)) :
    ∃ tx, d.Acts id tx ∧
      Bank.CallComes d.bank (Bank.CameOn False d.bank d.bank.store tx
        (ticket.answered (d.bank.rateAtResume? call.phase))) (d.bank.resumeCall call) := by
  -- who idles has no transaction: if one begins in this turn it is the next
  rcases hd.waits hw with hidles | ⟨tx, hc⟩
  · refine ⟨⟨d.bank.store.begun⟩, ⟨hd.lt hw, .inr ⟨rfl, ?_⟩⟩,
      Bank.comes_resumeCall_of_idles hd.disciplined hd.isProper hidles⟩
    rintro tx' ⟨ticket', call', hw', htx⟩
    obtain ⟨rfl, rfl⟩ := Prod.mk.inj (Option.some.inj (hw.symm.trans hw'))
    rw [hidles.tx?_eq] at htx
    exact absurd htx (by simp)
  · exact ⟨tx, ⟨hd.lt hw, .inl ⟨ticket, call, hw, hc.tx?_eq⟩⟩,
      Bank.comes_resumeCall_of_carries hd.disciplined hd.isProper hc⟩

/-- The event is a turn of this call, perhaps its first, in which this transaction acts; `d₁` is the
desk when the call has come. -/
structure HasTurn (d : Desk σ) (event : Event σ) (d₁ : Desk σ) (id : Nat) (tx : TxId)
    (ticket : Ticket) (turn : Bank σ × Turn Call Outcome) : Prop where
  step_eq : d.step event = d₁.after id ticket turn
  received : (event = .resume id ∧ d₁ = d ∧
      ∃ ticket' call, d.waiting.get? id = some (ticket', call) ∧ ticket'.request = ticket.request) ∨
    ∃ deadline, event = .start deadline ticket.request ∧ id = d.started ∧
      d₁ = d.receive ticket.request ∧ turn = d.bank.startCall deadline ticket.request
  acts : d₁.Acts id tx
  isSound : d₁.IsSound
  came : d₁.Came tx ticket turn
  thresholds : turn.1.thresholds = d.bank.thresholds

omit [RateProvider σ] in
/-- An event in which no call has a turn: all that calls and transactions can see of each other, and
all that has been committed, stays as it is, apart from which events have been delivered. -/
structure Rests (d d' : Desk σ) : Prop where
  waiting : d'.waiting = d.waiting
  started : d'.started = d.started
  log : d'.log = d.log
  wallets : d'.bank.store.wallets = d.bank.store.wallets
  journal : d'.bank.store.journal = d.bank.store.journal
  events : d'.bank.store.outbox.map (·.event) = d.bank.store.outbox.map (·.event)
  transactions : d'.bank.store.transactions = d.bank.store.transactions
  locks : d'.bank.store.locks = d.bank.store.locks
  begun : d'.bank.store.begun = d.bank.store.begun
  ids : d'.bank.store.ids = d.bank.store.ids
  thresholds : d'.bank.thresholds = d.bank.thresholds

/-- A call has a turn, or none has. -/
theorem IsSound.step_cases (hd : d.IsSound) (event : Event σ) :
    d.Rests (d.step event) ∨ ∃ d₁ id tx ticket turn, d.HasTurn event d₁ id tx ticket turn := by
  cases event with
  | start deadline request =>
      obtain ⟨hthresholds, hcame⟩ :=
        Bank.came_startCall hd.disciplined hd.isProper deadline request
      exact .inr ⟨d.receive request, d.started, ⟨d.bank.store.begun⟩,
        ⟨request, d.bank.rateAtStart? request⟩, _, rfl, .inr ⟨deadline, rfl, rfl, rfl, rfl⟩,
        hd.acts_receive request, isSound_receive hd request, hcame, hthresholds⟩
  | resume id =>
      rw [Desk.step]
      cases hw : d.waiting.get? id with
      | none => exact .inl ⟨rfl, rfl, rfl, rfl, rfl, rfl, rfl, rfl, rfl, rfl, rfl⟩
      | some pair =>
          obtain ⟨ticket, call⟩ := pair
          obtain ⟨tx, hacts, hcomes⟩ := hd.exists_acts hw
          obtain ⟨hthresholds, hcame⟩ := hcomes.standard
          refine .inr ⟨d, id, tx, ticket.answered (d.bank.rateAtResume? call.phase), _, ?_,
            .inl ⟨rfl, rfl, ticket, call, hw, rfl⟩, hacts, hd, hcame, hthresholds⟩
          rw [Desk.step, hw]
  | advance millis => exact .inl ⟨rfl, rfl, rfl, rfl, rfl, rfl, rfl, rfl, rfl, rfl, rfl⟩
  | ring => exact .inl ⟨rfl, rfl, rfl, rfl, rfl, rfl, rfl, rfl, rfl, rfl, rfl⟩
  | inject point => exact .inl ⟨rfl, rfl, rfl, rfl, rfl, rfl, rfl, rfl, rfl, rfl, rfl⟩
  | publish ids =>
      refine .inl ⟨rfl, rfl, rfl, rfl, rfl, ?_, rfl, rfl, rfl, rfl, rfl⟩
      exact Store.events_markPublished d.bank.store ids
  | requote rates => exact .inl ⟨rfl, rfl, rfl, rfl, rfl, rfl, rfl, rfl, rfl, rfl, rfl⟩

omit [RateProvider σ] in
/-- Where nothing has a turn the invariant stays. -/
lemma IsSound.rests {d' : Desk σ} (hd : d.IsSound) (h : d.Rests d') : d'.IsSound := by
  have hp : d'.bank.store.sheet = d.bank.store.sheet := by
    rw [Store.sheet, Store.sheet, h.wallets]
  have hdis : d'.bank.store.Disciplined :=
    hd.disciplined.of_eq h.locks h.transactions h.begun h.wallets
  refine ⟨hdis, hp.symm ▸ hd.isProper, fun hw => ?_, fun hw => ?_, fun ho ho' => ?_, fun ho => ?_⟩
  · rw [h.started]
    exact hd.lt (h.waiting ▸ hw)
  · rcases hd.waits (h.waiting ▸ hw) with hidles | ⟨tx, hc⟩
    · exact .inl hidles
    · exact .inr ⟨tx, hc.later (.of_eq h.locks h.transactions h.wallets) hd.disciplined
        (hp.symm ▸ hd.isProper)⟩
  · rw [Owns, h.waiting] at ho ho'
    exact hd.unique ho ho'
  · rw [Store.IsOpen, h.transactions] at ho
    obtain ⟨id, ho'⟩ := hd.owned ho
    refine ⟨id, ?_⟩
    rwa [Owns, h.waiting]

/-- Every event keeps the invariant. -/
theorem IsSound.step (hd : d.IsSound) (event : Event σ) : (d.step event).IsSound := by
  rcases hd.step_cases event with h | ⟨d₁, id, tx, ticket, turn, h⟩
  · exact hd.rests h
  · exact h.step_eq ▸ h.isSound.after h.acts h.came

/-- Every run keeps the invariant. -/
theorem IsSound.run (hd : d.IsSound) (events : List (Event σ)) : (d.run events).IsSound := by
  induction events generalizing d with
  | nil => exact hd
  | cons event events ih => exact ih (hd.step event)

end Provider

end Desk

end Teller
