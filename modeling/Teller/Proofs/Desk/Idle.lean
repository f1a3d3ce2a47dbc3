/-
A call at a desk where nothing else goes on.

* `Desk.IsReachable`: a desk comes to this state in some run; `Desk.IsIdle`: no transaction is open
  there, and no fault is to strike;
* `Desk.HasEnded`: a call has just ended; `Desk.Keeps`: nothing that has been committed has changed;
* `Desk.Finishes`: a call has ended alone with the store, refused or with its errand carried out;
* `IsSound.finishes_start`, `IsSound.finishes_resume`: a call with an answer ends so in the turn in
  which it starts, or gets its rate; `IsSound.keeps_start`, `IsSound.keeps_resume`: one without an
  answer changes nothing.
-/
import Teller.Proofs.Desk.Deadline
import Teller.Proofs.Store.Verdict

namespace Teller.Desk

variable {σ : Type} {d d' d₁ : Desk σ} {id : ℕ} {ticket : Ticket}
  {answer : Except LedgerError Errand}

/-- A desk comes to this state in some run. -/
def IsReachable [RateProvider σ] (d : Desk σ) : Prop :=
  ∃ clock lockTimeout ids rates thresholds events,
    d = (fresh clock lockTimeout ids rates thresholds).run events

lemma IsReachable.isSound [RateProvider σ] (h : d.IsReachable) : d.IsSound := by
  obtain ⟨clock, lockTimeout, ids, rates, thresholds, events, rfl⟩ := h
  exact (isSound_fresh clock lockTimeout ids rates thresholds).run events

/-- No transaction is open, and no fault is to strike. -/
structure IsIdle (d : Desk σ) : Prop where
  closed (tx : TxId) : ¬ d.bank.store.IsOpen tx
  faults : d.bank.store.faults = []

lemma isIdle_iff : d.IsIdle ↔ d.bank.store.transactions.keys = [] ∧ d.bank.store.faults = [] := by
  constructor
  · rintro ⟨hclosed, hfaults⟩
    refine ⟨List.eq_nil_iff_forall_not_mem.mpr fun tx hmem => hclosed tx ?_, hfaults⟩
    exact Option.ne_none_iff_exists'.mp fun hnone => Table.get?_eq_none_iff.mp hnone hmem
  · rintro ⟨hkeys, hfaults⟩
    refine ⟨fun tx => ?_, hfaults⟩
    rintro ⟨t, ht⟩
    rw [Table.get?_eq_none_iff.mpr (by simp [hkeys])] at ht
    exact absurd ht (by simp)

instance (d : Desk σ) : Decidable d.IsIdle := decidable_of_iff _ isIdle_iff.symm

lemma IsIdle.alone (h : d.IsIdle) (tx : TxId) : d.bank.store.Alone tx :=
  ⟨h.faults, fun other ho => absurd ho (h.closed other)⟩

/-- This is the last that has been noted: the call has ended with this result. -/
def HasEnded (d : Desk σ) (id : ℕ) (request : Request) (result : Except Failure Reply) : Prop :=
  ∃ obtained trail, d.log.getLast? = some (.ended id ⟨request, obtained⟩ ⟨result, trail⟩)

/-- Nothing that has been committed changes. -/
structure Keeps (d d' : Desk σ) : Prop where
  wallets : d'.bank.store.wallets = d.bank.store.wallets
  journal : d'.bank.store.journal = d.bank.store.journal
  outbox : d'.bank.store.outbox = d.bank.store.outbox

/-- A call has ended alone with the store. -/
inductive Finishes (d d' : Desk σ) (id : ℕ) (ticket : Ticket) : Prop where
  | refused {e : LedgerError} (he : ticket.outcome? d.bank.store.sheet = some (.error e))
      (hkeeps : d.Keeps d') (hended : d'.HasEnded id ticket.request (.error (.refused e)))
  | posts {errand : Errand} {reply : Reply} {tx : TxId}
      (herrand : ticket.errand? = some (.ok errand))
      (hp : errand.Posts d.bank.thresholds d.bank.clock.now tx d.bank.store d'.bank.store reply)
      (hended : d'.HasEnded id ticket.request (.ok reply))

/-- A turn in which the next transaction acts alone leaves the desk idle if that is closed. -/
lemma IsIdle.after (h : d.IsIdle) {turn : Bank σ × Turn Call Outcome}
    (hpath : Store.Path ⟨d.bank.store.begun⟩ d.bank.store turn.1.store)
    (hclosed : ¬ turn.1.store.IsOpen ⟨d.bank.store.begun⟩) :
    (d₁.after id ticket turn).IsIdle := by
  obtain ⟨hfaults, hothers⟩ := hpath.alone (h.alone _)
  refine ⟨fun tx ho => hclosed ?_, hfaults⟩
  exact hothers tx ho ▸ ho

/-- A turn that comes to what a call alone comes to ends the call. -/
lemma IsIdle.finishes_after (h : d.IsIdle) (herrand : ticket.errand? = some answer)
    {turn : Bank σ × Turn Call Outcome}
    (hcame : Bank.CameOn True d.bank d.bank.store ⟨d.bank.store.begun⟩ ticket turn.1.store
      (turn.2.map (·.phase) (·.result))) :
    (d₁.after id ticket turn).IsIdle ∧ d.Finishes (d₁.after id ticket turn) id ticket := by
  rcases hcame.done_of_alone herrand with ⟨e, hdone, hd, he⟩ | ⟨_, reply, hdone, herrand', hp⟩
  · obtain ⟨⟨result, trail⟩, hturn, hresult⟩ := Turn.exists_of_map_eq_done hdone
    obtain rfl : result = .error (.refused e) := hresult
    rw [hdone] at hcame
    exact ⟨h.after hcame.path hcame.closed, .refused he ⟨hd.wallets, hd.journal, hd.outbox⟩
      ⟨_, trail, getLast?_log_after hturn⟩⟩
  · obtain ⟨⟨result, trail⟩, hturn, hresult⟩ := Turn.exists_of_map_eq_done hdone
    obtain rfl : result = .ok reply := hresult
    rw [hdone] at hcame
    exact ⟨h.after hcame.path hcame.closed, .posts herrand' hp
      ⟨_, trail, getLast?_log_after hturn⟩⟩

/-- A turn of a call without an answer changes nothing that has been committed. -/
lemma IsIdle.keeps_after (h : d.IsIdle) (herrand : ticket.errand? = none)
    {turn : Bank σ × Turn Call Outcome} (hcame : d.Came ⟨d.bank.store.begun⟩ ticket turn) :
    (d₁.after id ticket turn).IsIdle ∧ d.Keeps (d₁.after id ticket turn) := by
  obtain ⟨hclosed, hwallets, hjournal, houtbox⟩ := hcame.kept_of_errand?_eq_none herrand
  exact ⟨h.after hcame.path hclosed, hwallets, hjournal, houtbox⟩

variable [RateProvider σ]

/-- A call that has an answer when it starts ends in that turn. -/
theorem IsSound.finishes_start (hd : d.IsSound) (h : d.IsIdle) (deadline : Option ℕ)
    {request : Request}
    (herrand : Ticket.errand? ⟨request, d.bank.rateAtStart? request⟩ = some answer) :
    (d.step (.start deadline request)).IsIdle ∧
      d.Finishes (d.step (.start deadline request)) d.started
        ⟨request, d.bank.rateAtStart? request⟩ := by
  have hverify : ∀ account, request = .verify account →
      Settles (d.bank.store.reconcile account) (d.bank.store.reconcile account) := by
    rintro account rfl
    simp [Ticket.errand?] at herrand
  have hcomes := Bank.comes_start (b := d.bank) hd.disciplined hd.isProper
    (fun _ : True => h.alone _) request hverify
  have hcall := Bank.comes_underDeadline_of_errand? deadline hcomes herrand
  exact h.finishes_after herrand hcall.standard.2

/-- A call that has no answer when it starts changes nothing. -/
theorem IsSound.keeps_start (hd : d.IsSound) (h : d.IsIdle) (deadline : Option ℕ)
    {request : Request} (herrand : Ticket.errand? ⟨request, d.bank.rateAtStart? request⟩ = none) :
    (d.step (.start deadline request)).IsIdle ∧ d.Keeps (d.step (.start deadline request)) :=
  h.keeps_after herrand (Bank.came_startCall hd.disciplined hd.isProper deadline request).2

/-- A call that has touched nothing, and has an answer when it goes on, ends in that turn. -/
theorem IsSound.finishes_resume (hd : d.IsSound) (h : d.IsIdle) {call : Call}
    (hw : d.waiting.get? id = some (ticket, call)) (hidles : call.phase.Idles ticket)
    (herrand : (ticket.answered (d.bank.rateAtResume? call.phase)).errand? = some answer) :
    (d.step (.resume id)).IsIdle ∧
      d.Finishes (d.step (.resume id)) id
        (ticket.answered (d.bank.rateAtResume? call.phase)) := by
  have hcomes := Bank.comes_resume_of_idles (b := d.bank) hd.disciplined hd.isProper
    (fun _ : True => h.alone _) hidles
  have hcall := Bank.comes_underDeadline_of_errand? call.deadline hcomes herrand
  rw [Desk.step, hw]
  exact h.finishes_after herrand hcall.standard.2

/-- A call that has touched nothing, and has no answer yet when it goes on, changes nothing. -/
theorem IsSound.keeps_resume (hd : d.IsSound) (h : d.IsIdle) {call : Call}
    (hw : d.waiting.get? id = some (ticket, call)) (hidles : call.phase.Idles ticket)
    (herrand : (ticket.answered (d.bank.rateAtResume? call.phase)).errand? = none) :
    (d.step (.resume id)).IsIdle ∧ d.Keeps (d.step (.resume id)) := by
  have hcomes := Bank.comes_resumeCall_of_idles hd.disciplined hd.isProper hidles
  rw [Desk.step, hw]
  exact h.keeps_after herrand hcomes.standard.2

/-- A desk at which dollars have been paid into a new account, and euros have this rate. -/
def funded (rate paid : Decimal) : Desk SimulatedProvider :=
  let provider := (SimulatedProvider.named "").setPair ⟨.usd, .eur⟩ rate
  (fresh (.atRest 0) Store.standardLockTimeout .fresh
    (.empty ⟨provider, none⟩ RateCache.standardTtl) .standard).run
      [.start none (.openAccount ⟨.random 0⟩), .start none (.deposit ⟨.random 0⟩ .usd paid)]

lemma isReachable_funded (rate paid : Decimal) : (funded rate paid).IsReachable :=
  ⟨_, _, _, _, _, _, rfl⟩

end Teller.Desk
