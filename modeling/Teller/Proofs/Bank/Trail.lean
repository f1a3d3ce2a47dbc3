/-
The trails that mutations leave.

* `Trail.IsAccepted`: no stage was asked for that could not follow;
* `Trail.Reaches`: a trail that was made by asking for stages that may follow, and the stage to
  which it has led; `Reaches.isAccepted`, and `Reaches.mem_of_mem`: stages that none leads out of,
  once entered, are never left;
* `Phase.IsOnTrack`: a call waits, and its trail has come as far as its phase;
* `Outcome.Closes`: how a call ends, in view of whether its transaction has begun and whether it has
  changed the books; all that is said of the last trail of a call is read off this.
-/
import Teller.Proofs.Bank.Came

namespace Teller

/-! ### Stages -/

/-- The stages at which a transaction is open. -/
def Stage.inTransaction : List Stage := [beginTx, mutate, audit, notify, commit]

lemma Stage.mem_inTransaction {stage : Stage} (h : .rollback ∈ stage.successors) :
    stage ∈ inTransaction := by
  cases stage <;> revert h <;> decide

lemma Stage.not_mem_of_rollback {stage : Stage} (h : .rollback ∈ stage.successors) :
    stage ∉ [.commit, .done, .failed] := by
  cases stage <;> revert h <;> decide

lemma Stage.not_mem_of_inTransaction {stage : Stage} (h : stage ∈ inTransaction) :
    stage ∉ [.rollback, .failed, .done] := by
  cases stage <;> revert h <;> decide

/-! ### Trails -/

lemma Progress.advance_of_mem {p : Progress} {next : Stage} (h : next ∈ p.stage.successors) :
    p.advance next = .ok { p with stage := next } :=
  if_pos h

namespace Trail

variable {t : Trail} {stage : Stage}

/-- Every stage that was asked for could follow the one that had been reached. -/
def IsAccepted (t : Trail) : Prop :=
  ∀ before stage after, t.requests = before ++ stage :: after →
    ∃ moved, (⟨t.kind, before⟩ : Trail).progress.advance stage = .ok moved

/-- The trail has led to this stage, through stages each of which could follow the one before. -/
inductive Reaches : Trail → Stage → Prop where
  | start (kind : OperationKind) : Reaches (.start kind) .start
  | request {t : Trail} {stage next : Stage} (h : Reaches t stage)
      (hnext : next ∈ stage.successors) : Reaches (t.request next) next

lemma progress_request (t : Trail) (next : Stage) :
    (t.request next).progress = t.progress.request next :=
  List.foldl_append

namespace Reaches

lemma stage_eq (h : t.Reaches stage) : t.progress.stage = stage := by
  induction h with
  | start => rfl
  | request h hnext ih =>
      rw [progress_request, Progress.request, Progress.advance_of_mem (ih ▸ hnext)]

theorem isAccepted (h : t.Reaches stage) : t.IsAccepted := by
  induction h with
  | start => simp [IsAccepted, Trail.start]
  | @request t stage next h hnext ih =>
      intro before asked after heq
      rcases List.eq_nil_or_concat after with rfl | ⟨after, last, rfl⟩
      · obtain ⟨rfl, hlast⟩ := List.append_inj' heq rfl
        obtain rfl := (List.cons.inj hlast).1
        exact ⟨_, Progress.advance_of_mem (h.stage_eq.symm ▸ hnext)⟩
      · rw [List.concat_eq_append, ← List.cons_append, ← List.append_assoc] at heq
        exact ih before asked after (List.append_inj' heq rfl).1

/-- Of stages that none leads out of, one was asked for only if one has been reached. -/
lemma mem_of_mem (h : t.Reaches stage) {stages : List Stage}
    (hclosed : ∀ s ∈ stages, s.successors ⊆ stages) {asked : Stage} (hasked : asked ∈ t.requests)
    (hmem : asked ∈ stages) : stage ∈ stages := by
  induction h with
  | start => simp [Trail.start] at hasked
  | request h hnext ih =>
      rcases List.mem_append.mp hasked with hasked | hasked
      · exact hclosed _ (ih hasked) hnext
      · exact List.mem_singleton.mp hasked ▸ hmem

/-- A stage that has been reached was asked for. -/
lemma mem_requests (h : t.Reaches stage) (hstage : stage ≠ .start) : stage ∈ t.requests := by
  cases h with
  | start => exact absurd rfl hstage
  | request => exact List.mem_append_right _ (List.mem_singleton_self _)

/-- A rollback leads to the failed stage only. -/
lemma rollback_not_mem (h : t.Reaches stage) (hstage : stage ∉ [.rollback, .failed, .done]) :
    .rollback ∉ t.requests :=
  fun hasked => hstage (h.mem_of_mem (by decide) hasked (by decide))

/-- A commit leads to the last two stages only. -/
lemma commit_not_mem (h : t.Reaches stage) (hstage : stage ∉ [.commit, .done, .failed]) :
    .commit ∉ t.requests :=
  fun hasked => hstage (h.mem_of_mem (by decide) hasked (by decide))

end Reaches

end Trail

/-! ### Where calls wait -/

/-- The trail of a call that waits, if it has one. -/
def Phase.trail? : Phase → Option Trail
  | adjusting trail _ _ => some trail
  | crediting trail _ _ => some trail
  | debiting trail _ _ _ => some trail
  | _ => none

/-- A call with a trail has a transaction. -/
lemma Phase.isSome_tx? {phase : Phase} {trail : Trail} (h : phase.trail? = some trail) :
    phase.tx?.isSome = true := by
  cases phase <;> simp_all [trail?, tx?, row?]

/-- A call waits where it has not touched anything, or with the trail of a mutation of rows. -/
inductive Phase.IsOnTrack (ticket : Ticket) : Phase → Prop where
  | idles {phase : Phase} (h : phase.Idles ticket) : IsOnTrack ticket phase
  | opens {account : AccountId} {wait : ProvisionWait}
      (herrand : ticket.errand? = some (.ok (.opening account))) :
      IsOnTrack ticket (.provisioning wait)
  | mutates {phase : Phase} {trail : Trail} (htrail : phase.trail? = some trail)
      (h : trail.Reaches .mutate) : IsOnTrack ticket phase

lemma Phase.Idles.trail?_eq {phase : Phase} {ticket : Ticket} (h : phase.Idles ticket) :
    phase.trail? = none := by
  cases h <;> rfl

lemma Phase.IsOnTrack.reaches {phase : Phase} {ticket : Ticket} (h : phase.IsOnTrack ticket)
    {trail : Trail} (htrail : phase.trail? = some trail) : trail.Reaches .mutate := by
  cases h with
  | idles h => simp [h.trail?_eq] at htrail
  | opens => simp [trail?] at htrail
  | mutates htrail' h => exact Option.some.inj (htrail'.symm.trans htrail) ▸ h

/-! ### How calls end -/

/-- The ticket moves no money: it opens an account, is refused as it stands or asks for nothing. -/
def Ticket.MovesNothing (t : Ticket) : Prop :=
  ∀ errand, t.errand? = some (.ok errand) → errand.movements = []

lemma Ticket.movesNothing_of_none {t : Ticket} (h : t.errand? = none) : t.MovesNothing := by
  intro errand herrand
  simp [h] at herrand

lemma Ticket.movesNothing_of_error {t : Ticket} {e : LedgerError}
    (h : t.errand? = some (.error e)) : t.MovesNothing := by
  intro errand herrand
  simp [h] at herrand

lemma Ticket.movesNothing_of_opening {t : Ticket} {account : AccountId}
    (h : t.errand? = some (.ok (.opening account))) : t.MovesNothing := by
  intro errand herrand
  obtain rfl := Except.ok.inj (Option.some.inj (h.symm.trans herrand))
  rfl

/-- The error of a commit that a fault has struck. -/
def LedgerError.commitStruck : LedgerError := .storeUnavailable (.injected .commit)

namespace Outcome

/-- The call has come to an end of its own, with a reply or an error. -/
def Returns (outcome : Outcome) : Prop :=
  (∃ reply, outcome.result = .ok reply) ∨ ∃ e, outcome.result = .error (.refused e)

/-- How a call ends whose transaction has begun or not, and which has changed the books or not. -/
inductive Closes (ticket : Ticket) (opened written : Prop) : Outcome → Prop where
  | untraced {result : Except Failure Reply} (h : ticket.MovesNothing) :
      Closes ticket opened written ⟨result, none⟩
  | givenUp : Closes ticket opened written ⟨.error (.refused .deadlineExceeded), none⟩
  /-- The transaction could not be begun. -/
  | unbegun {t : Trail} {e : LedgerError} (h : t.Reaches .acquireConnection)
      (hopened : ¬ opened) (hwritten : ¬ written) (he : e ≠ .commitStruck) :
      Closes ticket opened written ⟨.error (.refused e), some (t.request .failed)⟩
  | rolledBack {t : Trail} {stage : Stage} {e : LedgerError} (h : t.Reaches stage)
      (hstage : .rollback ∈ stage.successors) (hopened : opened) (hwritten : ¬ written)
      (he : e ≠ .commitStruck) :
      Closes ticket opened written
        ⟨.error (.refused e), some ((t.request .rollback).request .failed)⟩
  /-- A sum or a balance stopped the call where it stood. -/
  | stopped {t : Trail} {stage : Stage} {f : Failure} (h : t.Reaches stage)
      (hstage : stage ∈ Stage.inTransaction) (hf : ∀ e, f ≠ .refused e) :
      Closes ticket opened written ⟨.error f, some t⟩
  | uncommitted {t : Trail} (h : t.Reaches .commit) (hwritten : ¬ written) :
      Closes ticket opened written ⟨.error (.refused .commitStruck), some (t.request .failed)⟩
  | committed {t : Trail} {reply : Reply} (h : t.Reaches .commit) (hwritten : written) :
      Closes ticket opened written ⟨.ok reply, some (t.request .done)⟩

namespace Closes

variable {ticket : Ticket} {opened written : Prop} {outcome : Outcome} {t : Trail}

/-- The three ways in which a call with a trail ends: it fails, it is done, or it is stopped. -/
lemma last (h : outcome.Closes ticket opened written) (ht : outcome.trail = some t) :
    (t.Reaches .failed ∧ ¬ written ∧ ∃ e, outcome.result = .error (.refused e)) ∨
    (t.Reaches .done ∧ written ∧ ∃ reply, outcome.result = .ok reply) ∨
    (∃ stage ∈ Stage.inTransaction, t.Reaches stage) ∧
      ∃ f, outcome.result = .error f ∧ ∀ e, f ≠ .refused e := by
  cases h with
  | untraced => simp at ht
  | givenUp => simp at ht
  | unbegun h _ hwritten =>
      exact Option.some.inj ht ▸ .inl ⟨h.request (by decide), hwritten, _, rfl⟩
  | rolledBack h hstage _ hwritten =>
      exact Option.some.inj ht ▸ .inl ⟨(h.request hstage).request (by decide), hwritten, _, rfl⟩
  | stopped h hstage hf => exact Option.some.inj ht ▸ .inr (.inr ⟨⟨_, hstage, h⟩, _, rfl, hf⟩)
  | uncommitted h hwritten =>
      exact Option.some.inj ht ▸ .inl ⟨h.request (by decide), hwritten, _, rfl⟩
  | committed h hwritten =>
      exact Option.some.inj ht ▸ .inr (.inl ⟨h.request (by decide), hwritten, _, rfl⟩)

/-- The last trail of a call was made by asking for stages that may follow. -/
lemma exists_reaches (h : outcome.Closes ticket opened written) (ht : outcome.trail = some t) :
    ∃ stage, t.Reaches stage := by
  rcases h.last ht with ⟨hlast, -⟩ | ⟨hlast, -⟩ | ⟨⟨stage, -, hlast⟩, -⟩
  · exact ⟨_, hlast⟩
  · exact ⟨_, hlast⟩
  · exact ⟨stage, hlast⟩

/-- The last stage tells whether the changes were committed and the call had a reply. -/
theorem stage_eq_done_iff (h : outcome.Closes ticket opened written) (ht : outcome.trail = some t) :
    t.progress.stage = .done ↔ written ∧ ∃ reply, outcome.result = .ok reply := by
  rcases h.last ht with ⟨hlast, hwritten, -⟩ | ⟨hlast, hwritten, hresult⟩ |
    ⟨⟨stage, hstage, hlast⟩, f, hresult, -⟩
  · simp [hlast.stage_eq, hwritten]
  · simp [hlast.stage_eq, hwritten, hresult]
  · have hne : stage ≠ .done := by
      rintro rfl
      exact absurd hstage (by decide)
    simp [hlast.stage_eq, hne, hresult]

/-- A call that has come to an end of its own has failed if it is not done. -/
theorem stage_eq_failed_iff (h : outcome.Closes ticket opened written)
    (ht : outcome.trail = some t) (hreturns : outcome.Returns) :
    t.progress.stage = .failed ↔ ¬ (written ∧ ∃ reply, outcome.result = .ok reply) := by
  rcases h.last ht with ⟨hlast, hwritten, -⟩ | ⟨hlast, hwritten, hresult⟩ | ⟨-, f, hresult, hf⟩
  · simp [hlast.stage_eq, hwritten]
  · simp [hlast.stage_eq, hwritten, hresult]
  · simp [Returns, hresult, hf] at hreturns

/-- A call passes the rollback if and only if its transaction has begun and it fails otherwise than
by its commit. -/
theorem rollback_mem_iff (h : outcome.Closes ticket opened written) (ht : outcome.trail = some t) :
    .rollback ∈ t.requests ↔
      opened ∧ ∃ e, outcome.result = .error (.refused e) ∧ e ≠ .commitStruck := by
  cases h with
  | untraced => simp at ht
  | givenUp => simp at ht
  | unbegun h hopened =>
      obtain rfl := Option.some.inj ht
      simp [Trail.request, h.rollback_not_mem (by decide), hopened]
  | rolledBack h hstage hopened hwritten he =>
      obtain rfl := Option.some.inj ht
      simp [Trail.request, hopened, he]
  | stopped h hstage hf =>
      obtain rfl := Option.some.inj ht
      simp [h.rollback_not_mem (Stage.not_mem_of_inTransaction hstage), hf]
  | uncommitted h =>
      obtain rfl := Option.some.inj ht
      simp [Trail.request, h.rollback_not_mem (by decide)]
  | committed h =>
      obtain rfl := Option.some.inj ht
      simp [Trail.request, h.rollback_not_mem (by decide)]

/-- A call that has come to an end of its own passes the commit if and only if it has a reply or
fails by its commit. -/
theorem commit_mem_iff (h : outcome.Closes ticket opened written) (ht : outcome.trail = some t)
    (hreturns : outcome.Returns) : .commit ∈ t.requests ↔
      (∃ reply, outcome.result = .ok reply) ∨ outcome.result = .error (.refused .commitStruck) := by
  cases h with
  | untraced => simp at ht
  | givenUp => simp at ht
  | unbegun h _ _ he =>
      obtain rfl := Option.some.inj ht
      simp [Trail.request, h.commit_not_mem (by decide), he]
  | rolledBack h hstage _ _ he =>
      obtain rfl := Option.some.inj ht
      simp [Trail.request, h.commit_not_mem (Stage.not_mem_of_rollback hstage), he]
  | stopped h hstage hf => simp [Returns, hf] at hreturns
  | uncommitted h =>
      obtain rfl := Option.some.inj ht
      simp [Trail.request, h.mem_requests (by decide)]
  | committed h =>
      obtain rfl := Option.some.inj ht
      simp [Trail.request, h.mem_requests (by decide)]

/-- A call that had something to mutate leaves a trail unless it was given up. -/
lemma eq_of_trail_eq_none (h : outcome.Closes ticket opened written) (ht : outcome.trail = none)
    {errand : Errand} (herrand : ticket.errand? = some (.ok errand))
    (hmoves : errand.movements ≠ []) : outcome.result = .error (.refused .deadlineExceeded) := by
  cases h with
  | untraced h => exact absurd (h errand herrand) hmoves
  | givenUp => rfl
  | _ => simp at ht

end Closes

end Outcome

end Teller
