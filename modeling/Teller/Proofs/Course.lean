/-
The courses that operations can take, from their start to their end.

* `Stage.Way`: the way to a stage if nothing fails on it, written out; `Stage.straight` is the whole
  of it;
* `Stage.IsCourse`: what an operation goes through until it has ended: the whole way, or a part of
  it that is left by a failure or by a rollback;
* `Trail.accepted`: of the stages that an operation asks for, those that it gets;
* `Trail.reaches_accepted`: by these it has come to its stage, and so they are the beginning of a
  course (`Reaches.stands`, `Stands.exists_isCourse`);
* `Trail.exists_reaches_of_isCourse`: there is none that an operation cannot take;
* `Trail.takesCourse`: so it is whatever stages are asked for, in whatever order and how often.
-/
import Teller.Proofs.Bank.Trail

namespace Teller

namespace Stage

variable {stage next : Stage} {stages : List Stage}

/-! ### Courses -/

/-- The stages of an operation that has mutated `n + 1` times. -/
def mutated (n : ℕ) : List Stage :=
  [acquireConnection, beginTx] ++ List.replicate (n + 1) mutate

/-- The same with the audit, and with a notice or without. -/
def audited (n : ℕ) (notice : Bool) : List Stage :=
  mutated n ++ (if notice then [audit, notify] else [audit])

/-- The stages of an operation that is done. -/
def straight (n : ℕ) (notice : Bool) : List Stage := audited n notice ++ [commit, done]

/-- The way to a stage, if nothing fails on it. -/
inductive Way : Stage → List Stage → Prop where
  | start : Way start []
  | acquireConnection : Way acquireConnection [acquireConnection]
  | beginTx : Way beginTx [acquireConnection, beginTx]
  | mutate (n : ℕ) : Way mutate (mutated n)
  | audit (n : ℕ) : Way audit (audited n false)
  | notify (n : ℕ) : Way notify (audited n true)
  | commit (n : ℕ) (notice : Bool) : Way commit (audited n notice ++ [commit])
  | done (n : ℕ) (notice : Bool) : Way done (straight n notice)

/-- The stages of an operation until it has ended. -/
inductive IsCourse : List Stage → Prop where
  /-- It is done. -/
  | done (n : ℕ) (notice : Bool) : IsCourse (straight n notice)
  /-- It fails outside its transaction, or by its commit. -/
  | failed {stage : Stage} {stages : List Stage} (h : Way stage stages)
      (hstage : stage ∈ [start, acquireConnection, commit]) : IsCourse (stages ++ [failed])
  /-- It fails inside its transaction, which is rolled back. -/
  | rolledBack {stage : Stage} {stages : List Stage} (h : Way stage stages)
      (hstage : stage ∈ [beginTx, mutate, audit, notify]) :
      IsCourse (stages ++ [rollback, failed])

lemma mutated_succ (n : ℕ) : mutated (n + 1) = mutated n ++ [mutate] := by
  rw [mutated, List.replicate_succ', ← List.append_assoc, ← mutated]

lemma audited_true (n : ℕ) : audited n true = audited n false ++ [notify] := by
  simp [audited]

lemma straight_eq (n : ℕ) (notice : Bool) :
    straight n notice = audited n notice ++ [commit] ++ [done] := by
  simp [straight]

/-- An operation on its way goes on unless it fails. -/
lemma Way.concat (h : Way stage stages) (hnext : next ∈ stage.successors)
    (hrollback : next ≠ rollback) (hfailed : next ≠ failed) : Way next (stages ++ [next]) := by
  cases h with
  | start =>
      obtain rfl : next = .acquireConnection := by simpa [successors, hfailed] using hnext
      exact .acquireConnection
  | acquireConnection =>
      obtain rfl : next = .beginTx := by simpa [successors, hfailed] using hnext
      exact .beginTx
  | beginTx =>
      obtain rfl : next = .mutate := by simpa [successors, hrollback] using hnext
      exact .mutate 0
  | mutate n =>
      obtain rfl | rfl : next = .mutate ∨ next = .audit := by
        simpa [successors, hrollback] using hnext
      · exact mutated_succ n ▸ .mutate (n + 1)
      · exact .audit n
  | audit n =>
      obtain rfl | rfl : next = .notify ∨ next = .commit := by
        simpa [successors, hrollback] using hnext
      · exact audited_true n ▸ .notify n
      · exact .commit n false
  | notify n =>
      obtain rfl : next = .commit := by simpa [successors, hrollback] using hnext
      exact .commit n true
  | commit n notice =>
      obtain rfl : next = .done := by simpa [successors, hfailed] using hnext
      exact straight_eq n notice ▸ .done n notice
  | done n notice => simp [successors] at hnext

/-- All ways are parts of the whole way. -/
lemma Way.exists_straight (h : Way stage stages) : ∃ n notice, stages <+: straight n notice := by
  cases h with
  | start => exact ⟨0, false, List.nil_prefix⟩
  | acquireConnection => exact ⟨0, false, by decide⟩
  | beginTx => exact ⟨0, false, by decide⟩
  | mutate n => exact ⟨n, false, (List.prefix_append ..).trans (List.prefix_append ..)⟩
  | audit n => exact ⟨n, false, List.prefix_append ..⟩
  | notify n => exact ⟨n, true, List.prefix_append ..⟩
  | commit n notice => exact ⟨n, notice, straight_eq n notice ▸ List.prefix_append ..⟩
  | done n notice => exact ⟨n, notice, List.prefix_rfl⟩

/-- Once its transaction has begun, an operation is done, or fails from the rollback or from the
commit. -/
lemma IsCourse.exists_last (h : IsCourse stages) (hbegun : beginTx ∈ stages) :
    (∃ n notice, stages = straight n notice) ∨
      ∃ before last, stages = before ++ [last, .failed] ∧ last ∈ [.rollback, commit] := by
  cases h with
  | done n notice => exact .inl ⟨n, notice, rfl⟩
  | failed h hstage =>
      -- of the stages from which it may fail without a rollback only the commit comes after the
      -- beginning
      cases h with
      | start => simp at hbegun
      | acquireConnection => simp at hbegun
      | commit n notice =>
          refine .inr ⟨audited n notice, .commit, ?_, by simp⟩
          rw [List.append_assoc]
          rfl
      | _ => simp at hstage
  | @rolledBack _ stages h hstage => exact .inr ⟨stages, .rollback, rfl, by simp⟩

/-- Where an operation stands after the stages that it has been through. -/
inductive Stands : Stage → List Stage → Prop where
  | way {stage : Stage} {stages : List Stage} (h : Way stage stages) : Stands stage stages
  | rollback {stage : Stage} {stages : List Stage} (h : Way stage stages)
      (hstage : stage ∈ [beginTx, mutate, audit, notify]) : Stands rollback (stages ++ [rollback])
  | failed {stages : List Stage} (h : IsCourse (stages ++ [failed])) :
      Stands failed (stages ++ [failed])

namespace Stands

/-- The next stage: an operation goes on, or leaves its way for the rollback or the failed stage. -/
lemma concat (h : Stands stage stages) (hnext : next ∈ stage.successors) :
    Stands next (stages ++ [next]) := by
  cases h with
  | way h =>
      by_cases hrollback : next = .rollback
      · subst hrollback
        refine .rollback h ?_
        cases h <;> simp_all [successors]
      · by_cases hfailed : next = .failed
        · subst hfailed
          refine .failed (.failed h ?_)
          cases h <;> simp_all [successors]
        · exact .way (h.concat hnext hrollback hfailed)
  | @rollback _ stages h hstage =>
      obtain rfl : next = .failed := by simpa [successors] using hnext
      refine .failed ?_
      rw [List.append_assoc]
      exact .rolledBack h hstage
  | failed h => simp [successors] at hnext

/-- What it has been through is the beginning of a course. -/
lemma exists_isCourse (h : Stands stage stages) :
    ∃ course, IsCourse course ∧ stages <+: course := by
  cases h with
  | way h =>
      obtain ⟨n, notice, hbegins⟩ := h.exists_straight
      exact ⟨_, .done n notice, hbegins⟩
  | @rollback _ stages h hstage =>
      exact ⟨_, .rolledBack h hstage, (List.prefix_append_right_inj stages).mpr (by decide)⟩
  | failed h => exact ⟨_, h, List.prefix_rfl⟩

lemma done_iff : Stands .done stages ↔ ∃ n notice, stages = straight n notice := by
  constructor
  · rintro (⟨⟨⟩⟩)
    exact ⟨_, _, rfl⟩
  · rintro ⟨n, notice, rfl⟩
    exact .way (.done n notice)

/-- Once its transaction has begun, an operation fails from the rollback or from the commit. -/
lemma exists_last (h : Stands .failed stages) (hbegun : beginTx ∈ stages) :
    ∃ before last, stages = before ++ [last, .failed] ∧ last ∈ [.rollback, commit] := by
  cases h with
  | way h => cases h
  | failed h =>
      rcases h.exists_last hbegun with ⟨n, notice, hdone⟩ | hlast
      · rw [straight_eq] at hdone
        exact absurd (List.append_inj' hdone rfl).2 (by decide)
      · exact hlast

end Stands

end Stage

/-! ### Requests -/

/-- Of the stages that are asked for, those that may follow when they are. -/
def Progress.accepted (p : Progress) : List Stage → List Stage
  | [] => []
  | next :: rest =>
    match p.advance next with
    | .ok moved => next :: moved.accepted rest
    | .error _ => p.accepted rest

namespace Progress

variable {p moved : Progress} {next : Stage} {e : InvalidTransition}

lemma advance_eq_ok (h : p.advance next = .ok moved) :
    next ∈ p.stage.successors ∧ moved = ⟨p.kind, next⟩ := by
  rw [advance] at h
  split at h
  · next hmem => exact ⟨hmem, (Except.ok.inj h).symm⟩
  · cases h

lemma advance_eq_error (h : p.advance next = .error e) :
    next ∉ p.stage.successors ∧ e = ⟨p.stage, next⟩ := by
  rw [advance] at h
  split at h
  · cases h
  · next hmem => exact ⟨hmem, (Except.error.inj h).symm⟩

lemma accepted_append (p : Progress) (stages later : List Stage) : p.accepted (stages ++ later)
    = p.accepted stages ++ (stages.foldl request p).accepted later := by
  induction stages generalizing p with
  | nil => rfl
  | cons next stages ih =>
      rw [List.cons_append, accepted, accepted, List.foldl_cons, request]
      cases p.advance next with
      | ok moved => exact congrArg (next :: ·) (ih moved)
      | error e => exact ih p

/-- Nothing is accepted after a final stage. -/
lemma accepted_of_isFinal (h : p.stage.isFinal) (later : List Stage) :
    p.accepted later = [] ∧ later.foldl request p = p := by
  induction later with
  | nil => exact ⟨rfl, rfl⟩
  | cons next later ih =>
      cases hadvance : p.advance next with
      | ok moved =>
          have hnext := (advance_eq_ok hadvance).1
          cases hstage : p.stage <;> simp [hstage, Stage.isFinal, Stage.successors] at h hnext
      | error e =>
          rw [accepted, List.foldl_cons, request, hadvance]
          exact ih

end Progress

namespace Trail

variable {t : Trail} {stage next : Stage} {course stages : List Stage} {kind : OperationKind}

/-- Of the stages that the operation has asked for, those that it has got. -/
def accepted (t : Trail) : List Stage := (Progress.start t.kind).accepted t.requests

/-- The trail with more requests at its end. -/
def followedBy (t : Trail) (later : List Stage) : Trail := ⟨t.kind, t.requests ++ later⟩

lemma accepted_followedBy (t : Trail) (later : List Stage) :
    (t.followedBy later).accepted = t.accepted ++ t.progress.accepted later :=
  Progress.accepted_append ..

lemma progress_followedBy (t : Trail) (later : List Stage) :
    (t.followedBy later).progress = later.foldl Progress.request t.progress :=
  List.foldl_append

lemma accepted_request_of_ok {p : Progress} (h : t.progress.advance next = .ok p) :
    (t.request next).accepted = t.accepted ++ [next] ∧ (t.request next).progress = p := by
  constructor
  · rw [show t.request next = t.followedBy [next] from rfl, accepted_followedBy,
      Progress.accepted, h]
    rfl
  · rw [progress_request, Progress.request, h]

lemma accepted_request_of_error {e : InvalidTransition} (h : t.progress.advance next = .error e) :
    (t.request next).accepted = t.accepted ∧ (t.request next).progress = t.progress := by
  constructor
  · rw [show t.request next = t.followedBy [next] from rfl, accepted_followedBy,
      Progress.accepted, h]
    exact List.append_nil _
  · rw [progress_request, Progress.request, h]

/-- By what it has got an operation has come to its stage. -/
theorem reaches_accepted (t : Trail) : Reaches ⟨t.kind, t.accepted⟩ t.progress.stage := by
  obtain ⟨kind, requests⟩ := t
  induction requests using List.reverseRecOn with
  | nil => exact .start kind
  | append_singleton requests next ih =>
      set t : Trail := ⟨kind, requests⟩
      show Reaches ⟨kind, (t.request next).accepted⟩ (t.request next).progress.stage
      cases hadvance : t.progress.advance next with
      | ok p =>
          obtain ⟨hnext, rfl⟩ := Progress.advance_eq_ok hadvance
          rw [(accepted_request_of_ok hadvance).1, (accepted_request_of_ok hadvance).2]
          exact .request ih hnext
      | error e =>
          rw [(accepted_request_of_error hadvance).1, (accepted_request_of_error hadvance).2]
          exact ih

/-- An operation that is asked only for what may follow stands on its way, or has left it. -/
theorem Reaches.stands (h : t.Reaches stage) : Stage.Stands stage t.requests := by
  induction h with
  | start => exact .way .start
  | request h hnext ih => exact ih.concat hnext

/-- Every way can be gone. -/
lemma reaches_of_way (h : Stage.Way stage stages) (kind : OperationKind) :
    Reaches ⟨kind, stages⟩ stage := by
  have hconnected : Reaches ⟨kind, [.acquireConnection]⟩ .acquireConnection :=
    (Reaches.start kind).request (by decide)
  have hbegun : Reaches ⟨kind, [.acquireConnection, .beginTx]⟩ .beginTx :=
    hconnected.request (by decide)
  -- rows may be adjusted any number of times, so this part is by induction
  have hmutated (n : ℕ) : Reaches ⟨kind, Stage.mutated n⟩ .mutate := by
    induction n with
    | zero => exact hbegun.request (by decide)
    | succ n ih => exact Stage.mutated_succ n ▸ ih.request (by decide)
  have haudited (n : ℕ) : Reaches ⟨kind, Stage.audited n false⟩ .audit :=
    (hmutated n).request (by decide)
  have hnotified (n : ℕ) : Reaches ⟨kind, Stage.audited n true⟩ .notify :=
    Stage.audited_true n ▸ (haudited n).request (by decide)
  have hcommitted (n : ℕ) (notice : Bool) :
      Reaches ⟨kind, Stage.audited n notice ++ [.commit]⟩ .commit := by
    cases notice with
    | false => exact (haudited n).request (by decide)
    | true => exact (hnotified n).request (by decide)
  cases h with
  | start => exact .start kind
  | acquireConnection => exact hconnected
  | beginTx => exact hbegun
  | mutate n => exact hmutated n
  | audit n => exact haudited n
  | notify n => exact hnotified n
  | commit n notice => exact hcommitted n notice
  | done n notice => exact Stage.straight_eq n notice ▸ (hcommitted n notice).request (by decide)

/-- Every course can be taken. -/
theorem exists_reaches_of_isCourse (h : Stage.IsCourse course) (kind : OperationKind) :
    ∃ stage, Reaches ⟨kind, course⟩ stage := by
  cases h with
  | done n notice => exact ⟨_, reaches_of_way (.done n notice) kind⟩
  | @failed stage _ h hstage =>
      refine ⟨_, (reaches_of_way h kind).request ?_⟩
      cases stage <;> revert hstage <;> decide
  | @rolledBack stage stages h hstage =>
      have hrollback : .rollback ∈ stage.successors := by
        cases stage <;> revert hstage <;> decide
      have hback : Reaches ⟨kind, stages ++ [.rollback]⟩ .rollback :=
        (reaches_of_way h kind).request hrollback
      have hfailed : Reaches ⟨kind, stages ++ [.rollback] ++ [.failed]⟩ .failed :=
        hback.request (by decide)
      rw [List.append_assoc] at hfailed
      exact ⟨_, hfailed⟩

/-- The beginning of what an operation has been through, it has been through. -/
lemma Reaches.exists_of_prefix (h : t.Reaches stage) (hbegins : stages <+: t.requests) :
    ∃ stage, Reaches ⟨t.kind, stages⟩ stage := by
  induction h with
  | start kind =>
      obtain rfl := List.prefix_nil.mp hbegins
      exact ⟨_, .start kind⟩
  | @request t _ next h hnext ih =>
      rcases List.prefix_concat_iff.mp hbegins with rfl | hbegins
      · exact ⟨next, h.request hnext⟩
      · exact ih hbegins

/-- An operation that asks only for what may follow gets all of it. -/
lemma Reaches.accepted_eq (h : t.Reaches stage) : t.accepted = t.requests := by
  induction h with
  | start => rfl
  | @request t _ next h hnext ih =>
      rw [(accepted_request_of_ok (Progress.advance_of_mem (h.stage_eq ▸ hnext))).1, ih]
      rfl

/-- What is asked for, whatever it is, takes an operation along a course, and along any of them. -/
structure TakesCourse (t : Trail) : Prop where
  /-- A request is refused for the stage at which it is made, and changes nothing. -/
  refused {next : Stage} {e : InvalidTransition} (h : t.progress.advance next = .error e) :
    e = ⟨t.progress.stage, next⟩ ∧ (t.request next).progress = t.progress ∧
      (t.request next).accepted = t.accepted
  /-- Else it is granted. -/
  granted {next : Stage} {p : Progress} (h : t.progress.advance next = .ok p) :
    p = ⟨t.progress.kind, next⟩ ∧ (t.request next).progress = p ∧
      (t.request next).accepted = t.accepted ++ [next]
  /-- Nothing is granted once the operation has ended. -/
  ended (h : t.progress.stage.isFinal) (later : List Stage) :
    (t.followedBy later).accepted = t.accepted ∧ (t.followedBy later).progress = t.progress
  course : ∃ course, Stage.IsCourse course ∧ t.accepted <+: course
  /-- Who asks for a course from its start gets it, as far as he asks for it. -/
  complete {course stages : List Stage} (h : Stage.IsCourse course) (hbegins : stages <+: course) :
    (⟨t.kind, stages⟩ : Trail).accepted = stages
  done : t.progress.stage = .done ↔ ∃ n notice, t.accepted = Stage.straight n notice
  failed (h : t.progress.stage = .failed) (hbegun : .beginTx ∈ t.accepted) :
    ∃ before last, t.accepted = before ++ [last, .failed] ∧ last ∈ [.rollback, .commit]

theorem takesCourse (t : Trail) : t.TakesCourse := by
  -- what is accepted of any requests has been asked for in a row
  have hstands := t.reaches_accepted.stands
  constructor
  case refused =>
    intro next e h
    exact ⟨(Progress.advance_eq_error h).2, (accepted_request_of_error h).symm⟩
  case granted =>
    intro next p h
    exact ⟨(Progress.advance_eq_ok h).2, (accepted_request_of_ok h).symm⟩
  case ended =>
    intro h later
    obtain ⟨haccepted, hprogress⟩ := Progress.accepted_of_isFinal h later
    rw [accepted_followedBy, progress_followedBy, haccepted, hprogress]
    exact ⟨List.append_nil _, rfl⟩
  case course => exact hstands.exists_isCourse
  case complete =>
    intro course stages h hbegins
    obtain ⟨last, hreaches⟩ := exists_reaches_of_isCourse h t.kind
    obtain ⟨stage, hreaches⟩ := hreaches.exists_of_prefix hbegins
    exact hreaches.accepted_eq
  case done =>
    constructor
    · intro h
      exact Stage.Stands.done_iff.mp (h ▸ hstands)
    · rintro ⟨n, notice, h⟩
      have hreaches := t.reaches_accepted
      rw [h] at hreaches
      exact hreaches.stage_eq.symm.trans (reaches_of_way (.done n notice) t.kind).stage_eq
  case failed =>
    intro h hbegun
    exact Stage.Stands.exists_last (h ▸ hstands) hbegun

/-- A mutation before its transaction, a second audit and all that comes after the end are refused,
as is a rollback while a commit is under way. -/
example : (⟨.deposit, [.mutate, .acquireConnection, .beginTx, .commit, .mutate, .audit, .audit,
    .commit, .rollback, .done, .failed]⟩ : Trail).accepted = Stage.straight 0 false := by decide

end Trail

end Teller
