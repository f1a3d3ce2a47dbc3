/-
A rollback that fails never masks the cause of a failure.

* `LedgerError.Wraps`: an error and what failed rollbacks make of it, one after the other;
  `LedgerError.StandsFor`: an error whose cause, code and two answers are those of another;
  `LedgerError.Wraps.standsFor`: so it is with what is made of a cause, whatever the rollbacks;
* `Bank.KeepsCause`: a call whose work fails in its transaction returns the first error of its work,
  or, if the rollback fails as well, both with the first on top; a call fails otherwise only by its
  commit or its deadline;
* `Bank.masksNoCause`: so does every call, from any state of the bank, and so is every error.
-/
import Teller.Proofs.Bank.Work

namespace Teller

/-! ### Errors of failed rollbacks -/

namespace LedgerError

variable {e w : LedgerError}

/-- An error that is not that of a failed rollback. -/
def IsCause (e : LedgerError) : Prop :=
  ∀ error rollback, e ≠ .rollbackFailed error rollback

/-- An error is another one, or what any number of failed rollbacks have made of it. -/
inductive Wraps (e : LedgerError) : LedgerError → Prop where
  | itself : Wraps e e
  | failed {w : LedgerError} (h : Wraps e w) (rollback : LedgerError) :
      Wraps e (w.withRollbackFailure rollback)

/-- All that is asked of an error is answered as for its cause. -/
structure StandsFor (w e : LedgerError) : Prop where
  root : w.root = e
  code : w.code = e.code
  isRetryable : w.isRetryable = e.isRetryable
  isExpected : w.isExpected = e.isExpected

lemma IsCause.root_eq (h : e.IsCause) : e.root = e := by
  cases e with
  | rollbackFailed error rollback => exact absurd rfl (h error rollback)
  | _ => rfl

namespace Wraps

lemma root_eq (h : e.Wraps w) : w.root = e.root := by
  induction h with
  | itself => rfl
  | failed _ rollback ih => exact ih

lemma code_eq (h : e.Wraps w) : w.code = e.code := by
  induction h with
  | itself => rfl
  | failed _ rollback ih => exact ih

lemma isRetryable_eq (h : e.Wraps w) : w.isRetryable = e.isRetryable := by
  induction h with
  | itself => rfl
  | failed _ rollback ih => exact ih

/-- Whatever the rollbacks have failed with, the cause is what is looked at. -/
theorem standsFor (h : e.Wraps w) (he : e.IsCause) : w.StandsFor e where
  root := h.root_eq.trans he.root_eq
  code := h.code_eq
  isRetryable := h.isRetryable_eq
  isExpected := by rw [isExpected, isExpected, h.root_eq]

end Wraps

end LedgerError

/-! ### Calls that fail -/

namespace Bank

section Turns

variable {σ : Type} [Arithmetic] {w : Working σ}

/-- What becomes of an error inside the transaction of a call, in a turn that comes to `w`. -/
structure KeepsCause (w : Working σ) (turn : Bank σ × Turn Call Outcome) : Prop where
  /-- The transaction is rolled back. -/
  rolledBack {e : LedgerError} : w.result = some (.error (.refused e)) →
    turn.1 = w.bank.withStore (w.bank.store.rollback w.tx).1
  /-- If that succeeds, the error is the one of the call. -/
  alone {e : LedgerError} : w.result = some (.error (.refused e)) →
    (w.bank.store.rollback w.tx).2 = .ok () →
    ∃ trail, turn.2 = .done ⟨.error (.refused e), trail⟩
  /-- If it fails, its error is added below the first one. -/
  joined {e rollback : LedgerError} : w.result = some (.error (.refused e)) →
    (w.bank.store.rollback w.tx).2 = .error rollback →
    ∃ trail, turn.2 = .done ⟨.error (.refused (.rollbackFailed e rollback)), trail⟩
  /-- A call whose work has not failed fails by its commit, or at its deadline. -/
  otherwise {e : LedgerError} {trail : Option Trail} :
    turn.2 = .done ⟨.error (.refused e), trail⟩ →
    (∃ cause, w.result = some (.error (.refused cause))) ∨
    (w.result = some (.ok ()) ∧ (w.bank.store.commit w.tx).2 = .error (.refused e)) ∨
    w.result = none ∧ e = .deadlineExceeded

namespace Concludes

variable {step : Step σ}

/-- Work that fails ends its turn with a rollback, and with nothing else. -/
lemma eq_of_refused (h : Concludes w step) {e : LedgerError}
    (hw : w.result = some (.error (.refused e))) :
    ∃ trail, step = (w.bank.withStore (w.bank.store.rollback w.tx).1,
      .done ⟨.error (.refused (e.afterRollback (w.bank.store.rollback w.tx).2)), trail⟩) := by
  cases h with
  | waits => simp at hw
  | @rollsBack tx b first trail =>
      obtain rfl : first = e := by simpa using hw
      exact ⟨trail, rfl⟩
  | stops hf => exact absurd (by simpa using hw) (hf e)
  | commits => simp at hw
  | uncommitted => simp at hw

/-- A call under a deadline that fails does so by its work, by its commit or at its deadline. -/
lemma cause_of_refused (h : Concludes w step) {deadline : Option ℕ} {e : LedgerError}
    {trail : Option Trail}
    (hend : (underDeadline deadline step).2 = .done ⟨.error (.refused e), trail⟩) :
    (∃ cause, w.result = some (.error (.refused cause))) ∨
    (w.result = some (.ok ()) ∧ (w.bank.store.commit w.tx).2 = .error (.refused e)) ∨
    w.result = none ∧ e = .deadlineExceeded := by
  cases h with
  | waits phase =>
      rw [underDeadline] at hend
      split at hend
      · simp only [Turn.done.injEq, Outcome.mk.injEq, Except.error.injEq,
          Failure.refused.injEq] at hend
        exact .inr (.inr ⟨rfl, hend.1.symm⟩)
      · simp at hend
  | rollsBack => exact .inl ⟨_, rfl⟩
  | stops hf => exact absurd hend (by simp [underDeadline, hf])
  | commits => simp [underDeadline] at hend
  | uncommitted hcommit =>
      simp only [underDeadline, Turn.done.injEq, Outcome.mk.injEq, Except.error.injEq] at hend
      exact .inr (.inl ⟨rfl, hend.1 ▸ hcommit⟩)

/-- A turn that ends by its work keeps the cause, whatever its deadline. -/
lemma keepsCause (h : Concludes w step) (deadline : Option ℕ) :
    KeepsCause w (underDeadline deadline step) := by
  constructor
  case rolledBack =>
    intro e he
    obtain ⟨trail, rfl⟩ := h.eq_of_refused he
    rfl
  case alone =>
    intro e he hrollback
    obtain ⟨trail, rfl⟩ := h.eq_of_refused he
    exact ⟨trail, by rw [underDeadline, hrollback, LedgerError.afterRollback]⟩
  case joined =>
    intro e rollback he hrollback
    obtain ⟨trail, rfl⟩ := h.eq_of_refused he
    exact ⟨trail, by rw [underDeadline, hrollback, LedgerError.afterRollback]⟩
  case otherwise => exact fun hend => h.cause_of_refused hend

end Concludes

end Turns

/-- **A failed rollback never masks the cause.** -/
structure MasksNoCause (σ : Type) [RateProvider σ] [Arithmetic] : Prop where
  /-- When a call starts and its work fails in the transaction that it begins. -/
  start (b : Bank σ) (deadline : Option ℕ) {request : Request} {w : Working σ} :
    b.workAtStart? request = some w → KeepsCause w (b.startCall deadline request)
  /-- When a call goes on and its work fails. -/
  resume (b : Bank σ) {call : Call} {w : Working σ} :
    b.workAtResume? call.phase = some w → KeepsCause w (b.resumeCall call)
  /-- An error under any number of failed rollbacks is judged by its cause. -/
  judged {e w : LedgerError} : e.IsCause → e.Wraps w → w.StandsFor e

/-- So it is with every bank and every call, whatever faults strike. -/
theorem masksNoCause (σ : Type) [RateProvider σ] [Arithmetic] : MasksNoCause σ := by
  constructor
  case start => exact fun b deadline _ _ hw => (concludes_start hw).keepsCause deadline
  case resume => exact fun b call _ hw => (concludes_resume hw).keepsCause call.deadline
  case judged => exact fun he h => h.standsFor he

/-- A deposit into an account that was never opened, whose rollback is struck: the missing wallet
stays on top. -/
example :
    let b : Bank SimulatedProvider := ⟨.atRest 0,
      (Store.empty Store.standardLockTimeout .fresh).inject .rollback,
      .empty ⟨SimulatedProvider.named "", none⟩ RateCache.standardTtl, .standard⟩
    (match (b.start (.deposit ⟨.random 0⟩ .usd ⟨false, 1250, 2, by decide, by decide⟩)).2 with
      | .done outcome => some outcome.result
      | .waiting _ => none)
      = some (.error (.refused (.rollbackFailed (.walletNotFound ⟨.random 0⟩ .usd)
          (.storeUnavailable (.injected .rollback))))) := by
  decide +kernel

end Bank

end Teller
