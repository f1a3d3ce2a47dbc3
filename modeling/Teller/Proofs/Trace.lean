/-
Systems that go on event by event.

A system is a function `step` from states and events to states, a run of it a left fold. The moments
of a run are the states after its first events.

* `Trace.foldl_take_succ`, `Trace.foldl_take_succ_of_none`: from one moment to the next;
* `Trace.rel_foldl_take`: what every event respects is respected between any two moments.
-/
import Mathlib.Order.Basic
import Mathlib.Order.Nat

namespace Teller.Trace

variable {S E : Type} {step : S → E → S} {s : S} {events : List E} {event : E} {i n : ℕ}

/-- The next event takes a run to its next moment. -/
lemma foldl_take_succ (hevent : events[n]? = some event) :
    (events.take (n + 1)).foldl step s = step ((events.take n).foldl step s) event := by
  rw [List.take_add_one, hevent, Option.toList_some, List.foldl_append]
  rfl

/-- After the last event nothing happens any more. -/
lemma foldl_take_succ_of_none (hevent : events[n]? = none) :
    (events.take (n + 1)).foldl step s = (events.take n).foldl step s := by
  rw [List.take_add_one, hevent, Option.toList_none, List.append_nil]

/-- What every event respects, if an invariant holds before it, is respected between any two moments
of a run. -/
theorem rel_foldl_take {I : S → Prop} (R : S → S → Prop) (hI : ∀ s event, I s → I (step s event))
    (hrefl : ∀ s, R s s) (htrans : ∀ {s₁ s₂ s₃}, R s₁ s₂ → R s₂ s₃ → R s₁ s₃)
    (hstep : ∀ s event, I s → R s (step s event)) (hs : I s) (h : i ≤ n) :
    R ((events.take i).foldl step s) ((events.take n).foldl step s) := by
  have hmoment : ∀ events : List E, I (events.foldl step s) := fun events =>
    List.foldlRecOn events step hs fun s hs event _ => hI s event hs
  induction n, h using Nat.le_induction with
  | base => exact hrefl _
  | succ n _ ih =>
      cases hevent : events[n]? with
      | none => rwa [foldl_take_succ_of_none hevent]
      | some event =>
          rw [foldl_take_succ hevent]
          exact htrans ih (hstep _ event (hmoment _))

end Teller.Trace
