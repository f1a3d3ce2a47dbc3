/-
Every committed event is delivered at least once.

* `Mailroom.DeliversAll`: what this means in a run: only accepted events are flagged, all others are
  pending, in the order of their commits, nothing goes away, no batch takes up a flagged event, a
  batch counts what was accepted, and a loop that stops leaves nothing accepted unflagged;
* `Mailroom.deliversAll_run`: every run is like that if the committed events have distinct
  identifiers.
-/
import Teller.Proofs.Mailroom.Invariant

namespace Teller

namespace Mailroom

variable {σ : Type} [EventSink σ] {m : Mailroom σ} {events : List (Event σ)} {i n : ℕ} {id : Nat}

/-- What has been noted between two moments of a run. -/
def newNotes (m : Mailroom σ) (events : List (Event σ)) (i n : ℕ) : List (Nat × Handover) :=
  (m.run (events.take n)).log.drop (m.run (events.take i)).log.length

/-- What holds of the deliveries in a run. -/
structure DeliversAll (m : Mailroom σ) (events : List (Event σ)) : Prop where
  /-- The outbox has the committed events, in the order of their commits. -/
  committed : (m.run events).store.outbox.map (·.event) = (m.run events).vault.events
  /-- An event is only flagged after a sink has accepted it. -/
  accepted {event : OutboxEvent} : (m.run events).store.isFlagged event = true →
    ∃ id, (id, .answered event true) ∈ (m.run events).log
  /-- With room for all, the pending events are those committed events that are not flagged. -/
  pending {limit : ℕ} : (m.run events).store.outbox.length ≤ limit →
    (m.run events).store.pendingEvents limit
      = (m.run events).vault.events.filter fun event => !(m.run events).store.isFlagged event
  /-- No event goes away, and no flag is cleared. -/
  lasting {i n : ℕ} : i ≤ n → (m.run (events.take i)).store.Lasts (m.run (events.take n)).store
  /-- An event that is flagged is handed over later only in a batch that had it before. -/
  afresh {i n : ℕ} {id : Nat} {note : Handover} : i ≤ n → (id, note) ∈ m.newNotes events i n →
    (m.run (events.take i)).store.isFlagged note.event = true →
      note.event ∈ Batch.leftIn ((m.run (events.take i)).underWay id)
  /-- A batch returns the number of its accepted events, which is at most its size. -/
  counted {f : Finish} : f ∈ (m.run events).finished →
    f.count = ((m.run events).acceptedFor f.id).length ∧ f.count ≤ f.size
  /-- All that a loop has had accepted is flagged when it stops. -/
  stopped {id : Nat} {event : OutboxEvent} : id ∈ (m.run events).stopped →
    (id, .answered event true) ∈ (m.run events).log → (m.run events).store.isFlagged event = true

/-! ### From one moment to a later one -/

namespace IsSound

lemma lasts_step (hm : m.IsSound) (event : Event σ) : m.store.Lasts (m.step event).store := by
  rcases hm.step_cases event with hrests | ⟨id, notes, hturns⟩
  · exact hrests.lasts
  · exact hturns.delivers.marks.lasts

lemma lasts_run_take (hm : m.IsSound) (h : i ≤ n) :
    (m.run (events.take i)).store.Lasts (m.run (events.take n)).store :=
  Trace.rel_foldl_take (fun m m' => m.store.Lasts m'.store) (fun _ event hm => hm.step event)
    (fun _ => .refl _) .trans (fun _ event hm => hm.lasts_step event) hm h

lemma lasts_run (hm : m.IsSound) (n : ℕ) :
    (m.run (events.take n)).store.Lasts (m.run events).store := by
  have h : (m.run (events.take n)).store.Lasts
      (m.run (events.take (max n events.length))).store := hm.lasts_run_take (Nat.le_max_left ..)
  rwa [List.take_of_length_le (Nat.le_max_right ..)] at h

/-- Events that are flagged are only noted or left with couriers that had them left before. -/
lemma not_taken_up_step (hm : m.IsSound) (event : Event σ) {flagged : OutboxEvent}
    (hids : (m.store.outbox.map (·.event.id)).Nodup) (hf : m.store.isFlagged flagged = true) :
    (∃ notes, (m.step event).log = m.log ++ notes ∧ ∀ id note, (id, note) ∈ notes →
        note.event = flagged → flagged ∈ Batch.leftIn (m.underWay id)) ∧
      ∀ id, flagged ∈ Batch.leftIn ((m.step event).underWay id) →
        flagged ∈ Batch.leftIn (m.underWay id) := by
  rcases hm.step_cases event with hrests | ⟨id, notes, hturns⟩
  · refine ⟨⟨[], by rw [hrests.log, List.append_nil], by simp⟩, fun id hleft => ?_⟩
    rw [underWay] at hleft
    cases hc' : (m.step event).couriers.get? id with
    | none => simp [hc', Batch.leftIn] at hleft
    | some c' =>
        rw [hc'] at hleft
        rcases hrests.couriers hc' with ⟨c, hc, halike⟩ | ⟨-, -, hnone, -⟩
        · rw [underWay, hc, Option.bind_some, ← halike.batch]
          exact hleft
        · simp [hnone, Batch.leftIn] at hleft
  · obtain ⟨hnotes, hleft⟩ := hturns.delivers.not_taken_up hids hf
    refine ⟨⟨_, hturns.log, ?_⟩, fun other hother => ?_⟩
    · rintro other note hmem heq
      obtain ⟨note', hnote', hpair⟩ := List.mem_map.mp hmem
      obtain ⟨rfl, rfl⟩ := Prod.mk.inj hpair
      exact hnotes _ hnote' heq
    · by_cases hne : other = id
      · exact hne ▸ hleft (hne ▸ hother)
      · rwa [underWay, hturns.others hne] at hother

/-- An event that is flagged at a moment is only noted or left later with couriers that had it left
at that moment. -/
lemma not_taken_up_run (hm : m.IsSound)
    (hids : ((m.run events).store.outbox.map (·.event.id)).Nodup) (hle : i ≤ n)
    {flagged : OutboxEvent}
    (hf : (m.run (events.take i)).store.isFlagged flagged = true) :
    (∃ notes, (m.run (events.take n)).log = (m.run (events.take i)).log ++ notes ∧
      ∀ id note, (id, note) ∈ notes → note.event = flagged →
        flagged ∈ Batch.leftIn ((m.run (events.take i)).underWay id)) ∧
      ∀ id, flagged ∈ Batch.leftIn ((m.run (events.take n)).underWay id) →
        flagged ∈ Batch.leftIn ((m.run (events.take i)).underWay id) := by
  induction n, hle using Nat.le_induction with
  | base => exact ⟨⟨[], (List.append_nil _).symm, by simp⟩, fun id hleft => hleft⟩
  | succ n hle ih =>
      obtain ⟨⟨notes, hlog, hnotes⟩, hleft⟩ := ih
      cases hevent : events[n]? with
      | none =>
          rw [run_take_succ_of_none hevent]
          exact ⟨⟨notes, hlog, hnotes⟩, hleft⟩
      | some event =>
          rw [run_take_succ hevent]
          have hn := hm.run (events.take n)
          obtain ⟨⟨added, hlog', hadded⟩, hleft'⟩ := hn.not_taken_up_step event
            ((hm.lasts_run n).nodup hids) ((hm.lasts_run_take hle).isFlagged hf)
          refine ⟨⟨notes ++ added, ?_, fun id note hmem heq => ?_⟩,
            fun id h => hleft id (hleft' id h)⟩
          · rw [hlog', hlog, List.append_assoc]
          · rcases List.mem_append.mp hmem with hmem | hmem
            · exact hnotes id note hmem heq
            · exact hleft id (hadded id note hmem heq)

end IsSound

/-- Every run delivers all committed events, if they have distinct identifiers: whatever sinks
answer, wherever batches wait or are given up, and whatever is committed in between. -/
theorem deliversAll_run (clock : Clock) (lockTimeout : Nat) (ids : IdSupply)
    (events : List (Event σ))
    (hids : (((fresh clock lockTimeout ids).run events).store.outbox.map (·.event.id)).Nodup) :
    (fresh clock lockTimeout ids).DeliversAll events := by
  have hm : (fresh clock lockTimeout ids : Mailroom σ).IsSound := isSound_fresh ..
  have hend := hm.run events
  have hcommitted := hend.vault.events
  constructor
  case committed => exact hcommitted
  case accepted =>
    intro event hf
    obtain ⟨row, hrow, rfl, hp⟩ := Store.isFlagged_iff.mp hf
    obtain ⟨id, event, he, heq⟩ := hend.flagged hrow hp
    -- the accepted event has a row of its own, with the same identifier
    obtain ⟨row', hrow', hevent⟩ := List.mem_map.mp (hend.noted he).2
    obtain rfl : event = row'.event := hevent.symm
    have hsame : row' = row := List.inj_on_of_nodup_map hids hrow' hrow heq
    exact ⟨id, mem_notesOf.mp (hsame ▸ he)⟩
  case pending =>
    intro limit hlimit
    rw [← hcommitted]
    exact Store.pendingEvents_eq hids hlimit
  case lasting => exact hm.lasts_run_take
  case afresh =>
    intro i n id note hle hmem hf
    obtain ⟨⟨notes, hlog, hnotes⟩, -⟩ := hm.not_taken_up_run hids hle hf
    rw [newNotes, hlog, List.drop_left] at hmem
    exact hnotes id note hmem rfl
  case counted => exact fun hf => (hend.finished hf).2.2
  case stopped => exact fun hid he => (hend.stopped hid).2.2 _ (mem_notesOf.mpr he)

/-- One of two events is rejected at first; nobody can tell the loop anything after its first batch,
and it stops although the next one is due. -/
theorem deliversAll_run_of_two_events :
    (fresh (.atRest 0) Store.standardLockTimeout .fresh : Mailroom Sink).DeliversAll
      [.vault .begin,
        .vault (.call ⟨0⟩ (.enqueue ⟨⟨.random 1⟩, .deposit, ⟨.random 0⟩, "", .ofEpochMillis 0⟩)),
        .vault (.call ⟨0⟩ (.enqueue ⟨⟨.random 2⟩, .withdraw, ⟨.random 0⟩, "", .ofEpochMillis 0⟩)),
        .vault (.call ⟨0⟩ .commit),
        .relay ⟨.prepared [.rejected] none [], "events", 10⟩ 50 [],
        .resume 0 .batch, .post 0, .vault (.advance 50), .vault .ring, .resume 0 .orders,
        .publish ⟨.acceptAll, "events", 10⟩] :=
  deliversAll_run _ _ _ _ (by decide +kernel)

end Mailroom

end Teller
