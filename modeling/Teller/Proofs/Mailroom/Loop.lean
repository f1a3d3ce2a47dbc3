/-
One turn of a loop in a mailroom.

* `Mailroom.run_picks`: in a mailroom a loop goes on as on its own, one thing after the other;
* `Mailroom.run_turn`: what comes of a whole turn, signals included, is one of the runs.
-/
import Teller.Proofs.Mailroom.Invariant

namespace Teller

variable {σ : Type}

namespace Mailroom

variable {m : Mailroom σ} {id : Nat} {relay : Relay (Noted σ)}

/-- A loop that has not done anything yet in its turn. -/
lemma afterLoop_self (hc : m.couriers.get? id = some (.loop relay)) :
    m.afterLoop id relay.publisher (m.store, .waiting relay) = m := by
  simp [afterLoop, after, Publisher.notesSince, Table.insert_of_get? hc, store]

/-- What a loop does in its turn is put together from what it does first and what comes after. -/
lemma afterLoop_after {store : Store} {relay' : Relay (Noted σ)} {notes : List Handover}
    {before : Publisher (Noted σ)}
    {result : Store × Turn (Relay (Noted σ)) (Publisher (Noted σ))}
    (hfirst : before.Adds relay'.publisher notes) {notes' : List Handover}
    (hthen : relay'.publisher.Adds (Relay.publisherAfter result.2) notes') :
    (m.afterLoop id before (store, .waiting relay')).afterLoop id relay'.publisher result
      = m.afterLoop id before result := by
  obtain ⟨s, turn⟩ := result
  have hfirst' := hfirst.notesSince_eq
  have hthen' := hthen.notesSince_eq
  have hboth := (hfirst.trans hthen).notesSince_eq
  cases turn with
  | waiting r =>
      simp only [Relay.publisherAfter] at hthen' hboth
      simp [afterLoop, after, hfirst', hthen', hboth, Table.insert_insert]
  | done p =>
      simp only [Relay.publisherAfter] at hthen' hboth
      simp [afterLoop, after, hfirst', hthen', hboth, Table.erase_insert]

variable [EventSink σ]

/-- A courier that is gone has no turn. -/
lemma run_picks_of_none (h : m.couriers.get? id = none) (picks : List Pick) :
    m.run (picks.map (.resume id)) = m := by
  induction picks with
  | nil => rfl
  | cons pick picks ih =>
      have hstep : m.step (.resume id pick) = m := by rw [step, h]
      rw [List.map_cons, run, List.foldl_cons, hstep]
      exact ih

/-- A loop does one thing after the other, whatever it picks. -/
theorem run_picks (hc : m.couriers.get? id = some (.loop relay)) (picks : List Pick) :
    m.run (picks.map (.resume id))
      = m.afterLoop id relay.publisher (Relay.goOn m.vault.clock picks relay m.store) := by
  induction picks generalizing m relay with
  | nil => exact (afterLoop_self hc).symm
  | cons pick picks ih =>
      have hstep : m.step (.resume id pick)
          = m.afterLoop id relay.publisher (relay.act m.vault.clock pick m.store) := by
        rw [step, hc]
      obtain ⟨notes, hadds, -⟩ := relay.came_act m.vault.clock pick m.store
      rw [List.map_cons, run, List.foldl_cons, hstep, Relay.goOn]
      revert hadds
      generalize relay.act m.vault.clock pick m.store = result
      obtain ⟨s, turn⟩ := result
      intro hadds
      cases turn with
      | waiting r =>
          -- the notes of the first thing and of all that comes after are those of both
          obtain ⟨notes', hadds', -⟩ := Relay.came_goOn m.vault.clock picks r s
          have hc' : (m.afterLoop id relay.publisher (s, .waiting r)).couriers.get? id
              = some (.loop r) := get?_after_self
          exact (ih hc').trans (afterLoop_after hadds hadds')
      | done p =>
          have hgone : (m.afterLoop id relay.publisher (s, .done p)).couriers.get? id = none := by
            exact (Table.get?_erase ..).trans (if_pos rfl)
          exact run_picks_of_none hgone picks

/-- What comes of a whole turn of a loop. -/
theorem run_turn (hc : m.couriers.get? id = some (.loop relay)) :
    m.run (Relay.batchesFirst.map (.resume id) ++ [.post id])
      = m.afterLoop id relay.publisher (relay.resume m.vault.clock m.store) := by
  have hsplit : m.run (Relay.batchesFirst.map (.resume id) ++ [.post id])
      = (m.run (Relay.batchesFirst.map (.resume id))).step (.post id) :=
    List.foldl_concat step m (.post id) _
  rw [hsplit, run_picks hc, Relay.resume]
  generalize Relay.goOn m.vault.clock Relay.batchesFirst relay m.store = result
  obtain ⟨s, turn⟩ := result
  cases turn with
  | waiting r =>
      have hc' : (m.afterLoop id relay.publisher (s, .waiting r)).couriers.get? id
          = some (.loop r) := get?_after_self
      rw [step, hc']
      simp [afterLoop, after, Table.insert_insert, Relay.post]
  | done p =>
      have hgone : (m.afterLoop id relay.publisher (s, .done p)).couriers.get? id = none :=
        (Table.get?_erase ..).trans (if_pos rfl)
      rw [step, hgone]

end Mailroom

end Teller
