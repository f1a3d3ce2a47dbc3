/-
Which calls hold the rows, and which wait for them.

* `Desk.turns_or_rests`: an event is a turn of a call, or nothing that calls can see happens;
  `IsSound.exists_hasTurn`: in a turn of a call one transaction acts;
* `Desk.KeepsRows`: the invariant of every run: a row is held and waited for only by calls that wait
  and are about it, and a row that is waited for is held; `KeepsRows.run`;
* `IsReachable.keepsRows`: so it is wherever a desk can come to.
-/
import Teller.Proofs.Bank.Rows
import Teller.Proofs.Desk.Idle
import Teller.Proofs.Desk.Privacy

namespace Teller.Desk

variable {σ : Type} {d d' : Desk σ} {event : Event σ} {id id' : ℕ} {tx tx' : TxId}
  {ticket : Ticket} {request : Request} {turn : Bank σ × Turn Call Outcome} {key : WalletKey}

/-! ### Turns -/

/-- A call that waits, and is about the row, has this transaction. -/
def OwnsAt (d : Desk σ) (key : WalletKey) (id : ℕ) (tx : TxId) : Prop :=
  ∃ ticket call, d.waiting.get? id = some (ticket, call) ∧ call.phase.tx? = some tx ∧
    ticket.request.Concerns key

/-- No call that waits is about the row. -/
def IsQuietAt (d : Desk σ) (key : WalletKey) : Prop :=
  ∀ ⦃id ticket call⦄, d.waiting.get? id = some (ticket, call) → ¬ ticket.request.Concerns key

lemma isQuietAt_of_keys (h : d.waiting.keys = []) : d.IsQuietAt key := by
  intro id ticket call hw
  rw [Table.get?_eq_none_iff.mpr (by simp [h])] at hw
  simp at hw

lemma IsQuietAt.not_ownsAt (h : d.IsQuietAt key) : ¬ d.OwnsAt key id tx := by
  rintro ⟨ticket, call, hw, -, hconcerns⟩
  exact h hw hconcerns

lemma OwnsAt.owns (h : d.OwnsAt key id tx) : d.Owns id tx := by
  obtain ⟨ticket, call, hw, htx, -⟩ := h
  exact ⟨ticket, call, hw, htx⟩

variable [RateProvider σ]

/-- A call has a turn, or nothing happens that calls can see. -/
lemma turns_or_rests (d : Desk σ) (event : Event σ) :
    (∃ id request turn, d.Turns event id request turn) ∨ d.Rests (d.step event) := by
  cases event with
  | start deadline request => exact .inl ⟨_, _, _, .start deadline request⟩
  | resume id =>
      cases hw : d.waiting.get? id with
      | some waiting => exact .inl ⟨id, _, _, .resume hw⟩
      | none =>
          refine .inr ?_
          rw [Desk.step, hw]
          exact ⟨rfl, rfl, rfl, rfl, rfl, rfl, rfl, rfl, rfl, rfl, rfl⟩
  | _ => exact .inr (rests_step d rfl)

/-- In a turn of a call one transaction acts. -/
lemma IsSound.exists_hasTurn (hd : d.IsSound) (h : d.Turns event id request turn) :
    ∃ d₁ tx ticket, d.HasTurn event d₁ id tx ticket turn ∧ ticket.request = request := by
  cases h with
  | start deadline request =>
      obtain ⟨hthresholds, hcame⟩ :=
        Bank.came_startCall hd.disciplined hd.isProper deadline request
      exact ⟨d.receive request, ⟨d.bank.store.begun⟩, ⟨request, d.bank.rateAtStart? request⟩,
        ⟨rfl, .inr ⟨deadline, rfl, rfl, rfl, rfl⟩, hd.acts_receive request,
          isSound_receive hd request, hcame, hthresholds⟩, rfl⟩
  | @resume id ticket call hw =>
      obtain ⟨tx, hacts, hcomes⟩ := hd.exists_acts hw
      obtain ⟨hthresholds, hcame⟩ := hcomes.standard
      refine ⟨d, tx, ticket.answered (d.bank.rateAtResume? call.phase),
        ⟨?_, .inl ⟨rfl, rfl, ticket, call, hw, rfl⟩, hacts, hd, hcame, hthresholds⟩, rfl⟩
      rw [Desk.step, hw]

/-- No turn of a call makes a row known that the call is not about. -/
lemma IsSound.avoids_turn (hd : d.IsSound) (h : d.Turns event id request turn)
    (hnot : ¬ request.Concerns key) : d.bank.store.Avoids key turn.1.store := by
  cases h with
  | start deadline request =>
      exact Bank.Avoids.underDeadline (Bank.avoids_start d.bank hnot) deadline
  | @resume id ticket call hw =>
      refine Bank.Avoids.underDeadline ?_ call.deadline
      rcases hd.waits hw with hidles | ⟨tx, hc⟩
      · exact Bank.avoids_resume_of_idles d.bank hidles hnot
      · exact Bank.avoids_resume_of_carries d.bank hc hnot

namespace HasTurn

variable {d₁ : Desk σ}

/-- All other calls that are about a row stay where they are. -/
lemma ownsAt_step (h : d.HasTurn event d₁ id tx ticket turn) (hne : id' ≠ id) :
    (d.step event).OwnsAt key id' tx' ↔ d.OwnsAt key id' tx' := by
  rw [OwnsAt, OwnsAt, h.get?_of_ne hne]

/-- A transaction that acted, and is open afterwards, belongs to the call. -/
lemma ownsAt_of_isOpen (h : d.HasTurn event d₁ id tx ticket turn)
    (hconcerns : ticket.request.Concerns key) (ho : (d.step event).bank.store.IsOpen tx) :
    (d.step event).OwnsAt key id tx := by
  rw [h.bank_step] at ho
  obtain ⟨ticket', call, hw, htx⟩ := h.came.owns_of_isOpen ho
  rw [← h.step_eq] at hw
  exact ⟨ticket', call, hw, htx, (h.get?_self.mp hw).1 ▸ hconcerns⟩

/-- A call that has a turn, and has waited, is about the rows that it was about. -/
lemma concerns_of_ownsAt (h : d.HasTurn event d₁ id tx ticket turn) (hd : d.IsSound)
    (ho : d.OwnsAt key id tx') : ticket.request.Concerns key := by
  obtain ⟨ticket', call, hw, -, hconcerns⟩ := ho
  rcases h.received with ⟨-, -, ticket'', call'', hw', hrequest⟩ | ⟨deadline, -, rfl, -, -⟩
  · obtain ⟨rfl, rfl⟩ := Prod.mk.inj (Option.some.inj (hw'.symm.trans hw))
    exact hrequest ▸ hconcerns
  · exact absurd (hd.lt hw) (lt_irrefl _)

end HasTurn

/-! ### Rows -/

omit [RateProvider σ] in
/-- What holds of rows in every run. -/
structure KeepsRows (d : Desk σ) : Prop where
  knows {key : WalletKey} {tx : TxId} : (d.bank.store.lock key).Knows tx → ∃ id, d.OwnsAt key id tx
  isManned (key : WalletKey) : (d.bank.store.lock key).IsManned

omit [RateProvider σ] in
lemma keepsRows_fresh (clock : Clock) (lockTimeout : ℕ) (ids : IdSupply) (rates : RateCache σ)
    (thresholds : Thresholds) : (fresh clock lockTimeout ids rates thresholds).KeepsRows where
  knows h := absurd h RowLock.not_knows_free
  isManned _ := RowLock.isManned_free

namespace KeepsRows

omit [RateProvider σ] in
lemma rests (hk : d.KeepsRows) (h : d.Rests d') : d'.KeepsRows where
  knows {key tx} hknows := by
    rw [Store.lock, h.locks] at hknows
    obtain ⟨id, ho⟩ := hk.knows hknows
    refine ⟨id, ?_⟩
    rwa [OwnsAt, h.waiting]
  isManned key := by
    rw [Store.lock, h.locks]
    exact hk.isManned key

/-- Every turn of a call keeps the rows. -/
lemma turns (hk : d.KeepsRows) (hd : d.IsSound) (h : d.Turns event id request turn) :
    (d.step event).KeepsRows := by
  obtain ⟨d₁, tx, ticket, hturn, rfl⟩ := hd.exists_hasTurn h
  have hbank := hturn.bank_step
  refine ⟨fun {key tx'} hknows => ?_, fun key => ?_⟩
  · have hopen := (hd.step event).disciplined.isOpen_of_knows hknows
    rw [hbank] at hknows
    by_cases hbefore : (d.bank.store.lock key).Knows tx'
    · obtain ⟨id', ho⟩ := hk.knows hbefore
      by_cases hne : id' = id
      · subst hne
        obtain rfl := hturn.eq_of_owns ho.owns
        exact ⟨id', hturn.ownsAt_of_isOpen (hturn.concerns_of_ownsAt hd ho) hopen⟩
      · exact ⟨id', (hturn.ownsAt_step hne).mpr ho⟩
    · -- the transaction that acts has just asked for the row, so its call is about it
      obtain rfl := (hturn.path.knows hknows).resolve_left hbefore
      have hconcerns : ticket.request.Concerns key := by
        by_contra hnot
        exact hbefore (hd.avoids_turn h hnot hknows)
      exact ⟨id, hturn.ownsAt_of_isOpen hconcerns hopen⟩
  · rw [hbank]
    exact hturn.path.isManned (hk.isManned key)

/-- Every event keeps the rows. -/
theorem step (hk : d.KeepsRows) (hd : d.IsSound) (event : Event σ) : (d.step event).KeepsRows := by
  rcases d.turns_or_rests event with ⟨id, request, turn, h⟩ | h
  · exact hk.turns hd h
  · exact hk.rests h

/-- So does every run. -/
theorem run (hk : d.KeepsRows) (hd : d.IsSound) (events : List (Event σ)) :
    (d.run events).KeepsRows := by
  induction events generalizing d with
  | nil => exact hk
  | cons event events ih => exact ih (hk.step hd event) (hd.step event)

end KeepsRows

/-- Wherever a desk can come to, its rows are kept. -/
theorem IsReachable.keepsRows (h : d.IsReachable) : d.KeepsRows := by
  obtain ⟨clock, lockTimeout, ids, rates, thresholds, events, rfl⟩ := h
  exact (keepsRows_fresh clock lockTimeout ids rates thresholds).run
    (isSound_fresh clock lockTimeout ids rates thresholds) events

end Teller.Desk
