/-
The calls of a run that have changed something, in the order in which they did so.

* `Settlement`: a call that asked for a change and has ended well; `settlements` reads them off a
  log;
* `Desk.IsSound.settled_step`: an event that adds a settlement carries out its errand, and every
  other event leaves the books as they are.
-/
import Teller.Proofs.Desk.Conservation

namespace Teller

/-! ### Settlements -/

/-- A call that asked for a change and has ended well. -/
structure Settlement where
  id : Nat
  request : Request
  reply : Reply

/-- The settlement that an entry tells of. -/
def Entry.settlement? : Entry → Option Settlement
  | ended id ticket outcome =>
    match outcome.result with
    | .ok reply => if ticket.request.isMutation then some ⟨id, ticket.request, reply⟩ else none
    | .error _ => none
  | _ => none

/-- The settlements that a log tells of, in their order. -/
def settlements (log : List Entry) : List Settlement := log.filterMap Entry.settlement?

namespace Desk

variable {σ : Type} {d : Desk σ}

/-- The settlements at a desk so far. -/
def settled (d : Desk σ) : List Settlement := settlements d.log

lemma settlements_noteEnd (id : Nat) (ticket : Ticket) (outcome : Outcome) :
    settlements (noteEnd id ticket (.done outcome))
      = (Entry.ended id ticket outcome).settlement?.toList := by
  rw [noteEnd, settlements, List.filterMap_cons]
  cases (Entry.ended id ticket outcome).settlement? <;> rfl

variable [RateProvider σ]

/-- A turn settles its call, or it settles nothing. -/
lemma HasTurn.settled_eq {event : Event σ} {d₁ : Desk σ} {id : Nat} {tx : TxId} {ticket : Ticket}
    {turn : Bank σ × Turn Call Outcome} (h : d.HasTurn event d₁ id tx ticket turn) :
    (d.step event).settled = d.settled ++ settlements (noteEnd id ticket turn.2) := by
  have hbegin : settlements (noteBegin id d₁.bank turn.1) = [] := by
    rw [noteBegin]
    split <;> rfl
  have hreceived : d₁.settled = d.settled := by
    rcases h.received with ⟨-, rfl, -⟩ | ⟨deadline, -, -, rfl, -⟩
    · rfl
    · rw [settled, receive, settlements, List.filterMap_append]
      exact List.append_nil _
  rw [h.step_eq, settled, after, settlements, List.filterMap_append, List.filterMap_append,
    ← settlements, ← settlements, ← settlements, hbegin, List.append_nil, ← settled, hreceived]

/-- An event settles a call and carries out what it asked for, or it settles nothing and changes
nothing. -/
theorem IsSound.settled_step (hd : d.IsSound) (event : Event σ) :
    ((d.step event).settled = d.settled ∧ (d.step event).books = d.books) ∨
      ∃ (s : Settlement) (errand : Errand) (tx : TxId),
        (d.step event).settled = d.settled ++ [s] ∧ s.request.Asks errand ∧ errand.IsSound ∧
          errand.Posts d.bank.thresholds d.bank.clock.now tx d.bank.store
            (d.step event).bank.store s.reply := by
  rcases hd.step_cases event with h | ⟨d₁, id, tx, ticket, turn, h⟩
  · refine .inl ⟨by rw [settled, settled, h.log], ?_⟩
    rw [books, books, Store.books, Store.books, h.wallets, h.journal, h.events]
  · have hsettled := h.settled_eq
    have hcame := h.came
    have hbank : (d.step event).bank = turn.1 := by rw [h.step_eq, Desk.after]
    rw [Came, h.bank_eq] at hcame
    rcases hcame.books_cases with hsame | ⟨errand, reply, herrand, hp, hdone⟩
    · -- Nothing has been carried out, so nothing can have ended well.
      refine .inl ⟨?_, by rw [books, hbank, hsame, books]⟩
      suffices settlements (noteEnd id ticket turn.2) = [] by
        rw [hsettled, this, List.append_nil]
      cases hturn : turn.2 with
      | waiting call => rfl
      | done outcome =>
          rw [hturn] at hcame
          rw [settlements_noteEnd, Entry.settlement?]
          cases hresult : outcome.result with
          | error failure => rfl
          | ok reply =>
              cases hmutation : ticket.request.isMutation with
              | false => rfl
              | true =>
                  rw [Turn.map, hresult] at hcame
                  obtain ⟨errand, -, hp⟩ := hcame.posts_of_ok hmutation
                  exact absurd hsame hp.books_ne
    · -- The errand has been carried out, so its call has ended well.
      cases hturn : turn.2 with
      | waiting call => simp [hturn, Turn.map] at hdone
      | done outcome =>
          rw [hturn] at hdone
          have hresult : outcome.result = .ok reply := Turn.done.inj hdone
          have hmutation := Ticket.isMutation_of_errand? herrand
          refine .inr ⟨⟨id, ticket.request, reply⟩, errand, tx, ?_, Ticket.asks_of_errand? herrand,
            Ticket.isSound_of_errand? herrand, hbank ▸ hp⟩
          simp only [hsettled, hturn, settlements_noteEnd, Entry.settlement?, hresult,
            if_pos hmutation, Option.toList_some]

end Desk

end Teller
