/-
All that happens at a desk could have happened one call at a time.

* `served`: the calls of a log that count, in the order in which they ended; calls that ended in
  trouble do not count, nor do readings;
* `Entry.IsServed`: a call that ended got what it gets when the calls that count before it, and then
  the call, are served one at a time; a reading of balances finds those after the calls before it;
* `Desk.Mirrors`: a log could have happened one call at a time, and leaves certain balances;
  `Desk.Mirrors.step` says that every event keeps a desk like that;
* `Desk.IsSerial`, `Desk.isSerial_run`: every run is serial in that sense.
-/
import Teller.Proofs.Bank.Serial
import Teller.Proofs.Desk.Log

namespace Teller

/-! ### The serial order -/

/-- The ticket of a call that has ended and counts. -/
def Entry.served? : Entry → Option Ticket
  | ended _ ticket outcome => if ticket.counts outcome.result then some ticket else none
  | _ => none

/-- The calls of a log that count, in the order in which they ended. -/
def served (log : List Entry) : List Ticket := log.filterMap Entry.served?

lemma served_concat (log : List Entry) (entry : Entry) :
    served (log ++ [entry]) = served log ++ entry.served?.toList := by
  rw [served, List.filterMap_append]
  cases h : entry.served? <;> simp [h, served]

/-- Two stores with the same balances show them alike. -/
lemma Store.readBalances_eq_account (s : Store) (account : AccountId) :
    s.readBalances account = s.sheet.account account := rfl

section Provider

variable {σ : Type} [RateProvider σ]

/-- A call that counts ended as it ends when it is served after all those that ended before it and
count; a reading of balances found those after the same calls. -/
def Entry.IsServed (b₀ : Bank σ) (before : List Entry) : Entry → Prop
  | ended _ ticket outcome =>
    (ticket.counts outcome.result = true →
      ∃ outcome', ((b₀.serveAll (served before)).serve ticket).2 = .done outcome' ∧
        Reply.ResultsAgree outcome.result outcome'.result) ∧
    ∀ account, ticket.request = .balance account → outcome.result
      = .ok (.balances ((b₀.serveAll (served before)).store.readBalances account))
  | _ => True

namespace Desk

variable {b₀ : Bank σ} {log : List Entry} {sheet : Sheet} {entry : Entry}

/-- What the log says could have happened one call at a time, starting with this bank and ending
with these balances. -/
structure Mirrors (b₀ : Bank σ) (log : List Entry) (sheet : Sheet) : Prop where
  isQuiet : (b₀.serveAll (served log)).IsQuiet
  sheet_eq : (b₀.serveAll (served log)).store.sheet = sheet
  isServed : AtEach (Entry.IsServed b₀) log

lemma mirrors_nil (hb : b₀.IsQuiet) : Mirrors b₀ [] b₀.store.sheet := ⟨hb, rfl, atEach_nil⟩

/-- An entry about nothing that counts. -/
lemma Mirrors.skip (h : Mirrors b₀ log sheet) (hnot : entry.served? = none)
    (hserved : entry.IsServed b₀ log) : Mirrors b₀ (log ++ [entry]) sheet := by
  have hsame : served (log ++ [entry]) = served log := by
    rw [served_concat, hnot, Option.toList_none, List.append_nil]
  exact ⟨hsame ▸ h.isQuiet, hsame ▸ h.sheet_eq, atEach_concat.mpr ⟨h.isServed, hserved⟩⟩

lemma Mirrors.skip_began (h : Mirrors b₀ log sheet) (id : Nat) (before after : Bank σ) :
    Mirrors b₀ (log ++ noteBegin id before after) sheet := by
  rw [noteBegin]
  split
  · exact h.skip rfl trivial
  · rwa [List.append_nil]

/-- A reading of balances is about those of the calls that were served before it. -/
lemma Mirrors.readBalances_eq (h : Mirrors b₀ log sheet) (account : AccountId) :
    (b₀.serveAll (served log)).store.readBalances account = sheet.account account := by
  rw [Store.readBalances_eq_account, h.sheet_eq]

/-- The end of a call. -/
lemma Mirrors.concat_ended (h : Mirrors b₀ log sheet) {alone : Prop} {thresholds : Thresholds}
    {now : Nat} {s₀ s : Store} {tx : TxId} {id : Nat} {ticket : Ticket} {outcome : Outcome}
    (hsheet : s₀.sheet = sheet)
    (hcame : Bank.Came alone thresholds now s₀ tx ticket s (.done outcome.result))
    (hbalance : ∀ account, ticket.request = .balance account →
      outcome.result = .ok (.balances (sheet.account account))) :
    Mirrors b₀ (log ++ [.ended id ticket outcome]) s.sheet := by
  have hreading : ∀ account, ticket.request = .balance account → outcome.result
      = .ok (.balances ((b₀.serveAll (served log)).store.readBalances account)) := by
    intro account hrequest
    rw [h.readBalances_eq]
    exact hbalance account hrequest
  -- a call that counts is served here; any other has left the balances as they were
  by_cases hcounts : ticket.counts outcome.result = true
  · have hsame := h.sheet_eq.trans hsheet.symm
    obtain ⟨hquiet, hafter, outcome', hturn, hagree⟩ := h.isQuiet.serve_of_came hcame hsame hcounts
    have hserved : served (log ++ [.ended id ticket outcome]) = served log ++ [ticket] := by
      rw [served_concat, Entry.served?, if_pos hcounts, Option.toList_some]
    have hall : b₀.serveAll (served (log ++ [.ended id ticket outcome]))
        = ((b₀.serveAll (served log)).serve ticket).1 := by
      rw [hserved, Bank.serveAll, List.foldl_append]
      rfl
    exact ⟨hall ▸ hquiet, hall ▸ hafter, atEach_concat.mpr
      ⟨h.isServed, fun _ => ⟨outcome', hturn, hagree⟩, hreading⟩⟩
  · have hsame : s.sheet = sheet := by
      refine (hcame.sheet_eq fun result hdone => ?_).trans hsheet
      exact Turn.done.inj hdone ▸ hcounts
    rw [hsame]
    exact h.skip (if_neg hcounts) ⟨fun hc => absurd hc hcounts, hreading⟩

/-! ### Turns and runs -/

variable {d : Desk σ} {event : Event σ} {events : List (Event σ)}

omit [RateProvider σ] in
lemma IsSound.request_ne_balance (hd : d.IsSound) {id : Nat} {ticket : Ticket} {call : Call}
    (hw : d.waiting.get? id = some (ticket, call)) (account : AccountId) :
    ticket.request ≠ .balance account := by
  rcases hd.waits hw with hidles | ⟨tx, hc⟩
  · exact hidles.request_ne_balance account
  · intro hrequest
    have hmutation := hc.isMutation
    rw [hrequest] at hmutation
    exact absurd hmutation (by simp [Request.isMutation])

/-- A reading of balances is answered at once, with those that have been committed. -/
lemma HasTurn.balance {d₁ : Desk σ} {id : Nat} {tx : TxId} {ticket : Ticket}
    {turn : Bank σ × Turn Call Outcome} (h : d.HasTurn event d₁ id tx ticket turn)
    (hd : d.IsSound) {account : AccountId} (hrequest : ticket.request = .balance account)
    {outcome : Outcome} (hturn : turn.2 = .done outcome) :
    outcome.result = .ok (.balances (d₁.bank.store.sheet.account account)) := by
  rcases h.received with ⟨-, rfl, ticket', call, hw, hsame⟩ | ⟨deadline, -, -, rfl, rfl⟩
  · exact absurd (hsame.trans hrequest) (hd.request_ne_balance hw account)
  · rw [hrequest] at hturn
    exact Turn.done.inj hturn ▸ rfl

/-- Every event keeps what is served in step with the desk. -/
theorem Mirrors.step (h : Mirrors b₀ d.log d.bank.store.sheet) (hd : d.IsSound)
    (event : Event σ) : Mirrors b₀ (d.step event).log (d.step event).bank.store.sheet := by
  rcases hd.step_cases event with hrests | ⟨d₁, id, tx, ticket, turn, hturn⟩
  · rw [hrests.log, Store.sheet, hrests.wallets]
    exact h
  · -- a turn adds up to three entries: the start, the beginning of a transaction, the end
    have h₁ : Mirrors b₀ d₁.log d₁.bank.store.sheet := by
      rcases hturn.received with ⟨-, rfl, -⟩ | ⟨deadline, -, -, rfl, -⟩
      · exact h
      · exact h.skip rfl trivial
    have hbegun := h₁.skip_began id d₁.bank turn.1
    have hcame := hturn.came
    rw [hturn.step_eq, Desk.after]
    cases hresult : turn.2 with
    | waiting call =>
        rw [Came, hresult, Turn.map] at hcame
        rw [noteEnd, List.append_nil, hcame.sheet_eq (by simp)]
        exact hbegun
    | done outcome =>
        rw [Came, hresult, Turn.map] at hcame
        rw [noteEnd]
        exact hbegun.concat_ended rfl hcame fun account hrequest =>
          hturn.balance hd hrequest hresult

theorem Mirrors.run (h : Mirrors b₀ d.log d.bank.store.sheet) (hd : d.IsSound)
    (events : List (Event σ)) : Mirrors b₀ (d.run events).log (d.run events).bank.store.sheet := by
  induction events generalizing d with
  | nil => exact h
  | cons event events ih => exact ih (h.step hd event) (hd.step event)

/-- All that happens in a run could have happened one call at a time. -/
structure IsSerial (d : Desk σ) (events : List (Event σ)) : Prop where
  /-- A call has its place in the order where it ends, which it does once and after its start. -/
  placed : AtEach Entry.Follows (d.run events).log
  /-- Served in that order, each call comes to the same end, and readings of balances find those
  between two of the calls. -/
  isServed : AtEach (Entry.IsServed d.bank) (d.run events).log
  /-- At any time of the run the calls that have ended are a first part of the order, and the
  committed balances are those which they leave when they are served. -/
  balances (n : ℕ) : served (d.run (events.take n)).log <+: served (d.run events).log ∧
    (d.bank.serveAll (served (d.run (events.take n)).log)).store.sheet
      = (d.run (events.take n)).bank.store.sheet

/-- Every run is serial, however the turns of its calls are ordered. -/
theorem isSerial_run (clock : Clock) (lockTimeout : Nat) (ids : IdSupply) (rates : RateCache σ)
    (thresholds : Thresholds) (events : List (Event σ)) :
    (fresh clock lockTimeout ids rates thresholds).IsSerial events := by
  have hd := isSound_fresh clock lockTimeout ids rates thresholds
  have hl := logs_fresh clock lockTimeout ids rates thresholds
  have hm := mirrors_nil
    (Bank.isQuiet_empty (b := (fresh clock lockTimeout ids rates thresholds).bank) rfl)
  refine ⟨(hl.run hd events).follows, (hm.run hd events).isServed, fun n => ⟨?_, ?_⟩⟩
  · exact (hd.log_prefix_run n).filterMap _
  · exact (hm.run hd (events.take n)).sheet_eq

end Desk

end Provider

end Teller
