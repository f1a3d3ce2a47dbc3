/-
A call changes all that it is about, in the turn in which it ends well, or nothing at all.

* `Books`: what has been committed; `Bank.Came.books_cases`: a turn changes the books only by
  carrying out an errand and ending the call well;
* `Desk.Writes`: an event of a run is a turn of a call and changes the books;
* `Desk.IsAtomic`: what this means for the calls of a run: those that fail never write and leave no
  transaction and no lock, those that end well write once, and so does a call that is repeated until
  it ends well;
* `Desk.isAtomic_run`: every run is like that.
-/
import Teller.Proofs.Desk.Log

namespace Teller

/-! ### Books -/

/-- What has been committed, apart from which events have been delivered. -/
structure Books where
  wallets : Table WalletKey Wallet
  journal : List TransactionRecord
  events : List OutboxEvent

/-- The books of a store. -/
def Store.books (s : Store) : Books := ⟨s.wallets, s.journal, s.outbox.map (·.event)⟩

lemma Store.During.books_eq {alone : Prop} {tx : TxId} {s₀ s : Store}
    (h : s₀.During alone tx s) : s.books = s₀.books := by
  rw [Store.books, Store.books, h.wallets, h.journal, h.outbox]

/-- An errand that is carried out changes the books: there are new wallets or new records. -/
lemma Errand.Posts.books_ne {thresholds : Thresholds} {now : Nat} {tx : TxId} {s₀ s : Store}
    {errand : Errand} {reply : Reply} (h : errand.Posts thresholds now tx s₀ s reply) :
    s.books ≠ s₀.books := by
  have hjournal : ∀ {sheet record records events},
      Store.Posted tx s₀ s sheet (record :: records) events → s.books ≠ s₀.books := by
    intro sheet record records events hp heq
    have hlength := congrArg (fun books => books.journal.length) heq
    simp [Store.books, hp.journal] at hlength
  cases h with
  | @opening account sheet hsheet hp =>
      intro heq
      have hsame : s.sheet = s₀.sheet := by
        rw [Store.sheet, Store.sheet, show s.wallets = s₀.wallets from congrArg Books.wallets heq]
      obtain ⟨hnone, hnew⟩ := Sheet.opened_eq_ok hsheet
      have hboth := hnew ⟨account, .usd⟩
      rw [← hp.sheet_eq, hsame, hnone, if_pos rfl] at hboth
      exact absurd hboth (by simp)
  | adjustment hsheet hid hp => exact hjournal hp
  | exchange hsheet hcredited hdebited hseen hp => exact hjournal hp

/-- A turn changes the books only by carrying out the errand and ending the call well. -/
lemma Bank.Came.books_cases {alone : Prop} {thresholds : Thresholds} {now : Nat} {s₀ s : Store}
    {tx : TxId} {ticket : Ticket} {turn : Turn Phase (Except Failure Reply)}
    (h : Bank.Came alone thresholds now s₀ tx ticket s turn) :
    s.books = s₀.books ∨ ∃ errand reply, ticket.errand? = some (.ok errand) ∧
      errand.Posts thresholds now tx s₀ s reply ∧ turn = .done (.ok reply) := by
  cases h with
  | idles => exact .inl rfl
  | answers => exact .inl rfl
  | waits hd => exact .inl hd.books_eq
  | troubled hd => exact .inl hd.books_eq
  | refused hd => exact .inl hd.books_eq
  | posts herrand hp => exact .inr ⟨_, _, herrand, hp, rfl⟩

/-- A call about a change that ends well has carried out its errand. -/
lemma Bank.Came.posts_of_ok {alone : Prop} {thresholds : Thresholds} {now : Nat} {s₀ s : Store}
    {tx : TxId} {ticket : Ticket} {reply : Reply} (hmutation : ticket.request.isMutation = true)
    (h : Bank.Came alone thresholds now s₀ tx ticket s (.done (.ok reply))) :
    ∃ errand, ticket.errand? = some (.ok errand) ∧
      errand.Posts thresholds now tx s₀ s reply := by
  cases h with
  | answers hclosed hanswers => exact absurd hmutation hanswers.not_isMutation
  | posts herrand hp => exact ⟨_, herrand, hp⟩

namespace Desk

variable {σ : Type} {d : Desk σ} {id : Nat} {event : Event σ} {events : List (Event σ)}

/-- The books of a desk. -/
def books (d : Desk σ) : Books := d.bank.store.books

/-- The call that has a turn in an event. -/
def caller? (d : Desk σ) : Event σ → Option Nat
  | .start .. => some d.started
  | .resume id => some id
  | _ => none

/-- Between two desks a call has ended well, and what it is about has been carried out. -/
def Applies (d d' : Desk σ) (id : Nat) : Prop :=
  ∃ ticket outcome errand reply tx, d'.log.getLast? = some (.ended id ticket outcome) ∧
    outcome.result = .ok reply ∧ ticket.errand? = some (.ok errand) ∧
    errand.Posts d.bank.thresholds d.bank.clock.now tx d.bank.store d'.bank.store reply

variable [RateProvider σ]

/-- An event of a run is a turn of this call, and changes the books. -/
def Writes (d : Desk σ) (events : List (Event σ)) (id n : Nat) : Prop :=
  ∃ event, events[n]? = some event ∧ (d.run (events.take n)).caller? event = some id ∧
    (d.run (events.take (n + 1))).books ≠ (d.run (events.take n)).books

/-- What the calls of a run do is done entirely or not at all. -/
structure IsAtomic (d : Desk σ) (events : List (Event σ)) : Prop where
  /-- A call that fails never changes the books. -/
  unwritten {id : Nat} {ticket : Ticket} {outcome : Outcome} {failure : Failure} :
    .ended id ticket outcome ∈ (d.run events).log → outcome.result = .error failure →
      ∀ n, ¬ d.Writes events id n
  /-- Whatever a call that has ended began is over, and it holds no row and waits for none. -/
  released {id : Nat} {ticket : Ticket} {outcome : Outcome} {tx : TxId} :
    .ended id ticket outcome ∈ (d.run events).log → .began id tx ∈ (d.run events).log →
      ¬ (d.run events).bank.store.IsOpen tx ∧ ∀ key, ¬ ((d.run events).bank.store.lock key).Knows tx
  /-- The books change only when a call ends well, by exactly what it is about. -/
  applies {n : Nat} : (d.run (events.take (n + 1))).books ≠ (d.run (events.take n)).books →
    ∃ id, d.Writes events id n ∧
      (d.run (events.take n)).Applies (d.run (events.take (n + 1))) id
  /-- A call that is repeated until it ends well changes the books once, in whatever ways it has
  failed before. -/
  once {failed : List Nat} {id : Nat} {ticket : Ticket} {outcome : Outcome} {reply : Reply} :
    (∀ id' ∈ failed, ∃ ticket' outcome' failure, .ended id' ticket' outcome' ∈ (d.run events).log ∧
      outcome'.result = .error failure) →
    .ended id ticket outcome ∈ (d.run events).log → outcome.result = .ok reply →
    ticket.request.isMutation = true →
    ∃! n, ∃ id' ∈ id :: failed, d.Writes events id' n

/-! ### One event -/

lemma HasTurn.caller?_eq {d₁ : Desk σ} {tx : TxId} {ticket : Ticket}
    {turn : Bank σ × Turn Call Outcome} (h : d.HasTurn event d₁ id tx ticket turn) :
    d.caller? event = some id := by
  rcases h.received with ⟨rfl, -, -⟩ | ⟨deadline, rfl, rfl, -, -⟩
  · rfl
  · rfl

lemma HasTurn.bank_eq {d₁ : Desk σ} {tx : TxId} {ticket : Ticket}
    {turn : Bank σ × Turn Call Outcome} (h : d.HasTurn event d₁ id tx ticket turn) :
    d₁.bank = d.bank := by
  rcases h.received with ⟨-, rfl, -⟩ | ⟨deadline, -, -, rfl, -⟩
  · rfl
  · rfl

/-- A turn in which a call ends well and its errand is carried out. -/
lemma HasTurn.applies {d₁ : Desk σ} {tx : TxId} {ticket : Ticket}
    {turn : Bank σ × Turn Call Outcome} (h : d.HasTurn event d₁ id tx ticket turn)
    {outcome : Outcome} {errand : Errand} {reply : Reply} (hturn : turn.2 = .done outcome)
    (hresult : outcome.result = .ok reply) (herrand : ticket.errand? = some (.ok errand))
    (hp : errand.Posts d₁.bank.thresholds d₁.bank.clock.now tx d₁.bank.store turn.1.store reply) :
    d.Applies (d.step event) id := by
  refine ⟨ticket, outcome, errand, reply, tx, ?_, hresult, herrand, ?_⟩
  · rw [h.step_eq, after, hturn, noteEnd, List.getLast?_append]
    rfl
  · rw [h.step_eq]
    exact h.bank_eq ▸ hp

/-- An event changes the books only if it is the turn in which a call ends well. -/
lemma IsSound.books_cases (hd : d.IsSound) (event : Event σ) :
    (d.step event).books = d.books ∨
      ∃ id, d.caller? event = some id ∧ d.Applies (d.step event) id := by
  rcases hd.step_cases event with h | ⟨d₁, id, tx, ticket, turn, h⟩
  · refine .inl ?_
    rw [books, books, Store.books, Store.books, h.wallets, h.journal, h.events]
  · rcases h.came.books_cases with hsame | ⟨errand, reply, herrand, hp, hdone⟩
    · refine .inl ?_
      rw [h.step_eq, books, books, ← h.bank_eq]
      exact hsame
    · cases hturn : turn.2 with
      | waiting call => simp [hturn, Turn.map] at hdone
      | done outcome =>
          rw [hturn] at hdone
          exact .inr ⟨id, h.caller?_eq, h.applies hturn (Turn.done.inj hdone) herrand hp⟩

/-- The turn in which a call about a change ends well carries out its errand. -/
lemma HasTurn.applies_of_ok {d₁ : Desk σ} {tx : TxId} {ticket : Ticket}
    {turn : Bank σ × Turn Call Outcome} (h : d.HasTurn event d₁ id tx ticket turn)
    {outcome : Outcome} {reply : Reply} (hturn : turn.2 = .done outcome)
    (hresult : outcome.result = .ok reply) (hmutation : ticket.request.isMutation = true) :
    d.Applies (d.step event) id := by
  have hcame := h.came
  rw [Came, hturn, Turn.map, hresult] at hcame
  obtain ⟨errand, herrand, hp⟩ := hcame.posts_of_ok hmutation
  exact h.applies hturn hresult herrand hp

omit [RateProvider σ] in
lemma Applies.books_ne {d' : Desk σ} (h : d.Applies d' id) : d'.books ≠ d.books := by
  obtain ⟨_, _, _, _, _, -, -, -, hp⟩ := h
  exact hp.books_ne

/-- A call that has ended has no turn any more. -/
lemma Logs.step_eq_of_ended (hl : d.Logs) {ticket : Ticket} {outcome : Outcome}
    (he : .ended id ticket outcome ∈ d.log) (hcaller : d.caller? event = some id) :
    d.step event = d := by
  obtain ⟨hlt, hw⟩ := hl.ended he
  cases event with
  | start deadline request => exact absurd (Option.some.inj hcaller) hlt.ne'
  | resume id' =>
      obtain rfl := Option.some.inj hcaller
      rw [Desk.step, hw]
  | _ => simp [caller?] at hcaller

/-! ### Writes -/

section Writes

variable {n m : ℕ}

/-- An event that changes the books is a turn in which the call ends well. -/
lemma IsSound.applies_of_writes (hd : d.IsSound) (h : d.Writes events id n) :
    (d.run (events.take n)).Applies (d.run (events.take (n + 1))) id := by
  obtain ⟨event, hevent, hcaller, hne⟩ := h
  rw [run_take_succ hevent] at hne ⊢
  rcases (hd.run (events.take n)).books_cases event with hsame | ⟨id', hcaller', happlies⟩
  · exact absurd hsame hne
  · obtain rfl := Option.some.inj (hcaller'.symm.trans hcaller)
    exact happlies

/-- A call that has written has ended well. -/
lemma IsSound.ended_of_writes (hd : d.IsSound) (h : d.Writes events id n) :
    ∃ ticket outcome reply, .ended id ticket outcome ∈ (d.run (events.take (n + 1))).log ∧
      outcome.result = .ok reply := by
  obtain ⟨ticket, outcome, errand, reply, tx, hlast, hresult, -⟩ := hd.applies_of_writes h
  exact ⟨ticket, outcome, reply, List.mem_of_getLast? hlast, hresult⟩

/-- A call that has written does not write again. -/
lemma IsSound.writes_le (hd : d.IsSound) (hl : d.Logs) (hn : d.Writes events id n)
    (hm : d.Writes events id m) : m ≤ n := by
  by_contra hlt
  obtain ⟨ticket, outcome, reply, he, -⟩ := hd.ended_of_writes hn
  obtain ⟨event, hevent, hcaller, hne⟩ := hm
  have he' := (hd.log_prefix_run_take (Nat.lt_of_not_le hlt)).subset he
  rw [run_take_succ hevent, (hl.run hd _).step_eq_of_ended he' hcaller] at hne
  exact hne rfl

/-- A call that fails never writes. -/
lemma IsSound.not_writes_of_failed (hd : d.IsSound) (hl : d.Logs) {ticket : Ticket}
    {outcome : Outcome} {failure : Failure} (he : .ended id ticket outcome ∈ (d.run events).log)
    (hresult : outcome.result = .error failure) (n : ℕ) : ¬ d.Writes events id n := by
  intro hw
  obtain ⟨ticket', outcome', reply, he', hresult'⟩ := hd.ended_of_writes hw
  obtain ⟨-, rfl⟩ := (hl.run hd events).follows.ended_unique he ((hd.log_prefix_run _).subset he')
  exact absurd (hresult.symm.trans hresult') (by simp)

/-- A call about a change that ends well writes. -/
lemma IsSound.exists_writes (hd : d.IsSound) {ticket : Ticket} {outcome : Outcome} {reply : Reply}
    (hnot : .ended id ticket outcome ∉ d.log) (he : .ended id ticket outcome ∈ (d.run events).log)
    (hresult : outcome.result = .ok reply) (hmutation : ticket.request.isMutation = true) :
    ∃ n, d.Writes events id n := by
  obtain ⟨n, event, d₁, tx, turn, hevent, h, hturn⟩ := hd.exists_turn_of_ended_run hnot he
  have happlies := h.applies_of_ok hturn hresult hmutation
  exact ⟨n, event, hevent, h.caller?_eq, run_take_succ hevent ▸ happlies.books_ne⟩

end Writes

/-- Every run is such that what its calls do is done entirely or not at all, whatever faults are
injected, however the turns of the calls are ordered, and wherever they are given up. -/
theorem isAtomic_run (clock : Clock) (lockTimeout : Nat) (ids : IdSupply) (rates : RateCache σ)
    (thresholds : Thresholds) (events : List (Event σ)) :
    (fresh clock lockTimeout ids rates thresholds).IsAtomic events := by
  have hd := isSound_fresh clock lockTimeout ids rates thresholds
  have hl := logs_fresh clock lockTimeout ids rates thresholds
  constructor
  case unwritten =>
    intro id ticket outcome failure he hresult n
    exact hd.not_writes_of_failed hl he hresult n
  case released =>
    intro id ticket outcome tx he hb
    have hclosed := (hl.run hd events).not_isOpen he hb
    exact ⟨hclosed, fun key hknows => hclosed ((hd.run events).disciplined.isOpen_of_knows hknows)⟩
  case applies =>
    intro n hne
    cases hevent : events[n]? with
    | none => exact absurd (congrArg books (run_take_succ_of_none hevent)) hne
    | some event =>
        have hstep := run_take_succ (d := fresh clock lockTimeout ids rates thresholds) hevent
        -- books that have changed have been changed by an errand as a whole
        rcases (hd.run (events.take n)).books_cases event with hsame | ⟨id, hcaller, happlies⟩
        · exact absurd (hstep ▸ hsame) hne
        · exact ⟨id, ⟨event, hevent, hcaller, hne⟩, hstep ▸ happlies⟩
  case once =>
    intro failed id ticket outcome reply hfailed he hresult hmutation
    obtain ⟨n, hn⟩ := hd.exists_writes (by simp [fresh]) he hresult hmutation
    -- calls that have failed write nothing, so that only the last try can have written
    have honly : ∀ id' ∈ id :: failed, ∀ m,
        (fresh clock lockTimeout ids rates thresholds).Writes events id' m → id' = id := by
      intro id' hid' m hm
      rcases List.mem_cons.mp hid' with rfl | hid'
      · rfl
      · obtain ⟨_, _, _, he', hresult'⟩ := hfailed id' hid'
        exact absurd hm (hd.not_writes_of_failed hl he' hresult' m)
    refine ⟨n, ⟨id, List.mem_cons_self, hn⟩, ?_⟩
    rintro m ⟨id', hid', hm⟩
    obtain rfl := honly id' hid' m hm
    exact le_antisymm (hd.writes_le hl hn hm) (hd.writes_le hl hm hn)

/-- A deposit whose commit is struck by a fault has ended, and has left nothing. -/
example :
    let d := (fresh (.atRest 0) Store.standardLockTimeout .fresh
      (.empty ⟨SimulatedProvider.named "", none⟩ RateCache.standardTtl) .standard).run
        [.start none (.openAccount ⟨.random 0⟩), .inject .commit,
          .start none (.deposit ⟨.random 0⟩ .usd ⟨false, 1250, 2, by decide, by decide⟩)]
    d.waiting.get? 1 = none ∧ d.bank.store.faults = [] ∧ d.bank.store.journal = [] := by
  decide +kernel

end Desk

end Teller
