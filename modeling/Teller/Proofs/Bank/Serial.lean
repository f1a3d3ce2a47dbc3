/-
Calls that are served one at a time.

* `Reply.Agrees`: two replies tell the same, apart from the identifiers of wallets;
* `Bank.IsQuiet`: no transaction is open and no fault is to strike; `Bank.IsQuiet.serve` says that a
  call which is served then is refused or carried out, and leaves the bank quiet;
* `Bank.serveAll`: calls one after the other;
* `Bank.IsQuiet.serve_of_came`: a call that has come to an end among others comes to the same end
  when it is served on its own with the same balances.
-/
import Teller.Proofs.Bank.Call

namespace Teller

/-! ### Replies that agree -/

/-- Two snapshots tell the same, apart from the identifier of the wallet. -/
def WalletSnapshot.Agrees (a b : WalletSnapshot) : Prop :=
  a.account = b.account ∧ a.currency = b.currency ∧ a.balances = b.balances

/-- Two replies tell the same, apart from the identifiers of wallets. -/
inductive Reply.Agrees : Reply → Reply → Prop where
  | balances (balances : Balances) : Agrees (.balances balances) (.balances balances)
  | snapshot {a b : WalletSnapshot} (h : a.Agrees b) : Agrees (.snapshot a) (.snapshot b)
  | receipt {a b : WalletSnapshot} (h : a.Agrees b) (rate : Decimal) (source target : Money) :
      Agrees (.receipt (.of a rate source target)) (.receipt (.of b rate source target))

/-- Two calls came to the same end: the same error, or replies that agree. -/
inductive Reply.ResultsAgree : Except Failure Reply → Except Failure Reply → Prop where
  | error (failure : Failure) : ResultsAgree (.error failure) (.error failure)
  | ok {a b : Reply} (h : a.Agrees b) : ResultsAgree (.ok a) (.ok b)

/-- Did a call end in trouble? -/
def Failure.isTrouble : Failure → Bool
  | refused e => e.isTrouble
  | _ => false

/-- The call could change something, and it did not end in trouble. -/
def Ticket.counts (ticket : Ticket) : Except Failure Reply → Bool
  | .error failure => ticket.request.isMutation && !failure.isTrouble
  | .ok _ => ticket.request.isMutation

/-- Errands that are carried out with the same balances have replies that agree. -/
lemma Errand.Posts.agrees {thresholds thresholds' : Thresholds} {now now' : Nat} {tx tx' : TxId}
    {s₀ s₀' s s' : Store} {errand : Errand} {reply reply' : Reply} (hsheet : s₀'.sheet = s₀.sheet)
    (h : errand.Posts thresholds now tx s₀ s reply)
    (h' : errand.Posts thresholds' now' tx' s₀' s' reply') : reply.Agrees reply' := by
  have hout := h.outcome
  have hout' := h'.outcome
  rw [hsheet] at hout'
  -- an errand determines the sheet that it leaves, and replies are read from that
  have heq : s.sheet = s'.sheet := Except.ok.inj (hout.symm.trans hout')
  cases h with
  | opening hopened hp =>
      cases h' with
      | opening hopened' hp' =>
          rw [hp.sheet_eq, hp'.sheet_eq] at heq
          rw [heq]
          exact .balances _
  | adjustment hmoved hid hp =>
      cases h' with
      | adjustment hmoved' hid' hp' =>
          rw [hp.sheet_eq, hp'.sheet_eq] at heq
          refine .snapshot ?_
          exact ⟨rfl, rfl, congrArg (Sheet.account · _) heq⟩
  | exchange hmoved hcredited hdebited hseen hp =>
      cases h' with
      | exchange hmoved' hcredited' hdebited' hseen' hp' =>
          rw [hp.sheet_eq, hp'.sheet_eq] at heq
          refine .receipt ?_ _ _ _
          exact ⟨rfl, rfl, congrArg (Sheet.account · _) heq⟩

namespace Bank

variable {σ : Type} {b b' : Bank σ} {ticket : Ticket}

/-! ### One call on its own -/

/-- No transaction is open, and no fault is to strike. -/
structure IsQuiet (b : Bank σ) : Prop where
  disciplined : b.store.Disciplined
  isProper : b.store.sheet.IsProper
  faults : b.store.faults = []
  closed (tx : TxId) : ¬ b.store.IsOpen tx

lemma isQuiet_empty {b : Bank σ} {lockTimeout : Nat} {ids : IdSupply}
    (h : b.store = .empty lockTimeout ids) : b.IsQuiet where
  disciplined := h ▸ .empty lockTimeout ids
  isProper := by simp [h, Sheet.IsProper, Store.sheet, Sheet.of, Store.empty]
  faults := by rw [h]; rfl
  closed := by simp [h, Store.IsOpen, Store.empty]

/-- What a call on its own comes to: it ends, refused or carried out. -/
inductive Ends (ticket : Ticket) (s₀ s : Store) : Except Failure Reply → Prop where
  | refused {e : LedgerError} (hsheet : s.sheet = s₀.sheet)
      (he : ticket.outcome? s₀.sheet = some (.error e)) : Ends ticket s₀ s (.error (.refused e))
  | posts {thresholds : Thresholds} {now : Nat} {tx : TxId} {errand : Errand} {reply : Reply}
      (herrand : ticket.errand? = some (.ok errand))
      (hp : errand.Posts thresholds now tx s₀ s reply) : Ends ticket s₀ s (.ok reply)

namespace Ends

variable {s₀ s s₀' s' : Store} {result : Except Failure Reply}

/-- A call that is to be refused is refused. -/
lemma of_refused (h : Ends ticket s₀ s result) {e : LedgerError}
    (he : ticket.outcome? s₀.sheet = some (.error e)) :
    s.sheet = s₀.sheet ∧ result = .error (.refused e) := by
  cases h with
  | refused hsheet he' =>
      obtain rfl := Except.error.inj (Option.some.inj (he.symm.trans he'))
      exact ⟨hsheet, rfl⟩
  | posts herrand hp =>
      rw [Ticket.outcome?_of_errand? herrand, hp.outcome] at he
      exact absurd he (by simp)

/-- A call whose errand has been carried out with the same balances ends well. -/
lemma of_posts (h : Ends ticket s₀ s result) {thresholds : Thresholds} {now : Nat} {tx : TxId}
    {errand : Errand} {reply : Reply} (herrand : ticket.errand? = some (.ok errand))
    (hp : errand.Posts thresholds now tx s₀' s' reply) (hsheet : s₀.sheet = s₀'.sheet) :
    s.sheet = s'.sheet ∧ Reply.ResultsAgree (.ok reply) result := by
  cases h with
  | refused hsame he =>
      rw [Ticket.outcome?_of_errand? herrand, hsheet, hp.outcome] at he
      exact absurd he (by simp)
  | posts herrand' hp' =>
      obtain rfl := Except.ok.inj (Option.some.inj (herrand.symm.trans herrand'))
      have houtcome := hp.outcome
      rw [← hsheet, hp'.outcome] at houtcome
      exact ⟨Except.ok.inj houtcome, .ok (hp.agrees hsheet hp')⟩

end Ends

variable [RateProvider σ]

/-- A call that is served on its own ends, and leaves the bank quiet. -/
theorem IsQuiet.serve (hb : b.IsQuiet) {answer : Except LedgerError Errand}
    (herrand : ticket.errand? = some answer) :
    (b.serve ticket).1.IsQuiet ∧ ∃ outcome, (b.serve ticket).2 = .done outcome ∧
      Ends ticket b.store (b.serve ticket).1.store outcome.result := by
  have halone : True → b.store.Alone ⟨b.store.begun⟩ :=
    fun _ => ⟨hb.faults, fun other ho => absurd ho (hb.closed other)⟩
  obtain ⟨step, hsettles, -, -, hcame⟩ :=
    comes_serve (b := b) hb.disciplined hb.isProper halone herrand
  obtain rfl : b.serve ticket = step := hsettles.eq .decimal
  generalize hstore : (b.serve ticket).1.store = s at hcame ⊢
  have hquiet : s.Disciplined → s.sheet.IsProper → s.Alone ⟨b.store.begun⟩ →
      ¬ s.IsOpen ⟨b.store.begun⟩ → (b.serve ticket).1.IsQuiet := by
    rintro hs hp ⟨hfaults, hothers⟩ hclosed
    refine ⟨hstore ▸ hs, hstore ▸ hp, hstore ▸ hfaults, fun tx ho => hclosed ?_⟩
    rw [hstore] at ho
    exact hothers tx ho ▸ ho
  have hs := hcame.path.disciplined hb.disciplined
  have hp := hcame.isProper hb.isProper
  have hs_alone := hcame.path.alone (halone trivial)
  have hends : ∃ result, (b.serve ticket).2.map id (·.result) = .done result ∧
      Ends ticket b.store s result := by
    rcases hcame.done_of_alone herrand with ⟨e, hdone, hd, he⟩ | ⟨_, _, hdone, herrand', hp⟩
    · exact ⟨_, hdone, .refused hd.sheet_eq he⟩
    · exact ⟨_, hdone, .posts herrand' hp⟩
  obtain ⟨result, hdone, hends⟩ := hends
  obtain ⟨outcome, hturn, rfl⟩ := Turn.exists_of_map_eq_done hdone
  rw [hdone] at hcame
  exact ⟨hquiet hs hp hs_alone hcame.closed, outcome, hturn, hends⟩

/-- Calls one after the other. -/
def serveAll [Arithmetic] (b : Bank σ) (tickets : List Ticket) : Bank σ :=
  tickets.foldl (fun b ticket => (b.serve ticket).1) b

/-! ### The same call among others -/

/-- A call that has come to an end among others, and is neither a reading nor in trouble, comes to
the same end when it is served on its own with the same balances. -/
theorem IsQuiet.serve_of_came (hb : b.IsQuiet) {alone : Prop} {thresholds : Thresholds} {now : Nat}
    {s₀ s : Store} {tx : TxId} {result : Except Failure Reply}
    (hcame : Came alone thresholds now s₀ tx ticket s (.done result))
    (hsheet : b.store.sheet = s₀.sheet) (hcounts : ticket.counts result = true) :
    (b.serve ticket).1.IsQuiet ∧ (b.serve ticket).1.store.sheet = s.sheet ∧
      ∃ outcome, (b.serve ticket).2 = .done outcome ∧
        Reply.ResultsAgree result outcome.result := by
  cases hcame with
  | answers hclosed hanswers =>
      have hmutation : ticket.request.isMutation = true := by
        unfold Ticket.counts at hcounts
        split at hcounts <;> simp_all
      exact absurd hmutation hanswers.not_isMutation
  | troubled hd hclosed he hnot => simp [Ticket.counts, Failure.isTrouble, he] at hcounts
  | refused hd hclosed he =>
      obtain ⟨answer, herrand, -⟩ := Option.map_eq_some_iff.mp he
      obtain ⟨hquiet, outcome, hturn, hends⟩ := hb.serve herrand
      obtain ⟨hsame, hresult⟩ := hends.of_refused (hsheet.symm ▸ he)
      exact ⟨hquiet, hsame.trans (hsheet.trans hd.sheet_eq.symm), outcome, hturn,
        hresult ▸ .error _⟩
  | posts herrand hp =>
      obtain ⟨hquiet, outcome, hturn, hends⟩ := hb.serve herrand
      obtain ⟨hsame, hagree⟩ := hends.of_posts herrand hp hsheet
      exact ⟨hquiet, hsame, outcome, hturn, hagree⟩

/-- A turn changes no balance unless the call ends in it and counts. -/
lemma Came.sheet_eq {alone : Prop} {thresholds : Thresholds} {now : Nat} {s₀ s : Store} {tx : TxId}
    {turn : Turn Phase (Except Failure Reply)}
    (hcame : Came alone thresholds now s₀ tx ticket s turn)
    (hcounts : ∀ result, turn = .done result → ¬ ticket.counts result = true) :
    s.sheet = s₀.sheet := by
  cases hcame with
  | idles => rfl
  | answers => rfl
  | waits hd => exact hd.sheet_eq
  | troubled hd => exact hd.sheet_eq
  | refused hd => exact hd.sheet_eq
  | posts herrand hp => exact absurd (Ticket.isMutation_of_errand? herrand) (hcounts _ rfl)

end Bank

end Teller
