/-
Turns of calls.

* `Bank.rateAtStart?`, `Bank.rateAtResume?`: the answer about a rate that an exchange gets in a
  turn;
* `Bank.serve`: a call on its own, the answer about its rate being given;
* `Bank.comes_start`, `Bank.comes_resume_of_idles`, `Bank.comes_resume_of_carries`,
  `Bank.comes_serve`: every turn of every call comes to what `Bank.Came` lists, whatever the
  arithmetic;
* `Bank.comes_startCall`, `Bank.comes_resumeCall_of_idles`, `Bank.comes_resumeCall_of_carries`: so
  does every turn under a deadline.
-/
import Teller.Proofs.Bank.Exchange

namespace Teller

/-- The ticket with an answer about its rate, unless it has got one before. -/
def Ticket.answered (t : Ticket) (obtained : Option (Except RateError Decimal)) : Ticket :=
  { t with obtained := t.obtained.or obtained }

namespace Bank

variable {σ : Type} {alone : Prop} {s₀ : Store} {tx : TxId} {ticket : Ticket} {b : Bank σ}

/-- The answer about a rate that an exchange gets as it starts, if it asks and is answered. -/
def rateAtStart? [RateProvider σ] (b : Bank σ) : Request → Option (Except RateError Decimal)
  | .exchange _ source target _ =>
    (RateCache.timeless (b.rates.read b.clock (.pair ⟨source, target⟩))).2.result?
  | _ => none

/-- The answer about a rate that a call gets as it goes on, if it has asked and is answered. -/
def rateAtResume? [RateProvider σ] (b : Bank σ) : Phase → Option (Except RateError Decimal)
  | .pricing _ source target fetch =>
    (RateCache.timeless
      (b.rates.resume b.clock (.pair ⟨source.currency, target⟩) fetch)).2.result?
  | _ => none

/-- A call on its own, the answer about its rate being given. -/
def serve [RateProvider σ] [Arithmetic] (b : Bank σ) (t : Ticket) : Step σ :=
  match t.request, t.obtained with
  | .exchange account source target amount, some obtained =>
    if source = target then b.refuse (.validation (.sameCurrency source))
    else
      match Money.positive amount source with
      | .error e => b.refuse e
      | .ok money => b.afterPricing account money target (b.rates, .done obtained)
  | request, _ => b.start request

/-! ### Starts -/

/-- A deposit or withdrawal of any amount. -/
lemma comes_startChecked (hs : b.store.Disciplined) (hp : b.store.sheet.IsProper)
    (hq : alone → b.store.Alone ⟨b.store.begun⟩) {kind : OperationKind} {account : AccountId}
    {currency : Currency} {amount : Decimal}
    (herrand : ticket.errand?
      = some ((Money.positive amount currency).map (.adjustment kind account))) :
    Comes b (CameOn alone b b.store ⟨b.store.begun⟩ ticket)
      (b.startChecked kind account currency amount) := by
  cases hm : Money.positive amount currency with
  | error e =>
      rw [hm] at herrand
      simp only [startChecked, hm]
      exact comes_refuse hs hq herrand
  | ok money =>
      rw [hm] at herrand
      simp only [startChecked, hm]
      exact comes_startAdjustment hs hp hq herrand

/-- An exchange of any amount, if what comes after the checks is in order. -/
lemma comes_checkedExchange (hs : b.store.Disciplined)
    (hq : alone → b.store.Alone ⟨b.store.begun⟩) {account : AccountId} {source target : Currency}
    {amount : Decimal} (hrequest : ticket.request = .exchange account source target amount)
    {f : [Arithmetic] → Money → Step σ}
    (hf : ∀ money, source ≠ target → Money.positive amount source = .ok money →
      Comes b (CameOn alone b b.store ⟨b.store.begun⟩ ticket) (f money)) :
    Comes b (CameOn alone b b.store ⟨b.store.begun⟩ ticket)
      (if source = target then b.refuse (.validation (.sameCurrency source))
      else
        match Money.positive amount source with
        | .error e => b.refuse e
        | .ok money => f money) := by
  by_cases heq : source = target
  · simp only [if_pos heq]
    exact comes_refuse hs hq (by rw [Ticket.errand?, hrequest]; exact if_pos heq)
  · simp only [if_neg heq]
    cases hm : Money.positive amount source with
    | error e =>
        simp only
        refine comes_refuse hs hq ?_
        simp only [Ticket.errand?, hrequest, if_neg heq, hm]
    | ok money => exact hf money heq hm

/-- A reading of all rates after a turn of its fetch. -/
lemma comes_afterTable (hclosed : ¬ b.store.IsOpen tx) (hrequest : ticket.request = .rates)
    (step : RateCache σ × Turn Fetch (Except RateError (Observed RateTable))) :
    Comes b (CameOn alone b b.store tx ticket) (b.afterTable step) := by
  obtain ⟨rates, turn⟩ := step
  refine .of_eq _ ⟨fun _ _ => rfl⟩ ?_ ?_ ?_
  all_goals rcases turn with fetch | (e | table)
  any_goals rfl
  · exact .idles hclosed (.readingTable hrequest)
  · exact .answers hclosed (hrequest ▸ .noRates e.toLedgerError)
  · exact .answers hclosed (hrequest ▸ .rates table)

/-- A reading of a pair's rate after a turn of its fetch. -/
lemma comes_afterPair {pair : CurrencyPair} (hclosed : ¬ b.store.IsOpen tx)
    (hrequest : ticket.request = .pairRate pair.source pair.target)
    (step : RateCache σ × Turn Fetch (Except RateError (Observed Decimal))) :
    Comes b (CameOn alone b b.store tx ticket) (b.afterPair pair step) := by
  obtain ⟨rates, turn⟩ := step
  refine .of_eq _ ⟨fun _ _ => rfl⟩ ?_ ?_ ?_
  all_goals rcases turn with fetch | (e | rate)
  any_goals rfl
  · exact .idles hclosed (.readingPair hrequest)
  · exact .answers hclosed (hrequest ▸ .noPairRate pair.source pair.target e.toLedgerError)
  · exact .answers hclosed (hrequest ▸ .pairRate (rate.map (PairQuote.mk pair)))

section Provider

variable [RateProvider σ]

/-- A call that is served on its own. -/
theorem comes_serve (hs : b.store.Disciplined) (hp : b.store.sheet.IsProper)
    (hq : alone → b.store.Alone ⟨b.store.begun⟩) {answer : Except LedgerError Errand}
    (herrand : ticket.errand? = some answer) :
    Comes b (CameOn alone b b.store ⟨b.store.begun⟩ ticket) (b.serve ticket) := by
  obtain ⟨request, obtained⟩ := ticket
  cases request with
  | openAccount account => exact comes_startProvisioning hs hq rfl
  | deposit account currency amount => exact comes_startChecked hs hp hq rfl
  | withdraw account currency amount => exact comes_startChecked hs hp hq rfl
  | exchange account source target amount =>
      cases obtained with
      | some obtained =>
          refine comes_checkedExchange hs hq rfl fun money hne hm => ?_
          obtain ⟨rfl, -⟩ := Money.isAmount_of_positive hm
          exact comes_afterPricing hs hp hq rfl rfl hne hm
      | none =>
          refine comes_checkedExchange hs hq rfl fun money hne hm => ?_
          simp [Ticket.errand?, hne, hm] at herrand
  | _ => simp [Ticket.errand?] at herrand

/-- A call from its start. -/
theorem comes_start (hs : b.store.Disciplined) (hp : b.store.sheet.IsProper)
    (hq : alone → b.store.Alone ⟨b.store.begun⟩) (request : Request)
    (hverify : ∀ account, request = .verify account →
      Settles (b.store.reconcile account) (b.store.reconcile account)) :
    Comes b (CameOn alone b b.store ⟨b.store.begun⟩ ⟨request, b.rateAtStart? request⟩)
      (b.start request) := by
  cases request with
  | openAccount account => exact comes_startProvisioning hs hq rfl
  | deposit account currency amount => exact comes_startChecked hs hp hq rfl
  | withdraw account currency amount => exact comes_startChecked hs hp hq rfl
  | exchange account source target amount =>
      -- the arguments are checked before the rate is asked for
      refine comes_checkedExchange hs hq rfl fun money hne hm => ?_
      obtain ⟨rfl, -⟩ := Money.isAmount_of_positive hm
      exact comes_afterPricing hs hp hq rfl rfl hne hm
  | balance account =>
      exact .of_eq _ ⟨fun _ _ => rfl⟩ rfl rfl (.answers hs.not_isOpen_begun (.balance account))
  | history account =>
      exact .of_eq _ ⟨fun _ _ => rfl⟩ rfl rfl (.answers hs.not_isOpen_begun (.history account))
  | verify account =>
      refine .of_eq (b.start (.verify account)) ⟨fun A _ => ?_⟩ rfl rfl
        (.answers hs.not_isOpen_begun (.verify account))
      simp only [start, (hverify account rfl).eq A]
  | rates => exact comes_afterTable hs.not_isOpen_begun rfl _
  | pairRate source target =>
      by_cases heq : source = target
      · simp only [start, if_pos heq]
        exact .of_eq _ ⟨fun _ _ => rfl⟩ rfl rfl
          (.answers hs.not_isOpen_begun (.noPairRate source target _))
      · simp only [start, if_neg heq]
        exact comes_afterPair hs.not_isOpen_begun rfl _

/-! ### Resumptions -/

/-- A call that has not touched anything goes on. -/
theorem comes_resume_of_idles (hs : b.store.Disciplined) (hp : b.store.sheet.IsProper)
    (hq : alone → b.store.Alone ⟨b.store.begun⟩) {phase : Phase} (h : phase.Idles ticket) :
    Comes b (CameOn alone b b.store ⟨b.store.begun⟩ (ticket.answered (b.rateAtResume? phase)))
      (b.resume phase) := by
  cases h with
  | pricing hrequest hobtained hne hsource =>
      refine comes_afterPricing hs hp hq hrequest ?_ hne hsource
      rw [Ticket.answered, hobtained, Option.none_or]
      rfl
  | @readingTable fetch hrequest =>
      have hrequest' : (ticket.answered (b.rateAtResume? (.readingTable fetch))).request
          = .rates := hrequest
      exact comes_afterTable hs.not_isOpen_begun hrequest' _
  | @readingPair pair fetch hrequest =>
      have hrequest' : (ticket.answered (b.rateAtResume? (.readingPair pair fetch))).request
          = .pairRate pair.source pair.target := hrequest
      exact comes_afterPair hs.not_isOpen_begun hrequest' _

/-- A call that has waited for a row goes on. -/
theorem comes_resume_of_carries (hs : b.store.Disciplined) (hp : b.store.sheet.IsProper)
    {phase : Phase} (h : phase.Carries b.store tx ticket) :
    Comes b (CameOn False b b.store tx ticket) (b.resume phase) := by
  have hd : b.store.During False tx b.store := .refl hs False.elim
  cases h with
  | provisioning herrand htx ho hall => exact comes_resumeProvisioning hs herrand htx ho hall
  | adjusting herrand hadj hcontent hid =>
      exact comes_resumeAdjustment hs hp herrand hadj hcontent hid
  | crediting herrand htx hadj hcontent hid =>
      have ha := (Ticket.isSound_of_errand? herrand).isAmount _ List.mem_cons_self
      exact comes_afterCredit herrand htx
        (hd.resumeAdjust (.fresh hcontent hp) List.not_mem_nil ha b.clock hadj hid False.elim)
  | @debiting trail exchange credited wait t sheet herrand htx hadj hm hrecords hevents hcredited
      hcurrency hseen hid =>
      have hsound := Ticket.isSound_of_errand? herrand
      have hmid := Movement.foldlM_apply_singleton hm.outcome
      exact comes_afterDebit herrand htx hrecords hevents hcredited hcurrency hmid hseen
        (hd.resumeAdjust hm hsound.debit_not_mem hsound.isAmount_debit b.clock hadj hid False.elim)

end Provider

/-! ### Deadlines -/

end Bank

lemma Phase.Idles.row?_eq {phase : Phase} {ticket : Ticket} (h : phase.Idles ticket) :
    phase.row? = none := by
  cases h <;> rfl

/-- A call with a transaction waits for a row in its name. -/
lemma Phase.Carries.exists_row {phase : Phase} {s : Store} {tx : TxId} {ticket : Ticket}
    (h : phase.Carries s tx ticket) : ∃ wait, phase.row? = some wait ∧ wait.tx = tx := by
  cases h with
  | provisioning herrand htx => exact ⟨_, rfl, htx⟩
  | adjusting herrand hadj => exact ⟨_, rfl, congrArg Adjustment.tx hadj⟩
  | crediting herrand htx hadj => exact ⟨_, rfl, congrArg Adjustment.tx hadj⟩
  | debiting herrand htx hadj => exact ⟨_, rfl, congrArg Adjustment.tx hadj⟩

namespace Bank

variable {σ : Type} {s₀ : Store} {tx : TxId} {ticket : Ticket} {b : Bank σ}

/-- By every lawful arithmetic a turn under a deadline comes to the same, which has this
property. -/
def CallComes (b₀ : Bank σ) (P : Store → Turn Phase (Except Failure Reply) → Prop)
    (f : [Arithmetic] → Bank σ × Turn Call Outcome) : Prop :=
  ∃ step : Bank σ × Turn Call Outcome, Settles f step ∧ step.1.clock = b₀.clock ∧
    step.1.thresholds = b₀.thresholds ∧ P step.1.store (step.2.map (·.phase) (·.result))

/-- What is so by every lawful arithmetic is so by the sums of decimals. -/
lemma CallComes.standard {P : Store → Turn Phase (Except Failure Reply) → Prop}
    {f : [Arithmetic] → Bank σ × Turn Call Outcome} (h : CallComes b P f) :
    (@f .decimal).1.thresholds = b.thresholds ∧
      P (@f .decimal).1.store ((@f .decimal).2.map (·.phase) (·.result)) := by
  obtain ⟨step, hsettles, -, hthresholds, hP⟩ := h
  rw [show @f .decimal = step from hsettles.eq .decimal]
  exact ⟨hthresholds, hP⟩

lemma CallComes.settles {P : Store → Turn Phase (Except Failure Reply) → Prop}
    {f : [Arithmetic] → Bank σ × Turn Call Outcome} (h : CallComes b P f) :
    Settles f (@f .decimal) := by
  obtain ⟨step, hsettles, -⟩ := h
  exact ⟨fun A _ => (hsettles.eq A).trans (hsettles.eq .decimal).symm⟩

/-- A call that is given up at its deadline leaves nothing behind. -/
lemma comes_underDeadline (hs : s₀.Disciplined) (deadline : Option Nat) {f : [Arithmetic] → Step σ}
    (h : Comes b (CameOn False b s₀ tx ticket) f) :
    CallComes b (CameOn False b s₀ tx ticket) (underDeadline deadline f) := by
  obtain ⟨⟨b', turn⟩, hsettles, hclock, hthresholds, hcame⟩ := h
  refine ⟨underDeadline deadline (b', turn),
    ⟨fun A _ => congrArg (underDeadline deadline) (hsettles.eq A)⟩, ?_⟩
  cases turn with
  | done outcome => exact ⟨hclock, hthresholds, hcame⟩
  | waiting phase =>
      rw [underDeadline]
      split
      · -- the deadline has come
        generalize hturn : Turn.map id Outcome.result (.waiting phase) = turn at hcame
        generalize hstore : (b', Turn.waiting phase).1.store = s at hcame
        cases hcame with
        | idles hclosed hidles =>
            obtain rfl : phase = _ := Turn.waiting.inj hturn
            rw [show b'.abandon phase = b' by rw [abandon, hidles.row?_eq]]
            refine ⟨hclock, hthresholds, ?_⟩
            rw [show b'.store = s₀ from hstore]
            exact .troubled (.refl hs False.elim) hclosed rfl not_false
        | waits hd hc =>
            obtain rfl : phase = _ := Turn.waiting.inj hturn
            obtain ⟨wait, hrow, rfl⟩ := hc.exists_row
            rw [show b'.abandon phase = b'.withStore (b'.store.discard wait.tx) by
              rw [abandon, hrow]]
            obtain rfl : b'.store = s := hstore
            exact ⟨hclock, hthresholds, .troubled hd.discard.1 hd.discard.2 rfl not_false⟩
        | _ => simp [Turn.map] at hturn
      · exact ⟨hclock, hthresholds, hcame⟩

/-- A call that is alone with the store, and has an answer, ends in this turn whatever its
deadline. -/
lemma comes_underDeadline_of_errand? (deadline : Option Nat) {f : [Arithmetic] → Step σ}
    (h : Comes b (CameOn True b s₀ tx ticket) f) {answer : Except LedgerError Errand}
    (herrand : ticket.errand? = some answer) :
    CallComes b (CameOn True b s₀ tx ticket) (underDeadline deadline f) := by
  obtain ⟨⟨b', turn⟩, hsettles, hclock, hthresholds, hcame⟩ := h
  obtain ⟨outcome, rfl⟩ : ∃ outcome, turn = .done outcome := by
    rcases hcame.done_of_alone herrand with ⟨_, hdone, -⟩ | ⟨_, _, hdone, -⟩
    all_goals
      obtain ⟨outcome, hturn, -⟩ := Turn.exists_of_map_eq_done hdone
      exact ⟨outcome, hturn⟩
  exact ⟨(b', .done outcome),
    ⟨fun A _ => congrArg (underDeadline deadline) (hsettles.eq A)⟩, hclock, hthresholds, hcame⟩

variable [RateProvider σ]

/-- A call under a deadline from its start. -/
theorem comes_startCall (hs : b.store.Disciplined) (hp : b.store.sheet.IsProper)
    (deadline : Option Nat) (request : Request)
    (hverify : ∀ account, request = .verify account →
      Settles (b.store.reconcile account) (b.store.reconcile account)) :
    CallComes b (CameOn False b b.store ⟨b.store.begun⟩ ⟨request, b.rateAtStart? request⟩)
      (b.startCall deadline request) :=
  comes_underDeadline hs deadline (comes_start (b := b) hs hp False.elim request hverify)

/-- A call under a deadline from its start, by the sums of decimals. -/
theorem came_startCall (hs : b.store.Disciplined) (hp : b.store.sheet.IsProper)
    (deadline : Option Nat) (request : Request) :
    (b.startCall deadline request).1.thresholds = b.thresholds ∧
      CameOn False b b.store ⟨b.store.begun⟩ ⟨request, b.rateAtStart? request⟩
        (b.startCall deadline request).1.store
        ((b.startCall deadline request).2.map (·.phase) (·.result)) := by
  cases request with
  | verify account => exact ⟨rfl, .answers hs.not_isOpen_begun (.verify account)⟩
  | _ => exact (comes_startCall hs hp deadline _ (by simp)).standard

/-- A call under a deadline that has not touched anything goes on. -/
theorem comes_resumeCall_of_idles (hs : b.store.Disciplined) (hp : b.store.sheet.IsProper)
    {call : Call} (h : call.phase.Idles ticket) :
    CallComes b
      (CameOn False b b.store ⟨b.store.begun⟩ (ticket.answered (b.rateAtResume? call.phase)))
      (b.resumeCall call) :=
  comes_underDeadline hs call.deadline (comes_resume_of_idles (b := b) hs hp False.elim h)

/-- A call under a deadline that has waited for a row goes on. -/
theorem comes_resumeCall_of_carries (hs : b.store.Disciplined) (hp : b.store.sheet.IsProper)
    {call : Call} (h : call.phase.Carries b.store tx ticket) :
    CallComes b (CameOn False b b.store tx (ticket.answered (b.rateAtResume? call.phase)))
      (b.resumeCall call) := by
  have hrate : b.rateAtResume? call.phase = none := by
    cases hphase : call.phase with
    | pricing => rw [hphase] at h; cases h
    | _ => rfl
  rw [hrate, Ticket.answered, Option.or_none]
  exact comes_underDeadline hs call.deadline (comes_resume_of_carries (b := b) hs hp h)

end Bank

end Teller
