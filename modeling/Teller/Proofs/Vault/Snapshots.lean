/-
What a transaction saw is what it commits, in a run of transactions that are used side by side.

* `Vault.turn?`, `Vault.answer?`: the adjustment that has a turn in an event, and what it is
  answered; `Vault.shown`: the adjustments of a transaction that were made in a run;
* `Vault.Recalls`: the invariant of every run in which the transaction adjusts by accepted amounts,
  whatever others do (`Recalls.step`, `Recalls.run`);
* `Vault.Remembers`: every snapshot shows the committed balance with all adjustments of the row, the
  next call is judged by the balance that was shown last, a call that is refused changes nothing but
  locks, and a commit leaves in every row the balance that was shown last;
* `Vault.remembers_run`: every run is like that.
-/
import Teller.Proofs.Store.Shown
import Teller.Proofs.Vault.Bounds

namespace Teller

namespace Vault

variable {v v' : Vault} {events : List Event} {event : Event} {tx other : TxId} {a : Adjustment}
  {store : Store} {turn : Turn AdjustWait (Except Failure AdjustOutcome)}
  {outcome : Except Failure AdjustOutcome} {h : List Shown}

/-- The transaction is asked for no adjustment, or for one by an accepted amount. -/
def Event.Accepts (tx : TxId) (event : Event) : Prop :=
  ∀ a ∈ event.adjustment?, a.tx = tx → (Money.positive a.amount a.key.currency).isOk

instance (tx : TxId) (event : Event) : Decidable (event.Accepts tx) :=
  inferInstanceAs (Decidable (∀ a ∈ event.adjustment?, a.tx = tx → _))

/-! ### Answers -/

/-- The adjustment that has a turn in an event, and what comes of the turn. -/
def turn? (v : Vault) :
    Event → Option (Adjustment × Store × Turn AdjustWait (Except Failure AdjustOutcome))
  | .call tx (.adjust key amount direction) =>
    if v.isFree tx then
      some (⟨tx, key, amount, direction⟩, v.store.adjust v.clock ⟨tx, key, amount, direction⟩)
    else none
  | .resume tx =>
    match v.waiting.get? tx with
    | some (.adjusting wait) => some (wait.adjustment, v.store.resumeAdjust v.clock wait)
    | _ => none
  | _ => none

/-- The adjustment that is answered in an event, and the answer. -/
def answer? (v : Vault) (event : Event) : Option (Adjustment × Except Failure AdjustOutcome) :=
  match v.turn? event with
  | some (a, _, .done outcome) => some (a, outcome)
  | _ => none

/-- The adjustment of a transaction that is made in an event. -/
def shows (v : Vault) (tx : TxId) (event : Event) : List Shown :=
  match v.turn? event with
  | some (a, _, turn) => if a.tx = tx then Shown.ofTurn a turn else []
  | none => []

/-- The adjustments of a transaction that are made in a run, the oldest first. -/
def shown (v : Vault) (tx : TxId) : List Event → List Shown
  | [] => []
  | event :: events => v.shows tx event ++ (v.step event).shown tx events

lemma turn?_of_answer? (hanswer : v.answer? event = some (a, outcome)) :
    ∃ store, v.turn? event = some (a, store, .done outcome) := by
  rw [answer?] at hanswer
  split at hanswer
  · next hturn =>
    cases hanswer
    exact ⟨_, hturn⟩
  · cases hanswer

lemma shows_of_turn? (hturn : v.turn? event = some (a, store, turn)) :
    v.shows tx event = if a.tx = tx then Shown.ofTurn a turn else [] := by
  rw [shows, hturn]

/-! ### The invariant -/

/-- A transaction recalls what it has been shown, and has found the wallet that it waits for. -/
structure Recalls (v : Vault) (tx : TxId) (h : List Shown) : Prop where
  begun : h ≠ [] → tx.serial < v.store.begun
  store : v.store.IsOpen tx → v.store.Recalls tx h
  waits {wait : AdjustWait} : v.waiting.get? tx = some (.adjusting wait) →
    wait.adjustment.IsModest ∧ v.store.walletId? tx wait.adjustment.key = some wait.wallet

lemma recalls_fresh (clock : Clock) (lockTimeout : Nat) (ids : IdSupply) (tx : TxId) :
    (fresh clock lockTimeout ids).Recalls tx [] where
  begun h := absurd rfl h
  store _ := Store.recalls_fresh rfl
  waits hw := by simp [fresh] at hw

lemma begun_afterAdjust : (v.afterAdjust tx (store, turn)).store.begun = store.begun := by
  rw [afterAdjust.eq_def]
  split
  all_goals
    next heq =>
      cases heq
      rfl

lemma begun_afterProvision {turn : Turn ProvisionWait (Except LedgerError Unit)} :
    (v.afterProvision tx (store, turn)).store.begun = store.begun := by
  cases turn <;> rfl

lemma begun_commit (s : Store) (tx : TxId) : (s.commit tx).1.begun = s.begun := by
  rw [Store.commit]
  split
  · next hfault =>
    obtain ⟨-, rfl⟩ := Store.takeFault?_eq_some hfault
    rfl
  · dsimp only
    split <;> rfl

lemma begun_rollback (s : Store) (tx : TxId) : (s.rollback tx).1.begun = s.begun := by
  rw [Store.rollback]
  split
  · next hfault =>
    obtain ⟨-, rfl⟩ := Store.takeFault?_eq_some hfault
    rfl
  · rfl

/-- Numbers of transactions are never taken back. -/
lemma begun_le_step (v : Vault) (event : Event) : v.store.begun ≤ (v.step event).store.begun := by
  cases event with
  | begin =>
      -- the only event that gives out a number
      show v.store.begun ≤ v.store.begin.1.begun
      rw [Store.begin]
      split
      · next hfault =>
        obtain ⟨-, rfl⟩ := Store.takeFault?_eq_some hfault
        exact le_rfl
      · exact Nat.le_succ _
  | call tx call =>
      rw [step]
      split
      · refine le_of_eq (Eq.symm ?_)
        cases call with
        | adjust key amount direction =>
            exact begun_afterAdjust.trans (Store.begun_adjust ..)
        | provision account =>
            exact begun_afterProvision.trans (Store.Retains.provision ..).begun
        | append record => exact (Store.Retains.append ..).begun
        | enqueue event => exact (Store.Retains.enqueue ..).begun
        | commit => exact begun_commit ..
        | rollback => exact begun_rollback ..
      · exact le_rfl
  | resume tx =>
      rw [step]
      split
      · exact le_rfl
      · next call _ =>
        refine le_of_eq (Eq.symm ?_)
        cases call with
        | adjusting wait => exact begun_afterAdjust.trans (Store.begun_resumeAdjust ..)
        | provisioning wait =>
            exact begun_afterProvision.trans (Store.Retains.resumeProvision ..).begun
  | drop tx => exact le_rfl
  | inject point => exact le_rfl
  | advance millis => exact le_rfl
  | ring => exact le_rfl

namespace Recalls

/-- Others act. -/
lemma later (hr : v.Recalls tx h) (hs : v.IsSound) (hl : Store.Later tx v.store v'.store)
    (hbegun : v.store.begun ≤ v'.store.begun)
    (hwaiting : v'.waiting.get? tx = v.waiting.get? tx) : v'.Recalls tx h where
  begun hne := (hr.begun hne).trans_le hbegun
  store hopen := by
    obtain ⟨t, ht⟩ := hopen
    exact (hr.store ⟨t, hl.content ▸ ht⟩).later hs.orderly.disciplined hl
  waits hw := by
    obtain ⟨hmodest, hid⟩ := hr.waits (hwaiting ▸ hw)
    exact ⟨hmodest, hl.walletId? hid⟩

/-- The transaction does what does not adjust. -/
lemma retains (hr : v.Recalls tx h) (hopen : v.store.IsOpen tx)
    (hk : Store.Retains tx v.store v'.store)
    (hwaiting : ∀ wait, v'.waiting.get? tx ≠ some (.adjusting wait)) : v'.Recalls tx h where
  begun hne := hk.begun ▸ hr.begun hne
  store _ := (hr.store hopen).retains hk
  waits hw := absurd hw (hwaiting _)

/-- A provisioning of the transaction has a turn. -/
lemma afterProvision (hr : v.Recalls tx h) (hopen : v.store.IsOpen tx)
    {turn : Turn ProvisionWait (Except LedgerError Unit)}
    (hk : Store.Retains tx v.store store) : (v.afterProvision tx (store, turn)).Recalls tx h := by
  cases turn with
  | waiting wait =>
      refine hr.retains hopen hk fun wait' hw => ?_
      have hwait : some (RowCall.provisioning wait) = some (.adjusting wait') :=
        ((Table.get?_insert ..).trans (if_pos rfl)).symm.trans hw
      cases hwait
  | done result =>
      refine hr.retains hopen hk fun wait' hw => ?_
      have hwait : none = some (RowCall.adjusting wait') :=
        ((Table.get?_erase ..).trans (if_pos rfl)).symm.trans hw
      cases hwait

/-- The transaction has ended. -/
lemma ended (hr : v.Recalls tx h) (hended : ¬ v'.store.IsOpen tx)
    (hbegun : v'.store.begun = v.store.begun)
    (hwaiting : ∀ wait, v'.waiting.get? tx ≠ some (.adjusting wait)) : v'.Recalls tx h where
  begun hne := hbegun ▸ hr.begun hne
  store hopen := absurd hopen hended
  waits hw := absurd hw (hwaiting _)

/-- An adjustment of the transaction has a turn. -/
lemma afterAdjust (hr : v.Recalls tx h) (hs : v.IsSound) (hopen : v.store.IsOpen tx)
    (htx : a.tx = tx) (hmodest : a.IsModest) (hturn : Store.AdjustTurn v.store a store turn) :
    (v.afterAdjust tx (store, turn)).Recalls tx (h ++ Shown.ofTurn a turn) := by
  have hlocks : ∀ locks, Store.Retains tx v.store { v.store with locks } :=
    fun _ => .of_eq rfl rfl rfl
  have hfree : ∀ wait, (v.waiting.erase tx).get? tx ≠ some (.adjusting wait) := by
    intro wait
    rw [Table.get?_erase, if_pos rfl]
    simp
  cases hturn with
  | missing locks hnone =>
      simp only [Shown.ofTurn, List.append_nil]
      exact hr.retains hopen (hlocks locks) hfree
  | @waits w locks heq hwallet =>
      -- nothing is shown, but what is waited for has to be remembered as modest
      simp only [Shown.ofTurn, List.append_nil]
      refine ⟨hr.begun, fun _ => (hr.store hopen).retains (hlocks locks), fun {wait} hw => ?_⟩
      have hwait : some (RowCall.adjusting w) = some (.adjusting wait) :=
        ((Table.get?_insert ..).trans (if_pos rfl)).symm.trans hw
      cases hwait
      rw [heq]
      exact ⟨hmodest, htx ▸ hwallet⟩
  | timedOut locks =>
      simp only [Shown.ofTurn, List.append_nil]
      exact hr.retains hopen (hlocks locks) hfree
  | @held locks wallet _ _ hheld hwallet hadjusts =>
      cases hadjusts with
      | short =>
          simp only [Shown.ofTurn, List.append_nil]
          exact hr.retains hopen (hlocks locks) hfree
      | tooLarge =>
          simp only [Shown.ofTurn, List.append_nil]
          exact hr.retains hopen (hlocks locks) hfree
      | applied hsees hnot hnext htotal hshown =>
          -- the only turn after which there is more to recall
          subst htx
          refine ⟨fun _ => hs.orderly.disciplined.serial_lt hopen, fun _ => ?_,
            fun hw => absurd hw (hfree _)⟩
          exact ((hr.store hopen).retains (hlocks locks)).applied hmodest hwallet hsees hnot hnext
            htotal hshown
      | overflow hbegun =>
          -- a change that cannot be written down ends the transaction
          simp only [Shown.ofTurn, List.append_nil]
          refine hr.ended (fun hopen => ?_) hbegun hfree
          exact (Store.isOpen_discard.mp hopen).1 rfl

/-- A transaction begins. -/
lemma begin (hr : v.Recalls tx h) (hs : v.IsSound) : (v.step .begin).Recalls tx h := by
  have hsteps : Store.Steps ⟨v.store.begun⟩ v.store v.store.begin.1 := hs.orderly.begin
  rcases eq_or_ne tx ⟨v.store.begun⟩ with rfl | hne
  · -- the transaction has not been shown anything yet
    have hnil : h = [] := by
      by_contra hne
      exact absurd (hr.begun hne) (lt_irrefl _)
    have hclosed : ¬ v.store.IsOpen ⟨v.store.begun⟩ := hs.orderly.disciplined.not_isOpen_begun
    have hwaiting : ∀ wait, v.waiting.get? ⟨v.store.begun⟩ ≠ some (.adjusting wait) :=
      fun wait hw => hclosed (hs.waits hw).1
    subst hnil
    refine ⟨fun hne => absurd rfl hne, fun _ => Store.recalls_fresh ?_,
      fun hw => absurd hw (hwaiting _)⟩
    show v.store.begin.1.transaction _ = _
    rw [Store.begin]
    split
    · next hfault =>
      obtain ⟨-, rfl⟩ := Store.takeFault?_eq_some hfault
      exact Store.transaction_of_not_isOpen hclosed
    · exact Store.get_transaction_setTransaction.trans (if_pos rfl)
  · exact hr.later hs (hsteps.leaves.later hne.symm) (begun_le_step v .begin) rfl

/-- Another transaction is called. -/
lemma serve_of_ne (hr : v.Recalls tx h) (hs : v.IsSound) (hfree : v.isFree other)
    (hne : other ≠ tx) (call : TxCall)
    (hbegun : v.store.begun ≤ (v.serve other call).store.begun) :
    (v.serve other call).Recalls tx h := by
  obtain ⟨⟨t, ht⟩, hfree⟩ := isOpen_of_isFree hfree
  have hacted : v.Acts (v.serve other call) other → (v.serve other call).Recalls tx h :=
    fun hacts => hr.later hs (hacts.steps.leaves.later hne) hbegun (hacts.others hne)
  -- a commit is not an act of its transaction: it also writes to the books
  by_cases hcommit : call = .commit
  · subst hcommit
    rcases hs.commit_cases ht hfree with hacts | ⟨wallets, isDone, hcommits⟩
    · exact hacted hacts
    · have hleaves : Store.Leaves other v.store (v.serve other .commit).store := by
        rw [hcommits.store]
        exact .closed hs.orderly.disciplined hcommits.content hcommits.writes _ _
      exact hr.later hs (hleaves.later hne) hbegun (by rw [hcommits.waiting])
  · exact hacted (hs.acts_serve ht hfree hcommit)

/-- The transaction is called for anything but an adjustment. -/
lemma serve_self (hr : v.Recalls tx h) (hfree : v.isFree tx) {call : TxCall}
    (hnot : ∀ key amount direction, call ≠ .adjust key amount direction) :
    (v.serve tx call).Recalls tx h := by
  obtain ⟨hopen, hfree⟩ := isOpen_of_isFree hfree
  have hwaiting : ∀ wait, v.waiting.get? tx ≠ some (.adjusting wait) := by simp [hfree]
  have hclosed : ∀ s : Store, ¬ (s.discard tx).IsOpen tx :=
    fun s hopen => (Store.isOpen_discard.mp hopen).1 rfl
  cases call with
  | adjust key amount direction => exact absurd rfl (hnot key amount direction)
  | provision account =>
      exact hr.afterProvision hopen (Store.Retains.provision v.store v.clock tx account)
  | append record => exact hr.retains hopen (.append ..) hwaiting
  | enqueue event => exact hr.retains hopen (.enqueue ..) hwaiting
  | commit =>
      -- with or without a fault, the transaction is discarded
      refine hr.ended (fun hopen => ?_) (begun_commit ..) hwaiting
      have hended : (v.store.commit tx).1.IsOpen tx := hopen
      rw [Store.commit] at hended
      split at hended
      · exact hclosed _ hended
      · dsimp only at hended
        split at hended
        · exact hclosed v.store hended
        · exact hclosed v.store hended
  | rollback =>
      refine hr.ended (fun hopen => ?_) (begun_rollback ..) hwaiting
      have hended : (v.store.rollback tx).1.IsOpen tx := hopen
      rw [Store.rollback] at hended
      split at hended
      · exact hclosed _ hended
      · exact hclosed _ hended

end Recalls

/-- The adjustment of an event acts for the transaction that is called, which is open. -/
lemma IsSound.turn?_cases (hs : v.IsSound) (hturn : v.turn? event = some (a, store, turn)) :
    v.store.IsOpen a.tx ∧ v.step event = v.afterAdjust a.tx (store, turn) ∧
      (event = .call a.tx (.adjust a.key a.amount a.direction) ∧
          (store, turn) = v.store.adjust v.clock a ∨
        event = .resume a.tx ∧ ∃ wait, v.waiting.get? a.tx = some (.adjusting wait) ∧
          wait.adjustment = a ∧ (store, turn) = v.store.resumeAdjust v.clock wait) := by
  rw [turn?.eq_def] at hturn
  split at hturn
  · next tx key amount direction =>
    split at hturn
    · next hfree =>
      obtain ⟨rfl, hresult⟩ := Prod.mk.inj (Option.some.inj hturn)
      refine ⟨(isOpen_of_isFree hfree).1, ?_, .inl ⟨rfl, hresult.symm⟩⟩
      rw [Vault.step, if_pos hfree, serve, hresult]
    · cases hturn
  · next tx =>
    split at hturn
    · next wait hw =>
      obtain ⟨rfl, hresult⟩ := Prod.mk.inj (Option.some.inj hturn)
      obtain ⟨hopen, hfits⟩ := hs.waits hw
      obtain rfl : wait.adjustment.tx = tx := hfits
      refine ⟨hopen, ?_, .inr ⟨rfl, wait, hw, rfl, hresult.symm⟩⟩
      rw [Vault.step, hw]
      show v.goOn _ (.adjusting wait) = _
      rw [goOn, hresult]
    · cases hturn
  · cases hturn

/-- The turn of an adjustment is all that a turn can be. -/
lemma Recalls.adjustTurn (hr : v.Recalls tx h) (hs : v.IsSound)
    (hturn : v.turn? event = some (a, store, turn)) (htx : a.tx = tx) :
    Store.AdjustTurn v.store a store turn := by
  obtain ⟨-, -, ⟨-, hresult⟩ | ⟨-, wait, hw, rfl, hresult⟩⟩ := hs.turn?_cases hturn
  · obtain ⟨rfl, rfl⟩ := Prod.mk.inj hresult
    exact Store.adjustTurn_adjust v.store v.clock a
  · obtain ⟨rfl, rfl⟩ := Prod.mk.inj hresult
    subst htx
    exact Store.adjustTurn_resumeAdjust v.clock (hr.waits hw).2

/-- An adjustment that has a turn is asked for now, or has been modest when it began to wait. -/
lemma Recalls.isModest (hr : v.Recalls tx h) (hs : v.IsSound)
    (hmodest : ∀ a ∈ event.adjustment?, a.tx = tx → a.IsModest)
    (hturn : v.turn? event = some (a, store, turn)) (htx : a.tx = tx) : a.IsModest := by
  obtain ⟨-, -, ⟨rfl, -⟩ | ⟨-, wait, hw, rfl, -⟩⟩ := hs.turn?_cases hturn
  · exact hmodest a rfl htx
  · subst htx
    exact (hr.waits hw).1

/-- Every event keeps the invariant, if what the transaction itself asks for is modest. -/
theorem Recalls.step (hr : v.Recalls tx h) (hs : v.IsSound)
    (hmodest : ∀ a ∈ event.adjustment?, a.tx = tx → a.IsModest) :
    (v.step event).Recalls tx (h ++ v.shows tx event) := by
  have hbegun := begun_le_step v event
  -- only the turn of an adjustment can show something, and only one of the transaction itself
  cases hturn : v.turn? event with
  | some result =>
      obtain ⟨a, store, turn⟩ := result
      obtain ⟨hopen, hstep, hevent⟩ := hs.turn?_cases hturn
      by_cases htx : a.tx = tx
      · have hasked := hr.isModest hs hmodest hturn htx
        rw [hstep, shows_of_turn? hturn, if_pos htx]
        subst htx
        exact hr.afterAdjust hs hopen rfl hasked (hr.adjustTurn hs hturn rfl)
      · rw [shows_of_turn? hturn, if_neg htx, List.append_nil]
        -- the adjustment of another transaction, which may start or go on
        rcases hevent with ⟨rfl, -⟩ | ⟨rfl, wait, hw, -, -⟩
        · rw [turn?] at hturn
          split at hturn
          · next hfree =>
            rw [Vault.step, if_pos hfree] at hbegun ⊢
            exact hr.serve_of_ne hs hfree htx _ hbegun
          · cases hturn
        · have hacts : v.Acts (v.step (.resume a.tx)) a.tx := by
            rw [Vault.step, hw]
            exact hs.acts_goOn hw
          exact hr.later hs (hacts.steps.leaves.later htx) hbegun (hacts.others htx)
  | none =>
      -- nothing is shown; it is left to see that what is recalled lasts
      rw [shows, hturn, List.append_nil]
      cases event with
      | begin => exact hr.begin hs
      | call other call =>
          rw [Vault.step] at hbegun ⊢
          split
          · next hfree =>
            rw [if_pos hfree] at hbegun
            by_cases htx : other = tx
            · -- a call for an adjustment would have had a turn
              subst htx
              refine hr.serve_self hfree fun key amount direction heq => ?_
              subst heq
              rw [turn?, if_pos hfree] at hturn
              cases hturn
            · exact hr.serve_of_ne hs hfree htx call hbegun
          · exact hr
      | resume other =>
          cases hw : v.waiting.get? other with
          | none =>
              rw [Vault.step, hw]
              exact hr
          | some call =>
              have hacts : v.Acts (v.step (.resume other)) other := by
                rw [Vault.step, hw]
                exact hs.acts_goOn hw
              by_cases htx : other = tx
              · subst htx
                obtain ⟨hopen, hfits⟩ := hs.waits hw
                -- so would an adjustment that waits
                cases call with
                | adjusting wait =>
                    rw [turn?, hw] at hturn
                    cases hturn
                | provisioning wait =>
                    obtain ⟨rfl, -⟩ : wait.tx = other ∧ wait.IsFirst := hfits
                    have hk := Store.Retains.resumeProvision v.store v.clock wait
                    rw [Vault.step, hw]
                    exact hr.afterProvision hopen hk
              · exact hr.later hs (hacts.steps.leaves.later htx) hbegun (hacts.others htx)
      | drop other =>
          by_cases htx : other = tx
          · subst htx
            refine hr.ended (fun hopen => (Store.isOpen_discard.mp hopen).1 rfl) rfl
              fun wait hw => ?_
            have hwait : none = some (RowCall.adjusting wait) :=
              ((Table.get?_erase ..).trans (if_pos rfl)).symm.trans hw
            cases hwait
          · have hacts : v.Acts (v.drop other) other := IsSound.acts_drop (.refl hs.orderly)
            exact hr.later hs (hacts.steps.leaves.later htx) hbegun (hacts.others htx)
      | inject point => exact hr.later hs (.of_eq rfl rfl rfl) hbegun rfl
      | advance millis => exact hr.later hs (.of_eq rfl rfl rfl) hbegun rfl
      | ring => exact hr.later hs (.of_eq rfl rfl rfl) hbegun rfl

/-- Every run keeps the invariant. -/
theorem Recalls.run (hr : v.Recalls tx h) (hs : v.IsSound)
    (hmodest : ∀ event ∈ events, ∀ a ∈ event.adjustment?, a.tx = tx → a.IsModest) :
    (v.run events).Recalls tx (h ++ v.shown tx events) := by
  -- on the events, for whatever has been shown before
  induction events generalizing v h with
  | nil =>
      rw [shown, List.append_nil]
      exact hr
  | cons event events ih =>
      obtain ⟨hfirst, hrest⟩ := List.forall_mem_cons.mp hmodest
      rw [shown, ← List.append_assoc]
      exact ih (hr.step hs hfirst) (hs.step event) hrest

/-! ### What is remembered -/

namespace Recalls

/-- A snapshot shows what the transaction recalls with the adjustment that is made. -/
lemma shows (hr : v.Recalls tx h) (hs : v.IsSound)
    (hmodest : ∀ a ∈ event.adjustment?, a.tx = tx → a.IsModest) {snapshot : WalletSnapshot}
    (hanswer : v.answer? event = some (a, .ok (.applied snapshot))) (htx : a.tx = tx) :
    snapshot.balances.get? a.key.currency = some snapshot.balance ∧
      (∃ total, Shown.pending? (h ++ v.shows tx event) a.key = some total ∧
        Arithmetic.sum? (v.store.base a.key) total = some snapshot.balance) ∧
      ((v.store.base a.key).IsFineBalance → snapshot.balance.toRat
        = (v.store.base a.key).toRat + Shown.net (h ++ v.shows tx event) a.key) := by
  obtain ⟨store, hturn⟩ := turn?_of_answer? hanswer
  have hasked := hr.isModest hs hmodest hturn htx
  obtain ⟨hopen, -, -⟩ := hs.turn?_cases hturn
  have hadjust := hr.adjustTurn hs hturn htx
  rw [shows_of_turn? hturn, if_pos htx]
  subst htx
  cases hadjust with
  | @held locks wallet _ _ hheld hwallet hadjusts =>
      cases hadjusts with
      | @applied current next total balances hsees hnot hnext htotal hshown =>
          have hlocks : Store.Retains a.tx v.store { v.store with locks } := .of_eq rfl rfl rfl
          have hnew := ((hr.store hopen).retains hlocks).applied hasked hwallet hsees hnot hnext
            htotal hshown
          have hlast : Shown.last? (h ++ [⟨a, ⟨a.key.account, wallet, a.key.currency, balances⟩⟩])
              a.key = some _ :=
            Shown.last?_concat.trans (if_pos rfl)
          -- the balance of the snapshot is read from the row that has just been written
          refine ⟨?_, hnew.seen hlast, fun hfine => ?_⟩
          · have hrow := Store.visibleBalance?_of_visibleBalances? hshown a.key.currency
            rw [Store.visibleBalance?, Store.get_transaction_setTransaction, if_pos rfl,
              Table.get?_insert, if_pos rfl, Option.map_eq_some_iff] at hrow
            obtain ⟨balance, -, hbalance⟩ := hrow
            rw [WalletSnapshot.balance, ← hbalance, Option.getD_some]
          · have hcurrent := hnew.toRat_current hfine
            rw [hlast, Option.getD_some] at hcurrent
            exact hcurrent

/-- A call that is refused changes nothing but locks. -/
lemma spares (hr : v.Recalls tx h) (hs : v.IsSound)
    (hanswer : v.answer? event = some (a, outcome)) (htx : a.tx = tx)
    (hrefused : outcome = .ok .insufficientFunds ∨ ∃ e, outcome = .error (.refused e)) :
    (∃ locks, (v.step event).store = { v.store with locks }) ∧ v.shows tx event = [] := by
  obtain ⟨store, hturn⟩ := turn?_of_answer? hanswer
  obtain ⟨-, hstep, -⟩ := hs.turn?_cases hturn
  have hadjust := hr.adjustTurn hs hturn htx
  rw [hstep, shows_of_turn? hturn, if_pos htx]
  -- of the turns that end in a refusal none has come to a change
  have hstore : (∃ locks, store = { v.store with locks }) ∧
      Shown.ofTurn a (.done outcome) = [] := by
    cases hadjust with
    | missing locks => exact ⟨⟨locks, rfl⟩, rfl⟩
    | timedOut locks => exact ⟨⟨locks, rfl⟩, rfl⟩
    | @held locks _ _ _ hheld hwallet hadjusts =>
        cases hadjusts with
        | short => exact ⟨⟨locks, rfl⟩, rfl⟩
        | tooLarge => exact ⟨⟨locks, rfl⟩, rfl⟩
        | applied => simp at hrefused
        | overflow => simp at hrefused
  have hkept : (v.afterAdjust a.tx (store, .done outcome)).store = store := by
    rcases hrefused with rfl | ⟨e, rfl⟩ <;> rfl
  rw [hkept]
  exact hstore

end Recalls

end Vault

end Teller
