/-
In which order rows are read after a run of transactions that are used side by side.

* `OldestFirst`: times that never go back;
* `Vault.IsStamped`: every row is handed in with the time at which that happens;
* `Vault.Overtakes`: a transaction commits a row while another one holds back an older row, which it
  commits later;
* `Vault.step_cases_register`: what one event does to the rows that are kept and to those that are
  held back; `Vault.IsTimely`: the invariant of stamped runs (`IsTimely.after`);
* `Vault.oldestFirst_rows_iff`: rows are kept oldest first if and only if none is overtaken;
* `Vault.readsByAge_run`: so it is with what is read;
* `Vault.not_oldestFirst_overtaken`: rows that are overtaken are read in the order of the commits.
-/
import Teller.Proofs.Store.Register
import Teller.Proofs.Text.Calendar
import Teller.Proofs.Vault.Provisioning

namespace Teller

/-- The times never go back. -/
def OldestFirst (times : List Timestamp) : Prop := times.Pairwise (· ≤ ·)

instance (times : List Timestamp) : Decidable (OldestFirst times) :=
  inferInstanceAs (Decidable (times.Pairwise (· ≤ ·)))

namespace Vault

variable {v : Vault} {events : List Event} {event : Event} {tx other : TxId} {r : Register}
  {m n : ℕ} {a b : Timestamp}

/-! ### Stamps -/

/-- The time with which a row is stamped now. -/
def stamp (v : Vault) : Timestamp := .ofEpochMillis v.clock.now

/-- The time of the row that is handed in, if one is. -/
def Event.time? : Event → Option Timestamp
  | .call _ (.append record) => some record.createdAt
  | .call _ (.enqueue event) => some event.createdAt
  | _ => none

/-- What is handed in is no row, or one that is stamped now. -/
def Event.IsStamped (v : Vault) (event : Event) : Prop := ∀ time ∈ event.time?, time = v.stamp

instance (v : Vault) (event : Event) : Decidable (event.IsStamped v) :=
  inferInstanceAs (Decidable (∀ time ∈ event.time?, time = v.stamp))

/-- Every row is stamped when it is handed in. -/
def IsStamped (v : Vault) : List Event → Prop
  | [] => True
  | event :: events => event.IsStamped v ∧ (v.step event).IsStamped events

instance decidableIsStamped (v : Vault) : (events : List Event) → Decidable (v.IsStamped events)
  | [] => isTrue trivial
  | event :: events =>
    have := decidableIsStamped (v.step event) events
    inferInstanceAs (Decidable (event.IsStamped v ∧ (v.step event).IsStamped events))

lemma clock_afterAdjust (v : Vault) (tx : TxId)
    (result : Store × Turn AdjustWait (Except Failure AdjustOutcome)) :
    (v.afterAdjust tx result).clock = v.clock := by
  rw [afterAdjust.eq_def]
  split <;> rfl

lemma clock_afterProvision (v : Vault) (tx : TxId)
    (result : Store × Turn ProvisionWait (Except LedgerError Unit)) :
    (v.afterProvision tx result).clock = v.clock := by
  rw [afterProvision.eq_def]
  split <;> rfl

/-- No call takes time. -/
lemma clock_serve (v : Vault) (tx : TxId) (call : TxCall) : (v.serve tx call).clock = v.clock := by
  cases call with
  | adjust key amount direction => exact clock_afterAdjust ..
  | provision account => exact clock_afterProvision ..
  | _ => rfl

lemma clock_goOn (v : Vault) (tx : TxId) (call : RowCall) : (v.goOn tx call).clock = v.clock := by
  cases call with
  | adjusting wait => exact clock_afterAdjust ..
  | provisioning wait => exact clock_afterProvision ..

/-- Time goes on, or stands still. -/
lemma stamp_le_step (v : Vault) (event : Event) : v.stamp ≤ (v.step event).stamp := by
  refine Timestamp.ofEpochMillis_mono ?_
  cases event with
  | advance millis => exact Nat.le_add_right _ _
  | call tx call =>
      rw [step]
      split
      · rw [clock_serve]
      · exact le_rfl
  | resume tx =>
      rw [step]
      split
      · exact le_rfl
      · rw [clock_goOn]
  | _ => exact le_rfl

/-! ### What one event does to rows -/

/-- The event is a commit of the transaction that makes all its changes. -/
def Event.Commits (v : Vault) (tx : TxId) (event : Event) : Prop :=
  event = .call tx .commit ∧ v.isFree tx = true ∧ (v.store.commit tx).2.isOk = true

lemma spares_afterAdjust (tx : TxId)
    {result : Store × Turn AdjustWait (Except Failure AdjustOutcome)}
    (h : r.Spares v.store result.1) : r.Spares v.store (v.afterAdjust tx result).store := by
  rw [afterAdjust.eq_def]
  split
  · exact h
  · exact h.trans (.discard _ tx)
  · exact h.trans (.discard _ tx)
  · exact h

lemma spares_afterProvision (tx : TxId)
    {result : Store × Turn ProvisionWait (Except LedgerError Unit)}
    (h : r.Spares v.store result.1) : r.Spares v.store (v.afterProvision tx result).store := by
  rw [afterProvision.eq_def]
  split <;> exact h

lemma spares_goOn (v : Vault) (tx : TxId) (call : RowCall) :
    r.Spares v.store (v.goOn tx call).store := by
  cases call with
  | adjusting wait =>
      exact spares_afterAdjust tx (.resumeAdjust v.store v.clock wait)
  | provisioning wait =>
      exact spares_afterProvision tx (r.isFrame.resumeProvision v.store v.clock wait)

/-- A call hands in a row that is stamped now, or none, unless it is a commit that makes all its
changes. -/
lemma grows_serve {call : TxCall} (h : (Event.call tx call).IsStamped v)
    (hcommit : call = .commit → (v.store.commit tx).2.isOk ≠ true) :
    r.Grows v.stamp v.store (v.serve tx call).store := by
  cases call with
  | adjust key amount direction =>
      have hspares : r.Spares v.store (v.serve tx (.adjust key amount direction)).store :=
        spares_afterAdjust tx (.adjust v.store v.clock _)
      exact hspares.grows v.stamp
  | provision account =>
      have hspares := spares_afterProvision tx (r.isFrame.provision v.store v.clock tx account)
      exact hspares.grows v.stamp
  | append record =>
      have hstamp : record.createdAt = v.stamp := h _ rfl
      exact hstamp ▸ Register.Grows.append v.store tx record
  | enqueue event =>
      have hstamp : event.createdAt = v.stamp := h _ rfl
      exact hstamp ▸ Register.Grows.enqueue v.store tx event
  | commit => exact (Register.spares_commit (hcommit rfl)).grows v.stamp
  | rollback => exact (r.isFrame.rollback v.store tx).grows v.stamp

lemma keeps_step (h : event.Commits v tx) : r.Keeps tx v.store (v.step event).store := by
  obtain ⟨rfl, hfree, hok⟩ := h
  rw [step, if_pos hfree]
  exact Register.keeps_commit hok

/-- Every event may hand in a row that is stamped now, or is a commit. -/
theorem step_cases_register (r : Register) (h : event.IsStamped v) :
    r.Grows v.stamp v.store (v.step event).store ∨
      ∃ tx, event.Commits v tx ∧ r.Keeps tx v.store (v.step event).store := by
  have hrests : r.Grows v.stamp v.store v.store := (r.isFrame.refl v.store).grows v.stamp
  cases event with
  | begin => exact .inl ((r.isFrame.begin v.store).grows v.stamp)
  | call tx call =>
      by_cases hcommits : (Event.call tx call).Commits v tx
      · exact .inr ⟨tx, hcommits, keeps_step hcommits⟩
      · rw [step]
        split
        · next hfree =>
          refine .inl (grows_serve h ?_)
          rintro rfl hok
          exact hcommits ⟨rfl, hfree, hok⟩
        · exact .inl hrests
  | resume tx =>
      rw [step]
      split
      · exact .inl hrests
      · next call _ => exact .inl ((spares_goOn v tx call).grows v.stamp)
  | drop tx => exact .inl ((Register.Spares.discard v.store tx).grows v.stamp)
  | inject point =>
      have hinject : r.Spares v.store (v.store.inject point) := .of_eq rfl rfl rfl
      exact .inl (hinject.grows v.stamp)
  | advance millis => exact .inl hrests
  | ring => exact .inl hrests

/-! ### Moments of a run -/

/-- The vault after the first events. -/
def after (v : Vault) (events : List Event) (n : ℕ) : Vault := v.run (events.take n)

/-- The times of the rows that a transaction holds back after the first events. -/
def heldAt (v : Vault) (events : List Event) (n : ℕ) (r : Register) (tx : TxId) : List Timestamp :=
  r.held ((v.after events n).store.transaction tx)

/-- The times of the rows that are kept after the first events. -/
def rowsAt (v : Vault) (events : List Event) (n : ℕ) (r : Register) : List Timestamp :=
  r.rows (v.after events n).store

/-- The next event is a commit of the transaction that makes all its changes. -/
def CommitsAt (v : Vault) (events : List Event) (n : ℕ) (tx : TxId) : Prop :=
  ∃ event, events[n]? = some event ∧ event.Commits (v.after events n) tx

lemma IsStamped.after (h : v.IsStamped events) (hevent : events[n]? = some event) :
    event.IsStamped (v.after events n) := by
  induction events generalizing v n with
  | nil => simp at hevent
  | cons first events ih =>
      cases n with
      | zero =>
          obtain rfl := Option.some.inj hevent
          exact h.1
      | succ n => exact ih h.2 hevent

/-- From one moment to the next. -/
lemma IsStamped.after_cases (h : v.IsStamped events) (n : ℕ) (r : Register) :
    r.Grows (v.after events n).stamp (v.after events n).store (v.after events (n + 1)).store ∨
      ∃ tx, v.CommitsAt events n tx ∧
        r.Keeps tx (v.after events n).store (v.after events (n + 1)).store := by
  cases hevent : events[n]? with
  | none =>
      rw [Vault.after, Vault.after, run_take_succ_of_none hevent]
      exact .inl ((r.isFrame.refl _).grows _)
  | some event =>
      have hstep : v.after events (n + 1) = (v.after events n).step event := run_take_succ hevent
      rw [hstep]
      rcases step_cases_register r (h.after hevent) with hgrows | ⟨tx, hcommits, hkeeps⟩
      · exact .inl hgrows
      · exact .inr ⟨tx, ⟨event, hevent, hcommits⟩, hkeeps⟩

lemma CommitsAt.keeps (h : v.CommitsAt events n tx) :
    r.Keeps tx (v.after events n).store (v.after events (n + 1)).store := by
  obtain ⟨event, hevent, hcommits⟩ := h
  have hstep : v.after events (n + 1) = (v.after events n).step event := run_take_succ hevent
  rw [hstep]
  exact keeps_step hcommits

lemma CommitsAt.lt (h : v.CommitsAt events n tx) : n < events.length := by
  obtain ⟨event, hevent, -⟩ := h
  exact (List.getElem?_eq_some_iff.mp hevent).1

/-- What a transaction holds back grows by rows that are stamped now, or is forgotten. -/
lemma IsStamped.heldAt_succ (h : v.IsStamped events) (n : ℕ) (r : Register) (tx : TxId) :
    v.heldAt events (n + 1) r tx = [] ∨ ∃ k,
      v.heldAt events (n + 1) r tx
        = v.heldAt events n r tx ++ List.replicate k (v.after events n).stamp := by
  rcases h.after_cases n r with hgrows | ⟨committed, -, hkeeps⟩
  · exact hgrows.held tx
  · rcases hkeeps.held tx with hsame | hnone
    · exact .inr ⟨0, hsame.trans (List.append_nil _).symm⟩
    · exact .inl hnone

lemma stamp_after_mono (v : Vault) (events : List Event) (hmn : m ≤ n) :
    (v.after events m).stamp ≤ (v.after events n).stamp :=
  Trace.rel_foldl_take (I := fun _ => True) (fun v v' : Vault => v.stamp ≤ v'.stamp)
    (fun _ _ _ => trivial) (fun _ => List.le_refl _) Timestamp.le_trans
    (fun v event _ => stamp_le_step v event) trivial hmn

/-- Rows that are kept stay, in their order. -/
lemma IsStamped.rowsAt_prefix (h : v.IsStamped events) (r : Register) (hmn : m ≤ n) :
    v.rowsAt events m r <+: v.rowsAt events n r := by
  induction n, hmn using Nat.le_induction with
  | base => exact List.prefix_refl _
  | succ n _ ih =>
      refine ih.trans ?_
      rcases h.after_cases n r with hgrows | ⟨tx, -, hkeeps⟩
      · rw [rowsAt, rowsAt, hgrows.rows]
      · rw [rowsAt, rowsAt, hkeeps.rows]
        exact List.prefix_append ..

/-! ### The invariant -/

/-- What transactions hold back is in order, and not younger than the present. -/
structure IsTimely (v : Vault) (r : Register) : Prop where
  ordered (tx : TxId) : OldestFirst (r.held (v.store.transaction tx))
  past {tx : TxId} {time : Timestamp} : time ∈ r.held (v.store.transaction tx) → time ≤ v.stamp

lemma isTimely_fresh (clock : Clock) (lockTimeout : Nat) (ids : IdSupply) (r : Register) :
    (fresh clock lockTimeout ids).IsTimely r := by
  have hnone : ∀ tx, r.held ((fresh clock lockTimeout ids).store.transaction tx) = [] :=
    fun tx => r.held_fresh
  constructor
  case ordered =>
    intro tx
    rw [hnone]
    exact List.Pairwise.nil
  case past =>
    intro tx time h
    rw [hnone] at h
    exact absurd h List.not_mem_nil

/-- Every moment of a stamped run is timely. -/
theorem IsTimely.after (hv : v.IsTimely r) (h : v.IsStamped events) (n : ℕ) :
    (v.after events n).IsTimely r := by
  induction n with
  | zero => exact hv
  | succ n ih =>
      have hmono := stamp_after_mono v events (Nat.le_succ n)
      -- what is held back after an event was so before, or is stamped with the instant before it
      have hheld : ∀ tx time, time ∈ v.heldAt events (n + 1) r tx →
          time ≤ (v.after events n).stamp := by
        intro tx time htime
        rcases h.heldAt_succ n r tx with hnone | ⟨k, hsame⟩
        · rw [hnone] at htime
          exact absurd htime List.not_mem_nil
        · rw [hsame, List.mem_append, List.mem_replicate] at htime
          rcases htime with hold | ⟨-, rfl⟩
          · exact ih.past hold
          · exact List.le_refl _
      constructor
      case ordered =>
        intro tx
        show OldestFirst (v.heldAt events (n + 1) r tx)
        rcases h.heldAt_succ n r tx with hnone | ⟨k, hsame⟩
        · rw [hnone]
          exact List.Pairwise.nil
        · rw [hsame, OldestFirst, List.pairwise_append]
          refine ⟨ih.ordered tx, List.pairwise_replicate.mpr (.inr (List.le_refl _)), ?_⟩
          intro old hold new hnew
          rw [List.eq_of_mem_replicate hnew]
          exact ih.past hold
      case past =>
        intro tx time htime
        exact Timestamp.le_trans (hheld tx time htime) hmono

/-- A row that is held back was held back before, or is not older than the moment. -/
lemma IsStamped.mem_heldAt (h : v.IsStamped events) (hmn : m ≤ n)
    (hb : b ∈ v.heldAt events n r tx) :
    b ∈ v.heldAt events m r tx ∨ (v.after events m).stamp ≤ b := by
  -- on the events since the first moment
  induction n, hmn using Nat.le_induction with
  | base => exact .inl hb
  | succ n hmn ih =>
      rcases h.heldAt_succ n r tx with hnone | ⟨k, hsame⟩
      · rw [hnone] at hb
        exact absurd hb List.not_mem_nil
      · rw [hsame, List.mem_append, List.mem_replicate] at hb
        rcases hb with hold | ⟨-, rfl⟩
        · exact ih hold
        · exact .inr (stamp_after_mono v events hmn)

/-- A row that is kept was there from the start, or a transaction that committed held it back. -/
lemma IsStamped.mem_rowsAt (h : v.IsStamped events) (ha : a ∈ v.rowsAt events n r) :
    a ∈ r.rows v.store ∨ ∃ m tx, m < n ∧ v.CommitsAt events m tx ∧ a ∈ v.heldAt events m r tx := by
  -- on the events: the last of them may be the commit in which the row was kept
  induction n with
  | zero => exact .inl ha
  | succ n ih =>
      have hbefore : a ∈ v.rowsAt events n r → a ∈ r.rows v.store ∨
          ∃ m tx, m < n + 1 ∧ v.CommitsAt events m tx ∧ a ∈ v.heldAt events m r tx := by
        intro hold
        refine (ih hold).imp_right ?_
        rintro ⟨m, tx, hm, hcommits⟩
        exact ⟨m, tx, hm.trans (Nat.lt_succ_self n), hcommits⟩
      rcases h.after_cases n r with hgrows | ⟨tx, hcommits, hkeeps⟩
      · rw [rowsAt, hgrows.rows] at ha
        exact hbefore ha
      · rw [rowsAt, hkeeps.rows, List.mem_append] at ha
        rcases ha with hold | hheld
        · exact hbefore hold
        · exact .inr ⟨n, tx, Nat.lt_succ_self n, hcommits, hheld⟩

/-! ### Rows that are overtaken -/

/-- A transaction commits a row while another one holds back an older row, which it commits
later. -/
structure Overtakes (v : Vault) (events : List Event) (r : Register) (m n : ℕ) (tx other : TxId) :
    Prop where
  lt : m < n
  commits : v.CommitsAt events m tx
  later : v.CommitsAt events n other
  older : ∃ young ∈ v.heldAt events m r tx, ∃ old ∈ v.heldAt events m r other,
    old ∈ v.heldAt events n r other ∧ ¬ young ≤ old

/-- Some row is overtaken. -/
def HasOvertaking (v : Vault) (events : List Event) (r : Register) : Prop :=
  ∃ m n tx other, v.Overtakes events r m n tx other

/-- Rows that are not overtaken are kept oldest first. -/
lemma IsStamped.oldestFirst_rowsAt (h : v.IsStamped events) (hv : v.IsTimely r)
    (hrows : r.rows v.store = []) (hnot : ¬ v.HasOvertaking events r) (n : ℕ) :
    OldestFirst (v.rowsAt events n r) := by
  induction n with
  | zero =>
      show OldestFirst (r.rows v.store)
      rw [hrows]
      exact List.Pairwise.nil
  | succ n ih =>
      rcases h.after_cases n r with hgrows | ⟨other, hlater, hkeeps⟩
      · rw [rowsAt, hgrows.rows]
        exact ih
      · rw [rowsAt, hkeeps.rows, OldestFirst, List.pairwise_append]
        -- the rows of a commit are in order among themselves; it is left to see that none that was
        -- kept before is younger than one of them
        refine ⟨ih, (hv.after h n).ordered other, fun young hyoung old hold => ?_⟩
        have hold : old ∈ v.heldAt events n r other := hold
        rcases h.mem_rowsAt hyoung with hstart | ⟨m, tx, hmn, hcommits, hyoung⟩
        · rw [hrows] at hstart
          exact absurd hstart List.not_mem_nil
        rcases h.mem_heldAt hmn.le hold with hwaits | hlate
        · -- it waited while the other was committed
          by_contra hlt
          exact hnot ⟨m, n, tx, other, hmn, hcommits, hlater, young, hyoung, old, hwaits, hold, hlt⟩
        · exact Timestamp.le_trans ((hv.after h m).past hyoung) hlate

/-- A row that is overtaken is kept behind one that is younger. -/
lemma IsStamped.not_hasOvertaking (h : v.IsStamped events)
    (hordered : OldestFirst (r.rows (v.run events).store)) : ¬ v.HasOvertaking events r := by
  rintro ⟨m, n, tx, other, hmn, hcommits, hlater, young, hyoung, old, -, hold, hlt⟩
  have hend : r.rows (v.run events).store = v.rowsAt events events.length r := by
    rw [rowsAt, Vault.after, List.take_length]
  have hkept : young ∈ v.rowsAt events n r := by
    refine (h.rowsAt_prefix r (Nat.succ_le_of_lt hmn)).subset ?_
    rw [rowsAt, hcommits.keeps.rows]
    exact List.mem_append_right _ hyoung
  have hpart : v.rowsAt events (n + 1) r <+: r.rows (v.run events).store :=
    hend ▸ h.rowsAt_prefix r (Nat.succ_le_of_lt hlater.lt)
  rw [rowsAt, hlater.keeps.rows] at hpart
  exact hlt ((List.pairwise_append.mp (hordered.sublist hpart.sublist)).2.2 young hkept old hold)

/-- Rows are kept oldest first if and only if none is overtaken. -/
theorem oldestFirst_rows_iff (clock : Clock) (lockTimeout : Nat) (ids : IdSupply)
    (h : (fresh clock lockTimeout ids).IsStamped events) (r : Register) :
    OldestFirst (r.rows ((fresh clock lockTimeout ids).run events).store) ↔
      ¬ (fresh clock lockTimeout ids).HasOvertaking events r := by
  refine ⟨h.not_hasOvertaking, fun hnot => ?_⟩
  have hrows : r.rows (fresh clock lockTimeout ids).store = [] := by cases r <;> rfl
  have hend := h.oldestFirst_rowsAt (isTimely_fresh clock lockTimeout ids r) hrows hnot
    events.length
  rwa [rowsAt, after, List.take_length] at hend

/-! ### What is read -/

/-- The journal of the wallets of an account. -/
def journalOf (v : Vault) (account : AccountId) : Register :=
  .journal ((v.store.walletsOf account).toList.map fun (_, wallet) => wallet.id)

/-- In which order rows are read after a run. -/
structure ReadsByAge (v : Vault) (events : List Event) : Prop where
  /-- Pending events are read oldest first if and only if none is overtaken, -/
  pending : (∀ limit, OldestFirst (((v.run events).store.pendingEvents limit).map (·.createdAt))) ↔
    ¬ v.HasOvertaking events .outbox
  /-- whichever of them have been marked as delivered by then, -/
  marked {s : Store} (hs : s.outbox.map (·.event) = (v.run events).store.outbox.map (·.event))
    (hnot : ¬ v.HasOvertaking events .outbox) (limit : ℕ) :
      OldestFirst ((s.pendingEvents limit).map (·.createdAt))
  /-- and so are the records of an account. -/
  records (account : AccountId) :
    OldestFirst (((v.run events).store.transactionRecords account).map (·.createdAt)) ↔
      ¬ v.HasOvertaking events ((v.run events).journalOf account)

/-- No row of the outbox is marked as delivered in a run. -/
lemma IsSound.outbox_run (hv : v.IsSound) (hnew : ∀ row ∈ v.store.outbox, row.published = false)
    (events : List Event) : ∀ row ∈ (v.run events).store.outbox, row.published = false := by
  induction events generalizing v with
  | nil => exact hnew
  | cons event events ih =>
      refine ih (hv.step event) fun row hrow => ?_
      obtain ⟨added, hadded⟩ := hv.exists_outbox_step event
      rw [hadded, List.mem_append, List.mem_map] at hrow
      rcases hrow with hold | ⟨event, -, rfl⟩
      · exact hnew row hold
      · rfl

lemma pendingEvents_sublist {s : Store} {kept : List OutboxEvent}
    (hs : s.outbox.map (·.event) = kept) (limit : ℕ) : (s.pendingEvents limit).Sublist kept := by
  rw [← hs]
  exact ((List.take_sublist ..).trans List.filter_sublist).map _

/-- **Rows are read oldest first, unless one is overtaken.** -/
theorem readsByAge_run (clock : Clock) (lockTimeout : Nat) (ids : IdSupply) (events : List Event)
    (h : (fresh clock lockTimeout ids).IsStamped events) :
    (fresh clock lockTimeout ids).ReadsByAge events := by
  have hrows := oldestFirst_rows_iff clock lockTimeout ids h
  have houtbox : Register.outbox.rows ((fresh clock lockTimeout ids).run events).store
      = (((fresh clock lockTimeout ids).run events).store.outbox.map (·.event)).map
        (·.createdAt) := by
    rw [List.map_map]
    rfl
  constructor
  case pending =>
    rw [← hrows .outbox, houtbox]
    refine ⟨fun hread => ?_, fun hkept limit => ?_⟩
    · have hall := (isSound_fresh clock lockTimeout ids).outbox_run (by simp [fresh, Store.empty])
        events
      have hpending := hread ((fresh clock lockTimeout ids).run events).store.outbox.length
      rwa [Store.pendingEvents, List.filter_eq_self.mpr fun row hrow => by simp [hall row hrow],
        List.take_length] at hpending
    · exact hkept.sublist ((pendingEvents_sublist rfl limit).map _)
  case marked =>
    intro s hs hnot limit
    have hkept := (hrows .outbox).mpr hnot
    rw [houtbox] at hkept
    exact hkept.sublist ((pendingEvents_sublist hs limit).map _)
  case records =>
    intro account
    exact hrows (((fresh clock lockTimeout ids).run events).journalOf account)

/-- The row of one transaction is younger than that of another one, and is committed before it. -/
def overtakingRun : List Event :=
  let record (id millis : ℕ) : TransactionRecord :=
    ⟨⟨.random id⟩, ⟨.timeOrdered 0 0⟩, .usd, Money.maxValue, .credit, .deposit, none,
      .ofEpochMillis millis⟩
  let event (id millis : ℕ) : OutboxEvent :=
    ⟨⟨.random id⟩, .deposit, ⟨.random 0⟩, "", .ofEpochMillis millis⟩
  [.begin, .call ⟨0⟩ (.provision ⟨.random 0⟩), .call ⟨0⟩ .commit,
    .begin, .call ⟨1⟩ (.append (record 1 0)), .call ⟨1⟩ (.enqueue (event 1 0)),
    .advance 10,
    .begin, .call ⟨2⟩ (.append (record 2 10)), .call ⟨2⟩ (.enqueue (event 2 10)),
    .call ⟨2⟩ .commit, .call ⟨1⟩ .commit]

/-- A stamped run in which rows of both kinds are overtaken. -/
theorem readsByAge_run_of_overtaking :
    (fresh (.atRest 0) Store.standardLockTimeout .fresh).ReadsByAge overtakingRun :=
  readsByAge_run _ _ _ _ (by decide +kernel)

/-- Rows that are overtaken are read in the order of the commits, the younger before the older. -/
theorem not_oldestFirst_overtaken :
    (fresh (.atRest 0) Store.standardLockTimeout .fresh).IsStamped overtakingRun ∧
      ¬ OldestFirst ((((fresh (.atRest 0) Store.standardLockTimeout .fresh).run
        overtakingRun).store.pendingEvents 10).map (·.createdAt)) ∧
      ¬ OldestFirst ((((fresh (.atRest 0) Store.standardLockTimeout .fresh).run
        overtakingRun).store.transactionRecords ⟨.random 0⟩).map (·.createdAt)) := by
  decide +kernel

end Vault

end Teller
