/-
Every event in a mailroom keeps the invariant.

* `IsSound.turns` and `IsSound.rests`: turns of couriers keep it, and so does everything else;
* `Mailroom.turns_afterBatch`, `Mailroom.turns_afterLoop`: what publishers do are such turns;
* `IsSound.step_cases`: every event is one or the other; `IsSound.run`.
-/
import Teller.Proofs.Mailroom.Basic

namespace Teller.Mailroom

variable {σ : Type} {m m' : Mailroom σ} {id other : Nat} {notes : List Handover} {note : Handover}
  {c c' : Courier σ}

/-! ### Every event keeps the invariant -/

/-- A courier that has a turn has not come to an end before. -/
lemma Turns.ne_of_ended (h : m.Turns m' id notes) (hlt : other < m.started)
    (hnone : m.couriers.get? other = none) : other ≠ id := by
  rintro rfl
  rcases h.live with ⟨c, hc⟩ | hle
  · exact absurd (hnone.symm.trans hc) (by simp)
  · exact absurd hlt (Nat.not_lt.mpr hle)

namespace IsSound

/-- The accounts of a courier that has a turn are in order before it. -/
lemma accounts (hm : m.IsSound) (h : m.Turns m' id notes) :
    Relay.Accounts m.store (m.notesOf id) (m.underWay id) := by
  rw [underWay]
  rcases h.live with ⟨c, hc⟩ | hle
  · rw [hc]
    exact (hm.courier hc).2
  · have hnone : m.couriers.get? id = none :=
      Option.eq_none_iff_forall_ne_some.mpr fun c hc =>
        absurd (hm.courier hc).1 (Nat.not_lt.mpr hle)
    rw [hm.notesOf_eq_nil hle, hnone]
    exact Relay.accounts_nil m.store

/-- The vault bears that rows are flagged. -/
lemma vault_of_turns (hm : m.IsSound) (h : m.Turns m' id notes) : m'.vault.IsSound := by
  obtain ⟨hordered, hwaits, houtbox, hrow, honce⟩ := hm.vault
  have hmarks := h.delivers.marks
  -- a courier touches nothing but the flags of rows
  have hstore : m'.vault.store = { m.store with outbox := m'.store.outbox } := hmarks.eq
  rw [h.vault]
  constructor
  case orderly =>
    exact hordered.of_eq (by rw [store, hstore]; rfl) (by rw [store, hstore]; rfl)
      (by rw [store, hstore]; rfl) (by rw [store, hstore]; rfl)
  case waits =>
    intro tx call hw
    rw [store, hstore]
    exact hwaits hw
  case events => exact hmarks.events.trans houtbox
  case hasRow =>
    intro commitment account hc hp
    rw [store, hstore]
    exact hrow hc hp
  case once => exact honce

/-- A turn of a courier keeps the invariant. -/
theorem turns (hm : m.IsSound) (h : m.Turns m' id notes) : m'.IsSound := by
  -- the accounts of this courier carry its own notes over the turn; for the others it is enough
  -- that flags and notes only come to be more
  have hbefore := hm.accounts h
  have hafter := h.delivers.accounts hbefore
  have hmarks := h.delivers.marks
  rw [← notesOf_of_log h.log] at hafter
  have hevents : m.store.outbox.map (·.event) ⊆ m'.store.outbox.map (·.event) :=
    hmarks.events ▸ List.Subset.refl _
  have hgrows : ∀ {other note}, note ∈ m.notesOf other → note ∈ m'.notesOf other := by
    intro other note hn
    rw [mem_notesOf, h.log]
    exact List.mem_append_left _ (mem_notesOf.mp hn)
  constructor
  case vault => exact hm.vault_of_turns h
  case courier =>
    intro other c hc
    by_cases hne : other = id
    · subst hne
      refine ⟨h.lt, ?_⟩
      rw [underWay, hc] at hafter
      exact hafter
    · rw [h.others hne] at hc
      obtain ⟨hlt, hacc⟩ := hm.courier hc
      rw [h.notesOf_of_ne hne]
      exact ⟨hlt.trans_le h.started, hacc.lasts hmarks.lasts hevents⟩
  case single =>
    intro other c b hc hsingle hb
    by_cases hne : other = id
    · subst hne
      exact h.single hc hsingle hb
    · rw [h.others hne] at hc
      rw [acceptedFor, h.notesOf_of_ne hne]
      exact hm.single hc hsingle hb
  case noted =>
    intro other note hn
    by_cases hne : other = id
    · subst hne
      exact ⟨h.lt, hafter.known hn⟩
    · rw [h.notesOf_of_ne hne] at hn
      exact ⟨(hm.noted hn).1.trans_le h.started, hevents (hm.noted hn).2⟩
  case flagged =>
    intro row hrow hp
    -- a row that is flagged now was so before, or its event has been accepted in this turn
    rcases h.delivers.flagged hbefore hrow hp with ⟨row₀, hrow₀, hevent, hp₀⟩ | ⟨event, he, heq⟩
    · obtain ⟨other, event, he, heq⟩ := hm.flagged hrow₀ hp₀
      exact ⟨other, event, hgrows he, heq.trans (congrArg _ hevent)⟩
    · rw [← notesOf_of_log h.log] at he
      exact ⟨id, event, he, heq⟩
  case finished =>
    intro f hf
    rcases h.finished hf with hold | ⟨rfl, hnone, hcount, hle⟩
    · obtain ⟨hlt, hnone, hcount, hle⟩ := hm.finished hold
      -- who has finished or stopped before has no turn any more
      have hne := h.ne_of_ended hlt hnone
      rw [h.others hne, acceptedFor, h.notesOf_of_ne hne]
      exact ⟨hlt.trans_le h.started, hnone, hcount, hle⟩
    · exact ⟨h.lt, hnone, hcount, hle⟩
  case stopped =>
    intro other hother
    rcases h.stopped hother with hold | ⟨rfl, hnone⟩
    · obtain ⟨hlt, hnone, hflagged⟩ := hm.stopped hold
      have hne := h.ne_of_ended hlt hnone
      rw [h.others hne, h.notesOf_of_ne hne]
      exact ⟨hlt.trans_le h.started, hnone,
        fun event he => hmarks.lasts.isFlagged (hflagged event he)⟩
    · refine ⟨h.lt, hnone, fun event he => ?_⟩
      -- a loop stops between two batches, so all that it has had accepted is settled
      rw [underWay, hnone] at hafter
      rcases hafter.settled he with hf | ⟨_, hb, -⟩
      · exact hf
      · exact absurd hb (by simp)

/-- Events in which no courier has a turn keep the invariant. -/
theorem rests (hm : m.IsSound) (h : m.Rests m') : m'.IsSound := by
  have hnotes : ∀ other, m'.notesOf other = m.notesOf other := fun other => by
    rw [notesOf, h.log, ← notesOf]
  -- numbers are not used again: who has left does not come back
  have hnone : ∀ {other}, other < m.started → m.couriers.get? other = none →
      m'.couriers.get? other = none := by
    intro other hlt hnone
    refine Option.eq_none_iff_forall_ne_some.mpr fun c' hc' => ?_
    rcases h.couriers hc' with ⟨c, hc, -⟩ | ⟨hle, -⟩
    · exact absurd (hnone.symm.trans hc) (by simp)
    · exact absurd hlt (Nat.not_lt.mpr hle)
  constructor
  case vault => exact h.vault
  case courier =>
    intro id c' hc'
    rw [hnotes]
    rcases h.couriers hc' with ⟨c, hc, halike⟩ | ⟨hle, hlt, hbatch, -⟩
    · obtain ⟨hlt, hacc⟩ := hm.courier hc
      rw [halike.batch]
      exact ⟨hlt.trans_le h.started, hacc.lasts h.lasts h.events⟩
    · rw [hm.notesOf_eq_nil hle, hbatch]
      exact ⟨hlt, Relay.accounts_nil _⟩
  case single =>
    intro id c' b hc' hsingle hb
    rw [acceptedFor, hnotes]
    rcases h.couriers hc' with ⟨c, hc, halike⟩ | ⟨-, -, hbatch, -⟩
    · rw [halike.batchSize]
      exact hm.single hc (halike.isSingle ▸ hsingle) (halike.batch ▸ hb)
    · exact absurd (hbatch.symm.trans hb) (by simp)
  case noted =>
    intro id note hn
    rw [hnotes] at hn
    exact ⟨(hm.noted hn).1.trans_le h.started, h.events (hm.noted hn).2⟩
  case flagged =>
    intro row hrow hp
    obtain ⟨id, event, he, heq⟩ := hm.flagged (h.flagged hrow hp) hp
    exact ⟨id, event, by rwa [hnotes], heq⟩
  case finished =>
    intro f hf
    obtain ⟨hlt, hgone, hcount, hle⟩ := hm.finished (h.finished ▸ hf)
    rw [acceptedFor, hnotes]
    exact ⟨hlt.trans_le h.started, hnone hlt hgone, hcount, hle⟩
  case stopped =>
    intro id hid
    obtain ⟨hlt, hgone, hflagged⟩ := hm.stopped (h.stopped ▸ hid)
    rw [hnotes]
    exact ⟨hlt.trans_le h.started, hnone hlt hgone,
      fun event he => h.lasts.isFlagged (hflagged event he)⟩

end IsSound

/-! ### What the functions of publishers do -/

/-- The mailroom with more numbers taken. -/
abbrev withStarted (m : Mailroom σ) (n : ℕ) : Mailroom σ := { m with started := n }

lemma get?_after_self {store : Store} {courier : Option (Courier σ)} :
    (m.after id store notes courier).couriers.get? id = courier := by
  cases courier with
  | some c => exact (Table.get?_insert ..).trans (if_pos rfl)
  | none => exact (Table.get?_erase ..).trans (if_pos rfl)

lemma get?_after_of_ne {store : Store} {courier : Option (Courier σ)} (hne : other ≠ id) :
    (m.after id store notes courier).couriers.get? other = m.couriers.get? other := by
  cases courier with
  | some c => exact (Table.get?_insert ..).trans (if_neg hne.symm)
  | none => exact (Table.get?_erase ..).trans (if_neg hne.symm)

/-- A courier that may have a turn now, when so many have started. -/
structure Mays (m : Mailroom σ) (id n : ℕ) : Prop where
  live : (∃ c, m.couriers.get? id = some c) ∨ m.started ≤ id
  le : m.started ≤ n
  lt : id < n

/-- A batch has room for what it has had accepted with these notes. -/
structure Counts (m : Mailroom σ) (id : ℕ) (notes : List Handover) (b : Batch) (size : ℕ) :
    Prop where
  accepted : b.accepted.length
    = (m.acceptedFor id).length + (notes.filterMap (·.accepted?)).length
  size : b.left.length + b.accepted.length ≤ size

variable {n size : ℕ} {b b' : Batch}

lemma Counts.goes (h : m.Counts id [] b size) (hgoes : b.Goes notes b') :
    m.Counts id notes b' size where
  accepted := by
    rw [hgoes.accepted_eq, List.length_append, List.length_map, h.accepted]
    rfl
  size := hgoes.length_le.trans h.size

/-- The mailroom after a turn. -/
lemma turns_after (courier : Option (Courier σ)) {store : Store} {finished : List Finish}
    {stopped : List Nat} (hmay : m.Mays id n)
    (hdelivers : Relay.Delivers m.store (m.underWay id) notes store (courier.bind (·.batch?)))
    (hsingle : ∀ c b, courier = some c → c.isSingle = true → c.batch? = some b →
      m.Counts id notes b c.publisher.batchSize)
    (hfinished : ∀ f ∈ finished, f ∈ m.finished ∨ courier = none ∧ ∃ b, b.left = [] ∧
      m.Counts id notes b f.size ∧ f = ⟨id, f.size, b.accepted.length⟩)
    (hstopped : ∀ other ∈ stopped, other ∈ m.stopped ∨ courier = none ∧ other = id) :
    m.Turns { (m.withStarted n).after id store notes courier with finished, stopped } id notes := by
  have hcourier : ((m.withStarted n).after id store notes courier).couriers.get? id = courier :=
    get?_after_self
  have hlog : ((m.withStarted n).after id store notes courier).log
      = m.log ++ notes.map fun note => (id, note) := rfl
  have haccepted := acceptedFor_of_log hlog
  constructor
  case live => exact hmay.live
  case delivers =>
    rw [underWay] at hdelivers ⊢
    rw [underWay, hcourier]
    exact hdelivers
  case vault => rfl
  case log => rfl
  case started => exact hmay.le
  case lt => exact hmay.lt
  case others =>
    intro other hne
    have hother : ((m.withStarted n).after id store notes courier).couriers.get? other
        = m.couriers.get? other := get?_after_of_ne hne
    exact hother
  case single =>
    intro c b hc hs hb
    obtain ⟨hcount, hsize⟩ := hsingle c b (hcourier.symm.trans hc) hs hb
    exact ⟨hcount.trans haccepted.symm, hsize⟩
  case finished =>
    intro f hf
    rcases hfinished f hf with hold | ⟨hnone, b, hleft, ⟨hcount, hsize⟩, heq⟩
    · exact .inl hold
    · -- nothing is left of a finished batch: what it took is what has been accepted
      rw [hleft, List.length_nil, Nat.zero_add] at hsize
      refine .inr ⟨by rw [heq], hcourier.trans hnone, ?_, by rwa [heq]⟩
      rw [heq]
      exact hcount.trans haccepted.symm
  case stopped =>
    intro other hother
    exact (hstopped other hother).imp_right fun h => ⟨h.2, hcourier.trans h.1⟩

/-- A turn of a single batch. -/
lemma turns_afterBatch (hmay : m.Mays id n) {before : Publisher (Noted σ)}
    (hstart : Relay.Delivers m.store (m.underWay id) [] m.store (some b))
    {result : (Publisher (Noted σ) × Store) × Turn BatchWait Nat}
    (hadds : before.Adds result.1.1 notes)
    (hcame : Publisher.Came m.store b notes result.1.2 result.2)
    (hcounts : m.Counts id [] b before.batchSize) :
    m.Turns ((m.withStarted n).afterBatch id before result) id notes := by
  obtain ⟨⟨p, s⟩, turn⟩ := result
  obtain rfl := hadds.notesSince_eq
  rw [← hadds.batchSize] at hcounts
  rcases hcame.cases with ⟨w, hgoes, rfl, rfl⟩ | ⟨b', hgoes, hleft, rfl, rfl⟩
  · refine turns_after (some (.batch p w)) hmay (hstart.trans (.goes hgoes)) ?_ (fun _ => .inl)
      (fun _ => .inl)
    rintro c b' ⟨⟩ - ⟨⟩
    exact hcounts.goes hgoes
  · -- the last stretch of the batch, and then the flags
    have hgoes' : Relay.Delivers m.store (some b) _ m.store (some b') := .goes hgoes
    have hdelivers := hstart.trans (hgoes'.trans (.finish hleft))
    rw [List.append_nil, List.nil_append] at hdelivers
    refine turns_after none hmay hdelivers (by simp) (fun f hf => ?_) (fun _ => .inl)
    rcases List.mem_append.mp hf with hf | hf
    · exact .inl hf
    · obtain rfl := List.mem_singleton.mp hf
      exact .inr ⟨rfl, b', hleft, hcounts.goes hgoes, rfl⟩

/-- A turn of a loop. -/
lemma turns_afterLoop (hmay : m.Mays id n) {before : Publisher (Noted σ)}
    {result : Store × Turn (Relay (Noted σ)) (Publisher (Noted σ))}
    (hadds : before.Adds (Relay.publisherAfter result.2) notes)
    (hdelivers : Relay.Delivers m.store (m.underWay id) notes result.1
      (Relay.batchAfterTurn result.2)) :
    m.Turns ((m.withStarted n).afterLoop id before result) id notes := by
  obtain ⟨s, turn⟩ := result
  obtain rfl := hadds.notesSince_eq
  cases turn with
  | waiting r =>
      refine turns_after (some (.loop r)) hmay hdelivers ?_ (fun _ => .inl) (fun _ => .inl)
      rintro c b ⟨⟩ hsingle
      simp [Courier.isSingle] at hsingle
  | done p =>
      refine turns_after none hmay hdelivers (by simp) (fun _ => .inl) (fun other hother => ?_)
      rcases List.mem_append.mp hother with hother | hother
      · exact .inl hother
      · exact .inr ⟨rfl, List.mem_singleton.mp hother⟩

/-! ### Steps -/

/-- A courier is like itself with another sink. -/
lemma alike_withSink (c : Courier σ) (sink : σ) : Alike c (c.withSink sink) := by
  cases c with
  | batch publisher wait => exact ⟨rfl, rfl, rfl⟩
  | loop relay => exact ⟨rfl, rfl, rfl⟩

namespace IsSound

/-- A courier that is there may have a turn. -/
lemma mays (hm : m.IsSound) (hc : m.couriers.get? id = some c) : m.Mays id m.started :=
  ⟨.inl ⟨c, hc⟩, le_rfl, (hm.courier hc).1⟩

/-- Where couriers stay as they are, up to their sinks, or leave, none has had a turn. -/
lemma rests_of_couriers (hm : m.IsSound) {couriers : Table Nat (Courier σ)} (hn : m.started ≤ n)
    (hcouriers : ∀ id c', couriers.get? id = some c' →
      (∃ c, m.couriers.get? id = some c ∧ Alike c c') ∨
        m.started ≤ id ∧ id < n ∧ c'.batch? = none ∧ c'.isSingle = false) :
    m.Rests { m with couriers, started := n } where
  vault := hm.vault
  lasts := .refl _
  events := List.Subset.refl _
  flagged hrow _ := hrow
  log := rfl
  finished := rfl
  stopped := rfl
  started := hn
  couriers hc := hcouriers _ _ hc

/-- Where one courier is exchanged for another like it, none has had a turn. -/
lemma rests_insert (hm : m.IsSound) (hc : m.couriers.get? id = some c) (halike : Alike c c') :
    m.Rests { m with couriers := m.couriers.insert id c' } := by
  refine hm.rests_of_couriers le_rfl fun other c₁ hc₁ => ?_
  rw [Table.get?_insert] at hc₁
  split at hc₁
  · next heq =>
    obtain rfl := Option.some.inj hc₁
    exact .inl ⟨c, heq ▸ hc, halike⟩
  · exact .inl ⟨c₁, hc₁, rfl, rfl, rfl⟩

/-- Something happens to the vault. -/
lemma rests_vault (hm : m.IsSound) (event : Vault.Event) :
    m.Rests { m with vault := m.vault.step event } := by
  -- whatever happens to the vault, rows are at most added, and unflagged
  obtain ⟨added, houtbox⟩ := hm.vault.exists_outbox_step event
  have houtbox : (store { m with vault := m.vault.step event }).outbox
      = m.store.outbox ++ added.map fun event => ⟨event, false⟩ := houtbox
  refine ⟨hm.vault.step event, .of_append houtbox, ?_, fun {row} hrow hp => ?_, rfl, rfl, rfl,
    le_rfl, fun hc => .inl ⟨_, hc, rfl, rfl, rfl⟩⟩
  · rw [houtbox, List.map_append]
    exact List.subset_append_left ..
  · rw [houtbox, List.mem_append] at hrow
    rcases hrow with hrow | hrow
    · exact hrow
    · obtain ⟨event, -, rfl⟩ := List.mem_map.mp hrow
      simp at hp

variable [EventSink σ]

/-- A single batch starts, and runs until it waits or is finished. -/
lemma turns_publish (hm : m.IsSound) (publisher : Publisher σ) :
    ∃ notes, m.Turns (m.step (.publish publisher)) m.started notes := by
  obtain ⟨notes, hadds, hcame⟩ := publisher.noted.came_startBatch m.vault.clock m.store
  have hnone : m.couriers.get? m.started = none :=
    Option.eq_none_iff_forall_ne_some.mpr fun c hc => absurd (hm.courier hc).1 (lt_irrefl _)
  have hmay : m.Mays m.started (m.started + 1) := ⟨.inr le_rfl, Nat.le_succ _, Nat.lt_succ_self _⟩
  refine ⟨notes, turns_afterBatch hmay ?_ hadds hcame ⟨?_, ?_⟩⟩
  · rw [underWay, hnone]
    exact .start m.store _
  · rw [acceptedFor, hm.notesOf_eq_nil le_rfl]
    rfl
  · simp only [Batch.start, Store.pendingEvents, List.length_map, List.length_take,
      List.length_nil, Nat.add_zero]
    exact Nat.min_le_left ..

/-- A single batch goes on. -/
lemma turns_resumeBatch (hm : m.IsSound) {publisher : Publisher (Noted σ)} {wait : BatchWait}
    (hc : m.couriers.get? id = some (.batch publisher wait)) : ∃ notes,
    m.Turns (m.afterBatch id publisher (publisher.resumeBatch m.vault.clock m.store wait)) id
      notes := by
  obtain ⟨notes, hadds, hcame⟩ := publisher.came_resumeBatch m.vault.clock m.store wait
  obtain ⟨hcount, hsize⟩ := hm.single hc rfl rfl
  refine ⟨notes, turns_afterBatch (hm.mays hc) ?_ hadds hcame ⟨hcount, hsize⟩⟩
  rw [underWay, hc]
  exact .refl _ _

/-- A loop does one thing. -/
lemma turns_act (hm : m.IsSound) {relay : Relay (Noted σ)}
    (hc : m.couriers.get? id = some (.loop relay)) (pick : Pick) : ∃ notes,
    m.Turns (m.afterLoop id relay.publisher (relay.act m.vault.clock pick m.store)) id
      notes := by
  obtain ⟨notes, hadds, hdelivers⟩ := relay.came_act m.vault.clock pick m.store
  refine ⟨notes, turns_afterLoop (hm.mays hc) hadds ?_⟩
  rw [underWay, hc]
  exact hdelivers

/-- A courier has a turn, or none has. -/
theorem step_cases (hm : m.IsSound) (event : Event σ) :
    m.Rests (m.step event) ∨ ∃ id notes, m.Turns (m.step event) id notes := by
  have hsame : m.Rests m := by
    exact hm.rests_of_couriers le_rfl fun id c hc => .inl ⟨c, hc, rfl, rfl, rfl⟩
  -- only a batch that begins or a courier that goes on hands anything over
  cases event with
  | vault event => exact .inl (hm.rests_vault event)
  | publish publisher => exact .inr ⟨_, hm.turns_publish publisher⟩
  | relay publisher interval signals =>
      refine .inl (hm.rests_of_couriers (Nat.le_succ _) fun id c' hc' => ?_)
      rw [Table.get?_insert] at hc'
      split at hc'
      · next heq =>
        obtain rfl := Option.some.inj hc'
        exact .inr ⟨heq.le, heq ▸ Nat.lt_succ_self _, rfl, rfl⟩
      · exact .inl ⟨c', hc', rfl, rfl, rfl⟩
  | resume id pick =>
      rw [step]
      split
      · exact .inl hsame
      · next publisher wait hc => exact .inr ⟨id, hm.turns_resumeBatch hc⟩
      · next relay hc => exact .inr ⟨id, hm.turns_act hc pick⟩
  | post id =>
      rw [step]
      split
      · next relay hc => exact .inl (hm.rests_insert hc ⟨rfl, rfl, rfl⟩)
      · exact .inl hsame
  | giveUp id =>
      refine .inl (hm.rests_of_couriers le_rfl fun other c' hc' => ?_)
      rw [Table.get?_erase] at hc'
      split at hc'
      · simp at hc'
      · exact .inl ⟨c', hc', rfl, rfl, rfl⟩
  | resink id sink =>
      rw [step]
      split
      · exact .inl hsame
      · next c hc => exact .inl (hm.rests_insert hc (alike_withSink c sink))

/-- Every event keeps the invariant. -/
theorem step (hm : m.IsSound) (event : Event σ) : (m.step event).IsSound := by
  rcases hm.step_cases event with hrests | ⟨id, notes, hturns⟩
  · exact hm.rests hrests
  · exact hm.turns hturns

/-- Every run keeps the invariant. -/
theorem run (hm : m.IsSound) (events : List (Event σ)) : (m.run events).IsSound := by
  induction events generalizing m with
  | nil => exact hm
  | cons event events ih => exact ih (hm.step event)

end IsSound

end Teller.Mailroom
