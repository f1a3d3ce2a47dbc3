/-
What publishers leave in the outbox.

* `Relay.Accounts`: how the notes of a publisher, its batch and the outbox agree: all that has been
  accepted is flagged, or will be when the batch is finished;
* `Delivers.accounts`: deliveries keep that;
* `Delivers.flagged`: no flag without an accepted event; `Delivers.not_taken_up`: no event that is
  flagged is taken up again.
-/
import Teller.Proofs.Relay.Delivery
import Teller.Proofs.Store.Outbox

namespace Teller

/-- The events that are still to be answered in the batch that is under way. -/
def Batch.leftIn : Option Batch → List OutboxEvent
  | some b => b.left
  | none => []

namespace Relay

variable {s s' : Store} {b b' : Option Batch} {batch batch' : Batch} {past notes : List Handover}
  {event : OutboxEvent} {row : OutboxRow}

/-- The notes of a publisher and its batch agree with the outbox. -/
structure Accounts (s : Store) (past : List Handover) (b : Option Batch) : Prop where
  left {event : OutboxEvent} : event ∈ Batch.leftIn b → event ∈ s.outbox.map (·.event)
  known {note : Handover} : note ∈ past → note.event ∈ s.outbox.map (·.event)
  /-- An accepted event is flagged, or its batch is not finished. -/
  settled {event : OutboxEvent} : .answered event true ∈ past →
    s.isFlagged event = true ∨ ∃ batch, b = some batch ∧ event.id ∈ batch.accepted
  /-- A batch marks accepted events only. -/
  drawn {batch : Batch} {id : EventId} : b = some batch → id ∈ batch.accepted →
    ∃ event, .answered event true ∈ past ∧ event.id = id

lemma accounts_nil (s : Store) : Accounts s [] none := by
  constructor <;> simp [Batch.leftIn]

/-- The outbox may grow. -/
lemma Accounts.lasts (h : Accounts s past b) (hl : s.Lasts s')
    (hevents : s.outbox.map (·.event) ⊆ s'.outbox.map (·.event)) : Accounts s' past b where
  left he := hevents (h.left he)
  known hn := hevents (h.known hn)
  settled he := (h.settled he).imp_left hl.isFlagged
  drawn := h.drawn

/-- What a delivery does to the store: it marks rows of the outbox. -/
structure Marks (s s' : Store) : Prop where
  lasts : s.Lasts s'
  events : s'.outbox.map (·.event) = s.outbox.map (·.event)
  eq : s' = { s with outbox := s'.outbox }

lemma Marks.refl (s : Store) : Marks s s := ⟨.refl s, rfl, rfl⟩

lemma Marks.trans {s'' : Store} (h : Marks s s') (h' : Marks s' s'') : Marks s s'' where
  lasts := h.lasts.trans h'.lasts
  events := h'.events.trans h.events
  eq := by rw [h'.eq, h.eq]

/-- A batch that is finished marks what was accepted. -/
lemma finish_cases (batch : Batch) (s : Store) :
    (batch.accepted = [] ∧ (batch.finish s).1 = s) ∨
      (batch.finish s).1 = s.markPublished batch.accepted := by
  rw [Batch.finish]
  split
  · next h => exact .inl ⟨List.isEmpty_iff.mp h, rfl⟩
  · exact .inr rfl

lemma marks_finish (batch : Batch) (s : Store) : Marks s (batch.finish s).1 := by
  rcases finish_cases batch s with ⟨-, h⟩ | h
  · rw [h]
    exact .refl s
  · rw [h]
    exact ⟨.markPublished s _, s.events_markPublished _, rfl⟩

namespace Delivers

lemma marks (h : Delivers s b notes s' b') : Marks s s' := by
  induction h with
  | refl => exact .refl _
  | start => exact .refl _
  | goes => exact .refl _
  | finish => exact marks_finish _ _
  | trans _ _ ih ih' => exact ih.trans ih'

/-- Deliveries keep the accounts of the publisher. -/
theorem accounts (h : Delivers s b notes s' b') (ha : Accounts s past b) :
    Accounts s' (past ++ notes) b' := by
  -- on the way of the deliveries, for whatever has been noted before
  induction h generalizing past with
  | refl => rwa [List.append_nil]
  | start s size =>
      rw [List.append_nil]
      refine ⟨fun {event} he => ?_, ha.known, fun he => ?_, fun hb hid => ?_⟩
      · obtain ⟨row, hrow, rfl, -⟩ := Store.mem_events_of_mem_pendingEvents he
        exact List.mem_map_of_mem hrow
      · rcases ha.settled he with hf | ⟨batch, hb, -⟩
        · exact .inl hf
        · exact absurd hb (by simp)
      · obtain rfl := Option.some.inj hb
        simp [Batch.start] at hid
  | @goes s batch batch' notes hgoes =>
      -- nothing is flagged yet, but what is accepted is kept in the batch
      have haccepted := hgoes.accepted_eq
      have hmem : ∀ event, .answered event true ∈ notes →
          event.id ∈ batch'.accepted := by
        intro event he
        rw [haccepted, List.mem_append]
        refine .inr (List.mem_map_of_mem ?_)
        exact List.mem_filterMap.mpr ⟨_, he, rfl⟩
      constructor
      case left => exact fun he => ha.left (hgoes.left_subset he)
      case known =>
        intro note hn
        rcases List.mem_append.mp hn with hn | hn
        · exact ha.known hn
        · exact ha.left (hgoes.mem_left hn)
      case settled =>
        intro event he
        rcases List.mem_append.mp he with he | he
        · rcases ha.settled he with hf | ⟨_, hb, hid⟩
          · exact .inl hf
          · obtain rfl := Option.some.inj hb
            exact .inr ⟨batch', rfl, haccepted ▸ List.mem_append_left _ hid⟩
        · exact .inr ⟨batch', rfl, hmem event he⟩
      case drawn =>
        intro _ id hb hid
        obtain rfl := Option.some.inj hb
        rw [haccepted, List.mem_append] at hid
        rcases hid with hid | hid
        · obtain ⟨event, he, heq⟩ := ha.drawn rfl hid
          exact ⟨event, List.mem_append_left _ he, heq⟩
        · obtain ⟨event, he, heq⟩ := List.mem_map.mp hid
          obtain ⟨note, hn, hnote⟩ := List.mem_filterMap.mp he
          rw [Handover.accepted?_eq_some.mp hnote] at hn
          exact ⟨event, List.mem_append_right _ hn, heq⟩
  | @finish s batch hleft =>
      -- the batch is gone: what was kept in it is now flagged
      rw [List.append_nil]
      have hm := marks_finish batch s
      refine ⟨fun he => absurd he (by simp [Batch.leftIn]), fun hn => ?_, fun {event} he => .inl ?_,
        fun hb => absurd hb (by simp)⟩
      · rw [hm.events]
        exact ha.known hn
      · rcases ha.settled he with hf | ⟨_, hb, hid⟩
        · exact hm.lasts.isFlagged hf
        · obtain rfl := Option.some.inj hb
          rcases finish_cases batch s with ⟨hnil, -⟩ | hmark
          · simp [hnil] at hid
          · rw [hmark]
            exact Store.isFlagged_markPublished (ha.known he) hid
  | trans _ _ ih ih' =>
      rw [← List.append_assoc]
      exact ih' (ih ha)

/-- A flag is set for an identifier under which an event has been accepted. -/
theorem flagged (h : Delivers s b notes s' b') (ha : Accounts s past b) (hrow : row ∈ s'.outbox)
    (hp : row.published = true) : (∃ row₀ ∈ s.outbox, row₀.event = row.event ∧
      row₀.published = true) ∨
      ∃ event, .answered event true ∈ past ++ notes ∧ event.id = row.event.id := by
  -- flags are only set where a batch is finished
  induction h generalizing past row with
  | refl => exact .inl ⟨row, hrow, rfl, hp⟩
  | start => exact .inl ⟨row, hrow, rfl, hp⟩
  | goes => exact .inl ⟨row, hrow, rfl, hp⟩
  | @finish s batch hleft =>
      rcases finish_cases batch s with ⟨-, hsame⟩ | hmark
      · exact .inl ⟨row, hsame ▸ hrow, rfl, hp⟩
      · rw [hmark] at hrow
        rcases Store.mem_outbox_markPublished hrow with hold | hid
        · exact .inl ⟨row, hold, rfl, hp⟩
        · obtain ⟨event, he, heq⟩ := ha.drawn rfl hid
          exact .inr ⟨event, List.mem_append_left _ he, heq⟩
  | trans h h' ih ih' =>
      rcases ih' (h.accounts ha) hrow hp with ⟨row₀, hrow₀, hevent, hp₀⟩ | ⟨event, he, heq⟩
      · rcases ih ha hrow₀ hp₀ with ⟨row₁, hrow₁, hevent₁, hp₁⟩ | ⟨event, he, heq⟩
        · exact .inl ⟨row₁, hrow₁, hevent₁.trans hevent, hp₁⟩
        · refine .inr ⟨event, ?_, heq.trans (congrArg _ hevent)⟩
          rw [← List.append_assoc]
          exact List.mem_append_left _ he
      · exact .inr ⟨event, by rwa [← List.append_assoc], heq⟩

/-- An event that is flagged is only handed over or left if it was left before. -/
theorem not_taken_up (h : Delivers s b notes s' b') (hids : (s.outbox.map (·.event.id)).Nodup)
    (hf : s.isFlagged event = true) :
    (∀ note ∈ notes, note.event = event → event ∈ Batch.leftIn b) ∧
      (event ∈ Batch.leftIn b' → event ∈ Batch.leftIn b) := by
  induction h with
  | refl => exact ⟨by simp, id⟩
  | start s size =>
      refine ⟨by simp, fun he => ?_⟩
      have hnot := Store.not_isFlagged_of_mem_pendingEvents hids he
      exact absurd (hf.symm.trans hnot) (by simp)
  | goes hgoes =>
      refine ⟨?_, fun he => hgoes.left_subset he⟩
      rintro note hn rfl
      exact hgoes.mem_left hn
  | finish => exact ⟨by simp, by simp [Batch.leftIn]⟩
  | @trans s s' s'' b b' b'' notes notes' h h' ih ih' =>
      obtain ⟨hhanded, hleft⟩ := ih hids hf
      have hids' : (s'.outbox.map (·.event.id)).Nodup := by
        have heq := congrArg (List.map OutboxEvent.id) h.marks.events
        rw [List.map_map, List.map_map] at heq
        exact heq ▸ hids
      obtain ⟨hhanded', hleft'⟩ := ih' hids' (h.marks.lasts.isFlagged hf)
      refine ⟨fun note hn heq => ?_, fun he => hleft (hleft' he)⟩
      rcases List.mem_append.mp hn with hn | hn
      · exact hhanded note hn heq
      · exact hleft (hhanded' note hn heq)

end Delivers

end Relay

end Teller
