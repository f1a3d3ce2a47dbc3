/-
Rows of the outbox and their flags.

* `Store.isFlagged`: an event has a row that is marked as delivered;
* `Store.Lasts`: no row goes away or changes its event, and no flag is cleared;
* `Store.pendingEvents_eq`: with distinct identifiers and room for all, the pending events are those
  without a flag, in their order;
* `Store.not_isFlagged_of_mem_pendingEvents`: no pending event is flagged.
-/
import Mathlib.Tactic
import Teller.Relay.Batch

namespace Teller.Store

variable {s s' s'' : Store} {event : OutboxEvent} {ids : List EventId} {row : OutboxRow} {limit : ℕ}

/-- Some row of the event is marked as delivered. -/
def isFlagged (s : Store) (event : OutboxEvent) : Bool :=
  s.outbox.any fun row => decide (row.event = event) && row.published

lemma isFlagged_iff :
    s.isFlagged event = true ↔ ∃ row ∈ s.outbox, row.event = event ∧ row.published = true := by
  simp [isFlagged]

/-! ### Marks -/

/-- Marking events as delivered changes no event. -/
lemma events_markPublished (s : Store) (ids : List EventId) :
    (s.markPublished ids).outbox.map (·.event) = s.outbox.map (·.event) := by
  rw [markPublished, List.map_map]
  refine List.map_congr_left fun row _ => ?_
  simp only [Function.comp_apply]
  split <;> rfl

/-- A row after marking is an old one, or one of a marked event. -/
lemma mem_outbox_markPublished (h : row ∈ (s.markPublished ids).outbox) :
    row ∈ s.outbox ∨ row.event.id ∈ ids := by
  obtain ⟨old, hold, rfl⟩ := List.mem_map.mp h
  split
  · next hmem => exact .inr (List.contains_iff_mem.mp hmem)
  · exact .inl hold

/-- The events with these identifiers are flagged after marking. -/
lemma isFlagged_markPublished (h : event ∈ s.outbox.map (·.event)) (hid : event.id ∈ ids) :
    (s.markPublished ids).isFlagged event = true := by
  obtain ⟨row, hrow, rfl⟩ := List.mem_map.mp h
  refine isFlagged_iff.mpr ⟨{ row with published := true }, ?_, rfl, rfl⟩
  exact List.mem_map.mpr ⟨row, hrow, if_pos (List.contains_iff_mem.mpr hid)⟩

/-! ### Rows that last -/

/-- Every row has stayed in its place, with its event and its flag. -/
def Lasts (s s' : Store) : Prop :=
  ∀ ⦃i : ℕ⦄ ⦃row : OutboxRow⦄, s.outbox[i]? = some row → ∃ row', s'.outbox[i]? = some row' ∧
    row'.event = row.event ∧ (row.published = true → row'.published = true)

namespace Lasts

lemma refl (s : Store) : s.Lasts s := fun _ row h => ⟨row, h, rfl, id⟩

lemma trans (h : s.Lasts s') (h' : s'.Lasts s'') : s.Lasts s'' := by
  intro i row hrow
  obtain ⟨row', hrow', hevent, hflag⟩ := h hrow
  obtain ⟨row'', hrow'', hevent', hflag'⟩ := h' hrow'
  exact ⟨row'', hrow'', hevent'.trans hevent, fun hp => hflag' (hflag hp)⟩

/-- Rows may be added at the end. -/
lemma of_append {rows : List OutboxRow} (h : s'.outbox = s.outbox ++ rows) : s.Lasts s' := by
  intro i row hrow
  have hi := (List.getElem?_eq_some_iff.mp hrow).1
  exact ⟨row, by rw [h, List.getElem?_append_left hi, hrow], rfl, id⟩

lemma markPublished (s : Store) (ids : List EventId) : s.Lasts (s.markPublished ids) := by
  intro i row hrow
  rw [Store.markPublished, List.getElem?_map, hrow, Option.map_some]
  split
  · exact ⟨_, rfl, rfl, fun _ => rfl⟩
  · exact ⟨_, rfl, rfl, id⟩

lemma isFlagged (h : s.Lasts s') (hf : s.isFlagged event = true) : s'.isFlagged event = true := by
  obtain ⟨row, hrow, rfl, hp⟩ := isFlagged_iff.mp hf
  obtain ⟨i, hi⟩ := List.mem_iff_getElem?.mp hrow
  obtain ⟨row', hi', hevent, hflag⟩ := h hi
  exact isFlagged_iff.mpr ⟨row', List.mem_of_getElem? hi', hevent, hflag hp⟩

/-- Distinct identifiers have always been distinct. -/
lemma nodup (h : s.Lasts s') (hids : (s'.outbox.map (·.event.id)).Nodup) :
    (s.outbox.map (·.event.id)).Nodup := by
  have hprefix : s.outbox.map (·.event.id) <+: s'.outbox.map (·.event.id) := by
    rw [List.prefix_iff_getElem?]
    intro i hi
    rw [List.length_map] at hi
    obtain ⟨row', hrow', hevent, -⟩ := h (List.getElem?_eq_getElem hi)
    rw [List.getElem?_map, hrow', List.getElem_map, Option.map_some, hevent]
  exact hids.sublist hprefix.sublist

end Lasts

/-! ### Pending events -/

lemma mem_events_of_mem_pendingEvents (h : event ∈ s.pendingEvents limit) :
    ∃ row ∈ s.outbox, row.event = event ∧ row.published = false := by
  obtain ⟨row, hrow, rfl⟩ := List.mem_map.mp h
  obtain ⟨hrow, hp⟩ := List.mem_filter.mp (List.mem_of_mem_take hrow)
  exact ⟨row, hrow, rfl, by simpa using hp⟩

/-- With distinct identifiers a row is flagged if its event is. -/
lemma isFlagged_event (hids : (s.outbox.map (·.event.id)).Nodup) (hrow : row ∈ s.outbox) :
    s.isFlagged row.event = row.published := by
  rw [Bool.eq_iff_iff, isFlagged_iff]
  constructor
  · rintro ⟨row', hrow', hevent, hp⟩
    have hsame : row' = row :=
      List.inj_on_of_nodup_map hids hrow' hrow (congrArg OutboxEvent.id hevent)
    exact hsame ▸ hp
  · exact fun hp => ⟨row, hrow, rfl, hp⟩

/-- No pending event is flagged. -/
lemma not_isFlagged_of_mem_pendingEvents (hids : (s.outbox.map (·.event.id)).Nodup)
    (h : event ∈ s.pendingEvents limit) : s.isFlagged event = false := by
  obtain ⟨row, hrow, rfl, hp⟩ := mem_events_of_mem_pendingEvents h
  rw [isFlagged_event hids hrow, hp]

/-- With room for all, the pending events are those without a flag, in their order. -/
theorem pendingEvents_eq (hids : (s.outbox.map (·.event.id)).Nodup)
    (hlimit : s.outbox.length ≤ limit) :
    s.pendingEvents limit = (s.outbox.map (·.event)).filter fun event => !s.isFlagged event := by
  have hroom : (s.outbox.filter fun row => !row.published).length ≤ limit :=
    (List.length_filter_le ..).trans hlimit
  rw [pendingEvents, List.take_of_length_le hroom, List.filter_map]
  congr 1
  refine List.filter_congr fun row hrow => ?_
  rw [Function.comp_apply, isFlagged_event hids hrow]

end Teller.Store
