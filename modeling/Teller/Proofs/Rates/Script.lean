/-
Fetches of one attempt, and sources of rates that go by a script.

* `Fetch.IsSingle`: the fetch waits for its only attempt;
* `RateClient.look_single` and `RateClient.fetch_single`: what a client does that does not repeat
  its calls: it asks once, in its first turn (`filter_fetch`, `filter_resume`);
* `Script`: a source whose calls take as long and are answered as is written down for each of them;
* `RateClient.Agrees`: two clients whose sources go by the same script and have been asked a
  question equally often; `Agrees.fetch` and `Agrees.resume` say that to them it makes no difference
  what else has been asked.
-/
import Teller.Proofs.Rates.Consulting

namespace Teller

/-- A fetch waits for its only attempt, which is never given up. -/
def Fetch.IsSingle (fetch : Fetch) : Prop := ∃ wait, fetch = .calling 0 wait none

/-- It is noted that a source is asked. -/
def Consultation.isAsked : Consultation → Bool
  | asked _ => true
  | answered _ _ => false

namespace RateClient

/-! ### Clients that do not repeat their calls -/

section Single

variable {σ : Type} [RateProvider σ] {c : RateClient (Recorded σ)} {q : RateQuery} {fetch : Fetch}

/-- The only attempt of a fetch is looked at. -/
lemma look_single (hretry : c.retry = none) (clock : Clock) (q : RateQuery) (wait : Wait) :
    c.look clock q 0 wait none (giveUp q) =
      if wait.isOver clock then
        (⟨⟨(RateProvider.answer c.provider.provider q).1, c.provider.notes
            ++ [.answered q (RateProvider.answer c.provider.provider q).2]⟩, none⟩,
          .done (RateProvider.answer c.provider.provider q).2)
      else (c, .waiting (.calling 0 wait none)) := by
  obtain ⟨provider, retry⟩ := c
  obtain rfl : retry = none := hretry
  rw [look]
  split
  · cases hanswer : RateProvider.answer provider.provider q with
    | mk after result =>
        rw [show RateProvider.answer provider q = _ from rfl]
        simp only [RateProvider.answer, hanswer]
        cases result <;> rfl
  · rfl

/-- The first turn of a fetch that makes only one attempt. -/
lemma fetch_single (hretry : c.retry = none) (clock : Clock) (q : RateQuery) :
    c.fetch clock q =
      look ⟨⟨(RateProvider.ask c.provider.provider clock.now q).1,
        c.provider.notes ++ [.asked q]⟩, none⟩ clock q 0
        (RateProvider.ask c.provider.provider clock.now q).2 none (giveUp q) := by
  obtain ⟨provider, retry⟩ := c
  obtain rfl : retry = none := hretry
  rfl

/-- Nobody is asked when an attempt is looked at. -/
lemma filter_look (hretry : c.retry = none) (clock : Clock) (q : RateQuery) (wait : Wait) :
    (c.look clock q 0 wait none (giveUp q)).1.provider.notes.filter (·.isAsked)
      = c.provider.notes.filter (·.isAsked) := by
  rw [look_single hretry]
  split
  · simp [Consultation.isAsked]
  · rfl

/-- A fetch that makes only one attempt asks once, in its first turn. -/
lemma filter_fetch (hretry : c.retry = none) (clock : Clock) (q : RateQuery) :
    (c.fetch clock q).1.provider.notes.filter (·.isAsked)
      = c.provider.notes.filter (·.isAsked) ++ [.asked q] := by
  rw [fetch_single hretry, filter_look rfl, List.filter_append]
  rfl

/-- In its other turns it does not ask. -/
lemma filter_resume (hretry : c.retry = none) (clock : Clock) (q : RateQuery)
    (hfetch : fetch.IsSingle) :
    (c.resume clock q fetch).1.provider.notes.filter (·.isAsked)
      = c.provider.notes.filter (·.isAsked) := by
  obtain ⟨wait, rfl⟩ := hfetch
  exact filter_look hretry clock q wait

lemma isSingle_of_look {clock : Clock} {wait : Wait} (hretry : c.retry = none)
    (h : (c.look clock q 0 wait none (giveUp q)).2 = .waiting fetch) : fetch.IsSingle := by
  rw [look_single hretry] at h
  split at h
  · simp at h
  · exact ⟨wait, (Turn.waiting.inj h).symm⟩

/-- A fetch that makes only one attempt waits for that. -/
lemma isSingle_of_fetch {clock : Clock} (hretry : c.retry = none)
    (h : (c.fetch clock q).2 = .waiting fetch) : fetch.IsSingle := by
  rw [fetch_single hretry] at h
  exact isSingle_of_look rfl h

lemma isSingle_of_resume {clock : Clock} {fetch' : Fetch} (hretry : c.retry = none)
    (hfetch : fetch.IsSingle) (h : (c.resume clock q fetch).2 = .waiting fetch') :
    fetch'.IsSingle := by
  obtain ⟨wait, rfl⟩ := hfetch
  exact isSingle_of_look hretry h

end Single

end RateClient

/-! ### Scripts -/

/-- A source of rates that goes by a script. -/
structure Script where
  /-- What is waited for in a call, by its question, the number of calls with this question before
  it and its instant. -/
  waits : RateQuery → Nat → Nat → Wait
  /-- How a call is answered, by its question and the number of calls with this question before
  it. -/
  answers : (q : RateQuery) → Nat → Except RateError q.Answer
  /-- How often each question has been asked. -/
  calls : RateQuery → Nat

namespace Script

/-- The source after one more call. -/
def count (s : Script) (q : RateQuery) : Script :=
  { s with calls := fun other => if other = q then s.calls q + 1 else s.calls other }

instance : RateProvider Script where
  ask s now q := (s.count q, s.waits q (s.calls q) now)
  answer s q := (s, s.answers q (s.calls q - 1))

/-- Two sources go by the same script, and have been asked a question equally often. -/
structure Agrees (q : RateQuery) (s s' : Script) : Prop where
  waits : s.waits = s'.waits
  answers : s.answers = s'.answers
  calls : s.calls q = s'.calls q

variable {s s' : Script} {q other : RateQuery}

lemma Agrees.count (h : s.Agrees q s') : (s.count q).Agrees q (s'.count q) where
  waits := h.waits
  answers := h.answers
  calls := by simp only [Script.count, if_pos, h.calls]

/-- Other questions do not count. -/
lemma Agrees.count_of_ne (h : s.Agrees q s') (hne : other ≠ q) : (s.count other).Agrees q s' where
  waits := h.waits
  answers := h.answers
  calls := by simp only [Script.count, if_neg hne.symm, h.calls]

end Script

namespace RateClient

/-- Two clients that do not repeat their calls have sources that agree about a question. -/
structure Agrees (q : RateQuery) (c c' : RateClient (Recorded Script)) : Prop where
  retry : c.retry = none
  retry' : c'.retry = none
  script : c.provider.provider.Agrees q c'.provider.provider

/-- Two clients have made the same turn for a question. -/
structure Matches (q : RateQuery) (c c' : RateClient (Recorded Script))
    (step step' : Step (Recorded Script) q) : Prop where
  turn : step.2 = step'.2
  agrees : step.1.Agrees q step'.1
  notes : ∃ notes, step.1.provider.notes = c.provider.notes ++ notes ∧
    step'.1.provider.notes = c'.provider.notes ++ notes

variable {c c' : RateClient (Recorded Script)} {q other : RateQuery} {point : Fetch}

/-- The same turn after the same note. -/
lemma Matches.after {c₁ c₁' : RateClient (Recorded Script)} {note : Consultation}
    {step step' : Step (Recorded Script) q} (h : c₁.Matches q c₁' step step')
    (hnote : c₁.provider.notes = c.provider.notes ++ [note])
    (hnote' : c₁'.provider.notes = c'.provider.notes ++ [note]) : c.Matches q c' step step' where
  turn := h.turn
  agrees := h.agrees
  notes := by
    obtain ⟨notes, hnotes, hnotes'⟩ := h.notes
    exact ⟨note :: notes, by rw [hnotes, hnote, List.append_assoc, List.singleton_append],
      by rw [hnotes', hnote', List.append_assoc, List.singleton_append]⟩

lemma Agrees.look (h : c.Agrees q c') (clock : Clock) (wait : Wait) :
    c.Matches q c' (c.look clock q 0 wait none (giveUp q))
      (c'.look clock q 0 wait none (giveUp q)) := by
  have hanswer : (RateProvider.answer c.provider.provider q).2
      = (RateProvider.answer c'.provider.provider q).2 := by
    simp only [RateProvider.answer, h.script.answers, h.script.calls]
  rw [look_single h.retry, look_single h.retry', hanswer]
  split
  · exact ⟨rfl, ⟨rfl, rfl, h.script⟩, _, rfl, rfl⟩
  · exact ⟨rfl, h, [], (List.append_nil _).symm, (List.append_nil _).symm⟩

/-- Two clients that agree about a question make the same first turn for it. -/
theorem Agrees.fetch (h : c.Agrees q c') (clock : Clock) :
    c.Matches q c' (c.fetch clock q) (c'.fetch clock q) := by
  have hwait : (RateProvider.ask c.provider.provider clock.now q).2
      = (RateProvider.ask c'.provider.provider clock.now q).2 := by
    simp only [RateProvider.ask, h.script.waits, h.script.calls]
  rw [fetch_single h.retry, fetch_single h.retry', hwait]
  exact (Agrees.look ⟨rfl, rfl, h.script.count⟩ clock _).after rfl rfl

/-- Two clients that agree about a question make the same turn from where a fetch waits. -/
theorem Agrees.resume (h : c.Agrees q c') (clock : Clock) (hpoint : point.IsSingle) :
    c.Matches q c' (c.resume clock q point) (c'.resume clock q point) := by
  obtain ⟨wait, rfl⟩ := hpoint
  exact h.look clock wait

lemma Agrees.look_of_ne (h : c.Agrees q c') (clock : Clock) (wait : Wait) :
    (c.look clock other 0 wait none (giveUp other)).1.Agrees q c' := by
  rw [look_single h.retry]
  split
  · exact ⟨rfl, h.retry', h.script⟩
  · exact h

/-- A fetch for another question makes no difference. -/
theorem Agrees.fetch_of_ne (h : c.Agrees q c') (clock : Clock) (hne : other ≠ q) :
    (c.fetch clock other).1.Agrees q c' := by
  rw [fetch_single h.retry]
  exact Agrees.look_of_ne ⟨rfl, h.retry', h.script.count_of_ne hne⟩ clock _

/-- Nor do its other turns. -/
theorem Agrees.resume_of_ne (h : c.Agrees q c') (clock : Clock) (hpoint : point.IsSingle) :
    (c.resume clock other point).1.Agrees q c' := by
  obtain ⟨wait, rfl⟩ := hpoint
  exact h.look_of_ne clock wait

end RateClient

end Teller
