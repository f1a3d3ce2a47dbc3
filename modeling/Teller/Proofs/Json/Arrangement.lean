/-
Objects whose members stand in any order and among others.

* `Json.Arranges`: an object has certain members, in any order, and others with names that are not
  known; `Json.Arranges.fields?_eq`: it has the same fields under the known names;
* `Json.IsReadAs`: a value of JSON, whoever has written it, is read as a value of the ledger;
  `Json.IsReadAs.ofText?_write`: so is its text.
-/
import Teller.Proofs.Json.Coding

namespace Teller.Json

/-! ### Members in any order -/

/-- An object that has these members in any order, and among them others whose names are not
known. -/
inductive Arranges (known : List String) (members : List (String × Json)) : Json → Prop where
  | of {all others : List (String × Json)} (hperm : all.Perm (members ++ others))
      (hunknown : ∀ m ∈ others, m.1 ∉ known) (hproper : ∀ m ∈ others, m.2.IsProper) :
      Arranges known members (object all)

/-- The order makes no difference to what stands under a name. -/
lemma member?_perm {members members' : List (String × Json)} (h : members.Perm members')
    (name : String) : member? members name = member? members' name := by
  have hfound := h.filter fun m => m.1 == name
  rw [member?, member?]
  generalize members.filter _ = found at hfound ⊢
  generalize members'.filter _ = found' at hfound ⊢
  obtain _ | ⟨m, _ | ⟨m', rest⟩⟩ := found
  · obtain rfl := List.nil_perm.mp hfound
    rfl
  · obtain rfl := List.singleton_perm.mp hfound
    rfl
  · -- a name that repeats in one order repeats in the other
    obtain _ | ⟨n, _ | ⟨n', rest'⟩⟩ := found'
    · exact absurd hfound.length_eq (by simp)
    · exact absurd hfound.length_eq (by simp)
    · rfl

/-- Members with other names make no difference either. -/
lemma member?_append {members others : List (String × Json)} {name : String}
    (h : ∀ m ∈ others, m.1 ≠ name) : member? (members ++ others) name = member? members name := by
  have hnone : (others.filter fun m => m.1 == name) = [] :=
    List.filter_eq_nil_iff.mpr fun m hm heq => h m hm (beq_iff_eq.mp heq)
  rw [member?, List.filter_append, hnone, List.append_nil, member?]

/-- A member that is left out is missed under its own name only. -/
lemma member?_filter {members : List (String × Json)} (hnodup : (members.map (·.1)).Nodup)
    (missing : String) {m : String × Json} (hm : m ∈ members) :
    member? (members.filter fun other => other.1 != missing) m.1
      = some (if m.1 = missing then none else some m.2) := by
  have hfound := member?_of_mem hnodup hm
  rw [member?] at hfound ⊢
  rw [List.filter_filter]
  by_cases hname : m.1 = missing
  · have hnone : (members.filter fun other => other.1 == m.1 && other.1 != missing) = [] := by
      refine List.filter_eq_nil_iff.mpr fun other _ heq => ?_
      simp_all
    rw [hnone, if_pos hname]
  · have hsame : (members.filter fun other => other.1 == m.1 && other.1 != missing)
        = members.filter fun other => other.1 == m.1 := by
      refine List.filter_congr fun other _ => ?_
      by_cases heq : other.1 = m.1
      · simp [heq, hname]
      · simp [heq]
    rw [hsame, hfound, if_neg hname]

/-- The fields of a structure one of which is left out. -/
lemma fields?_filter {members : List (String × Json)} (hnodup : (members.map (·.1)).Nodup)
    (missing : String) :
    fields? (members.map (·.1)) (object (members.filter fun m => m.1 != missing))
      = some (members.map fun m => if m.1 = missing then none else some m.2) := by
  have hpart : ∀ part ⊆ members,
      (part.map (·.1)).mapM (member? (members.filter fun m => m.1 != missing))
        = some (part.map fun m => if m.1 = missing then none else some m.2) := by
    intro part hpart
    induction part with
    | nil => rfl
    | cons m part ih =>
        obtain ⟨hm, hpart⟩ := List.cons_subset.mp hpart
        simp [member?_filter hnodup missing hm, ih hpart]
  exact hpart members (List.Subset.refl _)

namespace Arranges

variable {known : List String} {members : List (String × Json)} {w : Json}

/-- The object with just these members is one of its arrangements. -/
lemma self (known : List String) (members : List (String × Json)) :
    Arranges known members (object members) := by
  have hperm : members.Perm (members ++ []) := by rw [List.append_nil]
  exact .of hperm (by simp) (by simp)

lemma isProper (h : Arranges known members w) (hmembers : ∀ m ∈ members, m.2.IsProper) :
    w.IsProper := by
  obtain ⟨hperm, -, hothers⟩ := h
  refine .object fun m hm => ?_
  rcases List.mem_append.mp (hperm.mem_iff.mp hm) with hm | hm
  · exact hmembers m hm
  · exact hothers m hm

/-- **The order is free**: under the known names every arrangement has the same fields. -/
theorem fields?_eq (h : Arranges known members w) :
    fields? known w = fields? known (object members) := by
  obtain @⟨all, others, hperm, hunknown, -⟩ := h
  have hmember : ∀ name ∈ known, member? all name = member? members name := by
    intro name hname
    calc member? all name = member? (members ++ others) name := member?_perm hperm name
      _ = member? members name := member?_append fun m hm heq => hunknown m hm (heq ▸ hname)
  show known.mapM (member? all) = known.mapM (member? members)
  clear hunknown
  induction known with
  | nil => rfl
  | cons name known ih =>
      have hfirst := hmember name List.mem_cons_self
      have hrest := ih fun other hother => hmember other (List.mem_cons_of_mem name hother)
      rw [List.mapM_cons, List.mapM_cons, hfirst, hrest]

end Arranges

/-! ### Values that others have written -/

/-- A value of JSON is well-formed, and is read as this. -/
structure IsReadAs {α : Type} [Coding α] (w : Json) (read : α) : Prop where
  isProper : w.IsProper
  decode?_eq : Coding.decode? w = some read

section Texts

variable {α : Type} [Coding α] {b : α} {w : Json}

lemma IsReadAs.required? (h : IsReadAs w b) : required? (some w) = some b := h.decode?_eq

/-- What is read from the text is what is read from the value. -/
lemma IsReadAs.ofText?_write (h : IsReadAs w b) : ofText? w.write = some b := by
  rw [ofText?, read?_write h.isProper, Option.bind_some, h.decode?_eq]

end Texts

end Teller.Json
