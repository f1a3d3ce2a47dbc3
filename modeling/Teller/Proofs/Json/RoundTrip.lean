/-
JSON is read back as it was written.

* `Json.Number.IsProper`, `Json.IsProper`: values that have a text, which is all but those with
  numbers that are not made of digits, or with strings that are unusable;
* `Json.readString?_writeString`: strings, whatever characters they have;
* `Json.readNumber?_write`: numbers, before a text that does not go on with the number;
* `Json.readValue?_writeChars`: values, by induction on `IsProper`, with as much fuel as there are
  characters; `Json.read?_write`: whole texts.
-/
import Teller.Json.Reader
import Teller.Json.Writer
import Teller.Proofs.Text.Identifier
import Teller.Proofs.Text.Numeral

namespace Teller.Json

open Text

/-! ### Proper values -/

/-- A number that is made of digits, and whose whole digits have no zero in front. -/
structure Number.IsProper (n : Number) : Prop where
  whole : Digits n.whole
  whole_ne_nil : n.whole ≠ []
  noLeadingZero : n.whole = ['0'] ∨ n.whole.head? ≠ some '0'
  fraction : Digits n.fraction

/-- A value that has a text. -/
inductive IsProper : Json → Prop where
  | null : IsProper null
  | bool (value : Bool) : IsProper (bool value)
  | number {value : Number} (h : value.IsProper) : IsProper (number value)
  | string (value : String) : IsProper (string value)
  | array {items : List Json} (h : ∀ item ∈ items, IsProper item) : IsProper (array items)
  | object {members : List (String × Json)} (h : ∀ m ∈ members, IsProper m.2) :
      IsProper (object members)

/-! ### Strings -/

section Strings

variable {c : Char} {cs rest : List Char} {fuel : ℕ}

/-- A character in a string is read as its number. -/
lemma readUnits?_writeChar (c : Char) (cs : List Char) (fuel : ℕ) :
    readUnits? (fuel + 1) (writeChar c ++ cs)
      = (readUnits? fuel cs).map fun (units, rest) => (c.toNat :: units, rest) := by
  unfold writeChar
  split
  case h_8 hquote hbackslash _ _ _ _ _ =>
    split
    · next hlow =>
      have hhigh : Uuid.hexValue? (hexDigit (c.toNat / 16)) = some (c.toNat / 16) :=
        Uuid.hexValue?_digitChar (by omega)
      have hlast : Uuid.hexValue? (hexDigit (c.toNat % 16)) = some (c.toNat % 16) :=
        Uuid.hexValue?_digitChar (by omega)
      have hzero : Uuid.hexValue? '0' = some 0 := rfl
      have hvalue : c.toNat / 16 * 16 + c.toNat % 16 = c.toNat := by omega
      cases hunits : readUnits? fuel cs <;>
        simp [readUnits?, readHex?, hzero, hhigh, hlast, hvalue, hunits]
    · next hlow =>
      rw [List.singleton_append, readUnits?, if_neg (not_or.mpr ⟨hbackslash, hlow⟩)]
      · cases readUnits? fuel cs <;> rfl
      · exact hquote
      · exact fun _ h => absurd h hbackslash
      · exact fun _ _ h => absurd h hbackslash
  all_goals
    cases hunits : readUnits? fuel cs <;> simp [readUnits?, escaped?, hunits]

/-- The characters of a string are read as their numbers. -/
lemma readUnits?_flatMap (h : cs.length < fuel) :
    readUnits? fuel (cs.flatMap writeChar ++ '"' :: rest) = some (cs.map Char.toNat, rest) := by
  induction cs generalizing fuel with
  | nil =>
      obtain ⟨fuel, rfl⟩ := Nat.exists_eq_add_of_lt h
      simp [readUnits?]
  | cons c cs ih =>
      rw [List.length_cons] at h
      obtain ⟨fuel, rfl⟩ : ∃ n, fuel = n + 1 := ⟨fuel - 1, by omega⟩
      rw [List.flatMap_cons, List.append_assoc, readUnits?_writeChar, ih (by omega)]
      rfl

/-- No character is half of a surrogate pair. -/
lemma isSurrogate_eq_false (c : Char) : isHigh c.toNat = false ∧ isLow c.toNat = false := by
  have hvalid : c.toNat < 0xD800 ∨ 0xDFFF < c.toNat ∧ c.toNat < 0x110000 := c.valid
  simp only [isHigh, isLow, Bool.and_eq_false_iff, decide_eq_false_iff_not]
  omega

/-- The numbers of characters stand for these characters. -/
lemma ofUnits?_map_toNat (cs : List Char) : ofUnits? (cs.map Char.toNat) = some cs := by
  induction cs with
  | nil => rfl
  | cons c cs ih =>
      obtain ⟨hhigh, hlow⟩ := isSurrogate_eq_false c
      cases cs with
      | nil => simp [ofUnits?, hhigh, hlow]
      | cons c' cs =>
          rw [List.map_cons] at ih
          rw [List.map_cons, List.map_cons, ofUnits?]
          simp [hhigh, hlow, ih]

lemma length_le_length_flatMap (cs : List Char) : cs.length ≤ (cs.flatMap writeChar).length := by
  induction cs with
  | nil => exact le_rfl
  | cons c cs ih =>
      have hpos : 0 < (writeChar c).length := by
        unfold writeChar
        split
        case h_8 => split <;> simp
        all_goals simp
      rw [List.length_cons, List.flatMap_cons, List.length_append]
      omega

/-- A string is read back, whatever its characters are. -/
theorem readString?_writeString (s : String) (rest : List Char) :
    readString? (s.toList.flatMap writeChar ++ '"' :: rest) = some (some s, rest) := by
  have hfuel : s.toList.length < (s.toList.flatMap writeChar ++ '"' :: rest).length + 1 := by
    have hle := length_le_length_flatMap s.toList
    rw [List.length_append]
    omega
  rw [readString?, readUnits?_flatMap hfuel]
  simp [ofUnits?_map_toNat]

end Strings

/-! ### Numbers -/

/-- A text that does not go on with a number. -/
def StopsNumber (cs : List Char) : Prop :=
  ∀ c ∈ cs.head?, c.isDigit = false ∧ c ≠ '.' ∧ c ≠ 'e' ∧ c ≠ 'E'

lemma stopsNumber_nil : StopsNumber [] := by simp [StopsNumber]

lemma stopsNumber_cons {c : Char} {cs : List Char} :
    StopsNumber (c :: cs) ↔ c.isDigit = false ∧ c ≠ '.' ∧ c ≠ 'e' ∧ c ≠ 'E' := by
  simp [StopsNumber]

section Numbers

variable {ds rest : List Char} {n : Number}

lemma StopsNumber.stopsDigits (h : StopsNumber rest) : StopsDigits rest := fun c hc => (h c hc).1

lemma readDigits?_append (hds : Digits ds) (hne : ds ≠ []) (hrest : StopsDigits rest) :
    readDigits? (ds ++ rest) = some (ds, rest) := by
  rw [readDigits?, takeWhile_digits hds hrest, dropWhile_digits hds hrest]
  cases ds with
  | nil => exact absurd rfl hne
  | cons c ds => rfl

/-- The whole digits of a number. -/
lemma readWhole?_append (h : n.IsProper) (hrest : StopsDigits rest) :
    readWhole? (n.whole ++ rest) = some (n.whole, rest) := by
  have hread := readDigits?_append h.whole h.whole_ne_nil hrest
  rcases h.noLeadingZero with hzero | hhead
  · rw [hzero]
    cases rest with
    | nil => rfl
    | cons c rest => simp [readWhole?, stopsDigits_cons.mp hrest]
  · cases hwhole : n.whole with
    | nil => exact absurd hwhole h.whole_ne_nil
    | cons c cs =>
        rw [hwhole] at hread hhead
        have hne : c ≠ '0' := by simpa using hhead
        rw [List.cons_append] at hread ⊢
        rw [readWhole?]
        · exact hread
        · exact fun _ heq => hne (List.cons.inj heq).1

/-- The text of the fraction. -/
def Number.fractionChars (n : Number) : List Char :=
  if n.fraction.isEmpty then [] else '.' :: n.fraction

/-- The text of the exponent. -/
def Number.exponentChars (n : Number) : List Char :=
  match n.exponent with
  | none => []
  | some (.ofNat e) => 'e' :: digitsOf e
  | some (.negSucc e) => 'e' :: '-' :: digitsOf (e + 1)

lemma readFraction?_append (h : n.IsProper) (hrest : StopsDigits rest)
    (hpoint : rest.head? ≠ some '.') :
    readFraction? (n.fractionChars ++ rest) = some (n.fraction, rest) := by
  rw [Number.fractionChars]
  cases hfraction : n.fraction with
  | nil =>
      cases rest with
      | nil => rfl
      | cons c rest =>
          have hc : c ≠ '.' := by simpa using hpoint
          simp [readFraction?, hc]
  | cons c cs =>
      have hread := readDigits?_append h.fraction (by simp [hfraction]) hrest
      rw [hfraction] at hread
      exact hread

lemma readExponentDigits?_digitsOf (negative : Bool) (e : ℕ) (hrest : StopsDigits rest) :
    readExponentDigits? negative (digitsOf e ++ rest)
      = some (some (if negative then -(e : ℤ) else e), rest) := by
  have hvalue : valueOf (digitsOf e) = e := Nat.ofDigitChars_ten_toDigits
  have hread := readDigits?_append (digits_digitsOf e) (digitsOf_ne_nil e) hrest
  simp [readExponentDigits?, hread, hvalue]

lemma readExponent?_append (hrest : StopsNumber rest) :
    readExponent? (n.exponentChars ++ rest) = some (n.exponent, rest) := by
  have hstops := hrest.stopsDigits
  rw [Number.exponentChars]
  split
  · next hnone =>
    cases rest with
    | nil => simp [readExponent?, hnone]
    | cons c rest =>
        obtain ⟨-, -, hlower, hupper⟩ := stopsNumber_cons.mp hrest
        simp [readExponent?, hnone, hlower, hupper]
  · next e hsome =>
    have hnot {mark : Char} (hmark : mark.isDigit = false) (cs : List Char) :
        digitsOf e ++ rest ≠ mark :: cs :=
      (digits_digitsOf e).append_ne_cons (digitsOf_ne_nil e) hmark
    rw [List.cons_append, readExponent?, if_pos (.inl rfl), hsome]
    · exact readExponentDigits?_digitsOf false e hstops
    · exact hnot rfl
    · exact hnot rfl
  · next e hsome =>
    have hread := readExponentDigits?_digitsOf true (e + 1) hstops
    rw [List.cons_append, List.cons_append, readExponent?, if_pos (.inl rfl), hsome, hread]
    rfl

/-- The exponent, or what comes after it, is no digit and no point. -/
lemma stops_exponentChars (n : Number) (hrest : StopsNumber rest) :
    StopsDigits (n.exponentChars ++ rest) ∧ (n.exponentChars ++ rest).head? ≠ some '.' := by
  rw [Number.exponentChars]
  split
  · refine ⟨hrest.stopsDigits, fun hhead => ?_⟩
    exact (hrest '.' hhead).2.1 rfl
  · exact ⟨stopsDigits_cons.mpr rfl, by simp⟩
  · exact ⟨stopsDigits_cons.mpr rfl, by simp⟩

/-- The fraction, or what comes after it, is no digit. -/
lemma stopsDigits_fractionChars (n : Number) (hrest : StopsDigits rest) :
    StopsDigits (n.fractionChars ++ rest) := by
  rw [Number.fractionChars]
  split
  · exact hrest
  · exact stopsDigits_cons.mpr rfl

/-- A number is read back before a text that does not go on with it. -/
theorem readNumber?_write (h : n.IsProper) (hrest : StopsNumber rest) :
    readNumber? (n.write ++ rest) = some (n, rest) := by
  obtain ⟨hstops, hpoint⟩ := stops_exponentChars n hrest
  have hwhole := readWhole?_append h (stopsDigits_fractionChars n hstops)
  have hfraction := readFraction?_append h hstops hpoint
  have hexponent := @readExponent?_append rest n hrest
  have hwrite : n.write ++ rest = (if n.negative then ['-'] else [])
      ++ (n.whole ++ (n.fractionChars ++ (n.exponentChars ++ rest))) := by
    rw [← List.append_assoc, ← List.append_assoc, ← List.append_assoc]
    rfl
  rw [hwrite]
  cases hnegative : n.negative with
  | true =>
      rw [if_pos rfl, List.singleton_append, readNumber?]
      simp only [hwhole, hfraction, hexponent, Option.bind_eq_bind, Option.bind_some, ← hnegative]
      rfl
  | false =>
      rw [if_neg Bool.false_ne_true, List.nil_append, readNumber?]
      · simp only [hwhole, hfraction, hexponent, Option.bind_eq_bind, Option.bind_some,
          ← hnegative]
        rfl
      · exact fun _ => h.whole.append_ne_cons h.whole_ne_nil rfl

end Numbers

/-! ### Values -/

/-- A value is read back before every text that does not go on with a number. -/
def IsReadBack (v : Json) : Prop :=
  ∀ {fuel : ℕ} {rest : List Char}, v.writeChars.length ≤ fuel → StopsNumber rest →
    readValue? fuel (v.writeChars ++ rest) = some (v, rest)

section Values

variable {c : Char} {cs rest : List Char} {fuel : ℕ}

lemma skipBlanks_cons (h : isBlank c = false) : skipBlanks (c :: cs) = c :: cs := by
  simp [skipBlanks, h]

lemma isBlank_of_isDigit {c : Char} (h : c.isDigit = true) : isBlank c = false := by
  have hne {mark : Char} (hmark : mark.isDigit = false) : (c == mark) = false :=
    beq_eq_false_iff_ne.mpr (ne_of_isDigit h hmark)
  simp [isBlank, hne]

/-- A number starts with its sign or with a digit. -/
lemma Number.IsProper.exists_write_eq {n : Number} (h : n.IsProper) :
    ∃ c cs, n.write = c :: cs ∧ (c = '-' ∨ c.isDigit = true) := by
  cases hwhole : n.whole with
  | nil => exact absurd hwhole h.whole_ne_nil
  | cons c cs =>
      have hc : c.isDigit = true := h.whole c (hwhole ▸ List.mem_cons_self)
      rw [Number.write, hwhole]
      cases n.negative with
      | true => exact ⟨'-', _, rfl, .inl rfl⟩
      | false => exact ⟨c, _, rfl, .inr hc⟩

/-- The text of a value starts neither with a blank nor with a closing bracket. -/
lemma exists_writeChars_eq {v : Json} (h : v.IsProper) :
    ∃ c cs, v.writeChars = c :: cs ∧ isBlank c = false ∧ c ≠ ']' := by
  cases h with
  | null => exact ⟨'n', _, rfl, rfl, by decide⟩
  | bool value =>
      cases value with
      | true => exact ⟨'t', _, rfl, rfl, by decide⟩
      | false => exact ⟨'f', _, rfl, rfl, by decide⟩
  | number h =>
      obtain ⟨c, cs, hcs, rfl | hc⟩ := h.exists_write_eq
      · exact ⟨_, cs, by rw [writeChars, hcs], rfl, by decide⟩
      · exact ⟨c, cs, by rw [writeChars, hcs], isBlank_of_isDigit hc, ne_of_isDigit hc rfl⟩
  | string value => exact ⟨'"', _, by rw [writeChars]; rfl, rfl, by decide⟩
  | array h => exact ⟨'[', _, by rw [writeChars]; rfl, rfl, by decide⟩
  | object h => exact ⟨'\x7b', _, by rw [writeChars]; rfl, rfl, by decide⟩

lemma writeItems_cons_cons (item item' : Json) (items : List Json) :
    writeItems (item :: item' :: items)
      = item.writeChars ++ ',' :: writeItems (item' :: items) := by
  rw [writeItems]
  simp

lemma writeMembers_singleton (name : String) (value : Json) :
    writeMembers [(name, value)]
      = '"' :: (name.toList.flatMap writeChar ++ '"' :: ':' :: value.writeChars) := by
  simp [writeMembers, writeString]

lemma writeMembers_cons_cons (name : String) (value : Json) (m : String × Json)
    (members : List (String × Json)) :
    writeMembers ((name, value) :: m :: members)
      = '"' :: (name.toList.flatMap writeChar ++ '"' :: ':' :: (value.writeChars
        ++ ',' :: writeMembers (m :: members))) := by
  simp [writeMembers, writeString]

/-- So does that of items. -/
lemma exists_writeItems_eq {item : Json} (items : List Json) (h : item.IsProper) :
    ∃ c cs, writeItems (item :: items) = c :: cs ∧ isBlank c = false ∧ c ≠ ']' := by
  obtain ⟨c, cs, hcs, hblank, hbracket⟩ := exists_writeChars_eq h
  cases items with
  | nil => exact ⟨c, cs, by rw [writeItems, hcs], hblank, hbracket⟩
  | cons item' items =>
      exact ⟨c, cs ++ ',' :: writeItems (item' :: items),
        by rw [writeItems_cons_cons, hcs, List.cons_append], hblank, hbracket⟩

/-- The text of members starts with a quote. -/
lemma exists_writeMembers_eq (m : String × Json) (members : List (String × Json)) :
    ∃ cs, writeMembers (m :: members) = '"' :: cs := by
  cases members with
  | nil => exact ⟨_, writeMembers_singleton m.1 m.2⟩
  | cons m' members => exact ⟨_, writeMembers_cons_cons m.1 m.2 m' members⟩

/-- Numbers are read back. -/
lemma isReadBack_number {n : Number} (h : n.IsProper) : IsReadBack (number n) := by
  intro fuel rest hfuel hrest
  obtain ⟨c, cs, hcs, hc⟩ := h.exists_write_eq
  have hread := readNumber?_write h hrest
  have hblank : isBlank c = false := by
    rcases hc with rfl | hc
    · rfl
    · exact isBlank_of_isDigit hc
  have hne {mark : Char} (hmark : mark.isDigit = false) (hminus : mark ≠ '-') : c ≠ mark := by
    rcases hc with rfl | hc
    · exact hminus.symm
    · exact ne_of_isDigit hc hmark
  rw [writeChars, hcs] at hfuel ⊢
  rw [hcs] at hread
  obtain ⟨fuel, rfl⟩ : ∃ k, fuel = k + 1 := ⟨fuel - 1, by simp at hfuel; omega⟩
  rw [List.cons_append] at hread ⊢
  rw [readValue?, skipBlanks_cons hblank]
  split
  case h_7 => rw [hread]; rfl
  all_goals
    rename_i heq
    exact absurd (List.cons.inj heq).1 (hne rfl (by decide))

/-- Items that are read back are so in an array. -/
lemma readItems?_writeItems {items : List Json} (hne : items ≠ [])
    (hback : ∀ item ∈ items, item.IsReadBack) (hfuel : (writeItems items).length < fuel) :
    readItems? fuel (writeItems items ++ ']' :: rest) = some (items, rest) := by
  induction items generalizing fuel with
  | nil => exact absurd rfl hne
  | cons item items ih =>
      obtain ⟨fuel, rfl⟩ : ∃ k, fuel = k + 1 := ⟨fuel - 1, by omega⟩
      obtain ⟨hitem, hitems⟩ := List.forall_mem_cons.mp hback
      cases items with
      | nil =>
          rw [writeItems] at hfuel ⊢
          have hread := @hitem fuel (']' :: rest) (by omega) (by simp [stopsNumber_cons])
          rw [readItems?, hread]
          simp [skipBlanks_cons (show isBlank ']' = false from rfl)]
      | cons item' items =>
          rw [writeItems_cons_cons] at hfuel ⊢
          rw [List.length_append, List.length_cons] at hfuel
          have hread := @hitem fuel (',' :: (writeItems (item' :: items) ++ ']' :: rest)) (by omega)
            (by simp [stopsNumber_cons])
          have hrest := ih (List.cons_ne_nil _ _) hitems (show _ < fuel by omega)
          rw [List.append_assoc, List.cons_append, readItems?, hread]
          simp [skipBlanks_cons (show isBlank ',' = false from rfl), hrest]

/-- Members whose values are read back are so in an object. -/
lemma readMembers?_writeMembers {members : List (String × Json)} (hne : members ≠ [])
    (hback : ∀ m ∈ members, m.2.IsReadBack) (hfuel : (writeMembers members).length ≤ fuel) :
    readMembers? fuel (writeMembers members ++ '\x7d' :: rest)
      = some (members.map fun m => (some m.1, m.2), rest) := by
  -- on the members; each of them takes one unit of the fuel away
  induction members generalizing fuel with
  | nil => exact absurd rfl hne
  | cons member members ih =>
      obtain ⟨name, value⟩ := member
      obtain ⟨hvalue, hmembers⟩ := List.forall_mem_cons.mp hback
      have hvalue : value.IsReadBack := hvalue
      have hquote : isBlank '"' = false := rfl
      have hcolon : isBlank ':' = false := rfl
      have hbrace : isBlank '\x7d' = false := rfl
      cases members with
      | nil =>
          rw [writeMembers_singleton] at hfuel ⊢
          simp only [List.length_cons, List.length_append] at hfuel
          obtain ⟨fuel, rfl⟩ : ∃ k, fuel = k + 1 := ⟨fuel - 1, by omega⟩
          have hread := @hvalue fuel ('\x7d' :: rest) (by omega) (by simp [stopsNumber_cons])
          simp only [List.cons_append, List.append_assoc, readMembers?, skipBlanks_cons hquote]
          rw [readString?_writeString]
          simp [skipBlanks_cons hcolon, hread, skipBlanks_cons hbrace]
      | cons member' members =>
          rw [writeMembers_cons_cons] at hfuel ⊢
          simp only [List.length_cons, List.length_append] at hfuel
          obtain ⟨fuel, rfl⟩ : ∃ k, fuel = k + 1 := ⟨fuel - 1, by omega⟩
          have hread := @hvalue fuel (',' :: (writeMembers (member' :: members) ++ '\x7d' :: rest))
            (by omega) (by simp [stopsNumber_cons])
          have hrest := ih (List.cons_ne_nil _ _) hmembers (show _ ≤ fuel by omega)
          simp only [List.cons_append, List.append_assoc, readMembers?, skipBlanks_cons hquote]
          rw [readString?_writeString]
          simp [skipBlanks_cons hcolon, hread, skipBlanks_cons (show isBlank ',' = false from rfl),
            hrest]

lemma ofMembers_map (members : List (String × Json)) :
    ofMembers (members.map fun m => (some m.1, m.2)) = object members := by
  -- no name is lost: all of them can be read
  have hmap : (members.map fun m => (some m.1, m.2)).mapM
      (fun m : Option String × Json => m.1.map fun n => (n, m.2)) = some members := by
    induction members with
    | nil => rfl
    | cons m members ih => simp [ih]
  rw [ofMembers, show List.mapM _ _ = some members from hmap]

/-- Every proper value is read back. -/
theorem IsProper.isReadBack {v : Json} (h : v.IsProper) : v.IsReadBack := by
  -- on how the value is built; the fuel is enough, for a value is shorter than its text
  induction h with
  | null =>
      intro fuel rest hfuel hrest
      rw [writeChars] at hfuel
      obtain ⟨fuel, rfl⟩ : ∃ k, fuel = k + 1 := ⟨fuel - 1, by simp at hfuel; omega⟩
      rfl
  | bool value =>
      intro fuel rest hfuel hrest
      obtain ⟨fuel, rfl⟩ : ∃ k, fuel = k + 1 :=
        ⟨fuel - 1, by cases value <;> simp [writeChars] at hfuel <;> omega⟩
      cases value <;> rfl
  | number h => exact isReadBack_number h
  | string value =>
      intro fuel rest hfuel hrest
      rw [writeChars, writeString] at hfuel ⊢
      obtain ⟨fuel, rfl⟩ : ∃ k, fuel = k + 1 := ⟨fuel - 1, by simp at hfuel; omega⟩
      simp only [List.cons_append, List.append_assoc, readValue?,
        skipBlanks_cons (show isBlank '"' = false from rfl), List.nil_append]
      rw [readString?_writeString]
      rfl
  | @array items h ih =>
      intro fuel rest hfuel hrest
      rw [writeChars] at hfuel ⊢
      simp only [List.cons_append, List.length_cons, List.length_append, List.append_assoc,
        List.nil_append] at hfuel ⊢
      obtain ⟨fuel, rfl⟩ : ∃ k, fuel = k + 1 := ⟨fuel - 1, by omega⟩
      rw [readValue?, skipBlanks_cons (by rfl)]
      cases items with
      | nil => rfl
      | cons item items =>
          -- the reader looks at the first character, to see whether the array is empty
          obtain ⟨c, cs, hcs, hblank, hbracket⟩ :=
            exists_writeItems_eq items (h item List.mem_cons_self)
          have hread := @readItems?_writeItems rest fuel (item :: items) (List.cons_ne_nil _ _) ih
            (by omega)
          rw [hcs, List.cons_append] at hread ⊢
          simp [skipBlanks_cons hblank, hbracket, hread]
  | @object members h ih =>
      intro fuel rest hfuel hrest
      rw [writeChars] at hfuel ⊢
      simp only [List.cons_append, List.length_cons, List.length_append, List.append_assoc,
        List.nil_append] at hfuel ⊢
      obtain ⟨fuel, rfl⟩ : ∃ k, fuel = k + 1 := ⟨fuel - 1, by omega⟩
      rw [readValue?, skipBlanks_cons (by rfl)]
      cases members with
      | nil => rfl
      | cons m members =>
          obtain ⟨cs, hcs⟩ := exists_writeMembers_eq m members
          have hread := @readMembers?_writeMembers rest fuel (m :: members) (List.cons_ne_nil _ _)
            ih (by omega)
          have hmembers := ofMembers_map (m :: members)
          rw [hcs, List.cons_append] at hread ⊢
          show (readMembers? fuel ('"' :: (cs ++ '\x7d' :: rest))).map _ = _
          simp only [hread, Option.map_some, hmembers]

/-- The text of every proper value is read back. -/
theorem read?_write {v : Json} (h : v.IsProper) : read? v.write = some v := by
  have hlength : v.writeChars.length ≤ 2 * v.write.length + 2 := by
    rw [write, String.length_ofList]
    omega
  have hread := h.isReadBack hlength stopsNumber_nil
  rw [List.append_nil] at hread
  rw [read?, show v.write.toList = v.writeChars from String.toList_ofList, hread]
  rfl

end Values

end Teller.Json
