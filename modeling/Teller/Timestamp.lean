/-
Instants on the calendar, in UTC, to the nanosecond.

* `Date`: a day of the Gregorian calendar, with the next and the previous day;
* `Timestamp`: a day, a second of that day, and nanoseconds; a leap second is the 59th second of a
  minute with more than a thousand million nanoseconds;
* `Timestamp.toString` and `Timestamp.parse?`: the written form and its reader;
* `Timestamp.ofEpochMillis`: the instant so many milliseconds after the start of 1970.
-/
import Teller.Text.Digits
import Teller.Text.Blank

namespace Teller

/-! ### Days -/

/-- Has the year a 29th of February? -/
def isLeapYear (year : Int) : Bool :=
  year % 4 = 0 && (year % 100 ≠ 0 || year % 400 = 0)

/-- The number of days of a month. -/
def monthLength (year : Int) (month : Nat) : Nat :=
  if month = 2 then (if isLeapYear year then 29 else 28)
  else if month ∈ [4, 6, 9, 11] then 30
  else 31

/-- Every month has at least one day. -/
theorem monthLength_pos (year : Int) (month : Nat) : 1 ≤ monthLength year month := by
  unfold monthLength
  repeat' split
  all_goals decide

/-- A day of the calendar. -/
structure Date where
  year : Int
  month : Nat
  day : Nat
  month_range : 1 ≤ month ∧ month ≤ 12
  day_range : 1 ≤ day ∧ day ≤ monthLength year month
  deriving DecidableEq

namespace Date

/-- The day with these numbers, if the calendar has it. -/
def ofNumbers? (year : Int) (month day : Nat) : Option Date :=
  if h : (1 ≤ month ∧ month ≤ 12) ∧ (1 ≤ day ∧ day ≤ monthLength year month) then
    some ⟨year, month, day, h.1, h.2⟩
  else none

/-- The day after. -/
def next (d : Date) : Date :=
  if h : d.day < monthLength d.year d.month then
    ⟨d.year, d.month, d.day + 1, d.month_range, ⟨Nat.le_add_left 1 _, h⟩⟩
  else if h : d.month < 12 then
    ⟨d.year, d.month + 1, 1, ⟨Nat.le_add_left 1 _, h⟩, ⟨Nat.le_refl 1, monthLength_pos _ _⟩⟩
  else
    ⟨d.year + 1, 1, 1, by decide, ⟨Nat.le_refl 1, monthLength_pos _ _⟩⟩

/-- The day before. -/
def previous (d : Date) : Date :=
  if h : 1 < d.day then
    ⟨d.year, d.month, d.day - 1, d.month_range, by
      have := d.day_range
      omega⟩
  else if h : 1 < d.month then
    ⟨d.year, d.month - 1, monthLength d.year (d.month - 1), by
      have := d.month_range
      omega, ⟨monthLength_pos _ _, Nat.le_refl _⟩⟩
  else
    ⟨d.year - 1, 12, monthLength (d.year - 1) 12, by decide, ⟨monthLength_pos _ _, Nat.le_refl _⟩⟩

/-- The lengths of the months repeat after 400 years. -/
theorem monthLength_add_cycles (year : Int) (cycles month : Nat) :
    monthLength (year + 400 * cycles) month = monthLength year month := by
  have h : isLeapYear (year + 400 * cycles) = isLeapYear year := by
    unfold isLeapYear
    congr 1
    · congr 1
      apply propext
      constructor <;> intro h <;> omega
    · congr 1 <;> congr 1 <;> apply propext <;> constructor <;> intro h <;> omega
  unfold monthLength
  rw [h]

/-- The same day of the year, so many times 400 years later. -/
def addCycles (d : Date) (cycles : Nat) : Date where
  year := d.year + 400 * cycles
  month := d.month
  day := d.day
  month_range := d.month_range
  day_range := by
    rw [monthLength_add_cycles]
    exact d.day_range

/-- The days of 400 years. -/
def cycleDays : Nat := 146097

/-- The day so many days later. -/
def addDays (d : Date) (days : Nat) : Date :=
  (Nat.repeat next (days % cycleDays) d).addCycles (days / cycleDays)

/-- The first day of 1970. -/
def epoch : Date := ⟨1970, 1, 1, by decide, by decide⟩

end Date

/-! ### Instants -/

/-- The seconds of a day. -/
def daySeconds : Nat := 86400

/-- The nanoseconds of a second. -/
def secondNanos : Nat := 10 ^ 9

/-- An instant. -/
structure Timestamp where
  date : Date
  second : Nat
  nanos : Nat
  second_lt : second < daySeconds
  nanos_lt : nanos < 2 * secondNanos
  deriving DecidableEq

namespace Timestamp

/-- The numbers of an instant from the most to the least significant. -/
def key (t : Timestamp) : List Int :=
  [t.date.year, t.date.month, t.date.day, t.second, t.nanos]

instance : LE Timestamp where
  le a b := a.key ≤ b.key

instance (a b : Timestamp) : Decidable (a ≤ b) :=
  inferInstanceAs (Decidable (a.key ≤ b.key))

/-- The start of 1970. -/
def epoch : Timestamp := ⟨.epoch, 0, 0, by decide, by decide⟩

/-- The instant so many milliseconds after the start of 1970. -/
def ofEpochMillis (millis : Nat) : Timestamp where
  date := Date.epoch.addDays (millis / 1000 / daySeconds)
  second := millis / 1000 % daySeconds
  nanos := millis % 1000 * 10 ^ 6
  second_lt := Nat.mod_lt _ (by decide)
  nanos_lt := by
    have : millis % 1000 < 1000 := Nat.mod_lt _ (by decide)
    unfold secondNanos
    omega

/-! ### Writing -/

/-- The year: four digits, or a sign and at least four digits outside the years 0 to 9999. -/
def yearChars (year : Int) : List Char :=
  if 0 ≤ year ∧ year ≤ 9999 then Text.padded 4 year.toNat
  else (if year < 0 then '-' else '+') :: Text.padded 4 year.natAbs

/-- The fraction of a second with the fewest of zero, three, six and nine digits. -/
def fractionChars (nanos : Nat) : List Char :=
  if nanos = 0 then []
  else if nanos % 10 ^ 6 = 0 then '.' :: Text.padded 3 (nanos / 10 ^ 6)
  else if nanos % 10 ^ 3 = 0 then '.' :: Text.padded 6 (nanos / 10 ^ 3)
  else '.' :: Text.padded 9 nanos

/-- The written form. The second of the minute is 60 during a leap second. -/
def toString (t : Timestamp) : String :=
  let leap := t.nanos / secondNanos
  String.ofList (yearChars t.date.year ++ '-' :: Text.padded 2 t.date.month
    ++ '-' :: Text.padded 2 t.date.day
    ++ 'T' :: Text.padded 2 (t.second / 3600)
    ++ ':' :: Text.padded 2 (t.second / 60 % 60)
    ++ ':' :: Text.padded 2 (t.second % 60 + leap)
    ++ fractionChars (t.nanos % secondNanos) ++ ['Z'])

instance : ToString Timestamp := ⟨toString⟩

/-! ### Reading

A reader takes characters from the front of a list and answers with what they mean and the rest. -/

/-- The list without the white space at its front. -/
def skipBlanks (cs : List Char) : List Char := cs.dropWhile Text.isBlank

/-- A number of at least one digit, of no more than `most` digits, after white space. -/
def readNumber? (most : Nat) (cs : List Char) : Option (Nat × List Char) :=
  let cs := skipBlanks cs
  let ds := (cs.take most).takeWhile Char.isDigit
  if ds = [] then none else some (Text.valueOf ds, cs.drop ds.length)

/-- The given character, after white space. -/
def readMark? (mark : Char) (cs : List Char) : Option (List Char) :=
  match skipBlanks cs with
  | c :: rest => if c = mark then some rest else none
  | [] => none

/-- The year: up to four digits, or a sign and any number of digits. -/
def readYear? (cs : List Char) : Option (Int × List Char) :=
  let signed (negative : Bool) (rest : List Char) : Option (Int × List Char) :=
    let ds := rest.takeWhile Char.isDigit
    if ds = [] then none
    else some (if negative then -(Text.valueOf ds : Int) else Text.valueOf ds, rest.drop ds.length)
  match skipBlanks cs with
  | '-' :: rest => signed true rest
  | '+' :: rest => signed false rest
  | cs => (readNumber? 4 cs).map fun (n, rest) => ((n : Int), rest)

/-- The years that the calendar covers. -/
def yearInRange (year : Int) : Bool :=
  -262143 ≤ year && year ≤ 262142

/-- Year, month and day. -/
def readDate? (cs : List Char) : Option (Date × List Char) := do
  let (year, cs) ← readYear? cs
  let cs ← readMark? '-' cs
  let (month, cs) ← readNumber? 2 cs
  let cs ← readMark? '-' cs
  let (day, cs) ← readNumber? 2 cs
  if yearInRange year then (Date.ofNumbers? year month day).map (·, cs) else none

/-- The letter or space between the day and the time of day. -/
def readSeparator? : List Char → Option (List Char)
  | [] => none
  | c :: rest => if c = 'T' ∨ c = 't' ∨ c = ' ' then some rest else none

/-- An optional fraction of a second, in nanoseconds. Digits after the ninth are not looked at. -/
def readFraction? : List Char → Option (Nat × List Char)
  | '.' :: cs =>
    let ds := cs.takeWhile Char.isDigit
    let nine := ds.take 9
    if ds = [] then none
    else some (Text.valueOf nine * 10 ^ (9 - nine.length), cs.drop ds.length)
  | cs => some (0, cs)

/-- The time of day: the second of the day and nanoseconds, the latter past a second in
second 60. -/
def readTime? (cs : List Char) : Option ((Nat × Nat) × List Char) := do
  let (hour, cs) ← readNumber? 2 cs
  let cs ← readMark? ':' cs
  let (minute, cs) ← readNumber? 2 cs
  let cs ← readMark? ':' cs
  let (second, cs) ← readNumber? 2 cs
  let (nanos, cs) ← readFraction? cs
  if hour < 24 ∧ minute < 60 ∧ second ≤ 60 then
    let leap := second / 60
    some ((hour * 3600 + minute * 60 + (second - leap), nanos + leap * secondNanos), cs)
  else none

/-- Exactly two digits. -/
def readTwoDigits? : List Char → Option (Nat × List Char)
  | a :: b :: rest => if a.isDigit && b.isDigit then some (Text.valueOf [a, b], rest) else none
  | _ => none

/-- The offset of the local time from UTC in seconds: Z, UTC, or a sign, hours and minutes. -/
def readOffset? (cs : List Char) : Option (Int × List Char) :=
  let numeric (negative : Bool) (cs : List Char) : Option (Int × List Char) := do
    let (hours, cs) ← readTwoDigits? cs
    let (minutes, cs) ← readTwoDigits? (cs.dropWhile fun c => c == ':' || Text.isBlank c)
    if hours < 24 ∧ minutes < 60 then
      let size : Int := (hours * 3600 + minutes * 60 : Nat)
      some (if negative then -size else size, cs)
    else none
  let cs := skipBlanks cs
  if (cs.take 3).map Char.toUpper = ['U', 'T', 'C'] then some (0, cs.drop 3)
  else match cs with
    | 'Z' :: rest => some (0, rest)
    | 'z' :: rest => some (0, rest)
    | '+' :: rest => numeric false rest
    | '-' :: rest => numeric true rest
    | '\u2212' :: rest => numeric true rest
    | _ => none

/-- The instant at which a clock that is `offset` seconds ahead of UTC shows this date and time, if
it lies in the years that the calendar covers. -/
def ofLocal? (date : Date) (second nanos : Nat) (offset : Int) : Option Timestamp :=
  let utc := (second : Int) - offset
  let (date, utc) :=
    if utc < 0 then (date.previous, utc + daySeconds)
    else if (daySeconds : Int) ≤ utc then (date.next, utc - daySeconds)
    else (date, utc)
  if h : utc.toNat < daySeconds ∧ nanos < 2 * secondNanos then
    if yearInRange date.year then some ⟨date, utc.toNat, nanos, h.1, h.2⟩ else none
  else none

/-- The instant that a text denotes: date, time of day and offset. -/
def parse? (s : String) : Option Timestamp := do
  let (date, cs) ← readDate? s.toList
  let cs ← readSeparator? cs
  let ((second, nanos), cs) ← readTime? cs
  let (offset, cs) ← readOffset? cs
  if skipBlanks cs = [] then ofLocal? date second nanos offset else none

end Timestamp

end Teller
