import DeviceFlow.Decimal.Power
import DeviceFlow.Text.Blank
import DeviceFlow.Text.Digits

/-!
# Timestamps

Moments of Coordinated Universal Time in calendar form, their text, and the reading of texts
that give a moment together with its offset. A text is written with as many groups of three
fraction digits as it takes; the reader is more liberal and accepts blanks between the parts,
fields of one digit, and several ways to write the offset.
-/

namespace DeviceFlow

/-- A moment of Coordinated Universal Time. A minute may have a second number 60. -/
structure Timestamp where
  year : Int
  month : Nat
  day : Nat
  hour : Nat
  minute : Nat
  second : Nat
  /-- Nanoseconds within the second. -/
  nanos : Nat
  deriving DecidableEq, Repr

namespace Timestamp

/-- Whether a year has a 29th of February. -/
def isLeapYear (year : Int) : Bool :=
  year % 4 = 0 && (year % 100 ≠ 0 || year % 400 = 0)

/-- The number of days of a month. -/
def daysInMonth (year : Int) (month : Nat) : Nat :=
  if month = 2 then if isLeapYear year then 29 else 28
  else if month = 4 ∨ month = 6 ∨ month = 9 ∨ month = 11 then 30
  else 31

/-- The years that can be told. -/
def leastYear : Int := -262143

/-- The last year that can be told. -/
def greatestYear : Int := 262142

/-- Whether the fields name a moment of the calendar. -/
def Valid (t : Timestamp) : Prop :=
  leastYear ≤ t.year ∧ t.year ≤ greatestYear ∧ 1 ≤ t.month ∧ t.month ≤ 12 ∧ 1 ≤ t.day ∧
    t.day ≤ daysInMonth t.year t.month ∧ t.hour < 24 ∧ t.minute < 60 ∧ t.second ≤ 60 ∧
    t.nanos < 1000000000

instance (t : Timestamp) : Decidable t.Valid := by
  unfold Valid; exact inferInstance

/-! ## Writing -/

/-- A natural number with at least the given number of digits. -/
def padded (width n : Nat) : List Char :=
  let digits := Nat.toDigits 10 n
  List.replicate (width - digits.length) '0' ++ digits

/-- A year: four digits, and a sign as well outside of 0 to 9999. -/
def yearText (year : Int) : List Char :=
  if 0 ≤ year ∧ year ≤ 9999 then padded 4 year.toNat
  else (if year < 0 then '-' else '+') :: padded 4 year.natAbs

/-- The fraction of a second: nothing, or three, six or nine digits. -/
def fractionText (nanos : Nat) : List Char :=
  if nanos = 0 then []
  else if nanos % 1000000 = 0 then '.' :: padded 3 (nanos / 1000000)
  else if nanos % 1000 = 0 then '.' :: padded 6 (nanos / 1000)
  else '.' :: padded 9 nanos

/-- The characters of a moment. -/
def chars (t : Timestamp) : List Char :=
  yearText t.year ++ '-' :: padded 2 t.month ++ '-' :: padded 2 t.day ++
    'T' :: padded 2 t.hour ++ ':' :: padded 2 t.minute ++ ':' :: padded 2 t.second ++
    fractionText t.nanos ++ ['Z']

/-- The text of a moment. -/
def text (t : Timestamp) : String :=
  String.ofList t.chars

/-! ## Reading -/

/-- Reads a number of one to `width` digits. -/
def number? (width : Nat) (cs : List Char) : Option (Nat × List Char) :=
  let digits := (cs.take width).takeWhile Char.isDigit
  if digits.isEmpty then none else some (Text.digitsValue digits, cs.drop digits.length)

/-- Reads a field of at most two digits, blanks before it skipped. -/
def field? (cs : List Char) : Option (Nat × List Char) :=
  number? 2 (Text.trimStart cs)

/-- Reads a year: up to four digits, or any number of them after a sign. -/
def year? (cs : List Char) : Option (Int × List Char) :=
  match Text.trimStart cs with
  | '-' :: rest => (number? rest.length rest).map fun (n, rest) => (-n, rest)
  | '+' :: rest => (number? rest.length rest).map fun (n, rest) => (n, rest)
  | rest => (number? 4 rest).map fun (n, rest) => (n, rest)

/-- Reads a mark that has to stand there, blanks before it skipped. -/
def mark? (mark : Char) (cs : List Char) : Option (List Char) :=
  match Text.trimStart cs with
  | c :: rest => if c = mark then some rest else none
  | [] => none

/-- Reads the fraction of a second, if there is one; digits beyond the ninth are dropped. -/
def fraction? (cs : List Char) : Option (Nat × List Char) :=
  match cs with
  | '.' :: rest =>
    let digits := rest.takeWhile Char.isDigit
    if digits.isEmpty then none
    else
      let kept := digits.take 9
      some (Text.digitsValue kept * Decimal.tenTo (9 - kept.length), rest.dropWhile Char.isDigit)
  | _ => some (0, cs)

/-- Reads two digits exactly. -/
def twoDigits? : List Char → Option (Nat × List Char)
  | a :: b :: rest =>
    if a.isDigit && b.isDigit then some (Text.digitsValue [a, b], rest) else none
  | _ => none

/-- Reads an offset in minutes: the letter of the zero offset, its name, or a sign with hours
    and minutes. -/
def offset? (cs : List Char) : Option (Int × List Char) :=
  match Text.trimStart cs with
  | [] => none
  | c :: rest =>
    if ((c :: rest).take 3).map Char.toUpper = ['U', 'T', 'C'] then some (0, rest.drop 2)
    else if c = 'Z' ∨ c = 'z' then some (0, rest)
    else do
      let sign : Int ← if c = '+' then some 1 else if c = '-' ∨ c = '−' then some (-1) else none
      let (hours, rest) ← twoDigits? rest
      let rest := rest.dropWhile fun c => c = ':' || Text.isBlank c
      let (minutes, rest) ← twoDigits? rest
      if minutes < 60 ∧ hours < 24 then some (sign * (hours * 60 + minutes), rest) else none

/-- The day before. -/
def previousDay (t : Timestamp) : Timestamp :=
  if 1 < t.day then { t with day := t.day - 1 }
  else if 1 < t.month then
    { t with month := t.month - 1, day := daysInMonth t.year (t.month - 1) }
  else { t with year := t.year - 1, month := 12, day := 31 }

/-- The day after. -/
def nextDay (t : Timestamp) : Timestamp :=
  if t.day < daysInMonth t.year t.month then { t with day := t.day + 1 }
  else if t.month < 12 then { t with month := t.month + 1, day := 1 }
  else { t with year := t.year + 1, month := 1, day := 1 }

/-- The moment at which clocks with the given offset in minutes show the fields of `t`. -/
def atOffset (t : Timestamp) (offset : Int) : Timestamp :=
  let minutes := (t.hour * 60 + t.minute : Int) - offset
  let day := if minutes < 0 then t.previousDay else if minutes < 1440 then t else t.nextDay
  let minutes := (minutes % 1440).toNat
  { day with hour := minutes / 60, minute := minutes % 60 }

/-- Reads the characters of a moment with its offset. -/
def ofChars? (cs : List Char) : Option Timestamp := do
  let (year, cs) ← year? cs
  let cs ← mark? '-' cs
  let (month, cs) ← field? cs
  let cs ← mark? '-' cs
  let (day, cs) ← field? cs
  let cs ←
    match cs with
    | c :: rest => if c = 'T' ∨ c = 't' ∨ c = ' ' then some rest else none
    | [] => none
  let (hour, cs) ← field? cs
  let cs ← mark? ':' cs
  let (minute, cs) ← field? cs
  let cs ← mark? ':' cs
  let (second, cs) ← field? cs
  let (nanos, cs) ← fraction? cs
  let (offset, cs) ← offset? cs
  let t : Timestamp := ⟨year, month, day, hour, minute, second, nanos⟩
  if Text.trimStart cs = [] ∧ t.Valid ∧ (t.atOffset offset).Valid then some (t.atOffset offset)
  else none

/-- Reads a moment with its offset. -/
def ofText? (s : String) : Option Timestamp :=
  ofChars? s.toList

/-! ## Counting days -/

/-- The number of days from the first of March of the year 0 to a date. -/
def dayNumber (t : Timestamp) : Int :=
  let year := if t.month ≤ 2 then t.year - 1 else t.year
  let month : Int := if t.month ≤ 2 then t.month + 9 else t.month - 3
  let era := year / 400
  let yearOfEra := year % 400
  era * 146097 + yearOfEra * 365 + yearOfEra / 4 - yearOfEra / 100 + (153 * month + 2) / 5 +
    t.day - 1

/-- Sets the date to the one with the given number. -/
def withDayNumber (t : Timestamp) (n : Int) : Timestamp :=
  let era := n / 146097
  let dayOfEra := n % 146097
  let yearOfEra := (dayOfEra - dayOfEra / 1460 + dayOfEra / 36524 - dayOfEra / 146096) / 365
  let dayOfYear := dayOfEra - (365 * yearOfEra + yearOfEra / 4 - yearOfEra / 100)
  let month := (5 * dayOfYear + 2) / 153
  let day := dayOfYear - (153 * month + 2) / 5 + 1
  let month := if month < 10 then month + 3 else month - 9
  let year := yearOfEra + era * 400 + (if month ≤ 2 then 1 else 0)
  { t with year := year, month := month.toNat, day := day.toNat }

/-- The moment a number of milliseconds later. -/
def addMillis (t : Timestamp) (ms : Nat) : Timestamp :=
  let total := t.nanos / 1000000 + 1000 * (t.second + 60 * (t.minute + 60 * t.hour)) + ms
  let rest := total % 86400000
  let t' := if total < 86400000 then t else t.withDayNumber (t.dayNumber + (total / 86400000 : Nat))
  { t' with
    hour := rest / 3600000
    minute := rest / 60000 % 60
    second := rest / 1000 % 60
    nanos := rest % 1000 * 1000000 + t.nanos % 1000000 }

end Timestamp

end DeviceFlow
