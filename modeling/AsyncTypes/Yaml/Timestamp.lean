import AsyncTypes.Json.Reader
import AsyncTypes.Value.Text
import AsyncTypes.Yaml.Fault

/-!
# Timestamps

A timestamp is a date, perhaps followed by a time of the day, and the time perhaps by
its distance to universal time.  Its form and its range are checked apart: a text of the
right form that names no day or no time is refused.
-/

namespace AsyncTypes.Yaml

/-! ## Form -/

/-- A distance to universal time, as it is written. -/
structure Zone where
  negative : Bool
  hours : Nat
  minutes : Nat

/-- A time of the day, as it is written. -/
structure Clock where
  hour : Nat
  minute : Nat
  second : Nat
  fraction : List Char
  zone : Option Zone

/-- A date and perhaps a time, as they are written.  A date in full has two digits for
the month and for the day. -/
structure Timestamp where
  year : Nat
  month : Nat
  day : Nat
  isFullDate : Bool
  clock : Option Clock

namespace Timestamp

/-- Between `least` and `most` digits at the start of a text: their value, and the rest. -/
def digits? (least most : Nat) (text : List Char) : Option (Nat × List Char) :=
  let found := (text.take most).takeWhile Char.isDigit
  if least ≤ found.length then some (Json.natOfDigits found, text.drop found.length) else none

/-- The rest of a text behind a known character. -/
def behind? (c : Char) : List Char → Option (List Char)
  | [] => none
  | first :: rest => if first == c then some rest else none

/-- The text is blank inside a line. -/
def isBlank (c : Char) : Bool :=
  c == ' ' || c == '\t'

/-- Hours, and minutes behind a colon if there are any. -/
def zoneOffset? (negative : Bool) (text : List Char) : Option Zone := do
  let (hours, rest) ← digits? 1 2 text
  match rest with
  | [] => some ⟨negative, hours, 0⟩
  | _ =>
      let (minutes, rest) ← (behind? ':' rest).bind (digits? 2 2)
      if rest.isEmpty then some ⟨negative, hours, minutes⟩ else none

/-- A zone, or nothing, up to the end of a text. -/
def zone? (text : List Char) : Option (Option Zone) :=
  if text.isEmpty then some none
  else
    match text.dropWhile isBlank with
    | ['Z'] => some (some ⟨false, 0, 0⟩)
    | '+' :: rest => (zoneOffset? false rest).map some
    | '-' :: rest => (zoneOffset? true rest).map some
    | _ => none

/-- A time of the day up to the end of a text. -/
def clock? (text : List Char) : Option Clock := do
  let (hour, rest) ← digits? 1 2 text
  let (minute, rest) ← (behind? ':' rest).bind (digits? 2 2)
  let (second, rest) ← (behind? ':' rest).bind (digits? 2 2)
  let (fraction, rest) := match rest with
    | '.' :: after => after.span Char.isDigit
    | _ => ([], rest)
  return ⟨hour, minute, second, fraction, ← zone? rest⟩

/-- The time behind a date: a letter or blanks stand between them. -/
def clockBehind? : List Char → Option (Option Clock)
  | [] => some none
  | c :: rest =>
      if c == 'T' || c == 't' then (clock? rest).map some
      else if isBlank c then (clock? (rest.dropWhile isBlank)).map some
      else none

/-- The timestamp that a text spells. -/
def ofText? (text : List Char) : Option Timestamp := do
  let (year, rest) ← digits? 4 4 text
  let inMonth ← behind? '-' rest
  let (month, rest) ← digits? 1 2 inMonth
  let inDay ← behind? '-' rest
  let (day, rest) ← digits? 1 2 inDay
  let clock ← clockBehind? rest
  let isFullDate := (digits? 2 2 inMonth).isSome && (digits? 2 2 inDay).isSome
  return ⟨year, month, day, isFullDate, clock⟩

/-- A plain scalar of this form is a timestamp without being tagged. -/
def isPlainForm (text : List Char) : Bool :=
  (ofText? text).any fun timestamp => timestamp.clock.isSome || timestamp.isFullDate

/-! ## Range -/

/-- The days of a month. -/
def daysIn (year month : Nat) : Nat :=
  if month = 2 then
    if year % 4 = 0 && (year % 100 != 0 || year % 400 = 0) then 29 else 28
  else if month = 4 || month = 6 || month = 9 || month = 11 then 30
  else 31

/-- The day of a timestamp. -/
def date (timestamp : Timestamp) : Except Fault Date :=
  let ⟨year, month, day, _, _⟩ := timestamp
  if year = 0 then .error (.badValue "year 0 is out of range")
  else if month = 0 || 12 < month then .error (.badValue "month must be in 1..12")
  else if day = 0 || daysIn year month < day then
    .error (.badValue "day is out of range for month")
  else .ok ⟨year, month, day⟩

/-- The minutes of a distance to universal time, which is less than a day. -/
def minutesOf (zone : Zone) : Except Fault Int :=
  let size : Int := zone.hours * 60 + zone.minutes
  let minutes := if zone.negative then -size else size
  if size < 24 * 60 then .ok minutes
  else
    let span := DateTime.spanQuoted (minutes * 60)
    .error (.badValue s!"offset must be a timedelta strictly between -timedelta(hours=24) and timedelta(hours=24), not {span}.")

/-- The microseconds of a fraction of a second; further digits do not count. -/
def microseconds (fraction : List Char) : Nat :=
  Json.natOfDigits ((fraction ++ List.replicate 6 '0').take 6)

/-- The value of a timestamp: a date, or a date with a time. -/
def value (timestamp : Timestamp) : Except Fault Scalar :=
  match timestamp.clock with
  | none => timestamp.date.map .date
  | some clock => do
      let offset ← match clock.zone with
        | none => pure none
        | some zone => (minutesOf zone).map some
      let date ← timestamp.date
      if 23 < clock.hour then .error (.badValue "hour must be in 0..23")
      if 59 < clock.minute then .error (.badValue "minute must be in 0..59")
      if 59 < clock.second then .error (.badValue "second must be in 0..59")
      return .dateTime ⟨date, clock.hour, clock.minute, clock.second,
        microseconds clock.fraction, offset⟩

end Timestamp

end AsyncTypes.Yaml
