import Supergraph.Decimal.Layout

/-!
# Dates and times of day

The dates of the calendar from the year 1 to 9999, and times of day with millionths of a second and
an optional distance from universal time.

## Main definitions

* `Date`, `Moment` — dates, and dates with a time of day
* `Date.check`, `Moment.check` — what is wrong with numbers that are no date or time
* `Date.text`, `Moment.text` — how they are written
* `Date.literal`, `Moment.literal` — how lists and messages show them
-/

namespace Supergraph.Yaml

/-- A date. -/
structure Date where
  year : Nat
  month : Nat
  day : Nat
  deriving DecidableEq, Repr, Inhabited

/-- A date with a time of day. The offset is the distance from universal time in minutes. -/
structure Moment where
  date : Date
  hour : Nat
  minute : Nat
  second : Nat
  micro : Nat
  offset : Option Int
  deriving DecidableEq, Repr, Inhabited

/-- How many days a month has. -/
def daysIn (year month : Nat) : Nat :=
  if month = 2 then
    if year % 4 = 0 ∧ (year % 100 ≠ 0 ∨ year % 400 = 0) then 29 else 28
  else if [4, 6, 9, 11].contains month then 30 else 31

/-- What is wrong with the numbers of a date. -/
def Date.check (d : Date) : Option String :=
  if d.year = 0 then some s!"year {d.year} is out of range"
  else if d.month = 0 || 12 < d.month then some "month must be in 1..12"
  else if d.day = 0 || daysIn d.year d.month < d.day then some "day is out of range for month"
  else none

/-- How many days lie between the first day of the calendar and a date. -/
def Date.dayNumber (d : Date) : Nat :=
  let years := d.year - 1
  let months := (List.range (d.month - 1)).foldl (fun n i => n + daysIn d.year (i + 1)) 0
  365 * years + years / 4 - years / 100 + years / 400 + months + (d.day - 1)

/-- How many millionths of a second lie between the beginning of the calendar and a time, by the
clock that shows it and, if its distance from universal time is known, by universal time. -/
def Moment.micros (m : Moment) : Int :=
  let minutes := (m.date.dayNumber * 24 + m.hour) * 60 + m.minute
  (((minutes : Int) - m.offset.getD 0) * 60 + m.second) * 1000000 + m.micro

/-- Whether two times are one. A time whose distance from universal time is not known is none of the
others. -/
def Moment.isSameInstant (m n : Moment) : Bool :=
  m.offset.isSome == n.offset.isSome && m.micros == n.micros

/-- Two digits of a number. -/
def two (n : Nat) : String := Layout.padded 2 n

/-- The date as it is written. -/
def Date.text (d : Date) : String :=
  Layout.padded 4 d.year ++ "-" ++ two d.month ++ "-" ++ two d.day

/-- The distance from universal time as it is written. -/
def offsetText (minutes : Int) : String :=
  (if minutes < 0 then "-" else "+") ++ two (minutes.natAbs / 60) ++ ":" ++ two (minutes.natAbs % 60)

/-- The time as it is written. -/
def Moment.text (m : Moment) : String :=
  m.date.text ++ " " ++ two m.hour ++ ":" ++ two m.minute ++ ":" ++ two m.second
    ++ (if m.micro = 0 then "" else "." ++ Layout.padded 6 m.micro)
    ++ (m.offset.map offsetText).getD ""

/-- Numbers with commas between them. -/
def numberList (ns : List Nat) : String :=
  String.intercalate ", " (ns.map fun n => toString n)

/-- The date as lists and messages show it. -/
def Date.literal (d : Date) : String :=
  "datetime.date(" ++ numberList [d.year, d.month, d.day] ++ ")"

/-- A distance in minutes in days and seconds, of which the seconds are less than a day and not
negative. Parts that are zero are left out. -/
def durationLiteral (minutes : Int) : String :=
  let days := minutes.fdiv 1440
  let seconds := 60 * minutes.fmod 1440
  let parts := (if days = 0 then [] else [s!"days={days}"])
    ++ (if seconds = 0 then [] else [s!"seconds={seconds}"])
  "datetime.timedelta(" ++ (if parts.isEmpty then "0" else String.intercalate ", " parts) ++ ")"

/-- The distance from universal time as lists and messages show it. -/
def offsetLiteral (minutes : Int) : String :=
  if minutes = 0 then "datetime.timezone.utc"
  else s!"datetime.timezone({durationLiteral minutes})"

/-- The time as lists and messages show it, without seconds and millionths that are zero. -/
def Moment.literal (m : Moment) : String :=
  let d := m.date
  let least := if m.micro ≠ 0 then [m.second, m.micro] else if m.second ≠ 0 then [m.second] else []
  "datetime.datetime(" ++ numberList ([d.year, d.month, d.day, m.hour, m.minute] ++ least)
    ++ (m.offset.map fun o => ", tzinfo=" ++ offsetLiteral o).getD "" ++ ")"

/-- What is wrong with a distance from universal time: it has to be less than a day. -/
def offsetFault (minutes : Int) : Option String :=
  if minutes.natAbs < 1440 then none
  else
    some ("offset must be a timedelta strictly between -timedelta(hours=24) and timedelta(hours=24), not "
      ++ durationLiteral minutes ++ ".")

/-- What is wrong with the numbers of a time. -/
def Moment.check (m : Moment) : Option String :=
  (m.offset.bind offsetFault).or <| m.date.check.or <|
    if 23 < m.hour then some "hour must be in 0..23"
    else if 59 < m.minute then some "minute must be in 0..59"
    else if 59 < m.second then some "second must be in 0..59"
    else none

end Supergraph.Yaml
