import AddonCheck.Text.Digits

/-
This file holds instants and the proleptic Gregorian calendar. An instant counts seconds from the
start of 1970 in UTC.
-/

namespace AddonCheck

/-- An instant is a second and the nanoseconds after it; a leap second counts past one second. -/
structure Instant where
  seconds : Int
  nanos : Nat
  deriving DecidableEq, Repr, Inhabited

namespace Calendar

def secondsPerDay : Int := 86400

/-- A date has a year, a month from 1 and a day from 1. -/
structure Date where
  year : Int
  month : Nat
  day : Nat
  deriving DecidableEq, Repr, Inhabited

/-- A time of day in whole seconds; second 60 is a leap second. -/
structure Clock where
  hour : Nat
  minute : Nat
  second : Nat
  deriving DecidableEq, Repr, Inhabited

/-- Years are counted from March, so that a leap day ends its year. -/
def marchYearOffset : Int := 719468

/-- The days of 400 years. -/
def daysPerCycle : Int := 146097

/-- The date of a day, which is counted from the first day of 1970. -/
def dateOfDay (day : Int) : Date :=
  let shifted := day + marchYearOffset
  let cycle := shifted.fdiv daysPerCycle
  let dayOfCycle := (shifted.fmod daysPerCycle).toNat
  let yearOfCycle :=
    (dayOfCycle - dayOfCycle / 1460 + dayOfCycle / 36524 - dayOfCycle / 146096) / 365
  let dayOfYear := dayOfCycle - (365 * yearOfCycle + yearOfCycle / 4 - yearOfCycle / 100)
  let monthFromMarch := (5 * dayOfYear + 2) / 153
  let month := if monthFromMarch < 10 then monthFromMarch + 3 else monthFromMarch - 9
  { year := (yearOfCycle : Int) + cycle * 400 + (if month ≤ 2 then 1 else 0)
    month := month
    day := dayOfYear - (153 * monthFromMarch + 2) / 5 + 1 }

/-- The day of a date, which inverts `dateOfDay` on dates that exist. -/
def dayOfDate (date : Date) : Int :=
  let year := if date.month ≤ 2 then date.year - 1 else date.year
  let cycle := year.fdiv 400
  let yearOfCycle := (year.fmod 400).toNat
  let monthFromMarch := if date.month > 2 then date.month - 3 else date.month + 9
  let dayOfYear := (153 * monthFromMarch + 2) / 5 + date.day - 1
  let dayOfCycle := yearOfCycle * 365 + yearOfCycle / 4 - yearOfCycle / 100 + dayOfYear
  cycle * daysPerCycle + (dayOfCycle : Int) - marchYearOffset

def isLeapYear (year : Int) : Bool :=
  year.fmod 4 == 0 && (year.fmod 100 != 0 || year.fmod 400 == 0)

def daysInMonth (year : Int) (month : Nat) : Nat :=
  if month == 2 then (if isLeapYear year then 29 else 28)
  else if [4, 6, 9, 11].contains month then 30
  else 31

/-- Whether a date exists. -/
def Date.isValid (date : Date) : Bool :=
  1 ≤ date.month && date.month ≤ 12 && 1 ≤ date.day
    && date.day ≤ daysInMonth date.year date.month

/-- A year of more or less than four digits carries its sign. -/
def yearText (year : Int) : List Char :=
  if 0 ≤ year ∧ year ≤ 9999 then Digits.fixed 4 year.toNat
  else (if year < 0 then '-' else '+') :: Digits.padded 4 year.natAbs

/-- The digits of a date without anything between them. -/
def Date.compact (date : Date) : List Char :=
  yearText date.year ++ Digits.fixed 2 date.month ++ Digits.fixed 2 date.day

/-- The text of a year, the month and the day with hyphens between them. -/
def Date.hyphenatedAfter (year : List Char) (date : Date) : List Char :=
  year ++ '-' :: Digits.fixed 2 date.month ++ '-' :: Digits.fixed 2 date.day

/-- The parts of a date with hyphens between them. -/
def Date.hyphenated (date : Date) : List Char := date.hyphenatedAfter (yearText date.year)

/-- The seconds from the start of the day. -/
def Clock.seconds (clock : Clock) : Nat :=
  clock.hour * 3600 + clock.minute * 60 + clock.second

/-- The parts of a time of day with colons between them. -/
def Clock.text (clock : Clock) : List Char :=
  Digits.fixed 2 clock.hour ++ ':' :: Digits.fixed 2 clock.minute
    ++ ':' :: Digits.fixed 2 clock.second

/-- The time of day of a second count. -/
def clockOfSecond (seconds : Nat) : Clock :=
  ⟨seconds / 3600 % 24, seconds / 60 % 60, seconds % 60⟩

end Calendar

namespace Instant

open Calendar

/-- The first and the last second of the years that are kept. -/
def firstSecond : Int := dayOfDate ⟨-262143, 1, 1⟩ * secondsPerDay

def lastSecond : Int := dayOfDate ⟨262143, 1, 1⟩ * secondsPerDay - 1

/-- An instant lies within the years kept, and only the last second of a minute may be a leap
second. -/
def ofUnix? (seconds : Int) (nanos : Nat) : Option Instant :=
  let inRange := firstSecond ≤ seconds && seconds ≤ lastSecond
  let inSecond := nanos < 1000000000
    || (nanos < 2000000000 && seconds.fmod 60 == 59)
  if inRange && inSecond then some ⟨seconds, nanos⟩ else none

/-- One instant is earlier than another one. -/
def isBefore (first second : Instant) : Bool :=
  first.seconds < second.seconds
    || (first.seconds == second.seconds && first.nanos < second.nanos)

/-- The date of an instant at an offset of seconds from UTC. -/
def dateAt (offset : Int) (instant : Instant) : Date :=
  dateOfDay ((instant.seconds + offset).fdiv secondsPerDay)

/-- The time of day of an instant at an offset of seconds from UTC. -/
def clockAt (offset : Int) (instant : Instant) : Clock :=
  let clock := clockOfSecond ((instant.seconds + offset).fmod secondsPerDay).toNat
  { clock with second := clock.second + instant.nanos / 1000000000 }

/-- The date of an instant in UTC, in digits alone. -/
def day (instant : Instant) : String := String.ofList (instant.dateAt 0).compact

/-- A later instant. -/
def after (instant : Instant) (nanos : Nat) : Instant :=
  ⟨instant.seconds + ((instant.nanos + nanos) / 1000000000 : Nat),
    (instant.nanos + nanos) % 1000000000⟩

end Instant

end AddonCheck
