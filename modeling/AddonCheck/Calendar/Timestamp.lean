import AddonCheck.Calendar.Timestamp.Suffix

/-
This file reads and writes the time stamps of a cluster: a date, the letter T, a time of day and an
offset from UTC.
-/

namespace AddonCheck.Calendar.Timestamp

def lastYear : Nat := 9999

/-- A year fills four places, of which a minus sign takes one. -/
def yearText (year : Int) : List Char :=
  if 0 ≤ year then Digits.fixed 4 year.toNat else '-' :: Digits.padded 3 year.natAbs

/-- An instant is written in UTC to the second. -/
def text (instant : Instant) : String :=
  let date := instant.dateAt 0
  String.ofList
    (date.hyphenatedAfter (yearText date.year) ++ 'T' :: (instant.clockAt 0).text ++ ['Z'])

/-- A year has four digits, or a sign and six digits. There is no year zero with a minus sign. -/
def year? : List Char → Option (Int × List Char)
  | [] => none
  | first :: rest =>
      match sign? first with
      | none => (Digits.take? 4 (first :: rest)).map fun read => (Int.ofNat read.1, read.2)
      | some sign => do
          let (year, rest) ← Digits.take? 6 rest
          if year ≤ lastYear && (0 < year || 0 < sign) then some (sign * year, rest) else none

def date? (source : List Char) : Option (Date × List Char) := do
  let (year, rest) ← year? source
  let (parts, rest) ← furtherFields? '-' [12, 31] rest
  match parts with
  | [month, day] =>
      let date : Date := ⟨year, month, day⟩
      if date.isValid then some (date, rest) else none
  | _ => none

/-- A leap second is read as the second before it. -/
def timeOfDay? (source : List Char) : Option (Clock × Nat × List Char) :=
  (clock? 23 60 source).map fun (clock, nanos, rest) =>
    ({ clock with second := min clock.second 59 }, nanos, rest)

/-- What follows the letter or the blank between the date and the time of day. -/
def afterDate? : List Char → Option (List Char)
  | c :: rest => if c == 'T' || c == 't' || c == ' ' then some rest else none
  | [] => none

/-- The first and the last second whose year has at most four digits at every offset. -/
def firstSecond : Int := dayOfDate ⟨-lastYear, 1, 1⟩ * secondsPerDay + widestOffset

def lastSecond : Int := dayOfDate ⟨lastYear + 1, 1, 1⟩ * secondsPerDay - 1 - widestOffset

/-- An instant is held if the whole second next to it on the side of 1970 is. -/
def isHeld (instant : Instant) : Bool :=
  let second :=
    if instant.seconds < 0 && 0 < instant.nanos then instant.seconds + 1 else instant.seconds
  firstSecond ≤ second && second ≤ lastSecond

/-- The instant that a time stamp names. -/
def read? (source : String) : Option Instant := do
  let (date, rest) ← date? source.toList
  let (clock, nanos, rest) ← timeOfDay? (← afterDate? rest)
  let (offset, rest) ← offset? rest
  let seconds := dayOfDate date * secondsPerDay + clock.seconds - offset
  let instant : Instant := ⟨seconds, nanos⟩
  if isSuffix rest && isHeld instant then some instant else none

end AddonCheck.Calendar.Timestamp
