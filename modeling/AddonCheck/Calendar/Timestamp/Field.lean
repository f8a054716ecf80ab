import AddonCheck.Calendar

/-
This file reads the fields of time stamps. The fields of a date or of a time of day have either a
mark between each two of them or no marks at all.
-/

namespace AddonCheck.Calendar.Timestamp

/-- A field has two digits and is at most its bound. -/
def field? (bound : Nat) (source : List Char) : Option (Nat × List Char) :=
  (Digits.take? 2 source).filter fun read => read.1 ≤ bound

/-- Where the next field starts, if one follows. A mark promises a field; fields without marks go
on as long as two digits follow. -/
def next? (mark : Char) (marked : Bool) (source : List Char) : Option (List Char) :=
  if marked then
    if source.head? == some mark then some source.tail else none
  else if (Digits.take? 2 source).isSome then some source
  else none

/-- The fields that are written, each of them within its bound. -/
def fields? (mark : Char) (marked : Bool) :
    List Nat → List Char → Option (List Nat × List Char)
  | [], source => some ([], source)
  | bound :: bounds, source =>
      match next? mark marked source with
      | none => some ([], source)
      | some source => do
          let (value, rest) ← field? bound source
          let (values, rest) ← fields? mark marked bounds rest
          return (value :: values, rest)

/-- The fields after a first one, which has marks after it if they all have. -/
def furtherFields? (mark : Char) (bounds : List Nat) (source : List Char) :
    Option (List Nat × List Char) :=
  fields? mark (source.head? == some mark) bounds source

/-- The nanoseconds after a point or a comma, of which one to nine digits are written. -/
def fraction? : List Char → Option (Nat × List Char)
  | [] => some (0, [])
  | mark :: rest =>
      if mark == '.' || mark == ',' then
        let digits := rest.takeWhile fun c => (Digits.value? c).isSome
        if digits.isEmpty || 9 < digits.length then none
        else
          let filled := digits ++ List.replicate (9 - digits.length) '0'
          (Digits.read? filled).map fun n => (n, rest.drop digits.length)
      else some (0, mark :: rest)

def lastMinute : Nat := 59

/-- Hours, and the minutes, seconds and nanoseconds after them as far as they are written. -/
def clock? (lastHour lastSecond : Nat) (source : List Char) :
    Option (Clock × Nat × List Char) := do
  let (hour, rest) ← field? lastHour source
  let (parts, rest) ← furtherFields? ':' [lastMinute, lastSecond] rest
  match parts with
  | [minute, second] =>
      let (nanos, rest) ← fraction? rest
      return (⟨hour, minute, second⟩, nanos, rest)
  | _ => return (⟨hour, parts.headD 0, 0⟩, 0, rest)

end AddonCheck.Calendar.Timestamp
