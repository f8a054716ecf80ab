import AddonCheck.Calendar.Timestamp.Field

/-
This file reads offsets from UTC: the letter Z, or a sign and a length of up to 25 hours, 59 minutes
and 59 seconds.
-/

namespace AddonCheck.Calendar.Timestamp

def lastOffsetHour : Nat := 25

def widestOffset : Nat := Clock.seconds ⟨25, 59, 59⟩

/-- The factor of a sign. -/
def sign? (c : Char) : Option Int :=
  if c == '+' then some 1 else if c == '-' then some (-1) else none

/-- The seconds that an offset is ahead of UTC. Half a second counts as a whole one. -/
def offset? : List Char → Option (Int × List Char)
  | [] => none
  | first :: rest =>
      if first == 'Z' || first == 'z' then some (0, rest)
      else do
        let sign ← sign? first
        let (length, nanos, rest) ← clock? lastOffsetHour 59 rest
        let seconds := length.seconds + (if 500000000 ≤ nanos then 1 else 0)
        if seconds ≤ widestOffset then some (sign * seconds, rest) else none

/-- Whether a text is an offset in hours and minutes. -/
def isShortOffset : List Char → Bool
  | [] => false
  | first :: rest =>
      let minutes := (field? lastOffsetHour rest).bind fun read =>
        furtherFields? ':' [lastMinute] read.2
      (sign? first).isSome && minutes.any fun read => read.2.isEmpty

end AddonCheck.Calendar.Timestamp
