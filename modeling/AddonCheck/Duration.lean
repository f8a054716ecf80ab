import AddonCheck.Word

/-
This file holds lengths of time. The unit is the nanosecond.
-/

namespace AddonCheck

/-- A length of time is a whole number of nanoseconds. -/
structure Duration where
  nanos : Nat
  deriving DecidableEq, Repr, Inhabited

namespace Duration

def nanosPerSecond : Nat := 1000000000

def ofSeconds (seconds : Nat) : Duration := ⟨seconds * nanosPerSecond⟩

def ofMillis (millis : Nat) : Duration := ⟨millis * 1000000⟩

/-- The seconds are kept in a word of 64 bits, so that the longest duration is a nanosecond short of
its bound. -/
def longest : Duration := ⟨Word.bound64 * nanosPerSecond - 1⟩

/-- A count of minutes whose seconds pass the largest word stops at that word. -/
def ofMinutes (minutes : Nat) : Duration :=
  ofSeconds (min (minutes * 60) (Word.bound64 - 1))

/-- The whole seconds of a duration. -/
def seconds (duration : Duration) : Nat := duration.nanos / nanosPerSecond

/-- The nanoseconds that the whole seconds leave. -/
def subsecond (duration : Duration) : Nat := duration.nanos % nanosPerSecond

instance : Min Duration := ⟨fun first second => ⟨min first.nanos second.nanos⟩⟩

@[simp] theorem nanos_min (first second : Duration) :
    (min first second).nanos = min first.nanos second.nanos := rfl

/-- How a text is read as a duration. The library that does so is not part of the program, and it
gives a reason for each text that it refuses. -/
class Reader where
  read : String → Except String Duration

theorem nanos_eq (duration : Duration) :
    duration.seconds * nanosPerSecond + duration.subsecond = duration.nanos := by
  simp only [seconds, subsecond]
  rw [Nat.mul_comm]
  exact Nat.div_add_mod _ _

end Duration

end AddonCheck
