/-
This file holds the bounds of machine words.
-/

namespace AddonCheck.Word

/-- A word of 16 bits is below this bound. -/
def bound16 : Nat := 65536

/-- A word of 64 bits is below this bound. -/
def bound64 : Nat := 18446744073709551616

/-- A signed word of 32 bits is below this bound, and at least its negative. -/
def signedBound32 : Nat := 2147483648

/-- A signed word of 64 bits is below this bound, and at least its negative. -/
def signedBound64 : Nat := 9223372036854775808

/-- Whether an integer fits in a signed word with a given bound. -/
def holds (signedBound : Nat) (value : Int) : Bool :=
  -(signedBound : Int) ≤ value && value < signedBound

end AddonCheck.Word
