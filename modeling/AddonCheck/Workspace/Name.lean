import AddonCheck.Calendar

/-
This file names the disposable namespaces of runs.
-/

namespace AddonCheck.Workspace

/-- The characters of a random part. -/
def suffixAlphabet : List Char := "abcdefghijklmnopqrstuvwxyz0123456789".toList

def suffixLength : Nat := 5

/-- A character of the alphabet. -/
def suffixCharacter (choice : Nat) : Char :=
  suffixAlphabet.getD (choice % suffixAlphabet.length) 'a'

/-- The random part that a row of choices makes. -/
def suffix (choices : List Nat) : List Char := choices.map suffixCharacter

/-- A random part has a given length and no character outside the alphabet. -/
def isSuffix (length : Nat) (text : List Char) : Bool :=
  text.length == length && text.all suffixAlphabet.contains

/-- The name of a namespace: how it starts, the date, and a random part. -/
def nameAt (start : String) (now : Instant) (choices : List Nat) : String :=
  s!"{start}-{now.day}-{String.ofList (suffix choices)}"

end AddonCheck.Workspace
