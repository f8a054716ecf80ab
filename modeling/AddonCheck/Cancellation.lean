import AddonCheck.Duration

/-
This file holds cancellation tokens. A token and its clones are one family; what cancels one of them
cancels the family for ever. Time passes only while somebody waits.
-/

namespace AddonCheck.Cancellation

/-- A thread that waits for a family until a deadline. -/
structure Waiter where
  family : Nat
  deadline : Nat
  deriving DecidableEq, Repr

/-- The tokens that exist, the families that are cancelled, and the threads that wait. -/
structure Tokens where
  /-- The nanoseconds that have passed. -/
  now : Nat := 0
  /-- The family of each token. -/
  families : List Nat := []
  /-- The number of families. -/
  count : Nat := 0
  /-- When each cancelled family was cancelled, the earliest first. -/
  cancelled : List (Nat × Nat) := []
  /-- The threads that have not been joined, the oldest first. -/
  waiters : List Waiter := []
  deriving DecidableEq, Repr, Inhabited

namespace Tokens

/-- Adds a token of a family of its own. -/
def create (tokens : Tokens) : Tokens :=
  { tokens with families := tokens.families ++ [tokens.count], count := tokens.count + 1 }

/-- One token, of one family. -/
def single : Tokens := Tokens.create {}

/-- The family of a token; one that does not exist is of no family. -/
def family (tokens : Tokens) (token : Nat) : Nat := tokens.families.getD token tokens.count

/-- Adds a token of the family of another one. -/
def clone (tokens : Tokens) (token : Nat) : Tokens :=
  { tokens with families := tokens.families ++ [tokens.family token] }

/-- When a family was cancelled. -/
def cancelledAt? (tokens : Tokens) (family : Nat) : Option Nat :=
  (tokens.cancelled.find? fun entry => entry.1 == family).map (·.2)

def isCancelled (tokens : Tokens) (token : Nat) : Bool :=
  (tokens.cancelledAt? (tokens.family token)).isSome

def cancel (tokens : Tokens) (token : Nat) : Tokens :=
  if tokens.isCancelled token then tokens
  else { tokens with cancelled := tokens.cancelled ++ [(tokens.family token, tokens.now)] }

/-- Waits for a cancellation, and tells whether it came within the timeout. -/
def waitTimeout (tokens : Tokens) (token : Nat) (timeout : Duration) : Bool × Tokens :=
  if tokens.isCancelled token then (true, tokens)
  else (false, { tokens with now := tokens.now + timeout.nanos })

/-- Starts a thread that waits for a cancellation. -/
def spawnWait (tokens : Tokens) (token : Nat) (timeout : Duration) : Tokens :=
  { tokens with
    waiters := tokens.waiters ++ [⟨tokens.family token, tokens.now + timeout.nanos⟩] }

/-- Waits for the end of the oldest thread, and tells whether it saw a cancellation. -/
def join (tokens : Tokens) : Bool × Tokens :=
  match tokens.waiters with
  | [] => (false, tokens)
  | waiter :: rest =>
      let tokens := { tokens with waiters := rest }
      match tokens.cancelledAt? waiter.family with
      | some time => (time ≤ waiter.deadline, tokens)
      | none => (false, { tokens with now := max tokens.now waiter.deadline })

end Tokens

end AddonCheck.Cancellation
