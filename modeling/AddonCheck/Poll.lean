import AddonCheck.Duration.Text
import AddonCheck.Settings
import AddonCheck.Word

/-
This file holds waits for a condition: the condition is evaluated at every interval until it holds,
fails for good, or the timeout passes.
-/

namespace AddonCheck

/-- What one evaluation of a condition finds. -/
inductive Probe where
  | converged
  | pending
  | fatal (reason : String)
  deriving DecidableEq, Repr, Inhabited

namespace Poll

/-- Why a condition was not reached. -/
inductive Error where
  | timeout (after : Duration)
  | cancelled
  | fatal (reason : String)
  deriving DecidableEq, Repr, Inhabited

def Error.message : Error → String
  | timeout after => s!"timed out after {after.text}"
  | cancelled => "cancelled"
  | fatal reason => reason

def Error.isCancelled : Error → Bool
  | cancelled => true
  | _ => false

/-- The clock counts whole seconds in a signed word of 64 bits. -/
def clockBound : Nat := Word.signedBound64 * Duration.nanosPerSecond

/-- The end of a wait, when the clock can show it. -/
def deadline (wait : Wait) (start : Nat) : Option Nat :=
  let finish := start + wait.timeout.nanos
  if finish < clockBound then some finish else none

/-- The pause before the first evaluation of a wait that does not start with one. -/
def firstPause (wait : Wait) : Duration := min wait.interval wait.timeout

/-- The pause after an evaluation, which does not pass the deadline; there is none at the
deadline. -/
def nextPause (wait : Wait) (deadline : Option Nat) (now : Nat) : Option Duration :=
  match deadline with
  | none => some wait.interval
  | some finish => if finish ≤ now then none else some (min wait.interval ⟨finish - now⟩)

/-- What a wait sees and does in a state of its surroundings. The clock counts nanoseconds. -/
structure Surroundings (σ : Type) where
  isCancelled : σ → Bool
  clock : σ → Nat
  pause : Duration → σ → σ
  evaluate : σ → Probe × σ

/-- The answer of a wait; a wait that is not settled within the rounds has none. -/
abbrev Answer := Option (Except Error Unit)

variable {σ : Type}

/-- The wait from an evaluation on. -/
def fromEvaluation (around : Surroundings σ) (wait : Wait) (deadline : Option Nat) :
    Nat → σ → Answer × σ
  | 0, state => (none, state)
  | rounds + 1, state =>
      match around.evaluate state with
      | (.converged, state) => (some (.ok ()), state)
      | (.fatal reason, state) => (some (.error (.fatal reason)), state)
      | (.pending, state) =>
          match nextPause wait deadline (around.clock state) with
          | none => (some (.error (.timeout wait.timeout)), state)
          | some pause =>
              let state := around.pause pause state
              if around.isCancelled state then (some (.error .cancelled), state)
              else fromEvaluation around wait deadline rounds state

/-- The wait for a condition, with a bound on the number of evaluations. -/
def run (around : Surroundings σ) (wait : Wait) (immediate : Bool) (rounds : Nat) (state : σ) :
    Answer × σ :=
  let finish := deadline wait (around.clock state)
  if around.isCancelled state then (some (.error .cancelled), state)
  else if immediate then fromEvaluation around wait finish rounds state
  else
    let state := around.pause (firstPause wait) state
    if around.isCancelled state then (some (.error .cancelled), state)
    else fromEvaluation around wait finish rounds state

end Poll

end AddonCheck
