/-
This file holds the phases of a check and the transitions between them.
-/

namespace AddonCheck.Run

inductive Phase where
  | initialized
  | resourcesCreating
  | converging
  | cleaningUp
  | succeeded
  | failed
  deriving DecidableEq, Repr, Inhabited

namespace Phase

def all : List Phase :=
  [initialized, resourcesCreating, converging, cleaningUp, succeeded, failed]

def name : Phase → String
  | initialized => "initialized"
  | resourcesCreating => "resources-creating"
  | converging => "converging"
  | cleaningUp => "cleaning-up"
  | succeeded => "succeeded"
  | failed => "failed"

/-- A check cleans up after whatever it has begun, and ends after its cleanup alone. -/
def allows : Phase → Phase → Bool
  | initialized, resourcesCreating => true
  | initialized, cleaningUp => true
  | resourcesCreating, converging => true
  | resourcesCreating, cleaningUp => true
  | converging, cleaningUp => true
  | cleaningUp, succeeded => true
  | cleaningUp, failed => true
  | _, _ => false

/-- The verdict of a check is its last phase. -/
def isTerminal : Phase → Bool
  | succeeded => true
  | failed => true
  | _ => false

end Phase

/-- A transition that is not allowed. -/
structure InvalidTransition where
  source : Phase
  target : Phase
  deriving DecidableEq, Repr, Inhabited

def InvalidTransition.message (transition : InvalidTransition) : String :=
  s!"invalid check state transition from {transition.source.name} to {transition.target.name}"

/-- The phases that a check has gone through, the latest last. -/
structure History where
  phases : List Phase
  deriving DecidableEq, Repr

namespace History

def start : History := ⟨[.initialized]⟩

instance : Inhabited History := ⟨start⟩

def current (history : History) : Phase := history.phases.getLast?.getD .initialized

/-- An allowed transition appends its target. -/
def advance (history : History) (target : Phase) : Except InvalidTransition History :=
  if history.current.allows target then .ok ⟨history.phases ++ [target]⟩
  else .error ⟨history.current, target⟩

end History

end AddonCheck.Run
