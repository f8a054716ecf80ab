import AddonCheck.Run.Phase
import AddonCheck.Workspace.Teardown

/-
This file holds what a check is: its name, the objects it creates, and the state it waits for.
-/

namespace AddonCheck.Run

/-- Why a check failed. -/
inductive Error where
  | settings (error : SettingsError)
  | creation (error : Workspace.CreationError)
  | wait (context : String) (error : Poll.Error)
  | cluster (context : String) (error : Cluster.Error)
  | failed (reason : String)
  | transition (error : InvalidTransition)
  deriving DecidableEq, Repr

namespace Error

instance : Inhabited Error := ⟨failed ""⟩

def message : Error → String
  | settings error => error.message
  | creation error => error.message
  | wait context error => s!"{context}: {error.message}"
  | cluster context error => s!"{context}: {error.message}"
  | failed reason => reason
  | transition error => error.message

def isCancelled : Error → Bool
  | wait _ error => error.isCancelled
  | creation error => error.isCancelled
  | _ => false

end Error

/-- What every part of a run knows. -/
structure Context where
  workspaceName : String
  settings : RunSettings
  channel : Notification.Channel
  startedAt : Instant
  deriving DecidableEq, Repr, Inhabited

/-- The outcome of a phase of a check. -/
abbrev Checking (α : Type) := ExceptT Error Program α

/-- A step of the creation as a step of a check. -/
def creating {α : Type} (program : Workspace.Creating α) : Checking α :=
  ExceptT.adapt Error.creation program

/-- Waits for a condition, and tells in a failure what was waited for. -/
def awaiting (context : String) (condition : Condition) : Checking Unit := do
  match ← Program.await condition with
  | .ok _ => pure ()
  | .error error => throw (.wait context error)

/-- A check creates its objects, and then waits until the add-on has done its work on them. What the
first phase finds out is passed to the second one. -/
structure Checker (κ : Type) where
  name : String
  create : Context → Workspace → Checking κ
  converge : Context → Workspace → κ → Checking Unit

end AddonCheck.Run
