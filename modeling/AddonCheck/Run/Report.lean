import AddonCheck.Notification.Delivery
import AddonCheck.Run.Checker

/-
This file runs a check: it creates, converges, cleans up and notifies, in this order. The cleanup
takes place however the check ends.
-/

namespace AddonCheck.Run

open Workspace (TeardownError)

/-- The outcome of a run. A failure of the cleanup does not change the result. -/
structure Report where
  history : History
  result : Except Error Unit
  cleanupError : Option TeardownError

/-- The two phases of a check, and the history that they leave. -/
def phases {κ : Type} (checker : Checker κ) (context : Context) (workspace : Workspace)
    (history : History) : Program (Except Error Unit × History) :=
  match history.advance .resourcesCreating with
  | .error error => return (.error (.transition error), history)
  | .ok history => do
      match ← (checker.create context workspace).run with
      | .error error => return (.error error, history)
      | .ok created =>
          match history.advance .converging with
          | .error error => return (.error (.transition error), history)
          | .ok history => do
              let result ← (checker.converge context workspace created).run
              return (result, history)

/-- What is done when a check ends unexpectedly. -/
def recover (workspace : Workspace) : Program Unit := do
  Program.log (Log.warn "Check stopped unexpectedly, cleaning up resources")
  match ← workspace.deleteAll with
  | .ok _ => return ()
  | .error error => Program.log (Log.error s!"Error Delete Resources: {error.message}")

/-- A transition that is not allowed is logged and leaves the history as it is. -/
def advance (history : History) (target : Phase) : Program History :=
  match history.advance target with
  | .ok history => return history
  | .error error => do
      Program.log (Log.error error.message)
      return history

/-- The cleanup of a check, and what is told about it. -/
def cleanUp (context : Context) (workspace : Workspace) : Program (Option TeardownError) := do
  match ← workspace.deleteAll with
  | .ok _ =>
      if context.settings.debug then
        if !(← Program.isRegistryEmpty) then Program.announce "Skip Delete Resources"
      return none
  | .error error =>
      Program.announce s!"Error Delete Resources: {error.message}"
      return some error

/-- The verdict of a check, and what is told about it. -/
def conclude (name : String) (result : Except Error Unit) (history : History) :
    Program History := do
  match result with
  | .ok _ =>
      let history ← advance history .succeeded
      Program.announce s!"{name} check finished"
      return history
  | .error error =>
      let history ← advance history .failed
      Program.log (Log.error s!"{name} check failed: {error.message}")
      Program.addLine s!"{name} check failed: {error.message}"
      return history

/-- A cancelled run leaves the notification to its watcher, when it has one. -/
def handOver (context : Context) (watched : Bool) : Program Unit := do
  if watched then
    if ← Program.isCancelled then Program.joinWatcher
    else Notification.flush context.channel
  else Notification.flush context.channel

/-- The run of a check. -/
def run {κ : Type} (checker : Checker κ) (context : Context) (workspace : Workspace)
    (watched : Bool) : Program Report := do
  if watched then Program.watch ⟨workspace, context.channel⟩
  Program.announce s!"{checker.name} check start"
  let (result, history) ←
    (phases checker context workspace History.start).onCrash (recover workspace)
  let history ← advance history .cleaningUp
  let cleanupError ← cleanUp context workspace
  let history ← conclude checker.name result history
  handOver context watched
  return { history := history, result := result, cleanupError := cleanupError }

end AddonCheck.Run
