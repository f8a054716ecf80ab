import AddonCheck.Notification.Delivery
import AddonCheck.Session
import AddonCheck.Workspace.Teardown

/-
This file holds what the watcher of a run does once the run is cancelled.
-/

namespace AddonCheck.Run

/-- The exit code of an interrupted process. -/
def interruptedExitCode : Nat := 130

/-- The watcher deletes what is registered, delivers the notification, and ends the process. -/
def interruption (watcher : Watcher) : Program Unit := do
  Program.log (Log.warn "Interrupted, cleaning up resources")
  Program.addLine "Interrupted, cleaning up resources"
  match ← watcher.workspace.deleteAll with
  | .ok _ => pure ()
  | .error error =>
      Program.log (Log.error s!"Error Delete Resources: {error.message}")
      Program.addLine s!"Error Delete Resources: {error.message}"
  Notification.flush watcher.channel
  Program.exit

/-- What a watcher does in a session; a further cancellation means nothing to it. -/
def reaction {σ : Type} (outside : Outside σ) (rounds : Nat) : Session.Reaction σ :=
  fun watcher session =>
    (Session.execute outside (fun _ session => session) rounds (interruption watcher) session).2

/-- The execution of a program whose watcher deals with a cancellation before the program goes
on. -/
def execute {σ α : Type} (outside : Outside σ) (rounds : Nat) (program : Program α)
    (session : Session σ) : Outcome α × Session σ :=
  Session.execute outside (reaction outside rounds) rounds program session

end AddonCheck.Run
