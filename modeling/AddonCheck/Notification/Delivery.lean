import AddonCheck.Notification.ChatRoom
import AddonCheck.Program

/-
This file finds where the notification of a run goes, and delivers it.
-/

namespace AddonCheck.Notification

/-- Finds the channel of a run. Without a chat room, or without a client for it, the notification is
only logged. -/
def connect (environment : Environment) (client : Except Error Unit) : Program Channel :=
  match ChatRoom.ofEnvironment environment, client with
  | none, _ => return .logOnly
  | some _, .ok _ => return .transport
  | some _, .error error => do
      Program.log (Log.warn s!"Notifications only go to the log: {error.message}")
      return .logOnly

/-- Takes the gathered lines and delivers them. Nothing is delivered when there are none, and lines
whose delivery fails are lost. -/
def flush (channel : Channel) : Program Unit := do
  let message ← Program.takeLines
  if message = "" then return ()
  match channel with
  | .logOnly =>
      Program.log (Log.info s!"Notification not sent, no transport configured:\n{message}")
  | .transport =>
      match ← Program.ask (.deliver message) with
      | .ok _ => Program.log (Log.info "Notification sent")
      | .error error =>
          Program.log (Log.error s!"Error sending notification: {error.message}")

end AddonCheck.Notification
