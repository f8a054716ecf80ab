import AddonCheck.Calendar.Tokyo

/-
This file holds the notification of a run: the lines that are gathered, and why they cannot be
delivered.
-/

namespace AddonCheck.Notification

/-- Where a notification goes. -/
inductive Channel where
  | logOnly
  | transport
  deriving DecidableEq, Repr, Inhabited

/-- Why a notification was not delivered. -/
inductive Error where
  | build (reason : String)
  | send (reason : String)
  | status (code : Nat)
  deriving DecidableEq, Repr, Inhabited

def Error.message : Error → String
  | build reason => s!"could not build the notification client: {reason}"
  | send reason => s!"could not send the notification: {reason}"
  | status code => s!"notification rejected with status {code}"

/-- A text as a line: it ends in a line break. -/
def line (text : String) : String :=
  if text.toList.getLast? = some '\n' then text else text ++ "\n"

/-- The line that opens the notification of a run. -/
def startText (cluster : String) (now : Instant) : String :=
  s!"kibertas start in {cluster} at {Calendar.Tokyo.text now}"

end AddonCheck.Notification
