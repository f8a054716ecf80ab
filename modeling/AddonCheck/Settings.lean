import AddonCheck.Duration
import AddonCheck.Environment

/-
This file holds the settings that every check shares, and how a variable overrides a timeout.
-/

namespace AddonCheck

/-- Why settings cannot be read from the environment. -/
inductive SettingsError where
  | missing (text : String)
  | invalidDuration (key reason : String)
  deriving DecidableEq, Repr

def SettingsError.message : SettingsError → String
  | missing text => text
  | invalidDuration key reason => s!"invalid duration in `{key}`: {reason}"

/-- The duration that a variable holds, or a fallback when it is unset. -/
def Environment.durationOr [Duration.Reader] (environment : Environment) (key : String)
    (fallback : Duration) : Except SettingsError Duration :=
  match environment.value? key with
  | none => .ok fallback
  | some text =>
      match Duration.Reader.read text with
      | .ok duration => .ok duration
      | .error reason => .error (.invalidDuration key reason)

/-- A wait evaluates a condition at every interval until the timeout. -/
structure Wait where
  interval : Duration
  timeout : Duration
  deriving DecidableEq, Repr, Inhabited

/-- The same interval, with the timeout that a variable holds when it is set. -/
def Wait.withTimeoutFrom [Duration.Reader] (wait : Wait) (environment : Environment)
    (key : String) : Except SettingsError Wait :=
  match environment.durationOr key wait.timeout with
  | .ok timeout => .ok { wait with timeout := timeout }
  | .error error => .error error

/-- What a run is told whatever it checks. -/
structure RunSettings where
  /-- A debug run leaves what it created in the cluster. -/
  debug : Bool
  /-- The bound of a wait that nothing overrides. -/
  timeout : Duration
  clusterName : String
  deriving DecidableEq, Repr, Inhabited

namespace RunSettings

def defaultTimeoutMinutes : Nat := 20

def unknownCluster : String := "unknown"

def ofEnvironment (debug : Bool) (timeout : Duration) (environment : Environment) : RunSettings :=
  { debug := debug
    timeout := timeout
    clusterName := environment.valueOr "CLUSTER_NAME" unknownCluster }

def standard : RunSettings :=
  { debug := false
    timeout := Duration.ofMinutes defaultTimeoutMinutes
    clusterName := unknownCluster }

end RunSettings

end AddonCheck
