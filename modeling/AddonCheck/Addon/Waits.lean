import AddonCheck.Settings
import AddonCheck.Word

/-
This file holds the waits that the checks of the add-ons share.
-/

namespace AddonCheck.Addon

/-- The interval at which a deployment is looked at. -/
def deploymentInterval : Duration := Duration.ofSeconds 5

/-- A wait with the timeout of the run, which a variable overrides. -/
def waitFor [Duration.Reader] (environment : Environment) (run : RunSettings)
    (interval : Duration) (key : String) : Except SettingsError Wait :=
  Wait.withTimeoutFrom ⟨interval, run.timeout⟩ environment key

/-- The wait for the deployment of a check. -/
def deploymentWait [Duration.Reader] (environment : Environment) (run : RunSettings) :
    Except SettingsError Wait :=
  waitFor environment run deploymentInterval "DEPLOYMENT_WAIT_TIMEOUT"

/-- The most pods that a deployment can ask for. -/
def maximumReplicas : Nat := Word.signedBound32 - 1

end AddonCheck.Addon
