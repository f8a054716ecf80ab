import AddonCheck.Addon.Waits
import AddonCheck.Cluster.Deployment
import AddonCheck.Run.Checker

/-
This file checks a log shipper: it starts pods that write lines, and waits until an object with
their log arrives in the bucket.
-/

namespace AddonCheck.Addon.LogShipper

open Cluster Run Workspace

def name : String := "fluent"

def namespaceStart : String := "fluent-test"

structure Settings where
  resourceName : String
  bucket : String
  environment : String
  logPath : String
  deploymentWait : Wait
  logWait : Wait
  deriving DecidableEq, Repr

def logInterval : Duration := Duration.ofSeconds 30

def Settings.ofEnvironment [Duration.Reader] (environment : Environment) (run : RunSettings) :
    Except SettingsError Settings := do
  return {
    resourceName := environment.valueOr "RESOURCE_NAME" "burst-log-generator"
    bucket := environment.valueOr "LOG_BUCKET_NAME" "cwtest-kubernetes-logs"
    environment := environment.valueOr "ENV" "cwtest"
    logPath := environment.valueOr "LOG_PATH" "fluentd"
    deploymentWait := ← Addon.deploymentWait environment run
    logWait := ← waitFor environment run logInterval "LOG_WAIT_TIMEOUT" }

/-- The start of the keys under which the logs of a namespace arrive on a day. -/
def Settings.keyStart (settings : Settings) (namespaceName : String) (day : Instant) : String :=
  s!"{settings.logPath}/{settings.environment}/{namespaceName}/dt={day.day}"

/-- Half as many pods as there are nodes, rounded up, and at least one. -/
def replicas (nodes : Nat) : Nat := max 1 (min ((nodes + 1) / 2) maximumReplicas)

/-- A listing is decisive when an object of it is newer than the start of the run, or when it is not
allowed. -/
def judgeListing (startedAt : Instant) :
    Except Bucket.Error (List Bucket.StoredObject) → Finding
  | .ok objects =>
      if objects.any fun object => object.lastModified.any startedAt.isBefore then
        ⟨[Log.info "Found log object"], .converged⟩
      else ⟨[], .pending⟩
  | .error error =>
      if error.isUnauthorized then ⟨[], .fatal error.message⟩
      else ⟨[Log.warn error.message], .pending⟩

def logCondition (settings : Settings) (startedAt : Instant) (keyStart : String) : Condition :=
  { wait := settings.logWait
    immediate := true
    announcement := [Log.info s!"Wait fluentd output to s3://{settings.bucket}/{keyStart} ..."]
    request := .listing settings.bucket keyStart
    judge := judgeListing startedAt }

def create (settings : Settings) (workspace : Workspace) : Checking Unit := do
  match ← Program.ask (.nodes "") with
  | .error error => throw (.cluster "Error List Nodes" error)
  | .ok nodes =>
      let replicas := replicas nodes.length
      Program.announce s!"Nodes: {nodes.length}"
      creating workspace.createNamespace
      Program.announce
        s!"Create Deployment {settings.resourceName} with desire replicas {replicas}"
      let deployment := Deployment.logGenerator settings.resourceName replicas
      let spec ← creating (liftExcept (Spec.ofTyped deployment.toJson))
      creating (workspace.create (spec.withReadiness (.deployment settings.deploymentWait)))

def converge (settings : Settings) (context : Context) : Checking Unit := do
  let keyStart := settings.keyStart context.workspaceName (← Program.clock)
  Program.announce s!"Wait for logs in s3://{settings.bucket}/{keyStart}"
  awaiting "error waiting for log objects" (logCondition settings context.startedAt keyStart)
  Program.announce s!"Logs are available in s3://{settings.bucket}/{keyStart}"

def checker (settings : Settings) : Checker Unit :=
  { name := name
    create := fun _ workspace => create settings workspace
    converge := fun context _ _ => converge settings context }

end AddonCheck.Addon.LogShipper
