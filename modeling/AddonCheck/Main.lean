import AddonCheck.Invocation
import AddonCheck.Peers
import Std.Time.DateTime.Timestamp

/-
This file is the program: it reads the arguments and the variables, executes the run that they ask
for, and prints its log. The process has no network, so that no peer of the run can be reached.
-/

namespace AddonCheck.CommandLine

/-- The variables that a run reads. -/
def variableNames : List String :=
  ["CLUSTER_NAME", "CHATWORK_API_TOKEN", "CHATWORK_ROOM_ID", "CHATWORK_SITE", classVariable,
    "CERT_NAME", "RESOURCE_NAME", "EXTERNAL_HOSTNAME", "NODE_LABEL_KEY", "NODE_LABEL_VALUE",
    "LOG_BUCKET_NAME", "LOG_PATH", "ENV", "DD_API_KEY", "DD_APP_KEY", "DD_SITE", "QUERY_METRICS",
    "SECRET_WAIT_TIMEOUT", "DEPLOYMENT_WAIT_TIMEOUT", "INGRESS_WAIT_TIMEOUT",
    "DNS_WAIT_TIMEOUT", "LOG_WAIT_TIMEOUT", "METRICS_WAIT_TIMEOUT", "AWS_REGION",
    "AWS_DEFAULT_REGION"]

/-- The variables of the process. -/
def readEnvironment : IO Environment := do
  let pairs ← variableNames.filterMapM fun name => do
    return (← IO.getEnv name).map fun value => (name, value)
  return Environment.ofPairs pairs

/-- The time of the process. -/
def readClock : IO Instant := do
  let nanos := (← Std.Time.Timestamp.now).toNanosecondsSinceUnixEpoch.val
  return ⟨nanos / Duration.nanosPerSecond, (nanos % Duration.nanosPerSecond).toNat⟩

/-- The choices of a random part. -/
def readChoices : IO (List Nat) :=
  (List.range Workspace.suffixLength).mapM fun _ => IO.rand 0 (Workspace.suffixAlphabet.length - 1)

/-- A wait of this many evaluations is given up. -/
def rounds : Nat := 10000000

end AddonCheck.CommandLine

open AddonCheck AddonCheck.CommandLine

def main (arguments : List String) : IO UInt32 := do
  let environment ← readEnvironment
  match Invocation.read arguments (environment.lookup classVariable) with
  | .error stop =>
      IO.print stop.printed
      return stop.exitCode.toUInt32
  | .ok invocation =>
      let setup := Setup.ofEnvironment environment
      let program := invocation.program setup environment (← readChoices)
      let session : Session Unit := { start := ← readClock, outside := () }
      let (outcome, session) := Run.execute Peers.unreachable.outside rounds program session
      for line in session.log do
        if line.level.number ≤ invocation.effectiveLevel.number then IO.println line.shown
      return (exitCodeOf outcome session).toUInt32
