import AddonCheck.CommandLine.Invocation
import AddonCheck.Run.Interruption
import AddonCheck.Run.Report
import AddonCheck.Workspace.Name

/-
This file runs what the command line asks for: it prepares the check, runs it, and finds the exit
code. Nothing is sent to the cluster unless every step of the preparation succeeds.
-/

namespace AddonCheck.CommandLine

open Addon Run

/-- Why an invocation fails. -/
inductive Failure where
  | logging (reason : String)
  | precondition (reason : String)
  | check (reason : String)
  deriving DecidableEq, Repr, Inhabited

namespace Failure

def message : Failure → String
  | logging reason => s!"failed to initialize logs: could not start logging: {reason}"
  | precondition reason => s!"failed to start the check: {reason}"
  | check reason => reason

def exitCode : Failure → Nat
  | precondition _ => 69
  | logging _ => 70
  | check _ => 1

end Failure

/-- What the preparation of a run finds: each part is there, or tells why it is not. -/
structure Setup where
  signals : Except String Unit
  workers : Except String Unit
  cluster : Except Cluster.Error Unit
  resolver : Except Dns.Error Unit
  bucket : Except Bucket.Error Unit
  metrics : Except Metrics.Error Unit
  /-- The client of the chat room. A run goes on without it. -/
  transport : Except Notification.Error Unit

namespace Setup

/-- A setup in which everything is there. -/
def complete : Setup := ⟨.ok (), .ok (), .ok (), .ok (), .ok (), .ok (), .ok ()⟩

/-- A setup in which only the region of the buckets can be missing. -/
def ofEnvironment (environment : Environment) : Setup :=
  { complete with bucket := (Bucket.region environment).map fun _ => () }

end Setup

/-- The run of a check whose settings are known. -/
abbrev Runner := Context → Workspace → Bool → Program Report

/-- The settings of a check, which are read before anything is connected. -/
inductive CheckSettings where
  | certManager (settings : CertManager.Settings)
  | clusterAutoscaler (settings : ClusterAutoscaler.Settings)
  | ingressController (settings : IngressController.Settings)
  | logShipper (settings : LogShipper.Settings)
  | metricsAgent (settings : MetricsAgent.Settings)
  deriving DecidableEq, Repr

namespace CheckSettings

def ofEnvironment [Duration.Reader] (environment : Environment) (run : RunSettings) :
    Check → Except SettingsError CheckSettings
  | .certManager => (CertManager.Settings.ofEnvironment environment run).map certManager
  | .clusterAutoscaler =>
      (ClusterAutoscaler.Settings.ofEnvironment environment run).map clusterAutoscaler
  | .ingressController className skipsLookup =>
      (IngressController.Settings.ofEnvironment environment run className skipsLookup).map
        ingressController
  | .logShipper => (LogShipper.Settings.ofEnvironment environment run).map logShipper
  | .metricsAgent => (MetricsAgent.Settings.ofEnvironment environment run).map metricsAgent

/-- The peer that a check needs beside the cluster. -/
def peer (setup : Setup) : CheckSettings → Except String Unit
  | ingressController _ => setup.resolver.mapError Dns.Error.message
  | logShipper _ => setup.bucket.mapError Bucket.Error.message
  | metricsAgent _ => setup.metrics.mapError Metrics.Error.message
  | _ => .ok ()

def runner : CheckSettings → Runner
  | certManager settings => Run.run (CertManager.checker settings)
  | clusterAutoscaler settings => Run.run (ClusterAutoscaler.checker settings)
  | ingressController settings => Run.run (IngressController.checker settings)
  | logShipper settings => Run.run (LogShipper.checker settings)
  | metricsAgent settings => Run.run (MetricsAgent.checker settings)

end CheckSettings

/-- The steps of the preparation in order; the first one that fails is reported. -/
def prepare [Duration.Reader] (setup : Setup) (environment : Environment) (run : RunSettings)
    (check : Check) : Except Failure Runner :=
  let steps : Except String Runner := do
    setup.signals.mapError fun reason => s!"could not set signal handler: {reason}"
    setup.workers.mapError fun reason => s!"could not start the runtime: {reason}"
    let settings ←
      (CheckSettings.ofEnvironment environment run check).mapError SettingsError.message
    setup.cluster.mapError Cluster.Error.message
    settings.peer setup
    return settings.runner
  steps.mapError .precondition

namespace Invocation

/-- The run of the prepared check, in a namespace of its own. -/
def runPrepared (invocation : Invocation) (settings : RunSettings)
    (channel : Notification.Channel) (choices : List Nat) (runner : Runner) :
    Program (Except Failure Unit) := do
  let workspaceName :=
    Workspace.nameAt invocation.check.namespaceStart (← Program.clock) choices
  let context : Context :=
    { workspaceName := workspaceName
      settings := settings
      channel := channel
      startedAt := ← Program.clock }
  Program.announce
    s!"{invocation.check.name} check application Namespace: {workspaceName}"
  let report ← runner context ⟨workspaceName, settings.debug⟩ true
  match report.cleanupError with
  | some error =>
      Program.log (Log.warn s!"Check finished with cleanup errors: {error.message}")
  | none => pure ()
  return report.result.mapError fun error => .check error.message

/-- The run of an invocation. A preparation that fails is notified too. -/
def run [Duration.Reader] (invocation : Invocation) (setup : Setup) (environment : Environment)
    (choices : List Nat) : Program (Except Failure Unit) := do
  let settings := invocation.runSettings environment
  Program.log (Log.info s!"Starting {invocation.check.name} check")
  let channel ← Notification.connect environment setup.transport
  Program.addLine (Notification.startText settings.clusterName (← Program.clock))
  match prepare setup environment settings invocation.check with
  | .ok runner => invocation.runPrepared settings channel choices runner
  | .error failure =>
      Program.log (Log.error failure.message)
      Program.addLine s!"Error: {failure.message}"
      Notification.flush channel
      return .error failure

/-- The program of the process: the run of the invocation, and the exit code. -/
def program [Duration.Reader] (invocation : Invocation) (setup : Setup)
    (environment : Environment) (choices : List Nat) : Program Nat := do
  match ← invocation.run setup environment choices with
  | .ok _ => return 0
  | .error failure =>
      Program.log (Log.error s!"error: {failure.message}")
      return failure.exitCode

end Invocation

/-- The exit code of a process that ends unexpectedly. -/
def crashedExitCode : Nat := 101

/-- The exit code of a process after its execution. An interrupted process is ended by its
watcher. -/
def exitCodeOf {σ : Type} (outcome : Outcome Nat) (session : Session σ) : Nat :=
  if session.exited then interruptedExitCode
  else
    match outcome with
    | .finished code => code
    | _ => crashedExitCode

end AddonCheck.CommandLine
