import AddonCheck.Addon.Waits
import AddonCheck.Cluster.Deployment
import AddonCheck.Run.Checker

/-
This file checks a cluster autoscaler: it asks for one more pod than there are matching nodes, with
at most one pod on a node, so that the last pod needs a new node.
-/

namespace AddonCheck.Addon.ClusterAutoscaler

open Cluster Run Workspace

def name : String := "cluster-autoscaler"

def namespaceStart : String := "cluster-autoscaler-test"

structure Settings where
  resourceName : String
  nodeLabelKey : String
  nodeLabelValue : String
  deploymentWait : Wait
  deriving DecidableEq, Repr

def Settings.ofEnvironment [Duration.Reader] (environment : Environment) (run : RunSettings) :
    Except SettingsError Settings := do
  return {
    resourceName := environment.valueOr "RESOURCE_NAME" "sample-for-scale"
    nodeLabelKey := environment.valueOr "NODE_LABEL_KEY" "eks.amazonaws.com/capacityType"
    nodeLabelValue := environment.valueOr "NODE_LABEL_VALUE" "SPOT"
    deploymentWait := ← Addon.deploymentWait environment run }

/-- The selector of the matching nodes. -/
def Settings.selector (settings : Settings) : String :=
  s!"{settings.nodeLabelKey}={settings.nodeLabelValue}"

/-- The label that tells the nodes apart. -/
def hostnameTopologyKey : String := "kubernetes.io/hostname"

/-- One pod more than there are nodes. -/
def replicas (nodes : Nat) : Nat := min (nodes + 1) maximumReplicas

/-- Pods on matching nodes alone, and never two of them on one node. -/
def affinity (settings : Settings) : Affinity :=
  { nodeTerms := [[⟨settings.nodeLabelKey, [settings.nodeLabelValue]⟩]]
    separations := [⟨[⟨"app", [settings.resourceName]⟩], hostnameTopologyKey⟩] }

def deployment (settings : Settings) (replicas : Nat) : Deployment :=
  { Deployment.webServer settings.resourceName replicas 80 with
    affinity := some (affinity settings) }

/-- Counts the matching nodes and gives the number of pods that they do not hold. -/
def create (settings : Settings) (workspace : Workspace) : Checking Nat := do
  match ← Program.ask (.nodes settings.selector) with
  | .error error => throw (.cluster "Error List Nodes" error)
  | .ok nodes =>
      Program.announce s!"Nodes(have label: {settings.selector}): {nodes.length}"
      creating workspace.createNamespace
      return replicas nodes.length

def converge (settings : Settings) (workspace : Workspace) (replicas : Nat) : Checking Unit := do
  Program.announce s!"Create Deployment with desire replicas {replicas}"
  let spec ← creating (liftExcept (Spec.ofTyped (deployment settings replicas).toJson))
  creating (workspace.create (spec.withReadiness (.deployment settings.deploymentWait)))
  Program.announce s!"All {replicas} Pods are ready"

def checker (settings : Settings) : Checker Nat :=
  { name := name
    create := fun _ workspace => create settings workspace
    converge := fun _ workspace replicas => converge settings workspace replicas }

end AddonCheck.Addon.ClusterAutoscaler
