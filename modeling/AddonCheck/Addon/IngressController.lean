import AddonCheck.Addon.Waits
import AddonCheck.Cluster.Service
import AddonCheck.Run.Checker

/-
This file checks an ingress controller: it publishes a web server through an ingress, and waits
until the host name of the ingress can be looked up.
-/

namespace AddonCheck.Addon.IngressController

open Cluster Run Workspace

def name : String := "ingress"

def namespaceStart : String := "ingress-test"

/-- The class of the load balancer controller. -/
def defaultClass : String := "alb"

structure Settings where
  resourceName : String
  externalHostname : String
  className : String
  skipsLookup : Bool
  deploymentWait : Wait
  loadBalancerWait : Wait
  lookupWait : Wait
  deriving DecidableEq, Repr

def containerPort : Int := 8080

def servicePort : Int := 80

def loadBalancerInterval : Duration := Duration.ofSeconds 5

def lookupInterval : Duration := Duration.ofSeconds 30

def Settings.ofEnvironment [Duration.Reader] (environment : Environment) (run : RunSettings)
    (className : String) (skipsLookup : Bool) : Except SettingsError Settings := do
  return {
    resourceName := environment.valueOr "RESOURCE_NAME" "sample"
    externalHostname := environment.valueOr "EXTERNAL_HOSTNAME" "sample-skmt.cwtest.info"
    className := className
    skipsLookup := skipsLookup
    deploymentWait := ← Addon.deploymentWait environment run
    loadBalancerWait := ← waitFor environment run loadBalancerInterval "INGRESS_WAIT_TIMEOUT"
    lookupWait := ← waitFor environment run lookupInterval "DNS_WAIT_TIMEOUT" }

def deployment (settings : Settings) : Deployment :=
  Deployment.webServer settings.resourceName 1 containerPort

def service (settings : Settings) : Service :=
  Service.ofPods settings.resourceName servicePort containerPort

def ingress (settings : Settings) : Ingress :=
  Ingress.ofService settings.resourceName settings.className settings.externalHostname servicePort

/-- An ingress of the load balancer controller is ready when it has a host name; of another class
nothing is known to wait for. -/
def ingressReadiness (settings : Settings) : Readiness :=
  if settings.className = defaultClass then .loadBalancer settings.loadBalancerWait else .created

/-- A host is found when it has an address; whatever else is answered, it is looked up again. -/
def judgeLookup (host : String) : Except Dns.Error (List Dns.Address) → Finding
  | .ok [] => ⟨[Log.info s!"Record for {host} is not yet available, retrying..."], .pending⟩
  | .ok (_ :: _) => ⟨[Log.info "DNS record found"], .converged⟩
  | .error error =>
      ⟨[Log.warn s!"DNS query for {host} failed, retrying: {error.message}"], .pending⟩

def lookupCondition (settings : Settings) : Condition :=
  { wait := settings.lookupWait
    immediate := false
    announcement := []
    request := .lookup settings.externalHostname
    judge := judgeLookup settings.externalHostname }

def create (settings : Settings) (workspace : Workspace) : Checking Unit := do
  creating workspace.createNamespace
  Program.announce s!"Create Deployment: {settings.resourceName}"
  let deploymentSpec ← creating (liftExcept (Spec.ofTyped (deployment settings).toJson))
  creating
    (workspace.create (deploymentSpec.withReadiness (.deployment settings.deploymentWait)))
  Program.announce s!"Create Service: {settings.resourceName}"
  let serviceSpec ← creating (liftExcept (Spec.ofTyped (service settings).toJson))
  creating (workspace.create serviceSpec)

/-- Waits until the host can be looked up. -/
def awaitLookup (settings : Settings) : Checking Unit := do
  let host := settings.externalHostname
  Program.announce s!"Check DNS Record for: {host}"
  awaiting s!"error waiting for DNS record of {host}" (lookupCondition settings)
  Program.announce s!"DNS Record for {host} is available"

def converge (settings : Settings) (workspace : Workspace) : Checking Unit := do
  Program.announce s!"Create Ingress: {settings.resourceName} ({settings.className})"
  let spec ← creating (liftExcept (Spec.ofTyped (ingress settings).toJson))
  creating (workspace.create (spec.withReadiness (ingressReadiness settings)))
  if settings.skipsLookup then Program.announce "Skip Dns Check"
  else awaitLookup settings

def checker (settings : Settings) : Checker Unit :=
  { name := name
    create := fun _ workspace => create settings workspace
    converge := fun _ workspace _ => converge settings workspace }

end AddonCheck.Addon.IngressController
