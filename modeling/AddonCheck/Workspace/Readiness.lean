import AddonCheck.Request

/-
This file holds the conditions under which a created object is ready, and what each answer of the
cluster says about them.
-/

namespace AddonCheck.Workspace

open Cluster (Resource)

/-- When the creation of an object is complete. -/
inductive Readiness where
  /-- The cluster has accepted the object. -/
  | created
  /-- As many pods are ready as the deployment asks for. -/
  | deployment (wait : Wait)
  /-- The load balancer of the ingress has a host name. -/
  | loadBalancer (wait : Wait)
  /-- The named secret exists in the namespace of the object. -/
  | secret (name : String) (wait : Wait)
  deriving DecidableEq, Repr, Inhabited

/-- A refusal that does not allow the request is final; after any other error the wait goes on. -/
def judgeError (error : Cluster.Error) : Finding :=
  if error.isUnauthorized then ⟨[], .fatal error.message⟩
  else ⟨[Log.warn s!"Error while waiting for resource: {error.message}"], .pending⟩

def judgeRollout : Except Cluster.Error (Option Cluster.Rollout) → Finding
  | .ok (some rollout) =>
      let counts := s!"{rollout.readyCount}/{rollout.desiredCount}"
      if rollout.readyCount = rollout.desiredCount then
        ⟨[Log.info s!"All Pods are ready: {counts}"], .converged⟩
      else ⟨[Log.info s!"Waiting for Pods to be ready: {counts}"], .pending⟩
  | .ok none => ⟨[Log.info "Waiting for Deployment to be created"], .pending⟩
  | .error error => judgeError error

def judgeHostnames : Except Cluster.Error (Option (List (Option String))) → Finding
  | .ok hostnames =>
      match Cluster.publishedHostname (hostnames.getD []) with
      | some hostname => ⟨[Log.info s!"Ingress is now available at {hostname}"], .converged⟩
      | none => ⟨[Log.info "Waiting for Ingress to be ready"], .pending⟩
  | .error error => judgeError error

def judgeSecret (name : String) : Except Cluster.Error Bool → Finding
  | .ok true => ⟨[Log.info "Secret is created"], .converged⟩
  | .ok false => ⟨[Log.info s!"Waiting for secret {name} to be ready"], .pending⟩
  | .error error => judgeError error

/-- The condition that is awaited after the creation of an object, if there is one. Only a secret is
looked for at once. -/
def Readiness.condition? (readiness : Readiness) (resource : Resource) : Option Condition :=
  match readiness with
  | created => none
  | deployment wait => some
      { wait := wait
        immediate := false
        announcement := []
        request := .deployment resource.name resource.namespaceName
        judge := judgeRollout }
  | loadBalancer wait => some
      { wait := wait
        immediate := false
        announcement := []
        request := .ingress resource.name resource.namespaceName
        judge := judgeHostnames }
  | secret name wait => some
      { wait := wait
        immediate := true
        announcement := []
        request := .secret name resource.namespaceName
        judge := judgeSecret name }

end AddonCheck.Workspace
