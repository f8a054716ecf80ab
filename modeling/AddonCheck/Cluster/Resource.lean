import AddonCheck.Cluster.Object

/-
This file holds the handles of objects: what is needed to read or delete an object later.
-/

namespace AddonCheck.Cluster

/-- The handle of an object. -/
structure Resource where
  kind : Kind
  name : String
  namespaceName : String
  deriving DecidableEq, Repr, Inhabited

/-- A handle is shown as the kind, the namespace and the name. -/
def Resource.text (resource : Resource) : String :=
  s!"{resource.kind.kind} {resource.namespaceName}/{resource.name}"

/-- How a cluster answers a creation that it does not refuse. -/
inductive Creation where
  | created
  | alreadyExists
  deriving DecidableEq, Repr, Inhabited

/-- How a cluster answers a deletion that it does not refuse. -/
inductive Deletion where
  | deleted
  | notFound
  deriving DecidableEq, Repr, Inhabited

/-- The pods that a deployment asks for and the pods that are ready, as far as they are known. -/
structure Rollout where
  desired : Option Int
  ready : Option Int
  deriving DecidableEq, Repr, Inhabited

/-- A deployment asks for one pod unless it says otherwise. -/
def Rollout.desiredCount (rollout : Rollout) : Int := rollout.desired.getD 1

def Rollout.readyCount (rollout : Rollout) : Int := rollout.ready.getD 0

/-- The first entry of a load balancer that has a host name which is not empty. -/
def publishedHostname (hostnames : List (Option String)) : Option String :=
  hostnames.findSome? fun hostname => hostname.filter fun text => text != ""

end AddonCheck.Cluster
