/-
This file holds the errors of talking to a cluster.
-/

namespace AddonCheck.Cluster

/-- Why a cluster did not do what it was asked. -/
inductive Error where
  /-- The request got no answer that could be read. -/
  | client (reason : String)
  /-- The cluster refused the request. -/
  | refused (code : Nat) (text : String)
  | configuration (reason : String)
  | unknownKind (apiVersion kind : String)
  | missingKind
  | missingName
  | conversion (reason : String)
  deriving DecidableEq, Repr, Inhabited

namespace Error

def message : Error → String
  | client reason => s!"the kube client returned an error: `{reason}`"
  | refused code text => s!"the api-server answered with status {code}: `{text}`"
  | configuration reason => s!"it is not possible to read kubeconfig: `{reason}`"
  | unknownKind apiVersion kind =>
      s!"missing resource definition: api_version: {apiVersion}, kind: {kind}"
  | missingKind => "the kind of the object is missing"
  | missingName => "the name of the object is missing"
  | conversion reason => s!"cannot convert the object into a dynamic object: `{reason}`"

/-- The status of a refusal. -/
def status? : Error → Option Nat
  | refused code _ => some code
  | _ => none

/-- Trying again does not help a request that is not allowed. -/
def isUnauthorized (error : Error) : Bool :=
  error.status? == some 401 || error.status? == some 403

end Error

end AddonCheck.Cluster
