/-
This file holds the kinds of objects that the checks create.
-/

namespace AddonCheck.Cluster

/-- An object names the version of its interface and its kind. -/
structure Kind where
  apiVersion : String
  kind : String
  deriving DecidableEq, Repr, Inhabited

namespace Kind

def namespaceKind : Kind := ⟨"v1", "Namespace"⟩

def deployment : Kind := ⟨"apps/v1", "Deployment"⟩

def service : Kind := ⟨"v1", "Service"⟩

def ingress : Kind := ⟨"networking.k8s.io/v1", "Ingress"⟩

def certificate : Kind := ⟨"cert-manager.io/v1", "Certificate"⟩

def issuer : Kind := ⟨"cert-manager.io/v1", "Issuer"⟩

/-- The kinds that the checks create. -/
def created : List Kind := [namespaceKind, deployment, service, ingress, certificate, issuer]

end Kind

end AddonCheck.Cluster
