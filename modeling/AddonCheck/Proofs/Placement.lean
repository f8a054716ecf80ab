import AddonCheck.Proofs.References
import Mathlib.Data.Fintype.Card

/-
This file reads off a written deployment where a cluster may place its pods. The required rules of
the pods count: the nodes on which they may be, and the pods that they are kept apart from.
-/

namespace AddonCheck

namespace Cluster

/-! ## Labels -/

/-- How an expression of a selector compares the label of its key with its values. -/
inductive Operator where
  | among
  | notAmong
  | labelled
  | unlabelled
  deriving DecidableEq, Repr

namespace Operator

def read? : String → Option Operator
  | "In" => some among
  | "NotIn" => some notAmong
  | "Exists" => some labelled
  | "DoesNotExist" => some unlabelled
  | _ => none

end Operator

/-- A node of a cluster. Every node is labelled with its host name. -/
structure Node where
  name : String
  hostname : String
  labels : List (String × String)
  deriving DecidableEq, Repr

namespace Node

def label? (node : Node) (key : String) : Option String :=
  if key = "kubernetes.io/hostname" then some node.hostname else node.labels.lookup key

end Node

/-! ## The rules of a deployment -/

namespace Object

variable (object : Object)

end Object

/-- A requirement holds of labels in which its key has one of its values. -/
def Requirement.Holds (requirement : Requirement) (label? : String → Option String) : Prop :=
  ∃ value ∈ requirement.values, label? requirement.key = some value

section

variable {deployment : Deployment} {namespaceName : String}

/-- The object of a deployment. -/
def Deployment.object (deployment : Deployment) (namespaceName : String) : Object :=
  .ofWritten Kind.deployment (.labelled deployment.name) namespaceName deployment.toJson

variable {affinity : Affinity} (placed : deployment.affinity = some affinity)

include placed

end

end Cluster

end AddonCheck
