import AddonCheck.Cluster.Resource

/-
This file holds the registry of a run: the objects that it has asked the cluster to create.
-/

namespace AddonCheck

open Cluster (Resource)

/-- The namespace of a run and the objects in it, in the order of their registration. -/
structure Registry where
  workspace : Option Resource := none
  resources : List Resource := []
  deriving DecidableEq, Repr, Inhabited

namespace Registry

def isEmpty (registry : Registry) : Bool :=
  registry.workspace.isNone && registry.resources.isEmpty

def registerWorkspace (registry : Registry) (resource : Resource) : Registry :=
  { registry with workspace := some resource }

def register (registry : Registry) (resource : Resource) : Registry :=
  { registry with resources := registry.resources ++ [resource] }

/-- Objects are deleted in the reverse order of their registration, and the namespace last. -/
def deletionOrder (registry : Registry) : List Resource :=
  registry.resources.reverse ++ registry.workspace.toList

@[simp] theorem deletionOrder_empty : deletionOrder {} = [] := rfl

theorem deletionOrder_register (registry : Registry) (resource : Resource) :
    (registry.register resource).deletionOrder = resource :: registry.deletionOrder := by
  simp [register, deletionOrder]

theorem isEmpty_iff (registry : Registry) :
    registry.isEmpty = true ↔ registry.deletionOrder = [] := by
  cases registry with
  | mk workspace resources => cases workspace <;> cases resources <;> simp [isEmpty, deletionOrder]

end Registry

end AddonCheck
