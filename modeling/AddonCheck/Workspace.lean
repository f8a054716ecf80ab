import AddonCheck.Cluster.Resource

/-
This file holds the disposable namespaces of runs.
-/

namespace AddonCheck

/-- The namespace of a run. A debug run keeps what it created. -/
structure Workspace where
  name : String
  debug : Bool
  deriving DecidableEq, Repr, Inhabited

namespace Workspace

/-- The handle of the namespace itself, which lies in no namespace. -/
def resource (workspace : Workspace) : Cluster.Resource :=
  ⟨Cluster.Kind.namespaceKind, workspace.name, ""⟩

/-- The object of the namespace itself. -/
def object (workspace : Workspace) : Cluster.Object :=
  { kind := some Cluster.Kind.namespaceKind
    metadata := { name := some workspace.name }
    data := .object [] }

end Workspace

end AddonCheck
