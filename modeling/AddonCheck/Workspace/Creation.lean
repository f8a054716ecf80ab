import AddonCheck.Program
import AddonCheck.Workspace.Error
import AddonCheck.Workspace.Readiness

/-
This file creates the objects of a run. Each object is registered before the cluster is asked to
create it, so that the teardown finds it whatever the answer is.
-/

namespace AddonCheck

open Cluster (Resource)

namespace Workspace

/-- An object to create, and when its creation is complete. -/
structure Spec where
  object : Cluster.Object
  readiness : Readiness := .created
  deriving Inhabited, Repr

namespace Spec

/-- The object that a typed object is written as. -/
def ofTyped (value : Json) : Except CreationError Spec :=
  match Cluster.Object.ofTyped value with
  | .ok object => .ok { object := object }
  | .error error => .error (.invalidObject error)

def withReadiness (spec : Spec) (readiness : Readiness) : Spec :=
  { spec with readiness := readiness }

/-- The namespace in which the object is created. -/
def placeIn (workspace : Workspace) (spec : Spec) : String :=
  spec.object.metadata.namespaceName.getD workspace.name

/-- The object with its namespace filled in. -/
def placed (workspace : Workspace) (spec : Spec) : Cluster.Object :=
  { spec.object with
    metadata :=
      { spec.object.metadata with namespaceName := some (spec.placeIn workspace) } }

/-- The handle of the object, which must have a kind and a name. -/
def resource (workspace : Workspace) (spec : Spec) : Except CreationError Resource :=
  match spec.object.kind, spec.object.metadata.name with
  | none, _ => .error (.invalidObject .missingKind)
  | some _, none => .error (.invalidObject .missingName)
  | some kind, some name => .ok ⟨kind, name, spec.placeIn workspace⟩

end Spec

/-- The outcome of creating objects. -/
abbrev Creating (α : Type) := ExceptT CreationError Program α

/-- Sends a creation. An object that exists already is used as it is. -/
def send (resource : Resource) (object : Cluster.Object) : Creating Unit := do
  match ← Program.ask (.create object) with
  | .ok .created => Program.log (Log.info "Created resource")
  | .ok .alreadyExists => Program.log (Log.warn "Resource already exists, reusing it")
  | .error error => throw (.refused resource error)

/-- Waits until an object is ready. -/
def awaitReadiness (resource : Resource) (readiness : Readiness) : Creating Unit :=
  match readiness.condition? resource with
  | none => pure ()
  | some condition => do
      match ← Program.await condition with
      | .ok _ => pure ()
      | .error error => throw (.notReady resource error)

/-- Nothing is registered or sent once the run is cancelled. -/
def checkActive (resource : Resource) : Creating Unit := do
  if ← Program.isCancelled then throw (.cancelled resource)

def createNamespace (workspace : Workspace) : Creating Unit := do
  checkActive workspace.resource
  Program.registerWorkspace workspace.resource
  Program.log (Log.info "Creating Namespace")
  send workspace.resource workspace.object

def create (workspace : Workspace) (spec : Spec) : Creating Unit := do
  let resource ← spec.resource workspace
  checkActive resource
  Program.register resource
  Program.log (Log.info "Creating resource")
  send resource (spec.placed workspace)
  awaitReadiness resource spec.readiness

/-- Creates objects in order up to the first one that fails. -/
def createAll (workspace : Workspace) : List Spec → Creating Unit
  | [] => pure ()
  | spec :: rest => do
      workspace.create spec
      workspace.createAll rest

end Workspace

end AddonCheck
