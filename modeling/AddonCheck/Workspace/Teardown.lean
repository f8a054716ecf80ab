import AddonCheck.Workspace.Creation

/-
This file deletes the objects of a run. A deletion that fails does not keep the others from being
tried.
-/

namespace AddonCheck.Workspace

open Cluster (Resource)

/-- Deletes one object; an object that is not there counts as deleted. -/
def delete (resource : Resource) : Program (Option DeletionFailure) := do
  Program.log (Log.info "Deleting resource")
  match ← Program.ask (.delete resource) with
  | .ok .deleted =>
      Program.log (Log.info "Deleted resource")
      return none
  | .ok .notFound => return none
  | .error error =>
      Program.log (Log.error s!"Error deleting resource: {error.message}")
      return some ⟨resource, error⟩

/-- Deletes objects in order and gathers the failures. -/
def deleteEach : List Resource → Program (List DeletionFailure)
  | [] => pure []
  | resource :: rest => do
      let failure ← delete resource
      let failures ← deleteEach rest
      return failure.toList ++ failures

/-- Deletes what is registered, unless the run is a debug run. -/
def deleteAll (workspace : Workspace) : Program (Except TeardownError Unit) := do
  if workspace.debug then
    Program.log (Log.info "Skip Delete Resources")
    return .ok ()
  else
    let resources ← Program.drain
    let failures ← deleteEach resources
    return (TeardownError.mk failures).result

end AddonCheck.Workspace
