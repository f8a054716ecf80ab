import AddonCheck.Cluster.Resource
import AddonCheck.Poll

/-
This file holds the errors of creating and deleting the objects of a run.
-/

namespace AddonCheck.Workspace

open Cluster (Resource)

/-- Why an object was not created, or is not ready. -/
inductive CreationError where
  | invalidObject (error : Cluster.Error)
  | refused (resource : Resource) (error : Cluster.Error)
  | notReady (resource : Resource) (error : Poll.Error)
  | cancelled (resource : Resource)
  deriving DecidableEq, Repr, Inhabited

namespace CreationError

def message : CreationError → String
  | invalidObject error => s!"invalid object: {error.message}"
  | refused resource error => s!"error creating {resource.text}: {error.message}"
  | notReady resource error => s!"waiting for {resource.text} to be ready: {error.message}"
  | cancelled resource => s!"creation of {resource.text} cancelled"

def isCancelled : CreationError → Bool
  | cancelled _ => true
  | notReady _ error => error.isCancelled
  | _ => false

end CreationError

/-- An object that was not deleted, and why. -/
structure DeletionFailure where
  resource : Resource
  error : Cluster.Error
  deriving DecidableEq, Repr, Inhabited

def DeletionFailure.message (failure : DeletionFailure) : String :=
  s!"error deleting {failure.resource.text}: {failure.error.message}"

/-- The failures of a teardown, in the order in which they happened. -/
structure TeardownError where
  failures : List DeletionFailure
  deriving DecidableEq, Repr, Inhabited

namespace TeardownError

/-- The number of failures, and each failure on a line of its own. -/
def message (error : TeardownError) : String :=
  error.failures.foldl (fun text failure => text ++ s!"\n\t* {failure.message}")
    s!"{error.failures.length} error(s) occurred:"

/-- A teardown without failures is a success. -/
def result (error : TeardownError) : Except TeardownError Unit :=
  if error.failures.isEmpty then .ok () else .error error

end TeardownError

end AddonCheck.Workspace
