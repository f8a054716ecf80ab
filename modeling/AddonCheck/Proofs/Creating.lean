import AddonCheck.Run.Checker
import Mathlib.Data.Set.Basic

/-
This file holds the checks that deal with the objects of the cluster through their workspace alone:
they create with its operations, in any order and as often as they like, and whatever else they do
neither creates nor deletes an object.
-/

namespace AddonCheck

open Cluster (Resource)

/-- The handle of an object that has a kind and a name. An object of no namespace has an empty
one. -/
def Cluster.Object.resource? (object : Cluster.Object) : Option Resource :=
  match object.kind, object.metadata.name with
  | some kind, some name => some ⟨kind, name, object.metadata.namespaceName.getD ""⟩
  | _, _ => none

theorem Cluster.Object.resource?_eq_some {object : Cluster.Object} {resource : Resource}
    (named : object.resource? = some resource) :
    ∃ kind name, object.kind = some kind ∧ object.metadata.name = some name ∧
      ⟨kind, name, object.metadata.namespaceName.getD ""⟩ = resource := by
  unfold Cluster.Object.resource? at named
  split at named
  · next kind name hasKind hasName => exact ⟨kind, name, hasKind, hasName, Option.some.inj named⟩
  · cases named

/-- A request that neither changes the cluster nor delivers a notification. -/
def Request.IsReading : Request → Prop
  | .create _ => False
  | .delete _ => False
  | .deliver _ => False
  | _ => True

/-- An action that a check may perform beside the operations of its workspace. -/
def Action.IsPassive : Action → Prop
  | .log _ => True
  | .clock => True
  | .isCancelled => True
  | .cancel => True
  | .pause _ => True
  | .await condition => condition.request.IsReading
  | .ask request => request.IsReading
  | .isRegistryEmpty => True
  | .addLine _ => True
  | _ => False

namespace Workspace

theorem object_resource? (workspace : Workspace) :
    workspace.object.resource? = some workspace.resource := rfl

/-- An object is created under the handle that is registered for it. -/
theorem Spec.placed_resource? {workspace : Workspace} {spec : Spec} {resource : Resource}
    (found : spec.resource workspace = .ok resource) :
    (spec.placed workspace).resource? = some resource := by
  unfold Spec.resource at found
  split at found
  · cases found
  · cases found
  · next kind name hasKind hasName =>
      cases found
      simp only [Cluster.Object.resource?, Spec.placed]
      rw [hasKind, hasName]
      rfl

/-- What is awaited after a creation is read. -/
theorem Readiness.condition?_isReading {readiness : Readiness} {resource : Resource}
    {condition : Condition} (found : readiness.condition? resource = some condition) :
    condition.request.IsReading := by
  cases readiness <;> cases found <;> trivial

end Workspace

namespace Program

variable {α β : Type} {workspace : Workspace} {handles : Set Resource}

/-- The programs that deal with objects through the operations of a workspace alone, and with no
objects but those of the given handles. -/
inductive CreatesIn (workspace : Workspace) (handles : Set Resource) : Program α → Prop where
  | done (value : α) : CreatesIn workspace handles (.done value)
  | crash : CreatesIn workspace handles .crash
  | passive {action : Action} {next : action.Answer → Program α} (passive : action.IsPassive)
      (rest : ∀ answer, CreatesIn workspace handles (next answer)) :
      CreatesIn workspace handles (.perform action next)
  | createNamespace {next : Except Workspace.CreationError Unit → Program α}
      (known : workspace.resource ∈ handles)
      (rest : ∀ result, CreatesIn workspace handles (next result)) :
      CreatesIn workspace handles (workspace.createNamespace.run.bind next)
  | create {spec : Workspace.Spec} {next : Except Workspace.CreationError Unit → Program α}
      (known : ∀ resource, spec.resource workspace = .ok resource → resource ∈ handles)
      (rest : ∀ result, CreatesIn workspace handles (next result)) :
      CreatesIn workspace handles ((workspace.create spec).run.bind next)
  | createAll {specs : List Workspace.Spec}
      {next : Except Workspace.CreationError Unit → Program α}
      (known : ∀ spec ∈ specs, ∀ resource, spec.resource workspace = .ok resource →
        resource ∈ handles)
      (rest : ∀ result, CreatesIn workspace handles (next result)) :
      CreatesIn workspace handles ((workspace.createAll specs).run.bind next)

/-- A sequence of such programs is such a program. -/
theorem CreatesIn.bind {program : Program α} {next : α → Program β}
    (first : program.CreatesIn workspace handles)
    (rest : ∀ value, (next value).CreatesIn workspace handles) :
    (program.bind next).CreatesIn workspace handles := by
  induction first with
  | done value => exact rest value
  | crash => exact .crash
  | passive isPassive _ inductionHypothesis => exact .passive isPassive inductionHypothesis
  | createNamespace known _ inductionHypothesis =>
      rw [bind_assoc]
      exact .createNamespace known inductionHypothesis
  | create known _ inductionHypothesis =>
      rw [bind_assoc]
      exact .create known inductionHypothesis
  | createAll known _ inductionHypothesis =>
      rw [bind_assoc]
      exact .createAll known inductionHypothesis

theorem createsIn_createNamespace (known : workspace.resource ∈ handles) :
    workspace.createNamespace.run.CreatesIn workspace handles := by
  rw [← bind_done workspace.createNamespace.run]
  exact .createNamespace known .done

theorem createsIn_create {spec : Workspace.Spec}
    (known : ∀ resource, spec.resource workspace = .ok resource → resource ∈ handles) :
    (workspace.create spec).run.CreatesIn workspace handles := by
  rw [← bind_done (workspace.create spec).run]
  exact .create known .done

theorem createsIn_createAll {specs : List Workspace.Spec}
    (known : ∀ spec ∈ specs, ∀ resource, spec.resource workspace = .ok resource →
      resource ∈ handles) :
    (workspace.createAll specs).run.CreatesIn workspace handles := by
  rw [← bind_done (workspace.createAll specs).run]
  exact .createAll known .done

/-- A step of the creation is a step of a check. -/
theorem CreatesIn.creating {program : Workspace.Creating α}
    (creates : program.run.CreatesIn workspace handles) :
    (Run.creating program).run.CreatesIn workspace handles :=
  creates.bind fun _ => .done _

/-- The steps of a check follow one another up to the first one that fails. -/
theorem CreatesIn.andThen {first : Run.Checking α} {next : α → Run.Checking β}
    (creates : first.run.CreatesIn workspace handles)
    (rest : ∀ value, (next value).run.CreatesIn workspace handles) :
    (first >>= next).run.CreatesIn workspace handles := by
  apply creates.bind
  intro result
  cases result with
  | error error => exact .done _
  | ok value => exact rest value

end Program

/-- Both phases of the check deal with objects through its workspace alone. -/
structure Run.Checker.CreatesIn {κ : Type} (checker : Run.Checker κ) (context : Run.Context)
    (workspace : Workspace) (handles : Set Resource) : Prop where
  create : (checker.create context workspace).run.CreatesIn workspace handles
  converge : ∀ created,
    (checker.converge context workspace created).run.CreatesIn workspace handles

end AddonCheck
