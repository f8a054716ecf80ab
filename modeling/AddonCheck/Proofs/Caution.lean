import AddonCheck.Proofs.Actions
import AddonCheck.Proofs.Creating

/-
This file holds how a thread goes about its next object. The token of the run is tested, the object
is registered at once after the test, and then its creation is sent. Every operation of a workspace
keeps to this order, and so does every check that creates with these operations.
-/

namespace AddonCheck

open Cluster (Resource)

/-- How far a thread is with its next object. -/
inductive Caution where
  | unchecked
  /-- The last thing that the thread has done is a test of the token, and the run was not
  cancelled. -/
  | cleared
  /-- The object has been registered after such a test, and its creation has not been sent. -/
  | announced (resource : Resource)
  deriving DecidableEq, Repr

namespace Caution

/-- Only a thread that is cleared registers, and only what is registered is created. -/
def allows (caution : Caution) : Action → Prop
  | .registerWorkspace _ => caution = cleared
  | .register _ => caution = cleared
  | .ask (.create object) => ∃ resource, caution = announced resource ∧
      object.resource? = some resource
  | _ => True

/-- A line that is logged does not come between a registration and its creation. -/
def logged : Caution → Caution
  | announced resource => announced resource
  | _ => unchecked

def next (caution : Caution) : (action : Action) → action.Answer → Caution
  | .isCancelled, (cancelled : Bool) => if cancelled then unchecked else cleared
  | .registerWorkspace resource, _ => announced resource
  | .register resource, _ => announced resource
  | .log _, _ => caution.logged
  | _, _ => unchecked

def discipline : Discipline Caution where
  allows := allows
  next := next

/-- No object is under way. -/
def IsIdle (caution : Caution) : Prop := ∀ resource, caution ≠ announced resource

/-- An action beside the operations is allowed, and with it no object gets under way. -/
theorem isIdle_of_isPassive {action : Action} (passive : action.IsPassive) {caution : Caution}
    (idle : caution.IsIdle) :
    caution.allows action ∧ ∀ answer, (caution.next action answer).IsIdle := by
  cases action with
  | ask request =>
      cases request with
      | create object => exact passive.elim
      | _ => exact ⟨trivial, fun _ _ => Caution.noConfusion⟩
  | registerWorkspace resource => exact passive.elim
  | register resource => exact passive.elim
  | isCancelled =>
      refine ⟨trivial, fun (cancelled : Bool) => ?_⟩
      cases cancelled <;> exact fun _ => Caution.noConfusion
  | log line =>
      refine ⟨trivial, fun _ => ?_⟩
      cases caution with
      | announced resource => exact (idle resource rfl).elim
      | _ => exact fun _ => Caution.noConfusion
  | _ => exact ⟨trivial, fun _ _ => Caution.noConfusion⟩

end Caution

/-! The operations of a workspace begin and end when no object is under way. -/

namespace Workspace

variable {workspace : Workspace}

/-- The object that has been registered is created, and nothing more is under way. -/
theorem send_cautious {resource : Resource} {object : Cluster.Object}
    (named : object.resource? = some resource) :
    (send resource object).run.Keeps Caution.discipline (.announced resource)
      fun _ caution => caution.IsIdle := by
  rw [send_run]
  refine ⟨⟨resource, rfl, named⟩, fun answer => ?_⟩
  rcases answer with error | (_ | _)
  · exact fun _ => Caution.noConfusion
  · exact ⟨trivial, fun _ _ => Caution.noConfusion⟩
  · exact ⟨trivial, fun _ _ => Caution.noConfusion⟩

theorem awaitReadiness_cautious (resource : Resource) (readiness : Readiness) {caution : Caution}
    (idle : caution.IsIdle) :
    (awaitReadiness resource readiness).run.Keeps Caution.discipline caution
      fun _ caution => caution.IsIdle := by
  rw [awaitReadiness_run]
  split
  · exact idle
  · refine ⟨trivial, fun answer => ?_⟩
    cases answer <;> exact fun _ => Caution.noConfusion

theorem createNamespace_cautious (caution : Caution) :
    workspace.createNamespace.run.Keeps Caution.discipline caution
      fun _ caution => caution.IsIdle := by
  rw [createNamespace_run]
  refine ⟨trivial, fun (cancelled : Bool) => ?_⟩
  cases cancelled with
  | true => exact fun _ => Caution.noConfusion
  | false => exact ⟨rfl, fun _ => ⟨trivial, fun _ => send_cautious workspace.object_resource?⟩⟩

theorem create_cautious (spec : Spec) {caution : Caution} (idle : caution.IsIdle) :
    (workspace.create spec).run.Keeps Caution.discipline caution
      fun _ caution => caution.IsIdle := by
  rw [create_run]
  split
  · exact idle
  · next resource found =>
      refine ⟨trivial, fun (cancelled : Bool) => ?_⟩
      cases cancelled with
      | true => exact fun _ => Caution.noConfusion
      | false =>
          refine ⟨rfl, fun _ => ⟨trivial, fun _ => ?_⟩⟩
          refine (send_cautious (Spec.placed_resource? found)).bind ?_ fun _ ended => ended
          rintro (error | _) caution idle
          · exact idle
          · exact awaitReadiness_cautious resource spec.readiness idle

theorem createAll_cautious (specs : List Spec) {caution : Caution} (idle : caution.IsIdle) :
    (workspace.createAll specs).run.Keeps Caution.discipline caution
      fun _ caution => caution.IsIdle := by
  induction specs generalizing caution with
  | nil => exact idle
  | cons spec rest inductionHypothesis =>
      rw [createAll_run]
      refine (create_cautious spec idle).bind ?_ fun _ ended => ended
      rintro (error | _) caution idle
      · exact idle
      · exact inductionHypothesis idle

end Workspace

/-- A check that creates with the operations of its workspace is cautious. -/
theorem Program.CreatesIn.cautious {α : Type} {program : Program α} {workspace : Workspace}
    {handles : Set Resource} (creates : program.CreatesIn workspace handles) {caution : Caution}
    (idle : caution.IsIdle) :
    program.Keeps Caution.discipline caution fun _ caution => caution.IsIdle := by
  induction creates generalizing caution with
  | done value => exact idle
  | crash => exact idle
  | passive isPassive _ inductionHypothesis =>
      obtain ⟨allowed, onward⟩ := Caution.isIdle_of_isPassive isPassive idle
      exact ⟨allowed, fun answer => inductionHypothesis answer (onward answer)⟩
  | createNamespace _ _ inductionHypothesis =>
      exact (Workspace.createNamespace_cautious caution).bind
        (fun result _ idle => inductionHypothesis result idle) fun _ ended => ended
  | create _ _ inductionHypothesis =>
      exact (Workspace.create_cautious _ idle).bind
        (fun result _ idle => inductionHypothesis result idle) fun _ ended => ended
  | createAll _ _ inductionHypothesis =>
      exact (Workspace.createAll_cautious _ idle).bind
        (fun result _ idle => inductionHypothesis result idle) fun _ ended => ended

end AddonCheck
