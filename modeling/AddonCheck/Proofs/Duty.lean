import AddonCheck.Proofs.Actions
import AddonCheck.Proofs.Creating
import AddonCheck.Proofs.Discipline

/-
This file holds what a thread of a run owes to the objects of the cluster. An object that has been
registered is created next, and what has been taken from the registry is deleted before the thread
ends or ends the process. The run of every check and its watcher keep this discipline.
-/

namespace AddonCheck

open Cluster (Resource)

/-- What a thread owes. -/
inductive Duty where
  /-- The thread creates nothing; it may still tear the workspace down. -/
  | idle
  | creating
  /-- An object has been registered, and its creation has not been sent. -/
  | announced (resource : Resource)
  /-- These objects have been taken from the registry, and their deletions have not been sent. -/
  | clearing (resources : List Resource)
  deriving DecidableEq, Repr

namespace Duty

/-- The objects that are out of the registry and not yet deleted. -/
def pending : Duty → List Resource
  | clearing resources => resources
  | _ => []

/-- What a teardown leaves of a duty: in a debug run it takes nothing from the registry. -/
def settled (workspace : Workspace) (duty : Duty) : Duty :=
  if workspace.debug then duty else clearing []

theorem settled_of_deletes {workspace : Workspace} (deletes : workspace.debug = false)
    (duty : Duty) : duty.settled workspace = clearing [] := if_neg (by simp [deletes])

theorem settled_of_keeps {workspace : Workspace} (keeps : workspace.debug = true)
    (duty : Duty) : duty.settled workspace = duty := if_pos keeps

/-- Only what is given may be registered, and only in its turn may it be created or deleted. A
watcher is started in a watched run alone. -/
def allows (workspace : Workspace) (handles : Set Resource) (watched : Bool) (duty : Duty) :
    Action → Prop
  | .registerWorkspace resource =>
      duty = creating ∧ resource = workspace.resource ∧ resource ∈ handles
  | .register resource => duty = creating ∧ resource ∈ handles
  | .ask (.create object) => ∃ resource, duty = announced resource ∧
      object.resource? = some resource
  | .ask (.delete resource) => ∃ rest, duty = clearing (resource :: rest)
  | .drain => duty = idle ∨ duty = creating
  | .await condition => condition.request.IsReading
  | .watch _ => watched = true
  | .exit => duty = clearing []
  | _ => True

def next (duty : Duty) : (action : Action) → action.Answer → Duty
  | .registerWorkspace resource, _ => announced resource
  | .register resource, _ => announced resource
  | .ask (.create _), _ => creating
  | .ask (.delete _), _ => clearing duty.pending.tail
  | .drain, taken => clearing taken
  | _, _ => duty

def discipline (workspace : Workspace) (handles : Set Resource) (watched : Bool) :
    Discipline Duty where
  allows := allows workspace handles watched
  next := next

variable {workspace : Workspace} {handles : Set Resource} {watched : Bool}

/-- The action is always allowed, and no duty comes or goes with it. -/
def IsFree (workspace : Workspace) (handles : Set Resource) (watched : Bool)
    (action : Action) : Prop :=
  ∀ duty : Duty, duty.allows workspace handles watched action ∧
    ∀ answer, duty.next action answer = duty

theorem isFree_of_isPassive {action : Action} (passive : action.IsPassive) :
    IsFree workspace handles watched action := by
  intro duty
  cases action with
  | ask request => cases request <;> simp_all [Action.IsPassive, Request.IsReading, allows, next]
  | await condition => exact ⟨passive, fun _ => rfl⟩
  | _ => simp_all [Action.IsPassive, allows, next]

/-- A program of free actions may be performed under every duty. -/
theorem keeps_of_uses {α : Type} {program : Program α}
    (uses : program.Uses (IsFree workspace handles watched)) (duty : Duty) :
    program.Keeps (discipline workspace handles watched) duty fun _ after => after = duty :=
  uses.keeps fun _ free => free duty

end Duty

/-! The operations of a workspace. -/

namespace Workspace

variable {workspace : Workspace} {handles : Set Resource} {watched : Bool}

/-- The creation that has been announced is sent, and no duty is left. -/
theorem send_keeps {resource : Resource} {object : Cluster.Object}
    (named : object.resource? = some resource) :
    (send resource object).run.Keeps (Duty.discipline workspace handles watched)
      (.announced resource) fun _ duty => duty = .creating := by
  rw [send_run]
  refine ⟨⟨resource, rfl, named⟩, fun answer => ?_⟩
  rcases answer with error | (_ | _)
  · rfl
  · exact ⟨trivial, fun _ => rfl⟩
  · exact ⟨trivial, fun _ => rfl⟩

theorem awaitReadiness_keeps (resource : Resource) (readiness : Readiness) :
    (awaitReadiness resource readiness).run.Keeps (Duty.discipline workspace handles watched)
      .creating fun _ duty => duty = .creating := by
  rw [awaitReadiness_run]
  split
  · rfl
  · next condition found =>
      refine ⟨Readiness.condition?_isReading found, fun answer => ?_⟩
      cases answer <;> rfl

theorem createNamespace_keeps (known : workspace.resource ∈ handles) :
    workspace.createNamespace.run.Keeps (Duty.discipline workspace handles watched) .creating
      fun _ duty => duty = .creating := by
  rw [createNamespace_run]
  refine ⟨trivial, fun (cancelled : Bool) => ?_⟩
  cases cancelled with
  | true => rfl
  | false =>
      refine ⟨⟨rfl, rfl, known⟩, fun _ => ⟨trivial, fun _ => ?_⟩⟩
      exact send_keeps workspace.object_resource?

theorem create_keeps {spec : Spec}
    (known : ∀ resource, spec.resource workspace = .ok resource → resource ∈ handles) :
    (workspace.create spec).run.Keeps (Duty.discipline workspace handles watched) .creating
      fun _ duty => duty = .creating := by
  rw [create_run]
  split
  · rfl
  · next resource found =>
      refine ⟨trivial, fun (cancelled : Bool) => ?_⟩
      cases cancelled with
      | true => rfl
      | false =>
          refine ⟨⟨rfl, known resource found⟩, fun _ => ⟨trivial, fun _ => ?_⟩⟩
          apply (send_keeps (Spec.placed_resource? found)).bind_at rfl
          intro result
          cases result with
          | error error => rfl
          | ok _ => exact awaitReadiness_keeps resource spec.readiness

theorem createAll_keeps {specs : List Spec}
    (known : ∀ spec ∈ specs, ∀ resource, spec.resource workspace = .ok resource →
      resource ∈ handles) :
    (workspace.createAll specs).run.Keeps (Duty.discipline workspace handles watched) .creating
      fun _ duty => duty = .creating := by
  induction specs with
  | nil => rfl
  | cons spec rest inductionHypothesis =>
      rw [createAll_run]
      apply (create_keeps (known spec List.mem_cons_self)).bind_at rfl
      intro result
      cases result with
      | error error => rfl
      | ok _ =>
          exact inductionHypothesis fun spec member => known spec (List.mem_cons_of_mem _ member)

/-- The object that is next is deleted, whatever the answer is. -/
theorem delete_keeps (resource : Resource) (rest : List Resource) :
    (delete resource).Keeps (Duty.discipline workspace handles watched)
      (.clearing (resource :: rest))
      fun result duty => result.isSome ∧ duty = .clearing rest := by
  rw [delete_eq]
  refine ⟨trivial, fun _ => ⟨⟨rest, rfl⟩, fun answer => ?_⟩⟩
  rcases answer with error | (_ | _)
  · exact ⟨trivial, fun _ => ⟨rfl, rfl⟩⟩
  · exact ⟨trivial, fun _ => ⟨rfl, rfl⟩⟩
  · exact ⟨rfl, rfl⟩

/-- Every object is deleted in its turn, whatever the answers are. -/
theorem deleteEach_keeps (resources : List Resource) :
    (deleteEach resources).Keeps (Duty.discipline workspace handles watched) (.clearing resources)
      fun result duty => result.isSome ∧ duty = .clearing [] := by
  induction resources with
  | nil => exact ⟨rfl, rfl⟩
  | cons resource rest inductionHypothesis =>
      rw [deleteEach_cons]
      refine (delete_keeps resource rest).bind ?_ fun _ ended => (by simp at ended)
      rintro failure duty ⟨-, rfl⟩
      exact inductionHypothesis.bind (fun _ _ ended => ⟨rfl, ended.2⟩) fun _ ended =>
        (by simp at ended)

/-- A teardown takes what is registered, and nothing of it is left when it ends. That of a debug run
leaves everything as it is. -/
theorem deleteAll_settles {duty : Duty} (ready : duty = .idle ∨ duty = .creating) :
    workspace.deleteAll.Keeps (Duty.discipline workspace handles watched) duty
      fun result after => result.isSome ∧ after = duty.settled workspace := by
  rw [deleteAll_eq]
  unfold Duty.settled
  split
  · exact ⟨trivial, fun _ => ⟨rfl, rfl⟩⟩
  · refine ⟨ready, fun resources => ?_⟩
    exact (deleteEach_keeps resources).bind (fun _ _ ended => ⟨rfl, ended.2⟩) fun _ ended =>
      (by simp at ended)

theorem deleteAll_keeps (deletes : workspace.debug = false) {duty : Duty}
    (ready : duty = .idle ∨ duty = .creating) :
    workspace.deleteAll.Keeps (Duty.discipline workspace handles watched) duty
      fun result after => result.isSome ∧ after = .clearing [] := by
  have settles : workspace.deleteAll.Keeps (Duty.discipline workspace handles watched) duty
      fun result after => result.isSome ∧ after = duty.settled workspace :=
    deleteAll_settles ready
  rwa [Duty.settled_of_deletes deletes] at settles

end Workspace

/-! The phases of a run, and its watcher. -/

variable {workspace : Workspace} {handles : Set Resource} {watched : Bool}

/-- A check that creates through its workspace owes nothing between two operations. -/
theorem Program.CreatesIn.keeps {α : Type} {program : Program α}
    (creates : program.CreatesIn workspace handles) :
    program.Keeps (Duty.discipline workspace handles watched) .creating
      fun _ duty => duty = .creating := by
  induction creates with
  | done value => rfl
  | crash => rfl
  | @passive action next isPassive _ inductionHypothesis =>
      obtain ⟨allowed, unchanged⟩ := Duty.isFree_of_isPassive isPassive .creating
      refine ⟨allowed, fun answer => ?_⟩
      change (next answer).Keeps _ (Duty.creating.next action answer) _
      rw [unchanged answer]
      exact inductionHypothesis answer
  | createNamespace known _ inductionHypothesis =>
      exact (Workspace.createNamespace_keeps known).bind_at rfl inductionHypothesis
  | create known _ inductionHypothesis =>
      exact (Workspace.create_keeps known).bind_at rfl inductionHypothesis
  | createAll known _ inductionHypothesis =>
      exact (Workspace.createAll_keeps known).bind_at rfl inductionHypothesis

namespace Duty

theorem isFree_log (line : Log.Line) : IsFree workspace handles watched (.log line) :=
  fun _ => ⟨trivial, fun _ => rfl⟩

theorem isFree_addLine (text : String) : IsFree workspace handles watched (.addLine text) :=
  fun _ => ⟨trivial, fun _ => rfl⟩

theorem flush_uses (channel : Notification.Channel) :
    (Notification.flush channel).Uses (IsFree workspace handles watched) :=
  (Notification.flush_ends isFree_log (fun _ => ⟨trivial, fun _ => rfl⟩)
    (fun _ _ => ⟨trivial, fun _ => rfl⟩) channel).uses

/-- A transition between phases does not end a run. -/
theorem advance_keeps (history : Run.History) (target : Run.Phase) (duty : Duty) :
    (Run.advance history target).Keeps (discipline workspace handles watched) duty
      fun result after => result.isSome ∧ after = duty := by
  unfold Run.advance
  cases history.advance target with
  | ok history => exact ⟨rfl, rfl⟩
  | error error => exact ⟨trivial, fun _ => ⟨rfl, rfl⟩⟩

theorem handOver_uses (context : Run.Context) (watched : Bool) :
    (Run.handOver context watched).Uses (IsFree workspace handles watched) :=
  (Run.handOver_ends isFree_log (fun _ => ⟨trivial, fun _ => rfl⟩)
    (fun _ _ => ⟨trivial, fun _ => rfl⟩) (fun _ => ⟨trivial, fun _ => rfl⟩)
    (fun _ => ⟨trivial, fun _ => rfl⟩) context watched).uses

end Duty

namespace Run

variable {κ : Type} {checker : Checker κ} {context : Context}

theorem phases_keeps (creates : checker.CreatesIn context workspace handles) :
    (phases checker context workspace History.start).Keeps
      (Duty.discipline workspace handles watched) .creating fun _ duty => duty = .creating := by
  rw [phases_eq]
  apply creates.create.keeps.bind_at rfl
  intro result
  cases result with
  | error error => rfl
  | ok created => exact (creates.converge created).keeps.bind_at rfl fun _ => rfl

theorem recover_settles (workspace : Workspace) :
    (recover workspace).Keeps (Duty.discipline workspace handles watched) .creating
      fun _ duty => duty = Duty.creating.settled workspace := by
  rw [recover_eq]
  refine ⟨trivial, fun _ => ?_⟩
  refine (Workspace.deleteAll_settles (.inr rfl)).bind ?_ fun _ ended => ended.2
  rintro (error | _) duty ⟨-, rfl⟩
  · exact ⟨trivial, fun _ => rfl⟩
  · rfl

theorem cleanUp_settles (context : Context) (workspace : Workspace) :
    (cleanUp context workspace).Keeps (Duty.discipline workspace handles watched) .creating
      fun _ duty => duty = Duty.creating.settled workspace := by
  rw [cleanUp_eq]
  refine (Workspace.deleteAll_settles (.inr rfl)).bind ?_ fun _ ended => ended.2
  rintro (error | _) duty ⟨-, rfl⟩
  · exact ⟨trivial, fun _ => ⟨trivial, fun _ => rfl⟩⟩
  · dsimp only
    split
    · refine ⟨trivial, fun (empty : Bool) => ?_⟩
      cases empty with
      | true => rfl
      | false => exact ⟨trivial, fun _ => ⟨trivial, fun _ => rfl⟩⟩
    · rfl

/-- However a run ends, it has torn its workspace down before. -/
theorem run_settles (creates : checker.CreatesIn context workspace handles) :
    (run checker context workspace watched).Keeps (Duty.discipline workspace handles watched)
      .creating fun _ duty => duty = Duty.creating.settled workspace := by
  have begun : (if watched then Program.watch ⟨workspace, context.channel⟩
      else .done ()).Keeps (Duty.discipline workspace handles watched) .creating
        fun result duty => result.isSome ∧ duty = .creating := by
    cases watched with
    | true => exact ⟨rfl, fun _ => ⟨rfl, rfl⟩⟩
    | false => exact ⟨rfl, rfl⟩
  have checked : ((phases checker context workspace History.start).onCrash
      (recover workspace)).Keeps (Duty.discipline workspace handles watched) .creating
        fun result duty => duty = if result.isSome then .creating
          else Duty.creating.settled workspace := by
    refine (phases_keeps creates).onCrash (fun _ _ ended => ended) ?_
    intro duty ended
    subst ended
    exact recover_settles workspace
  rw [run_eq]
  refine begun.bind ?_ fun _ ended => (by simp at ended)
  rintro - duty ⟨-, rfl⟩
  refine ⟨trivial, fun _ => ⟨trivial, fun _ => ?_⟩⟩
  refine checked.bind ?_ fun _ ended => ended
  rintro ⟨result, history⟩ duty rfl
  refine (Duty.advance_keeps history .cleaningUp .creating).bind ?_ fun _ ended =>
    (by simp at ended)
  rintro history duty ⟨-, rfl⟩
  apply (cleanUp_settles context workspace).bind_at rfl
  intro cleanupError
  have concluded : (conclude checker.name result history).Uses
      (Duty.IsFree workspace handles watched) :=
    (conclude_ends Duty.isFree_log Duty.isFree_addLine checker.name result history).uses
  refine Duty.keeps_of_uses (concluded.bind fun _ => ?_) _
  exact (Duty.handOver_uses context watched).bind fun _ => trivial

theorem run_keeps (creates : checker.CreatesIn context workspace handles)
    (deletes : workspace.debug = false) :
    (run checker context workspace watched).Keeps (Duty.discipline workspace handles watched)
      .creating fun _ duty => duty = .clearing [] := by
  rw [← Duty.settled_of_deletes deletes .creating]
  exact run_settles creates

/-- A watcher has deleted what it has taken before it ends the process. -/
theorem interruption_keeps (watcher : Watcher) (deletes : watcher.workspace.debug = false) :
    (interruption watcher).Keeps (Duty.discipline watcher.workspace handles watched) .idle
      fun _ duty => duty = .clearing [] := by
  rw [interruption_eq]
  refine ⟨trivial, fun _ => ⟨trivial, fun _ => ?_⟩⟩
  refine (Workspace.deleteAll_keeps deletes (.inl rfl)).bind ?_ fun _ ended => ended.2
  rintro result duty ⟨-, rfl⟩
  have told : (tellTeardown result).Uses (Duty.IsFree watcher.workspace handles watched) :=
    (tellTeardown_ends Duty.isFree_log Duty.isFree_addLine result).uses
  apply (Duty.keeps_of_uses told _).bind_at rfl
  intro _
  apply (Duty.keeps_of_uses (Duty.flush_uses watcher.channel) _).bind_at rfl
  exact fun _ => ⟨rfl, fun _ => rfl⟩

end Run

end AddonCheck
