import AddonCheck.Proofs.Actions
import AddonCheck.Proofs.Creating

/-
This file says which objects of the cluster belong to a run: the namespace of its workspace, and
what lies in that namespace. A check that stays in its workspace asks for no other object.
-/

namespace AddonCheck

open Cluster (Kind Resource)

def Cluster.Kind.secret : Kind := ⟨"v1", "Secret"⟩

/-- The kinds whose objects lie in a namespace. -/
def Cluster.Kind.placed : List Kind :=
  [deployment, service, ingress, certificate, issuer, secret]

namespace Request

/-- Whether one object is to be created, to be deleted or to be read. -/
def isForObject : Request → Bool
  | .create _ => true
  | .delete _ => true
  | .deployment _ _ => true
  | .ingress _ _ => true
  | .secret _ _ => true
  | _ => false

/-- The object that a request addresses. -/
def address? : Request → Option Resource
  | .create object => object.resource?
  | .delete resource => some resource
  | .deployment name namespaceName => some ⟨Kind.deployment, name, namespaceName⟩
  | .ingress name namespaceName => some ⟨Kind.ingress, name, namespaceName⟩
  | .secret name namespaceName => some ⟨Kind.secret, name, namespaceName⟩
  | _ => none

end Request

namespace Workspace

/-- The object lies in the namespace of the workspace. -/
def Contains (workspace : Workspace) (resource : Resource) : Prop :=
  resource.kind ∈ Kind.placed ∧ resource.namespaceName = workspace.name

/-- The object is the namespace of the workspace, or it lies in it. -/
def Owns (workspace : Workspace) (resource : Resource) : Prop :=
  resource = workspace.resource ∨ workspace.Contains resource

/-- A request for an object addresses an object of the workspace. -/
def Permits (workspace : Workspace) (request : Request) : Prop :=
  request.isForObject = true →
    ∃ resource, request.address? = some resource ∧ workspace.Owns resource

theorem Contains.permits {workspace : Workspace} {resource : Resource} {request : Request}
    (inside : workspace.Contains resource) (addressed : request.address? = some resource) :
    workspace.Permits request :=
  fun _ => ⟨resource, addressed, .inr inside⟩

/-- A namespace lies in no namespace. -/
theorem not_contains_resource (first second : Workspace) : ¬ first.Contains second.resource := by
  intro inside
  have outside : Kind.namespaceKind ∉ Kind.placed := by decide
  exact outside inside.1

/-- Workspaces that own an object in common have one name. -/
theorem Owns.name_eq {first second : Workspace} {resource : Resource}
    (one : first.Owns resource) (other : second.Owns resource) : first.name = second.name := by
  rcases one with itself | inside
  · subst itself
    rcases other with same | inside
    · exact congrArg Resource.name same
    · exact absurd inside (second.not_contains_resource first)
  · rcases other with itself | insideToo
    · subst itself
      exact absurd inside (first.not_contains_resource second)
    · exact inside.2.symm.trans insideToo.2

/-- What is awaited of an object in the workspace is read there. -/
theorem Readiness.condition?_permits {workspace : Workspace} {resource : Resource}
    (inside : workspace.Contains resource) {readiness : Readiness} {condition : Condition}
    (found : readiness.condition? resource = some condition) :
    workspace.Permits condition.request := by
  have placed (kind : Kind) (known : kind ∈ Kind.placed) (name : String) :
      workspace.Contains ⟨kind, name, resource.namespaceName⟩ := ⟨known, inside.2⟩
  cases readiness with
  | created => cases found
  | deployment wait =>
      cases found
      exact (placed Kind.deployment (by decide) resource.name).permits rfl
  | loadBalancer wait =>
      cases found
      exact (placed Kind.ingress (by decide) resource.name).permits rfl
  | secret name wait =>
      cases found
      exact (placed Kind.secret (by decide) name).permits rfl

/-- What a check may do beside the operations of its workspace. -/
def Besides (workspace : Workspace) : Action → Prop
  | .log _ => True
  | .clock => True
  | .isCancelled => True
  | .pause _ => True
  | .addLine _ => True
  | .await condition => condition.request.IsReading ∧ workspace.Permits condition.request
  | .ask request => request.IsReading ∧ workspace.Permits request
  | _ => False

/-- What a check may do in all. -/
def Admits (workspace : Workspace) : Action → Prop
  | .registerWorkspace resource => resource = workspace.resource
  | .register resource => workspace.Contains resource
  | .ask (.create object) =>
      ∃ resource, object.resource? = some resource ∧ workspace.Owns resource
  | action => workspace.Besides action

variable {workspace : Workspace} {action : Action}

theorem Besides.admits (beside : workspace.Besides action) : workspace.Admits action := by
  cases action with
  | ask request =>
      cases request with
      | create object => exact beside.1.elim
      | _ => exact beside
  | registerWorkspace resource => exact beside.elim
  | register resource => exact beside.elim
  | _ => exact beside

theorem Besides.isPassive (beside : workspace.Besides action) : action.IsPassive := by
  cases action with
  | await condition => exact beside.1
  | ask request => exact beside.1
  | _ => trivial

end Workspace

namespace Program

variable {α β : Type} {workspace : Workspace}

/-- The programs that read and create nothing outside a workspace. -/
inductive StaysIn (workspace : Workspace) : Program α → Prop where
  | done (value : α) : StaysIn workspace (.done value)
  | beside {action : Action} {next : action.Answer → Program α}
      (beside : workspace.Besides action) (rest : ∀ answer, StaysIn workspace (next answer)) :
      StaysIn workspace (.perform action next)
  | createNamespace {next : Except Workspace.CreationError Unit → Program α}
      (rest : ∀ result, StaysIn workspace (next result)) :
      StaysIn workspace (workspace.createNamespace.run.bind next)
  | create {spec : Workspace.Spec} {next : Except Workspace.CreationError Unit → Program α}
      (inside : ∀ resource, spec.resource workspace = .ok resource →
        workspace.Contains resource)
      (rest : ∀ result, StaysIn workspace (next result)) :
      StaysIn workspace ((workspace.create spec).run.bind next)

namespace StaysIn

theorem bind {program : Program α} {next : α → Program β} (first : program.StaysIn workspace)
    (rest : ∀ value, (next value).StaysIn workspace) :
    (program.bind next).StaysIn workspace := by
  induction first with
  | done value => exact rest value
  | beside isBeside _ inductionHypothesis => exact .beside isBeside inductionHypothesis
  | createNamespace _ inductionHypothesis =>
      rw [bind_assoc]
      exact .createNamespace inductionHypothesis
  | create inside _ inductionHypothesis =>
      rw [bind_assoc]
      exact .create inside inductionHypothesis

/-- Such a program creates through its workspace, and only what the workspace owns. -/
theorem createsIn {program : Program α} (stays : program.StaysIn workspace) :
    program.CreatesIn workspace {resource | workspace.Owns resource} := by
  induction stays with
  | done value => exact .done value
  | beside isBeside _ inductionHypothesis =>
      exact .passive isBeside.isPassive inductionHypothesis
  | createNamespace _ inductionHypothesis =>
      exact .createNamespace (.inl rfl) inductionHypothesis
  | create inside _ inductionHypothesis =>
      exact .create (fun resource found => .inr (inside resource found)) inductionHypothesis

/-- Such a program does not end unexpectedly. -/
theorem ends {program : Program α} (stays : program.StaysIn workspace) :
    program.Ends workspace.Admits fun _ => True := by
  have logs (line : Log.Line) : workspace.Admits (.log line) := trivial
  have tests : workspace.Admits .isCancelled := trivial
  induction stays with
  | done value => trivial
  | beside isBeside _ inductionHypothesis => exact ⟨isBeside.admits, inductionHypothesis⟩
  | createNamespace _ inductionHypothesis =>
      have asks : workspace.Admits (.ask (.create workspace.object)) :=
        ⟨workspace.resource, rfl, .inl rfl⟩
      have created := Workspace.createNamespace_ends logs tests rfl asks
      exact created.bind fun result _ => inductionHypothesis result
  | create inside _ inductionHypothesis =>
      have created := Workspace.create_ends logs tests inside
        (fun resource found =>
          ⟨resource, Workspace.Spec.placed_resource? found, .inr (inside resource found)⟩)
        fun resource condition found awaited =>
          ⟨Workspace.Readiness.condition?_isReading awaited,
            Workspace.Readiness.condition?_permits (inside resource found) awaited⟩
      exact created.bind fun result _ => inductionHypothesis result

end StaysIn

end Program

/-! ## The steps of a check -/

namespace Run.Checking

variable {α β : Type} {workspace : Workspace}

/-- A step of a check that stays in its workspace. -/
def StaysIn (workspace : Workspace) (checking : Checking α) : Prop :=
  checking.run.StaysIn workspace

namespace StaysIn

theorem value (value : α) : StaysIn workspace (pure value : Checking α) := .done _

/-- The steps of a check follow one another up to the first one that fails. -/
theorem andThen {first : Checking α} {next : α → Checking β} (stays : StaysIn workspace first)
    (rest : ∀ value, StaysIn workspace (next value)) : StaysIn workspace (first >>= next) := by
  apply Program.StaysIn.bind stays
  intro result
  cases result with
  | error error => exact .done _
  | ok value => exact rest value

theorem lift {program : Program α} (stays : program.StaysIn workspace) :
    StaysIn workspace (ExceptT.lift program) :=
  stays.bind fun _ => .done _

theorem perform {action : Action} (isBeside : workspace.Besides action)
    {next : action.Answer → Checking α} (rest : ∀ answer, StaysIn workspace (next answer)) :
    StaysIn workspace (liftM (Program.act action) >>= next) :=
  andThen (lift (.beside isBeside .done)) rest

theorem announce {text : String} {next : Checking α} (rest : StaysIn workspace next) :
    StaysIn workspace (liftM (Program.announce text) >>= fun _ => next) :=
  andThen (lift (.beside trivial fun _ => .beside trivial fun _ => .done _)) fun _ => rest

theorem announced (text : String) :
    StaysIn workspace (ExceptT.lift (Program.announce text) : Checking Unit) :=
  lift (.beside trivial fun _ => .beside trivial fun _ => .done _)

theorem ofCreating {program : Workspace.Creating α}
    (stays : program.run.StaysIn workspace) : StaysIn workspace (creating program) :=
  stays.bind fun _ => .done _

theorem namespaceCreated : StaysIn workspace (creating workspace.createNamespace) := by
  apply ofCreating
  rw [← Program.bind_done workspace.createNamespace.run]
  exact .createNamespace .done

theorem created {spec : Workspace.Spec}
    (inside : ∀ resource, spec.resource workspace = .ok resource →
      workspace.Contains resource) : StaysIn workspace (creating (workspace.create spec)) := by
  apply ofCreating
  rw [← Program.bind_done (workspace.create spec).run]
  exact .create inside .done

/-- An object that can be read asks for nothing. -/
theorem typed {value : Json} {spec : Workspace.Spec} {next : Workspace.Spec → Checking α}
    (typed : Workspace.Spec.ofTyped value = .ok spec) (rest : StaysIn workspace (next spec)) :
    StaysIn workspace (creating (liftExcept (Workspace.Spec.ofTyped value)) >>= next) := by
  rw [typed]
  exact rest

theorem awaiting {condition : Condition} (isBeside : workspace.Besides (.await condition))
    (context : String) : StaysIn workspace (Run.awaiting context condition) := by
  apply Program.StaysIn.beside isBeside
  intro answer
  cases answer <;> exact .done _

end StaysIn

end Run.Checking

/-- Both phases of the check stay in its workspace. -/
structure Run.Checker.StaysIn {κ : Type} (checker : Run.Checker κ) (context : Run.Context)
    (workspace : Workspace) : Prop where
  create : Run.Checking.StaysIn workspace (checker.create context workspace)
  converge : ∀ created, Run.Checking.StaysIn workspace (checker.converge context workspace created)

namespace Run.Checker.StaysIn

variable {κ : Type} {checker : Run.Checker κ} {context : Run.Context} {workspace : Workspace}

theorem createsIn (stays : checker.StaysIn context workspace) :
    checker.CreatesIn context workspace {resource | workspace.Owns resource} where
  create := stays.create.createsIn
  converge created := (stays.converge created).createsIn

theorem ends (stays : checker.StaysIn context workspace) :
    (Run.phases checker context workspace Run.History.start).Ends workspace.Admits fun _ => True :=
  Run.phases_ends stays.create.ends fun created => (stays.converge created).ends

end Run.Checker.StaysIn

end AddonCheck
