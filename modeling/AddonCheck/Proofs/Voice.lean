import AddonCheck.Proofs.Actions
import AddonCheck.Proofs.Creating

/-
This file holds what a thread of a run owes to the notification. A thread takes the gathered lines
only when it has added one itself, and what it has taken it delivers next.
-/

namespace AddonCheck

/-- An action that neither takes the gathered lines nor delivers them. -/
def Action.IsQuiet : Action → Prop
  | .takeLines => False
  | .ask (.deliver _) => False
  | _ => True

theorem Action.IsPassive.isQuiet {action : Action} (passive : action.IsPassive) :
    action.IsQuiet := by
  cases action with
  | ask request =>
      cases request with
      | deliver message => exact passive.elim
      | _ => trivial
  | takeLines => exact passive.elim
  | _ => trivial

namespace Workspace

theorem createNamespace_isQuiet (workspace : Workspace) :
    workspace.createNamespace.run.Uses Action.IsQuiet :=
  (createNamespace_ends (fun _ => trivial) trivial trivial trivial).uses

theorem create_isQuiet (workspace : Workspace) (spec : Spec) :
    (workspace.create spec).run.Uses Action.IsQuiet := by
  have logs (line : Log.Line) : (Action.log line).IsQuiet := trivial
  exact (create_ends logs trivial (fun _ _ => trivial) (fun _ _ => trivial)
    (fun _ _ _ _ => trivial)).uses

theorem createAll_isQuiet (workspace : Workspace) (specs : List Spec) :
    (workspace.createAll specs).run.Uses Action.IsQuiet := by
  induction specs with
  | nil => trivial
  | cons spec rest inductionHypothesis =>
      rw [createAll_run]
      apply (create_isQuiet workspace spec).bind
      intro result
      cases result with
      | error error => trivial
      | ok _ => exact inductionHypothesis

theorem deleteAll_isQuiet (workspace : Workspace) :
    workspace.deleteAll.Ends Action.IsQuiet fun _ => True :=
  deleteAll_ends (fun _ => trivial) (fun _ => trivial) trivial workspace

end Workspace

/-- A check that deals with its objects through its workspace leaves the notification to its
run. -/
theorem Program.CreatesIn.isQuiet {α : Type} {program : Program α} {workspace : Workspace}
    {handles : Set Cluster.Resource} (creates : program.CreatesIn workspace handles) :
    program.Uses Action.IsQuiet := by
  induction creates with
  | done value => trivial
  | crash => trivial
  | passive isPassive _ inductionHypothesis => exact ⟨isPassive.isQuiet, inductionHypothesis⟩
  | createNamespace _ _ inductionHypothesis =>
      exact (Workspace.createNamespace_isQuiet workspace).bind inductionHypothesis
  | create _ _ inductionHypothesis =>
      exact (Workspace.create_isQuiet workspace _).bind inductionHypothesis
  | createAll _ _ inductionHypothesis =>
      exact (Workspace.createAll_isQuiet workspace _).bind inductionHypothesis

/-- Both phases of the check leave the notification to the run. They may add lines to it. -/
structure Run.Checker.IsQuiet {κ : Type} (checker : Run.Checker κ) (context : Run.Context)
    (workspace : Workspace) : Prop where
  create : (checker.create context workspace).run.Uses Action.IsQuiet
  converge : ∀ created, (checker.converge context workspace created).run.Uses Action.IsQuiet

theorem Run.Checker.CreatesIn.isQuiet {κ : Type} {checker : Run.Checker κ}
    {context : Run.Context} {workspace : Workspace} {handles : Set Cluster.Resource}
    (creates : checker.CreatesIn context workspace handles) :
    checker.IsQuiet context workspace where
  create := creates.create.isQuiet
  converge created := (creates.converge created).isQuiet

/-- What a thread has told and what it holds of the notification. -/
inductive Voice where
  /-- The thread has added no line. -/
  | silent
  | telling
  /-- The thread has taken a text, and has not delivered it. -/
  | holding (text : String)
  deriving DecidableEq, Repr

namespace Voice

/-- The text that is taken and not yet delivered. -/
def held : Voice → List String
  | holding text => [text]
  | _ => []

def allows (voice : Voice) : Action → Prop
  | .addLine _ => voice.held = []
  | .takeLines => voice = telling
  | .ask (.deliver message) => voice = holding message
  | _ => True

def next (voice : Voice) : (action : Action) → action.Answer → Voice
  | .addLine _, _ => telling
  | .takeLines, (text : String) => if text = "" then telling else holding text
  | .ask (.deliver _), _ => telling
  | _, _ => voice

def discipline : Discipline Voice where
  allows := allows
  next := next

theorem quiet_steady {action : Action} (quiet : action.IsQuiet) :
    discipline.allows telling action ∧
      ∀ answer, discipline.next telling action answer = telling := by
  cases action with
  | ask request =>
      cases request with
      | deliver message => exact quiet.elim
      | _ => exact ⟨trivial, fun _ => rfl⟩
  | takeLines => exact quiet.elim
  | addLine text => exact ⟨rfl, fun _ => rfl⟩
  | _ => exact ⟨trivial, fun _ => rfl⟩

/-- A thread that has added a line goes on telling as long as it is quiet. -/
theorem keeps_of_isQuiet {α : Type} {program : Program α} (quiet : program.Uses Action.IsQuiet) :
    program.Keeps discipline telling fun _ voice => voice = telling :=
  quiet.keeps fun _ => quiet_steady

end Voice

/-- What is taken is delivered at once. -/
theorem Notification.flush_keeps :
    (flush .transport).Keeps Voice.discipline .telling fun _ voice => voice = .telling := by
  rw [flush_eq]
  refine ⟨rfl, fun (message : String) => ?_⟩
  dsimp only
  by_cases empty : message = ""
  · rw [if_pos empty]
    exact if_pos empty
  · rw [if_neg empty]
    refine ⟨if_neg empty, fun answer => ?_⟩
    cases answer <;> exact ⟨trivial, fun _ => rfl⟩

namespace Run

variable {κ : Type} {checker : Checker κ} {context : Context} {workspace : Workspace}

/-- A run that takes the lines delivers them, and otherwise it leaves them to its watcher. -/
theorem handOver_keeps_voice (delivers : context.channel = .transport) (watched : Bool) :
    (handOver context watched).Keeps Voice.discipline .telling
      fun _ voice => voice = .telling := by
  rw [handOver_eq, delivers]
  cases watched with
  | false => exact Notification.flush_keeps
  | true =>
      refine ⟨trivial, fun (cancelled : Bool) => ?_⟩
      cases cancelled with
      | true => exact ⟨trivial, fun _ => rfl⟩
      | false => exact Notification.flush_keeps

/-- However a run ends, it has delivered what it has taken. -/
theorem run_keeps_voice (quiet : checker.IsQuiet context workspace)
    (delivers : context.channel = .transport) {watched : Bool} :
    (run checker context workspace watched).Keeps Voice.discipline .silent
      fun _ voice => voice = .silent ∨ voice = .telling := by
  have begun : (if watched then Program.watch ⟨workspace, context.channel⟩
      else .done ()).Keeps Voice.discipline .silent fun _ voice => voice = .silent := by
    cases watched with
    | true => exact ⟨trivial, fun _ => rfl⟩
    | false => rfl
  have logs (line : Log.Line) : (Action.log line).IsQuiet := trivial
  have adds (text : String) : (Action.addLine text).IsQuiet := trivial
  have recovers := (recover_ends logs workspace.deleteAll_isQuiet).uses
  have checked := (phases_uses quiet.create quiet.converge).onCrash recovers
  have cleans := (cleanUp_ends logs adds workspace.deleteAll_isQuiet trivial context).uses
  rw [run_eq]
  apply begun.bind_at (.inl rfl)
  intro _
  refine ⟨trivial, fun _ => ⟨rfl, fun _ => ?_⟩⟩
  apply (Voice.keeps_of_isQuiet checked).bind_at (.inr rfl)
  intro ⟨result, history⟩
  have advances := (advance_ends logs history .cleaningUp).uses
  apply (Voice.keeps_of_isQuiet advances).bind_at (.inr rfl)
  intro history
  apply (Voice.keeps_of_isQuiet cleans).bind_at (.inr rfl)
  intro cleanupError
  have concludes := (conclude_ends logs adds checker.name result history).uses
  apply (Voice.keeps_of_isQuiet concludes).bind_at (.inr rfl)
  intro history
  exact (handOver_keeps_voice delivers watched).bind_at (.inr rfl) fun _ => .inr rfl

/-- A watcher has delivered what it has taken before it ends the process. -/
theorem interruption_keeps_voice (watcher : Watcher) (delivers : watcher.channel = .transport) :
    (interruption watcher).Keeps Voice.discipline .silent
      fun _ voice => voice = .silent ∨ voice = .telling := by
  rw [interruption_eq, delivers]
  refine ⟨trivial, fun _ => ⟨rfl, fun _ => ?_⟩⟩
  have clears := watcher.workspace.deleteAll_isQuiet.uses
  apply (Voice.keeps_of_isQuiet clears).bind_at (.inr rfl)
  intro result
  have told : (tellTeardown result).Uses Action.IsQuiet :=
    (tellTeardown_ends (fun _ => trivial) (fun _ => trivial) result).uses
  apply (Voice.keeps_of_isQuiet told).bind_at (.inr rfl)
  intro _
  apply Notification.flush_keeps.bind_at (.inr rfl)
  intro _
  exact ⟨trivial, fun _ => .inr rfl⟩

end Run

end AddonCheck
