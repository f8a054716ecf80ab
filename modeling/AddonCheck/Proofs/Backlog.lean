import AddonCheck.Proofs.Duty

/-
This file holds the threads that share a workspace. They create objects and tear the workspace down,
in any order and as often as they like. What a teardown has taken from the registry is its backlog,
and the thread does nothing else to objects until the backlog is empty.
-/

namespace AddonCheck

open Cluster (Resource)

namespace Program

/-- The programs that deal with objects through the creations and teardowns of a workspace alone. -/
inductive Tends {α : Type} (workspace : Workspace) : Program α → Prop where
  | done (value : α) : Tends workspace (.done value)
  | crash : Tends workspace .crash
  | passive {action : Action} {next : action.Answer → Program α} (passive : action.IsPassive)
      (rest : ∀ answer, Tends workspace (next answer)) :
      Tends workspace (.perform action next)
  | createNamespace {next : Except Workspace.CreationError Unit → Program α}
      (rest : ∀ result, Tends workspace (next result)) :
      Tends workspace (workspace.createNamespace.run.bind next)
  | create {spec : Workspace.Spec} {next : Except Workspace.CreationError Unit → Program α}
      (rest : ∀ result, Tends workspace (next result)) :
      Tends workspace ((workspace.create spec).run.bind next)
  | deleteAll {next : Except Workspace.TeardownError Unit → Program α}
      (rest : ∀ result, Tends workspace (next result)) :
      Tends workspace (workspace.deleteAll.bind next)

end Program

/-- The handles that a thread has taken from the registry and whose deletions it has not sent. -/
abbrev Backlog := List Resource

namespace Backlog

/-- While there is a backlog, its first object is deleted, and nothing is registered or taken. -/
def allows (backlog : Backlog) : Action → Prop
  | .registerWorkspace _ => backlog = []
  | .register _ => backlog = []
  | .drain => backlog = []
  | .ask (.delete resource) => backlog.head? = some resource
  | _ => True

def next (backlog : Backlog) : (action : Action) → action.Answer → Backlog
  | .drain, taken => taken
  | .ask (.delete _), _ => backlog.tail
  | _, _ => backlog

def discipline : Discipline Backlog where
  allows := allows
  next := next

/-- What is neither created nor deleted is no matter of the backlog. -/
theorem steady_of_isPassive {action : Action} (passive : action.IsPassive) (backlog : Backlog) :
    backlog.allows action ∧ ∀ answer, backlog.next action answer = backlog := by
  cases action with
  | ask request =>
      cases request with
      | delete resource => exact passive.elim
      | _ => exact ⟨trivial, fun _ => rfl⟩
  | registerWorkspace resource => exact passive.elim
  | register resource => exact passive.elim
  | drain => exact passive.elim
  | _ => exact ⟨trivial, fun _ => rfl⟩

/-- What is pending in a duty is a backlog. -/
theorem next_pending {workspace : Workspace} {handles : Set Resource} {watched : Bool}
    {duty : Duty} {action : Action} (allowed : duty.allows workspace handles watched action) :
    allows duty.pending action ∧
      ∀ answer, (duty.next action answer).pending = next duty.pending action answer := by
  cases action with
  | registerWorkspace resource =>
      obtain ⟨rfl, -⟩ := allowed
      exact ⟨rfl, fun _ => rfl⟩
  | register resource =>
      obtain ⟨rfl, -⟩ := allowed
      exact ⟨rfl, fun _ => rfl⟩
  | drain =>
      rcases allowed with rfl | rfl
      · exact ⟨rfl, fun _ => rfl⟩
      · exact ⟨rfl, fun _ => rfl⟩
  | ask request =>
      cases request with
      | create object =>
          obtain ⟨resource, rfl, -⟩ := allowed
          exact ⟨trivial, fun _ => rfl⟩
      | delete resource =>
          obtain ⟨rest, rfl⟩ := allowed
          exact ⟨rfl, fun _ => rfl⟩
      | _ => exact ⟨trivial, fun _ => rfl⟩
  | _ => exact ⟨trivial, fun _ => rfl⟩

/-- A program that owes no object at its end leaves no backlog. -/
theorem keeps_of_duty {α : Type} {program : Program α} {workspace : Workspace} {duty : Duty}
    {fit : Option α → Duty → Prop}
    (kept : program.Keeps (Duty.discipline workspace Set.univ false) duty fit)
    (empty : duty.pending = []) (ended : ∀ result duty, fit result duty → duty.pending = []) :
    program.Keeps discipline [] fun _ backlog => backlog = [] := by
  have simulated : program.Keeps discipline [] fun result backlog =>
      ∃ duty : Duty, duty.pending = backlog ∧ fit result duty := by
    refine kept.simulate empty ?_
    rintro duty _ action rfl allowed
    exact next_pending allowed
  refine simulated.mono ?_
  rintro result _ ⟨duty, rfl, fits⟩
  exact ended result duty fits

end Backlog

/-- A thread that tends a workspace has no backlog between two operations. -/
theorem Program.Tends.keeps {α : Type} {program : Program α} {workspace : Workspace}
    (tends : program.Tends workspace) (deletes : workspace.debug = false) :
    program.Keeps Backlog.discipline [] fun _ backlog => backlog = [] := by
  -- Each operation is a duty of its own, which is over before the next operation begins.
  induction tends with
  | done value => rfl
  | crash => rfl
  | @passive action next isPassive _ inductionHypothesis =>
      obtain ⟨allowed, unchanged⟩ := Backlog.steady_of_isPassive isPassive []
      refine ⟨allowed, fun answer => ?_⟩
      change (next answer).Keeps _ (Backlog.next [] action answer) _
      rw [unchanged answer]
      exact inductionHypothesis answer
  | createNamespace _ inductionHypothesis =>
      refine (Backlog.keeps_of_duty (Workspace.createNamespace_keeps (Set.mem_univ _)) rfl ?_).bind
        ?_ fun _ empty => empty
      · rintro _ _ rfl
        rfl
      · rintro result _ rfl
        exact inductionHypothesis result
  | create _ inductionHypothesis =>
      refine (Backlog.keeps_of_duty (Workspace.create_keeps fun _ _ => Set.mem_univ _) rfl ?_).bind
        ?_ fun _ empty => empty
      · rintro _ _ rfl
        rfl
      · rintro result _ rfl
        exact inductionHypothesis result
  | deleteAll _ inductionHypothesis =>
      refine (Backlog.keeps_of_duty (Workspace.deleteAll_keeps deletes (.inl rfl)) rfl ?_).bind
        ?_ fun _ empty => empty
      · rintro _ _ ⟨-, rfl⟩
        rfl
      · rintro result _ rfl
        exact inductionHypothesis result

end AddonCheck
