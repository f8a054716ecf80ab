import AddonCheck.Proofs.Custody
import AddonCheck.Proofs.Ownership
import AddonCheck.Proofs.Recording
import AddonCheck.Proofs.Verdict

/-
This file tells what the threads of a run ask for from the kind of their actions, in every order of
their turns. Waits only read, so that whatever is recorded to be created or deleted is the deed of a
thread.
-/

namespace AddonCheck

open Cluster (Resource)
open Run

/-! ## What is asked by threads of which the kind of their actions is known -/

/-- The discipline of whoever performs actions of a kind alone. -/
def Discipline.only (kind : Action → Prop) : Discipline Unit where
  allows _ := kind
  next _ _ _ := ()

theorem Program.Uses.keeps_only {α : Type} {kind : Action → Prop} {program : Program α}
    (uses : program.Uses kind) : program.Keeps (Discipline.only kind) () fun _ _ => True :=
  (uses.keeps fun _ isKind => ⟨isKind, fun _ => rfl⟩).mono fun _ _ _ => trivial

namespace Crew

variable {ι σ : Type} [DecidableEq ι] {outside : Outside σ} {kind : Request → Prop}

theorem asked_stable : Stable outside.recording (Discipline.only (Action.AsksOnly kind))
    (fun _ (crew : Crew ι (σ × List Exchange)) =>
      ∀ exchange ∈ crew.session.outside.2, kind exchange.1) where
  rest asked _ same := by
    rw [same]
    exact asked
  evaluation := by
    intro _ crew session _ condition asked allowed _ evaluated exchange member
    rw [evaluated] at member
    rcases List.mem_append.mp member with before | last
    · exact asked exchange before
    · rw [List.mem_singleton.mp last]
      exact allowed
  deed := by
    intro _ crew session _ thread action answer asked allowed _ effect exchange member
    change exchange ∈ session.outside.2 at member
    rw [effect.outside] at member
    cases action with
    | ask request =>
        rcases List.mem_append.mp member with before | last
        · exact asked exchange before
        · rw [List.mem_singleton.mp last]
          exact allowed
    | _ => exact asked exchange member

/-- Threads that ask for requests of a kind alone are recorded to have asked for nothing else. -/
theorem asked_of_uses {crew after : Crew ι (σ × List Exchange)} {turns : List (Turn ι)}
    (uses : ∀ thread, (crew.programs thread).Uses (Action.AsksOnly kind))
    (fresh : crew.session.outside.2 = [])
    (played : crew.plays outside.recording turns = some after) :
    ∀ exchange ∈ after.session.outside.2, kind exchange.1 := by
  have begun : ∀ exchange ∈ crew.session.outside.2, kind exchange.1 := by
    rw [fresh]
    exact fun _ none => absurd none List.not_mem_nil
  have kept : crew.Keeps (Discipline.only (Action.AsksOnly kind)) (fun _ _ _ => True) fun _ => () :=
    fun thread => (uses thread).keeps_only
  obtain ⟨_, -, asked⟩ := plays_keeps asked_stable kept begun played
  exact asked

end Crew

/-! ## The creations and deletions that are recorded -/

/-- A request that creates or deletes an object. -/
def Request.changes : Request → Bool
  | .create _ => true
  | .delete _ => true
  | _ => false

theorem Request.IsReading.changes_eq {request : Request} (reads : request.IsReading) :
    request.changes = false := by
  cases request with
  | create object => exact reads.elim
  | delete resource => exact reads.elim
  | _ => rfl

/-- The creations and deletions among exchanges. -/
def changes (exchanges : List Exchange) : List Request :=
  (exchanges.map (·.1)).filter Request.changes

theorem changes_snoc (exchanges : List Exchange) (exchange : Exchange) :
    changes (exchanges ++ [exchange]) =
      changes exchanges ++ if exchange.1.changes then [exchange.1] else [] := by
  simp [changes, List.filter_cons]

/-- The creation or deletion that an action asks for. -/
def Action.change? : Action → Option Request
  | .ask request => if request.changes then some request else none
  | _ => none

/-- The creations and deletions that deeds have asked for. -/
def changesOf {ι σ : Type} (history : List (Deed ι σ)) : List Request :=
  history.filterMap fun deed => deed.action.change?

theorem changesOf_snoc {ι σ : Type} (history : List (Deed ι σ)) (deed : Deed ι σ) :
    changesOf (history ++ [deed]) = changesOf history ++ deed.action.change?.toList := by
  cases change : deed.action.change? <;> simp [changesOf, change]

/-- What is waited for by an action is only read. -/
def Action.WaitsByReading : Action → Prop
  | .await condition => condition.request.IsReading
  | _ => True

namespace Crew

variable {ι σ : Type} {outside : Outside σ}

/-- The creations and deletions that are recorded are those of the deeds, in their order. -/
def Accounted (crew : Crew ι (σ × List Exchange)) : Prop :=
  changes crew.session.outside.2 = changesOf crew.history

/-- What is recorded as deleted has been deleted by a deed, and what a deed deletes is recorded. -/
theorem Accounted.deletes_iff {crew : Crew ι (σ × List Exchange)} (accounted : crew.Accounted)
    {resource : Resource} :
    (∃ deed ∈ crew.history, deed.action.deletes? = some resource) ↔
      ∃ exchange ∈ crew.session.outside.2, exchange.1 = .delete resource := by
  have asks (action : Action) :
      action.change? = some (.delete resource) ↔ action.deletes? = some resource := by
    cases action with
    | ask request => cases request <;> simp [Action.change?, Request.changes, Action.deletes?]
    | _ => simp [Action.change?, Action.deletes?]
  calc
    (∃ deed ∈ crew.history, deed.action.deletes? = some resource) ↔
        .delete resource ∈ changesOf crew.history := by
      simp only [changesOf, List.mem_filterMap, asks]
    _ ↔ .delete resource ∈ changes crew.session.outside.2 := by rw [accounted]
    _ ↔ ∃ exchange ∈ crew.session.outside.2, exchange.1 = .delete resource := by
      simp [changes, Request.changes]

variable [DecidableEq ι]

theorem accounted_stable : Stable outside.recording (Discipline.only Action.WaitsByReading)
    (fun _ (crew : Crew ι (σ × List Exchange)) => crew.Accounted) where
  rest := by
    intro _ crew session accounted _ same
    change changes session.outside.2 = _
    rw [same]
    exact accounted
  evaluation := by
    intro _ crew session _ condition accounted reads _ evaluated
    change changes session.outside.2 = _
    rw [evaluated]
    refine (changes_snoc _ _).trans ?_
    rw [if_neg (ne_true_of_eq_false (Request.IsReading.changes_eq reads)), List.append_nil]
    exact accounted
  deed := by
    intro _ crew session _ thread action answer accounted _ _ effect
    change changes session.outside.2 = changesOf (crew.history ++ [_])
    rw [effect.outside, changesOf_snoc, ← accounted]
    cases action with
    | ask request =>
        refine (changes_snoc _ _).trans (congrArg _ ?_)
        change (if request.changes then [request] else []) =
          Option.toList (if request.changes then some request else none)
        cases request.changes <;> rfl
    | _ => exact (List.append_nil _).symm

/-- Threads that wait by reading create and delete by their deeds alone. -/
theorem accounted_of_uses {crew after : Crew ι (σ × List Exchange)} {turns : List (Turn ι)}
    (uses : ∀ thread, (crew.programs thread).Uses Action.WaitsByReading)
    (fresh : crew.session.outside.2 = []) (undone : crew.history = [])
    (played : crew.plays outside.recording turns = some after) : after.Accounted := by
  have begun : crew.Accounted := by
    rw [Accounted, fresh, undone]
    rfl
  have kept : crew.Keeps (Discipline.only Action.WaitsByReading) (fun _ _ _ => True) fun _ => () :=
    fun thread => (uses thread).keeps_only
  obtain ⟨_, -, accounted⟩ := plays_keeps accounted_stable kept begun played
  exact accounted

end Crew

/-! ## A run and its watcher -/

variable {σ : Type}

/-- What a check asks for in its workspace is no deletion. -/
theorem Workspace.Admits.asksOnly {workspace : Workspace} {kind : Request → Prop} {action : Action}
    (known : ∀ request, workspace.Permits request → request.deletes = false → kind request)
    (admitted : workspace.Admits action) : action.AsksOnly kind := by
  have reads (request : Request) (reads : request.IsReading) : request.deletes = false := by
    cases request with
    | delete resource => exact reads.elim
    | _ => rfl
  cases action with
  | await condition => exact known _ admitted.2 (reads _ admitted.1)
  | ask request =>
      cases request with
      | create object => exact known _ (fun _ => admitted) rfl
      | _ => exact known _ admitted.2 (reads _ admitted.1)
  | _ => trivial

/-- What a run and its watcher do beside the actions of the check. -/
def Workspace.Attends (workspace : Workspace) : Action → Prop
  | .await _ => False
  | .ask (.deliver _) => True
  | .ask (.delete _) => workspace.debug = false
  | .ask _ => False
  | _ => True

/-- A run and its watcher do what the check admits, and they attend to it. -/
theorem Run.Checker.StaysIn.crew_uses {κ : Type} {checker : Checker κ} {context : Context}
    {workspace : Workspace} (stays : checker.StaysIn context workspace) (watched : Bool)
    (session : Session σ) (thread : Role) :
    ((Run.crew checker context workspace watched session).programs thread).Uses fun action =>
      workspace.Admits action ∨ workspace.Attends action := by
  let kind (action : Action) : Prop := workspace.Admits action ∨ workspace.Attends action
  have logs (line : Log.Line) : kind (.log line) := .inr trivial
  have adds (text : String) : kind (.addLine text) := .inr trivial
  have delivers (message : String) : kind (.ask (.deliver message)) := .inr trivial
  have phases := stays.ends.wider fun action admitted => (Or.inl admitted : kind action)
  have tearsDown : workspace.deleteAll.Ends kind fun _ => True := by
    cases debug : workspace.debug with
    | true => exact (Workspace.deleteAll_ends_of_debug logs debug).mono fun _ _ => trivial
    | false => exact Workspace.deleteAll_ends logs (fun _ => .inr debug) (.inr trivial) workspace
  cases thread with
  | runner =>
      have cleans := Run.cleanUp_ends logs adds tearsDown (.inr trivial) context
      have ends : (Run.run checker context workspace watched).Ends kind fun _ => True :=
        Run.run_ends logs adds phases cleans (fun _ => .inr trivial) (.inr trivial) delivers
          (.inr trivial) (.inr trivial)
      exact ends.uses.bind fun _ => trivial
  | watcher =>
      exact (Run.interruption_ends logs adds tearsDown (.inr trivial) delivers (.inr trivial)
        _).uses

section

variable {κ : Type} {checker : Checker κ} {context : Context} {workspace : Workspace}
  {watched : Bool} (stays : checker.StaysIn context workspace) {outside : Outside σ}
  {session : Session (σ × List Exchange)} (fresh : session.outside.2 = [])
  {turns : List (Turn Role)} {after : Crew Role (σ × List Exchange)}
  (played : (Run.crew checker context workspace watched session).plays outside.recording turns =
    some after)

include stays fresh played

/-- A run and its watcher ask for what the check admits, for deliveries, and for deletions unless
the run is a debug run. -/
theorem Run.Checker.StaysIn.asked {kind : Request → Prop}
    (known : ∀ request, workspace.Permits request → request.deletes = false → kind request)
    (delivers : ∀ message, kind (.deliver message))
    (deletes : workspace.debug = false → ∀ resource, kind (.delete resource)) :
    ∀ exchange ∈ after.session.outside.2, kind exchange.1 := by
  have attended {action : Action} (attends : workspace.Attends action) : action.AsksOnly kind := by
    cases action with
    | await condition => exact attends.elim
    | ask request =>
        cases request with
        | deliver message => exact delivers message
        | delete resource => exact deletes attends resource
        | _ => exact attends.elim
    | _ => trivial
  have uses (thread : Role) : ((Run.crew checker context workspace watched session).programs
      thread).Uses (Action.AsksOnly kind) :=
    (stays.crew_uses watched session thread).mono fun _ done =>
      done.elim (Workspace.Admits.asksOnly known) attended
  exact Crew.asked_of_uses uses fresh played

/-- A debug run deletes nothing, and neither does its watcher. -/
theorem Run.Checker.StaysIn.undeleting (keeps : workspace.debug = true) :
    ∀ exchange ∈ after.session.outside.2, exchange.1.deletes = false := by
  apply stays.asked fresh played (fun _ _ => id) (fun _ => rfl)
  intro deletes
  rw [keeps] at deletes
  cases deletes

/-- A run and its watcher create and delete by their deeds alone. -/
theorem Run.Checker.StaysIn.accounted : after.Accounted := by
  have uses (thread : Role) : ((Run.crew checker context workspace watched session).programs
      thread).Uses Action.WaitsByReading := by
    apply (stays.crew_uses watched session thread).mono
    intro action done
    cases action with
    | await condition => exact done.elim And.left False.elim
    | _ => trivial
  exact Crew.accounted_of_uses uses fresh rfl played

end

end AddonCheck
