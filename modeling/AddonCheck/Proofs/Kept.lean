import AddonCheck.Proofs.Addressed

/-
This file follows the registry of a debug run. Nothing is ever taken from it, so that it holds what
has been requested, in the order of the requests, and at most the object that is requested next.
-/

namespace AddonCheck

open Cluster (Resource)
open Run

/-- The objects whose creation has been requested, in the order of the requests. -/
def requested (exchanges : List Exchange) : List Resource :=
  (creations exchanges).filterMap Cluster.Object.resource?

theorem requested_snoc_create {object : Cluster.Object} {resource : Resource}
    (exchanges : List Exchange) (named : object.resource? = some resource)
    (answer : (Request.create object).Answer) :
    requested (exchanges ++ [⟨.create object, answer⟩]) = requested exchanges ++ [resource] := by
  have created := creations_snoc_create exchanges object answer
  simp [requested, created, named]

theorem Request.IsReading.creation?_eq_none {request : Request} (reads : request.IsReading)
    (answer : request.Answer) : Exchange.creation? ⟨request, answer⟩ = none := by
  cases request with
  | create object => exact reads.elim
  | _ => rfl

theorem requested_snoc_of_none {exchanges : List Exchange} {exchange : Exchange}
    (uncreating : exchange.creation? = none) :
    requested (exchanges ++ [exchange]) = requested exchanges := by
  rw [requested, creations_snoc_of_none uncreating, requested]

namespace Registry

/-- The registry of objects in the order of their registration; one of them is the namespace. -/
def ofHandles (namespaceHandle : Resource) (handles : List Resource) : Registry where
  workspace := if namespaceHandle ∈ handles then some namespaceHandle else none
  resources := handles.filter fun handle => handle ≠ namespaceHandle

variable {namespaceHandle resource : Resource}

theorem ofHandles_registerWorkspace (handles : List Resource) :
    (ofHandles namespaceHandle handles).registerWorkspace namespaceHandle =
      ofHandles namespaceHandle (handles ++ [namespaceHandle]) := by
  simp [ofHandles, registerWorkspace]

theorem ofHandles_register (handles : List Resource) (different : resource ≠ namespaceHandle) :
    (ofHandles namespaceHandle handles).register resource =
      ofHandles namespaceHandle (handles ++ [resource]) := by
  simp [ofHandles, register, different, Ne.symm different]

end Registry

/-- The object that has been registered and whose creation has not been sent. -/
def Duty.expected : Duty → List Resource
  | announced resource => [resource]
  | _ => []

/-- What a debug run may do: it takes nothing from its registry, deletes nothing, and registers what
belongs to its workspace. -/
def Workspace.Spares (workspace : Workspace) : Action → Prop
  | .register resource => workspace.Contains resource
  | .drain => False
  | .ask request => request.deletes = false
  | _ => True

theorem Workspace.Admits.spares {workspace : Workspace} {action : Action}
    (admitted : workspace.Admits action) : workspace.Spares action := by
  cases action with
  | ask request =>
      cases request with
      | delete resource => exact admitted.1.elim
      | _ => rfl
  | register resource => exact admitted
  | drain => exact admitted.elim
  | _ => trivial

/-- What the watcher of a debug run does: it tells that the run is interrupted, and ends it. -/
def Action.IsAttending : Action → Prop
  | .exit => True
  | action => action.IsTelling

variable {σ : Type} {workspace : Workspace} {watched : Bool}

/-- The run of a check keeps its duties and spares its registry, and beside it the watcher only
tells. -/
def Workspace.sparing (workspace : Workspace) (watched : Bool) : Discipline (Option Duty) :=
  ((Duty.discipline workspace {resource | workspace.Owns resource} watched).also
    workspace.Spares).beside Action.IsAttending

/-- What is registered in a debug run is what has been requested, and what is requested next. -/
structure Kept (workspace : Workspace) (states : Role → Option Duty)
    (crew : Crew Role (σ × List Exchange)) : Prop where
  attending : states .watcher = none
  registered : ∃ duty, states .runner = some duty ∧
    crew.session.registry =
      Registry.ofHandles workspace.resource (requested crew.session.outside.2 ++ duty.expected)

namespace Kept

variable {states : Role → Option Duty} {crew : Crew Role (σ × List Exchange)}
  {session : Session (σ × List Exchange)}

/-- Nothing is registered or created. -/
theorem steady (kept : Kept workspace states crew)
    (registry : session.registry = crew.session.registry)
    (recorded : session.outside.2 = crew.session.outside.2 ∨ ∃ exchange : Exchange,
      exchange.creation? = none ∧ session.outside.2 = crew.session.outside.2 ++ [exchange])
    (programs : Role → Program Unit) (history : List (Deed Role (σ × List Exchange))) :
    Kept workspace states
      { crew with session := session, programs := programs, history := history } := by
  obtain ⟨duty, isDuty, registered⟩ := kept.registered
  refine ⟨kept.attending, duty, isDuty, ?_⟩
  change session.registry = Registry.ofHandles _ (requested session.outside.2 ++ _)
  rw [registry, registered]
  rcases recorded with same | ⟨exchange, uncreating, appended⟩
  · rw [same]
  · rw [appended, requested_snoc_of_none uncreating]

/-- The watcher changes nothing that is kept. -/
theorem attend (kept : Kept workspace states crew) (outside : Outside σ) {rest : Program Unit}
    {action : Action} (answer : action.Answer) (attending : action.IsAttending)
    (effect : Session.Effect outside.recording action answer crew.session session) :
    Kept workspace states (crew.did ⟨.watcher, action, answer, session.outside⟩ session rest) := by
  have registry := effect.registry
  have recorded := congrArg Prod.snd effect.outside
  cases action with
  | ask request =>
      cases request with
      | deliver message => exact kept.steady registry (.inr ⟨_, rfl, recorded⟩) _ _
      | _ => exact attending.elim
  | log line => exact kept.steady registry (.inl recorded) _ _
  | isRegistryEmpty => exact kept.steady registry (.inl recorded) _ _
  | addLine text => exact kept.steady registry (.inl recorded) _ _
  | takeLines => exact kept.steady registry (.inl recorded) _ _
  | exit => exact kept.steady registry (.inl recorded) _ _
  | _ => exact attending.elim

/-- The run registers what it creates next, and creates what it has registered. -/
theorem run (kept : Kept workspace states crew) (outside : Outside σ) {rest : Program Unit}
    {action : Action} {duty : Duty} (answer : action.Answer) (isDuty : states .runner = some duty)
    (allowed : duty.allows workspace {resource | workspace.Owns resource} watched action)
    (spares : workspace.Spares action)
    (effect : Session.Effect outside.recording action answer crew.session session) :
    Kept workspace (Function.update states .runner (some (duty.next action answer)))
      (crew.did ⟨.runner, action, answer, session.outside⟩ session rest) := by
  obtain ⟨known, isKnown, registered⟩ := kept.registered
  obtain rfl : known = duty := Option.some.inj (isKnown.symm.trans isDuty)
  have attending : Function.update states .runner (some (known.next action answer)) .watcher =
      none := kept.attending
  have isNext : Function.update states .runner (some (known.next action answer)) .runner =
      some (known.next action answer) := Function.update_self ..
  have registry := effect.registry
  have recorded := congrArg Prod.snd effect.outside
  refine ⟨attending, _, isNext, ?_⟩
  change session.registry =
    Registry.ofHandles _ (requested session.outside.2 ++ (known.next action answer).expected)
  rw [registry, registered, recorded]
  cases action with
  | registerWorkspace resource =>
      obtain ⟨rfl, rfl, -⟩ := allowed
      have free : Duty.creating.expected = [] := rfl
      rw [free, List.append_nil]
      exact Registry.ofHandles_registerWorkspace _
  | register resource =>
      obtain ⟨rfl, -⟩ := allowed
      have different : resource ≠ workspace.resource := by
        rintro rfl
        exact workspace.not_contains_resource workspace spares
      have free : Duty.creating.expected = [] := rfl
      rw [free, List.append_nil]
      exact Registry.ofHandles_register _ different
  | ask request =>
      cases request with
      | create object =>
          obtain ⟨resource, rfl, named⟩ := allowed
          change _ = Registry.ofHandles _ (requested (_ ++ [⟨.create object, _⟩]) ++ [])
          rw [requested_snoc_create _ named, List.append_nil]
          rfl
      | delete resource => cases spares
      | _ =>
          change _ = Registry.ofHandles _ (requested (_ ++ [_]) ++ known.expected)
          rw [requested_snoc_of_none rfl]
          rfl
  | drain => exact spares.elim
  | _ => rfl

end Kept

theorem kept_stable (outside : Outside σ) :
    Crew.Stable outside.recording (workspace.sparing watched) (Kept workspace) where
  rest := by
    intro states crew session kept rests same
    exact kept.steady rests.registry (.inl (congrArg Prod.snd same)) crew.programs crew.history
  evaluation := by
    intro states crew session thread condition kept allowed rests evaluated
    have recorded := congrArg Prod.snd evaluated
    cases thread with
    | watcher =>
        rw [kept.attending] at allowed
        exact allowed.elim
    | runner =>
        obtain ⟨duty, isDuty, -⟩ := kept.registered
        rw [isDuty] at allowed
        have reads : condition.request.IsReading := allowed.1
        exact kept.steady rests.registry (.inr ⟨_, reads.creation?_eq_none _, recorded⟩)
          crew.programs crew.history
  deed := by
    intro states crew session rest thread action answer kept allowed awake effect
    cases thread with
    | watcher =>
        rw [kept.attending] at allowed
        have unchanged : Function.update states .watcher
            ((workspace.sparing watched).next (states .watcher) action answer) = states := by
          rw [kept.attending]
          exact Function.update_eq_self_iff.mpr kept.attending.symm
        rw [unchanged]
        exact kept.attend outside answer allowed effect
    | runner =>
        obtain ⟨duty, isDuty, -⟩ := kept.registered
        rw [isDuty] at allowed
        have next : (workspace.sparing watched).next (states .runner) action answer =
            some (duty.next action answer) := by
          rw [isDuty]
          rfl
        rw [next]
        exact kept.run outside answer isDuty allowed.1 allowed.2 effect

/-! ## The debug run of a check -/

/-- A debug run has no duty but to create what it has registered, and its watcher has none. -/
def Duty.keeping : Role → Option Duty
  | .runner => some creating
  | .watcher => none

namespace Run.Checker.StaysIn

variable {κ : Type} {checker : Checker κ} {context : Context}

/-- The debug run spares its registry, and so does its watcher. -/
theorem crew_spares (stays : checker.StaysIn context workspace) (keeps : workspace.debug = true)
    (session : Session σ) :
    (Run.crew checker context workspace watched session).Keeps (workspace.sparing watched)
      (fun _ _ duty? => ∀ duty ∈ duty?, duty = .creating) Duty.keeping := by
  intro thread
  cases thread with
  | watcher =>
      have skips : workspace.deleteAll.Ends Action.IsAttending fun _ => True :=
        (Workspace.deleteAll_ends_of_debug (fun _ => trivial) keeps).mono fun _ _ => trivial
      have attends := Run.interruption_ends (fun _ => trivial) (fun _ => trivial) skips trivial
        (fun _ => trivial) trivial context.channel
      apply attends.uses.keeps_beside.mono
      rintro _ _ rfl _ none
      cases none
  | runner =>
      have skips : workspace.deleteAll.Ends workspace.Spares fun _ => True :=
        (Workspace.deleteAll_ends_of_debug (fun _ => trivial) keeps).mono fun _ _ => trivial
      have phases := stays.ends.wider fun _ => Workspace.Admits.spares
      have cleans := Run.cleanUp_ends (fun _ => trivial) (fun _ => trivial) skips trivial context
      have spares : (Run.run checker context workspace watched).Ends workspace.Spares
          fun _ => True :=
        Run.run_ends (fun _ => trivial) (fun _ => trivial) phases cleans (fun _ => trivial) trivial
          (fun _ => rfl) trivial trivial
      have settles : (Run.run checker context workspace watched).Keeps
          (Duty.discipline workspace {resource | workspace.Owns resource} watched) .creating
            fun _ duty => duty = Duty.creating.settled workspace :=
        Run.run_settles stays.createsIn
      apply ((settles.also spares.uses).beside Action.IsAttending).bind
      · rintro _ _ ⟨duty, rfl, ended⟩ _ same
        cases same
        rw [ended, Duty.settled_of_keeps keeps]
      · rintro _ ⟨duty, rfl, ended⟩ _ same
        cases same
        rw [ended, Duty.settled_of_keeps keeps]

/-- At any time of a debug run, what has been requested is registered. When the run is over, nothing
else is. -/
theorem registry_eq (stays : checker.StaysIn context workspace) (keeps : workspace.debug = true)
    {outside : Outside σ} {session : Session (σ × List Exchange)} {turns : List (Turn Role)}
    {after : Crew Role (σ × List Exchange)} (registry : session.registry = {})
    (fresh : session.outside.2 = [])
    (played : (Run.crew checker context workspace watched session).plays outside.recording turns =
      some after) :
    ∃ duty : Duty, after.session.registry = Registry.ofHandles workspace.resource
        (requested after.session.outside.2 ++ duty.expected) ∧
      ((after.programs .runner).isOver = true → duty.expected = []) := by
  have begun : Kept workspace Duty.keeping
      (Run.crew checker context workspace watched session) := by
    refine ⟨rfl, .creating, rfl, ?_⟩
    change session.registry = Registry.ofHandles _ (requested session.outside.2 ++ [])
    rw [registry, fresh]
    rfl
  obtain ⟨states, keepsOn, kept⟩ := Crew.plays_keeps (kept_stable outside)
    (stays.crew_spares keeps session) begun played
  obtain ⟨duty, isDuty, registered⟩ := kept.registered
  refine ⟨duty, registered, fun isOver => ?_⟩
  obtain ⟨result, ended⟩ := keepsOn.fits isOver
  rw [ended duty isDuty]
  rfl

end Run.Checker.StaysIn

end AddonCheck
