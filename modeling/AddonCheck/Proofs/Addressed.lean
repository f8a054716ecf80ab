import AddonCheck.Proofs.Asking
import AddonCheck.Proofs.Planned
import AddonCheck.Proofs.Residence
import AddonCheck.Proofs.Whereabouts

/-
This file follows the addresses that a run and its watcher ask for, in every order of their turns.
Every one of them belongs to the workspace of the run, and what is deleted has been requested
before. Only the watcher of a cancelled run can be ahead of the run: it may delete the object that
the run has registered and asks to create next.
-/

namespace AddonCheck

open Cluster (Resource)
open Run

/-! ## Deletions and the creations before them -/

/-- The object that an action asks to create. -/
def Action.creation? : Action → Option Cluster.Object
  | .ask (.create object) => some object
  | _ => none

section

variable {ι σ : Type} {history : List (Deed ι σ)} {deed : Deed ι σ} {resource : Resource}

/-- The objects that deeds have asked to create, in their order. -/
def creationsOf (history : List (Deed ι σ)) : List Cluster.Object :=
  history.filterMap fun deed => deed.action.creation?

theorem creationsOf_snoc_of_none (uncreating : deed.action.creation? = none) :
    creationsOf (history ++ [deed]) = creationsOf history := by
  simp [creationsOf, uncreating]

theorem creationsOf_snoc {object : Cluster.Object} (creates : deed.action.creation? = some object) :
    creationsOf (history ++ [deed]) = creationsOf history ++ [object] := by
  simp [creationsOf, creates]

/-- The creation of the object has been requested. -/
def Requested (history : List (Deed ι σ)) (resource : Resource) : Prop :=
  ∃ object ∈ creationsOf history, object.resource? = some resource

instance (history : List (Deed ι σ)) (resource : Resource) :
    Decidable (Requested history resource) :=
  inferInstanceAs (Decidable (∃ object ∈ _, _))

theorem Requested.snoc (requested : Requested history resource) (deed : Deed ι σ) :
    Requested (history ++ [deed]) resource := by
  obtain ⟨object, member, named⟩ := requested
  rw [Requested, creationsOf, List.filterMap_append]
  exact ⟨object, List.mem_append_left _ member, named⟩

/-- The object is the first one whose creation is requested, if there is any. -/
def ComesFirst (history : List (Deed ι σ)) (resource : Resource) : Prop :=
  ∀ object rest, creationsOf history = object :: rest → object.resource? = some resource

end

section

variable {σ : Type} {history : List (Deed Role σ)} {deed : Deed Role σ} {resource : Resource}

/-- The last object that the run has registered, when it has asked to create nothing since. -/
def IsAnnounced (history : List (Deed Role σ)) (resource : Resource) : Prop :=
  ∃ before registration since, history = before ++ registration :: since ∧
    registration.thread = .runner ∧ registration.action.records? = some resource ∧
      ∀ deed ∈ since, deed.action.records? = none ∧ deed.action.creation? = none

/-- What is registered last is announced. -/
theorem isAnnounced_snoc (runs : deed.thread = .runner)
    (records : deed.action.records? = some resource) :
    IsAnnounced (history ++ [deed]) resource :=
  ⟨history, deed, [], rfl, runs, records, fun _ none => absurd none List.not_mem_nil⟩

/-- An object stays announced until something is registered or created. -/
theorem IsAnnounced.snoc (announced : IsAnnounced history resource)
    (unrecording : deed.action.records? = none) (uncreating : deed.action.creation? = none) :
    IsAnnounced (history ++ [deed]) resource := by
  obtain ⟨before, registration, since, rfl, runs, records, silent⟩ := announced
  refine ⟨before, registration, since ++ [deed], by simp, runs, records, ?_⟩
  exact List.forall_mem_append.mpr
    ⟨silent, List.forall_mem_singleton.mpr ⟨unrecording, uncreating⟩⟩

/-- The creation of the object is requested next, or it has been announced. -/
def Forestalled (duty : Duty) (later : List (Deed Role σ)) (resource : Resource) : Prop :=
  (creationsOf later = [] ∧ duty = .announced resource) ∨
    ∃ object rest, creationsOf later = object :: rest ∧ object.resource? = some resource

theorem Forestalled.comesFirst {duty : Duty} {later : List (Deed Role σ)}
    (forestalled : Forestalled duty later resource) : ComesFirst later resource := by
  intro object rest first
  rcases forestalled with ⟨none, -⟩ | ⟨other, others, found, named⟩
  · rw [none] at first
    cases first
  · rw [found] at first
    cases first
    exact named

/-- A deletion is ahead of the run when the watcher deletes what the run has announced, which the
run asks to create next. -/
structure IsAhead (before : List (Deed Role σ)) (deed : Deed Role σ)
    (later : List (Deed Role σ)) (resource : Resource) : Prop where
  watches : deed.thread = .watcher
  announced : IsAnnounced before resource
  first : ComesFirst later resource

/-- A deletion is justified when its object belongs to the workspace and has been requested. In a
cancelled run with a watcher, the watcher may be ahead of the run. -/
structure IsJustified (workspace : Workspace) (excused : Prop) (duty : Duty)
    (before : List (Deed Role σ)) (deed : Deed Role σ) (later : List (Deed Role σ))
    (resource : Resource) : Prop where
  owned : workspace.Owns resource
  reason : Requested before resource ∨
    excused ∧ deed.thread = .watcher ∧ IsAnnounced before resource ∧
      Forestalled duty later resource

/-- Every deletion is justified. -/
def Traces (workspace : Workspace) (excused : Prop) (duty : Duty)
    (history : List (Deed Role σ)) : Prop :=
  ∀ before deed later resource, history = before ++ deed :: later →
    deed.action.deletes? = some resource →
      IsJustified workspace excused duty before deed later resource

namespace Traces

variable {workspace : Workspace} {excused : Prop} {duty : Duty}

/-- A deletion stays justified while the run announces nothing else. -/
theorem mono (traces : Traces workspace excused duty history) {wider : Prop} {after : Duty}
    (widens : excused → wider) (same : ∀ resource, duty = .announced resource →
      after = .announced resource) : Traces workspace wider after history := by
  intro before deed later resource parts deletes
  obtain ⟨owned, reason⟩ := traces before deed later resource parts deletes
  refine ⟨owned, reason.imp_right fun ⟨excuse, watches, announced, forestalled⟩ => ?_⟩
  exact ⟨widens excuse, watches, announced,
    forestalled.imp_left fun next => ⟨next.1, same resource next.2⟩⟩

theorem snoc (traces : Traces workspace excused duty history) {after : Duty}
    (last : ∀ resource, deed.action.deletes? = some resource →
      IsJustified workspace excused after history deed [] resource)
    (onward : ∀ later resource, Forestalled duty later resource →
      Forestalled after (later ++ [deed]) resource) :
    Traces workspace excused after (history ++ [deed]) := by
  intro before other later resource parts deletes
  rcases snoc_split parts with ⟨rfl, rfl, rfl⟩ | ⟨earlier, rfl, former⟩
  · exact last resource deletes
  · obtain ⟨owned, reason⟩ := traces before other earlier resource former deletes
    refine ⟨owned, reason.imp_right fun ⟨excuse, watches, announced, forestalled⟩ => ?_⟩
    exact ⟨excuse, watches, announced, onward earlier resource forestalled⟩

/-- A deed that creates nothing leaves open what is created next. -/
theorem snoc_aside (traces : Traces workspace excused duty history)
    (uncreating : deed.action.creation? = none)
    (last : ∀ resource, deed.action.deletes? = some resource →
      IsJustified workspace excused duty history deed [] resource) :
    Traces workspace excused duty (history ++ [deed]) := by
  apply traces.snoc last
  intro later resource forestalled
  unfold Forestalled
  rw [creationsOf_snoc_of_none uncreating]
  exact forestalled

/-- The creation that has been announced is the next one that is requested. -/
theorem create {announced : Resource}
    (traces : Traces workspace excused (.announced announced) history)
    {object : Cluster.Object} (creates : deed.action = .ask (.create object))
    (named : object.resource? = some announced) :
    Traces workspace excused .creating (history ++ [deed]) := by
  apply traces.snoc
  · intro resource deletes
    rw [creates] at deletes
    cases deletes
  · intro later resource forestalled
    right
    rw [creationsOf_snoc (congrArg Action.creation? creates)]
    rcases forestalled with ⟨none, same⟩ | ⟨other, rest, found, otherNamed⟩
    · cases same
      exact ⟨object, [], by rw [none]; rfl, named⟩
    · exact ⟨other, rest ++ [object], by rw [found]; rfl, otherNamed⟩

end Traces

end

/-! ## A run and its watcher -/

variable {σ : Type}

/-- The watcher registers nothing, what is held is owned and has been requested or announced, what
the run is about to create is announced by its deeds, and every deletion is justified. -/
structure Traced (workspace : Workspace) (watched : Bool) (states : Role → Duty)
    (crew : Crew Role σ) : Prop where
  known : crew.watcher? = some .watcher
  started : crew.session.watcher.isSome = true → watched = true
  watching : states .watcher = .idle ∨ ∃ resources, states .watcher = .clearing resources
  held : ∀ resource, Held states crew.session.registry resource → workspace.Owns resource ∧
    (Requested crew.history resource ∨ states .runner = .announced resource)
  announced : ∀ resource, states .runner = .announced resource →
    IsAnnounced crew.history resource
  traces : Traces workspace (watched = true ∧ crew.session.isCancelled = true) (states .runner)
    crew.history

namespace Traced

variable {workspace : Workspace} {watched : Bool} {states : Role → Duty}
  {crew : Crew Role σ} {outside : Outside σ}

/-- Who creates is the run. -/
theorem isRunner (traced : Traced workspace watched states crew) {thread : Role}
    (busy : states thread = .creating ∨ ∃ resource, states thread = .announced resource) :
    thread = .runner := by
  cases thread with
  | runner => rfl
  | watcher =>
      rcases traced.watching with idle | ⟨resources, clearing⟩
      · rw [idle] at busy
        simp at busy
      · rw [clearing] at busy
        simp at busy

/-- The watcher goes on with its teardown, whichever thread has deleted or drained. -/
theorem watching_update (traced : Traced workspace watched states crew) (thread : Role)
    (resources : List Resource) :
    Function.update states thread (.clearing resources) .watcher = .idle ∨
      ∃ left, Function.update states thread (.clearing resources) .watcher = .clearing left := by
  by_cases own : Role.watcher = thread
  · subst own
    exact .inr ⟨resources, Function.update_self ..⟩
  · rw [Function.update_of_ne own]
    exact traced.watching

/-- A thread that has announced nothing goes on to clear, and the run announces what it did. -/
theorem announced_clearing_iff {thread : Role}
    (quiet : ∀ resource, states thread ≠ .announced resource) (resources : List Resource)
    (resource : Resource) :
    Function.update states thread (.clearing resources) .runner = .announced resource ↔
      states .runner = .announced resource :=
  ⟨fun announced => (announced_of_update announced Duty.noConfusion).2,
    announced_update (quiet resource)⟩

variable {session : Session σ} {rest : Program Unit}
  (traced : Traced workspace watched states crew) (deed : Deed Role σ)
  (cancelled : crew.session.isCancelled = true → session.isCancelled = true)

include traced cancelled

/-- A run that is cancelled stays so. -/
theorem tracesLater {duty : Duty} (same : ∀ resource, states .runner = .announced resource →
      duty = .announced resource) :
    Traces workspace (watched = true ∧ session.isCancelled = true) duty crew.history :=
  traced.traces.mono (fun excuse => ⟨excuse.1, cancelled excuse.2⟩) same

variable (started : session.watcher.isSome = true → watched = true)

include started

/-- A deed that registers and creates nothing leaves to be created what the run has announced. -/
theorem aside {later : Role → Duty}
    (watching : later .watcher = .idle ∨ ∃ resources, later .watcher = .clearing resources)
    (same : ∀ resource, later .runner = .announced resource ↔ states .runner = .announced resource)
    (held : ∀ resource, Held later session.registry resource →
      Held states crew.session.registry resource)
    (unrecording : deed.action.records? = none) (uncreating : deed.action.creation? = none)
    (last : ∀ resource, deed.action.deletes? = some resource →
      IsJustified workspace (watched = true ∧ session.isCancelled = true) (later .runner)
        crew.history deed [] resource) :
    Traced workspace watched later (crew.did deed session rest) := by
  refine ⟨traced.known, started, watching, ?_, ?_, ?_⟩
  · intro other isHeld
    obtain ⟨owned, reason⟩ := traced.held other (held other isHeld)
    exact ⟨owned, reason.imp (·.snoc deed) (same other).mpr⟩
  · intro other announced
    exact (traced.announced other ((same other).mp announced)).snoc unrecording uncreating
  · have traces := traced.tracesLater cancelled fun other => (same other).mpr
    exact traces.snoc_aside uncreating last

/-- What is registered is announced by the run, and it belongs to the workspace. -/
theorem register {resource : Resource} (creating : states deed.thread = .creating)
    (owned : workspace.Owns resource) (records : deed.action.records? = some resource)
    (members : ∀ other ∈ session.registry.deletionOrder,
      other = resource ∨ other ∈ crew.session.registry.deletionOrder) :
    Traced workspace watched (Function.update states deed.thread (.announced resource))
      (crew.did deed session rest) := by
  have runs : deed.thread = .runner := traced.isRunner (.inl creating)
  have announces : Function.update states deed.thread (.announced resource) .runner =
      .announced resource := by rw [runs, Function.update_self]
  have silent (other : Resource) : states .runner ≠ .announced other := by
    rw [← runs, creating]
    exact Duty.noConfusion
  have passive : deed.action.creation? = none ∧ deed.action.deletes? = none := by
    cases acts : deed.action with
    | registerWorkspace other => exact ⟨rfl, rfl⟩
    | register other => exact ⟨rfl, rfl⟩
    | _ => simp [acts, Action.records?] at records
  refine ⟨traced.known, started, ?_, ?_, ?_, ?_⟩
  · rw [runs]
    exact traced.watching
  · intro other isHeld
    change Held _ session.registry other at isHeld
    rw [announces]
    have before : other = resource ∨ Held states crew.session.registry other := by
      rcases isHeld with registered | pending
      · exact (members other registered).imp_right .inl
      · exact .inr ((held_update (by rw [creating]; rfl)).mp (.inr pending))
    rcases before with rfl | isHeld
    · exact ⟨owned, .inr rfl⟩
    · obtain ⟨ownedToo, reason⟩ := traced.held other isHeld
      exact ⟨ownedToo, .inl ((reason.resolve_right (silent other)).snoc deed)⟩
  · intro other announced
    rw [announces] at announced
    cases announced
    exact isAnnounced_snoc runs records
  · rw [announces]
    apply Traces.snoc_aside
      (traced.tracesLater cancelled fun other is => absurd is (silent other)) passive.1
    intro other deletes
    rw [passive.2] at deletes
    cases deletes

/-- What is created is what the run has announced. -/
theorem create {resource : Resource} {object : Cluster.Object}
    (announced : states deed.thread = .announced resource)
    (creates : deed.action = .ask (.create object))
    (named : object.resource? = some resource)
    (registry : session.registry = crew.session.registry) :
    Traced workspace watched (Function.update states deed.thread .creating)
      (crew.did deed session rest) := by
  have runs : deed.thread = .runner := traced.isRunner (.inr ⟨resource, announced⟩)
  have created : deed.action.creation? = some object := congrArg Action.creation? creates
  rw [runs] at announced
  refine ⟨traced.known, started, ?_, ?_, ?_, ?_⟩
  · rw [runs]
    exact traced.watching
  · intro other isHeld
    change Held _ session.registry other at isHeld
    rw [registry, runs, held_update (by rw [announced]; rfl)] at isHeld
    obtain ⟨owned, requested | announcedToo⟩ := traced.held other isHeld
    · exact ⟨owned, .inl (requested.snoc deed)⟩
    · rw [announced] at announcedToo
      cases announcedToo
      refine ⟨owned, .inl ⟨object, ?_, named⟩⟩
      change object ∈ creationsOf (crew.history ++ [deed])
      rw [creationsOf_snoc created]
      exact List.mem_append_right _ List.mem_cons_self
  · intro other announcedToo
    rw [runs, Function.update_self] at announcedToo
    cases announcedToo
  · rw [runs, Function.update_self]
    have traces := traced.tracesLater cancelled fun _ same => same
    rw [announced] at traces
    exact traces.create creates named

/-- What a thread deletes has been requested, or the watcher is ahead of the run. -/
theorem delete {resource : Resource} {left : List Resource}
    (clearing : states deed.thread = .clearing (resource :: left))
    (deletes : deed.action = .ask (.delete resource))
    (awake : crew.isAwake deed.thread = true)
    (registry : session.registry = crew.session.registry) :
    Traced workspace watched (Function.update states deed.thread (.clearing left))
      (crew.did deed session rest) := by
  have quiet : ∀ other, states deed.thread ≠ .announced other := by
    rw [clearing]
    exact fun _ => Duty.noConfusion
  have announces := announced_clearing_iff quiet left
  have isHeld : Held states crew.session.registry resource :=
    .inr ⟨deed.thread, by rw [clearing]; exact List.mem_cons_self⟩
  obtain ⟨owned, reason⟩ := traced.held resource isHeld
  -- A run that announces an object deletes nothing, so that it is the watcher who does.
  have ahead (announced : states .runner = .announced resource) :
      deed.thread = .watcher ∧ watched = true ∧ crew.session.isCancelled = true := by
    have watches : deed.thread = .watcher := by
      cases acts : deed.thread with
      | watcher => rfl
      | runner =>
          rw [acts, announced] at clearing
          cases clearing
    rw [watches] at awake
    have up : crew.session.watcher.isSome = true ∧ crew.session.isCancelled = true := by
      simpa [Crew.isAwake, traced.known] using awake
    exact ⟨watches, traced.started up.1, up.2⟩
  apply traced.aside deed cancelled started (traced.watching_update deed.thread left) announces
  · intro other isHeldAfter
    rw [registry] at isHeldAfter
    exact held_of_deleted clearing isHeldAfter
  · rw [deletes]
    rfl
  · rw [deletes]
    rfl
  · intro other same
    rw [deletes] at same
    cases same
    refine ⟨owned, reason.imp_right fun announced => ?_⟩
    obtain ⟨watches, isWatched, isCancelled⟩ := ahead announced
    exact ⟨⟨isWatched, cancelled isCancelled⟩, watches, traced.announced resource announced,
      .inl ⟨rfl, (announces resource).mpr announced⟩⟩

/-- What a thread takes from the registry was held before. -/
theorem drain (ready : states deed.thread = .idle ∨ states deed.thread = .creating)
    (drains : deed.action = .drain) (registry : session.registry = {}) :
    Traced workspace watched
      (Function.update states deed.thread (.clearing crew.session.registry.deletionOrder))
      (crew.did deed session rest) := by
  have unburdened : (states deed.thread).pending = [] ∧
      ∀ resource, states deed.thread ≠ .announced resource := by
    rcases ready with idle | creating
    · rw [idle]
      exact ⟨rfl, fun _ => Duty.noConfusion⟩
    · rw [creating]
      exact ⟨rfl, fun _ => Duty.noConfusion⟩
  apply traced.aside deed cancelled started (traced.watching_update deed.thread _)
    (announced_clearing_iff unburdened.2 _)
  · intro other isHeld
    rw [registry] at isHeld
    exact (held_drained unburdened.1).mp isHeld
  · rw [drains]
    rfl
  · rw [drains]
    rfl
  · intro other deletes
    rw [drains] at deletes
    cases deletes

/-- A deed that registers, creates and deletes nothing. -/
theorem idles (unrecording : deed.action.records? = none)
    (uncreating : deed.action.creation? = none) (undeleting : deed.action.deletes? = none)
    (registry : session.registry = crew.session.registry) :
    Traced workspace watched states (crew.did deed session rest) := by
  apply traced.aside deed cancelled started traced.watching (fun _ => Iff.rfl) _ unrecording
    uncreating
  · intro other deletes
    rw [undeleting] at deletes
    cases deletes
  · rw [registry]
    exact fun _ => id

/-- While no deed is done, what is held and announced stays so. -/
theorem rests (registry : session.registry = crew.session.registry) :
    Traced workspace watched states { crew with session := session } := by
  refine ⟨traced.known, started, traced.watching, ?_, traced.announced,
    traced.tracesLater cancelled fun _ same => same⟩
  intro other isHeld
  change Held states session.registry other at isHeld
  rw [registry] at isHeld
  exact traced.held other isHeld

end Traced

/-- The deletions of a run and of its watcher stay justified, whatever the order of the turns is. -/
theorem traced_stable {workspace : Workspace} {watched : Bool} {outside : Outside σ} :
    Crew.Stable outside (Duty.discipline workspace {resource | workspace.Owns resource} watched)
      (Traced workspace watched : Crew.Assertion Role σ Duty) where
  rest := by
    intro states crew session traced rests _
    have started : session.watcher.isSome = true → watched = true := by
      rw [rests.watcher]
      exact traced.started
    exact traced.rests rests.cancelled started rests.registry
  evaluation := by
    intro states crew session thread condition traced _ rests _
    have started : session.watcher.isSome = true → watched = true := by
      rw [rests.watcher]
      exact traced.started
    exact traced.rests rests.cancelled started rests.registry
  deed := by
    intro states crew session rest thread action answer traced allowed awake effect
    have cancelled := effect.cancelled
    have registry := effect.registry
    have started : session.watcher.isSome = true → watched = true := by
      rw [effect.watcher]
      cases action with
      | watch watcher => exact fun _ => allowed
      | _ => exact traced.started
    -- A deed of no duty leaves the states of the threads as they are.
    have idle (unowed : (states thread).next action answer = states thread)
        (unrecording : action.records? = none) (uncreating : action.creation? = none)
        (undeleting : action.deletes? = none)
        (registry : session.registry = crew.session.registry) :
        Traced workspace watched
          (Function.update states thread ((states thread).next action answer))
          (crew.did ⟨thread, action, answer, session.outside⟩ session rest) := by
      rw [unowed, Function.update_eq_self]
      exact traced.idles ⟨thread, action, answer, session.outside⟩ cancelled started unrecording
        uncreating undeleting registry
    cases action with
    | registerWorkspace resource =>
        obtain ⟨creating, -, owned⟩ := allowed
        apply traced.register ⟨thread, _, answer, session.outside⟩ cancelled started creating owned
          rfl
        intro other member
        rw [registry] at member
        rcases List.mem_append.mp member with placed | last
        · exact .inr (List.mem_append_left _ placed)
        · exact .inl (Option.some.inj (Option.mem_toList.mp last)).symm
    | register resource =>
        obtain ⟨creating, owned⟩ := allowed
        apply traced.register ⟨thread, _, answer, session.outside⟩ cancelled started creating owned
          rfl
        intro other member
        rw [registry] at member
        change other ∈ (Registry.register _ resource).deletionOrder at member
        rwa [Registry.deletionOrder_register, List.mem_cons] at member
    | drain =>
        have taken : answer = crew.session.registry.deletionOrder := effect.answered
        subst taken
        exact traced.drain ⟨thread, .drain, _, session.outside⟩ cancelled started allowed rfl
          registry
    | ask request =>
        cases request with
        | create object =>
            obtain ⟨resource, announced, named⟩ := allowed
            exact traced.create ⟨thread, _, answer, session.outside⟩ cancelled started announced
              rfl named registry
        | delete resource =>
            obtain ⟨later, clearing⟩ := allowed
            have next : (states thread).next (.ask (.delete resource)) answer =
                .clearing later := by
              rw [clearing]
              rfl
            change Traced workspace watched (Function.update states thread
              ((states thread).next (.ask (.delete resource)) answer)) _
            rw [next]
            exact traced.delete ⟨thread, _, answer, session.outside⟩ cancelled started clearing
              rfl awake registry
        | _ => exact idle rfl rfl rfl rfl registry
    | _ => exact idle rfl rfl rfl rfl registry

/-! ## The five checks -/

namespace CommandLine.CheckSettings

/-- A run and its watcher before their first deeds. -/
def crew (settings : CheckSettings) (context : Context) (workspace : Workspace) (watched : Bool)
    (session : Session σ) : Crew Role σ where
  session := session
  programs
    | .runner => (settings.runner context workspace watched).bind fun _ => .done ()
    | .watcher => interruption ⟨workspace, context.channel⟩
  watcher? := some .watcher

theorem crew_eq {κ : Type} {settings : CheckSettings} {checker : Checker κ}
    (runs : settings.runner = Run.run checker) {context : Context} {workspace : Workspace}
    {watched : Bool} {session : Session σ} : settings.crew context workspace watched session =
      Run.crew checker context workspace watched session := by
  rw [crew, runs]
  rfl

/-- A new run and its watcher come to this, in some order of their turns and after some time. -/
def Reaches (settings : CheckSettings) (context : Context) (workspace : Workspace) (watched : Bool)
    (after : Crew Role (σ × List Exchange)) : Prop :=
  ∃ (outside : Outside σ) (session : Session (σ × List Exchange)) (turns : List (Turn Role)),
    session.registry = {} ∧ session.watcher = none ∧ session.outside.2 = [] ∧
      (settings.crew context workspace watched session).plays outside.recording turns = some after

variable {settings : CheckSettings} {context : Context} {workspace : Workspace}
  {watched : Bool} {after : Crew Role (σ × List Exchange)}

/-- The creations and deletions that are recorded are those of the run and its watcher. -/
theorem Reaches.accounted (same : context.workspaceName = workspace.name)
    (reached : settings.Reaches context workspace watched after) : after.Accounted := by
  obtain ⟨κ, checker, runs, -, stays⟩ := settings.exists_checker
  obtain ⟨outside, session, turns, -, -, fresh, played⟩ := reached
  rw [crew_eq runs] at played
  exact (stays context workspace same).accounted fresh played

/-- Every deletion of a run and its watcher is justified. -/
theorem Reaches.traces (same : context.workspaceName = workspace.name)
    (reached : settings.Reaches context workspace watched after) : ∃ duty,
      Traces workspace (watched = true ∧ after.session.isCancelled = true) duty after.history := by
  have accounted := reached.accounted same
  obtain ⟨κ, checker, runs, -, stays⟩ := settings.exists_checker
  obtain ⟨outside, session, turns, registry, unwatched, fresh, played⟩ := reached
  have known := stays context workspace same
  rw [crew_eq runs] at played
  cases debug : workspace.debug with
  | true =>
      refine ⟨.creating, fun before deed later resource parts deletes => ?_⟩
      have member : deed ∈ after.history := by
        rw [parts]
        exact List.mem_append_right _ List.mem_cons_self
      obtain ⟨exchange, recorded, asks⟩ := accounted.deletes_iff.mp ⟨deed, member, deletes⟩
      have spared := known.undeleting fresh played debug exchange recorded
      rw [asks] at spared
      cases spared
  | false =>
      have begun : Traced workspace watched Duty.initial
          (Run.crew checker context workspace watched session) := by
        refine ⟨rfl, ?_, .inl rfl, ?_, ?_, ?_⟩
        · intro started
          change session.watcher.isSome = true at started
          rw [unwatched] at started
          cases started
        · rintro resource (registered | ⟨_ | _, pending⟩)
          · change resource ∈ session.registry.deletionOrder at registered
            rw [registry] at registered
            exact absurd registered List.not_mem_nil
          · exact absurd pending List.not_mem_nil
          · exact absurd pending List.not_mem_nil
        · intro resource announced
          cases announced
        · intro before deed later resource parts
          exact absurd parts.symm (List.append_ne_nil_of_right_ne_nil _ (List.cons_ne_nil _ _))
      obtain ⟨states, -, traced⟩ := Crew.plays_keeps traced_stable
        (Run.crew_keeps known.createsIn debug) begun played
      exact ⟨states .runner, traced.traces⟩

/-- Every request of a run for an object addresses the workspace. -/
theorem Reaches.permitted (same : context.workspaceName = workspace.name)
    (reached : settings.Reaches context workspace watched after) :
    ∀ exchange ∈ after.session.outside.2, workspace.Permits exchange.1 := by
  have accounted := reached.accounted same
  obtain ⟨duty, traces⟩ := reached.traces same
  obtain ⟨κ, checker, runs, -, stays⟩ := settings.exists_checker
  obtain ⟨outside, session, turns, -, -, fresh, played⟩ := reached
  rw [crew_eq runs] at played
  let kind (request : Request) : Prop := request.deletes = true ∨ workspace.Permits request
  have asked : ∀ exchange ∈ after.session.outside.2, kind exchange.1 :=
    (stays context workspace same).asked fresh played (fun _ permitted _ => .inr permitted)
      (fun _ => .inr nofun) fun _ _ => .inl rfl
  rintro ⟨request, answer⟩ member
  rcases asked _ member with deletes | permitted
  · cases request with
    | delete resource =>
        obtain ⟨deed, done, deletes⟩ := accounted.deletes_iff.mpr ⟨_, member, rfl⟩
        obtain ⟨before, later, parts⟩ := List.mem_iff_append.mp done
        exact fun _ => ⟨resource, rfl, (traces before deed later resource parts deletes).owned⟩
    | _ => cases deletes
  · exact permitted

/-- Every creation, deletion and reading of an object addresses the namespace of the workspace or an
object in it. The creations and deletions are those of the run and of its watcher. What one of them
deletes has been requested before, or the watcher of a cancelled run deletes what the run has
registered last and not asked to create since; if the run creates anything later, it is this object
first. Runs in workspaces with different names never address the same object. -/
theorem requests_stay_in_workspace (same : context.workspaceName = workspace.name)
    (reached : settings.Reaches context workspace watched after) :
    (∀ exchange ∈ after.session.outside.2, workspace.Permits exchange.1) ∧
      changes after.session.outside.2 = changesOf after.history ∧
      (∀ before deed later resource, after.history = before ++ deed :: later →
        deed.action.deletes? = some resource →
          Requested before resource ∨
            watched = true ∧ after.session.isCancelled = true ∧
              IsAhead before deed later resource) ∧
      ∀ (others : CheckSettings) otherContext otherWorkspace otherWatched (τ : Type)
        (other : Crew Role (τ × List Exchange)),
          otherContext.workspaceName = otherWorkspace.name →
          others.Reaches otherContext otherWorkspace otherWatched other →
          otherWorkspace.name ≠ workspace.name →
          ∀ exchange ∈ after.session.outside.2, ∀ otherExchange ∈ other.session.outside.2,
            ∀ resource, exchange.1.address? = some resource →
              otherExchange.1.address? ≠ some resource := by
  have owned {workspace : Workspace} {request : Request} {resource : Resource}
      (permitted : workspace.Permits request) (addressed : request.address? = some resource) :
      workspace.Owns resource := by
    have forObject : request.isForObject = true := by
      cases request <;> first | rfl | cases addressed
    obtain ⟨other, addressedToo, owns⟩ := permitted forObject
    rw [addressed] at addressedToo
    cases addressedToo
    exact owns
  refine ⟨reached.permitted same, reached.accounted same, ?_, ?_⟩
  · intro before deed later resource parts deletes
    obtain ⟨duty, traces⟩ := reached.traces same
    obtain ⟨-, reason⟩ := traces before deed later resource parts deletes
    refine reason.imp_right fun ⟨excuse, watches, announced, forestalled⟩ => ?_
    exact ⟨excuse.1, excuse.2, watches, announced, forestalled.comesFirst⟩
  · intro others otherContext otherWorkspace otherWatched τ other sameToo reachedToo different
      exchange member otherExchange memberToo resource addressed addressedToo
    have one := owned (reached.permitted same exchange member) addressed
    have two := owned (reachedToo.permitted sameToo otherExchange memberToo) addressedToo
    exact different (two.name_eq one)

/-- The run stops between the registration of its namespace and its creation, while the watcher
deletes the namespace. -/
def aheadTurns : List (Turn Role) :=
  List.replicate 5 (.act .runner) ++ .cancel :: List.replicate 5 (.act .watcher) ++
    List.replicate 2 (.act .runner)

def aheadContext : Context := { (default : Context) with workspaceName := plainWorkspace.name }

/-- What the run and its watcher come to in these turns. -/
def aheadCrew : Crew Role (Unit × List Exchange) :=
  ((eager.crew aheadContext plainWorkspace true { start := default, outside := ((), []) }).plays
    (grantingOutside (.ok .notFound)).recording aheadTurns).get (by decide +kernel)

theorem aheadCrew_reached : eager.Reaches aheadContext plainWorkspace true aheadCrew :=
  ⟨grantingOutside (.ok .notFound), _, aheadTurns, rfl, rfl, rfl, (Option.some_get _).symm⟩

/-- The deletion of the namespace is the tenth deed. -/
theorem aheadCrew_deletes : ∃ deed,
    aheadCrew.history = aheadCrew.history.take 9 ++ deed :: aheadCrew.history.drop 10 ∧
      deed.action.deletes? = some plainWorkspace.resource := by
  have tenth : aheadCrew.history[9]?.any (fun deed =>
      deed.action.deletes? = some plainWorkspace.resource) = true := by decide +kernel
  obtain ⟨deed, found, deletes⟩ := (Option.any_eq_true _ _).mp tenth
  obtain ⟨_, rfl⟩ := List.getElem?_eq_some_iff.mp found
  refine ⟨_, ?_, of_decide_eq_true deletes⟩
  rw [List.getElem_cons_drop, List.take_append_drop]

/-- The watcher deletes the namespace before its creation has been requested. -/
theorem deletion_ahead_eager :
    ∃ after : Crew Role (Unit × List Exchange),
      eager.Reaches aheadContext plainWorkspace true after ∧
      ∃ before deed later, after.history = before ++ deed :: later ∧
        deed.action.deletes? = some plainWorkspace.resource ∧
        ¬ Requested before plainWorkspace.resource ∧ Requested later plainWorkspace.resource := by
  obtain ⟨deed, parts, deletes⟩ := aheadCrew_deletes
  exact ⟨aheadCrew, aheadCrew_reached, _, deed, _, parts, deletes, by decide +kernel,
    by decide +kernel⟩

/-- The namespace is deleted ahead of its creation, and a run in another workspace is safe from
it. -/
theorem requests_stay_in_workspace_ahead :
    (∀ exchange ∈ aheadCrew.session.outside.2, plainWorkspace.Permits exchange.1) ∧
      (∃ deed ∈ aheadCrew.history, aheadCrew.session.isCancelled = true ∧
        IsAhead (aheadCrew.history.take 9) deed (aheadCrew.history.drop 10)
          plainWorkspace.resource) ∧
      ∀ watched (other : Crew Role (Unit × List Exchange)),
        eager.Reaches default default watched other →
          ∀ exchange ∈ other.session.outside.2,
            exchange.1.address? ≠ some plainWorkspace.resource := by
  obtain ⟨permitted, accounted, justified, apart⟩ :=
    requests_stay_in_workspace rfl aheadCrew_reached
  obtain ⟨deed, parts, deletes⟩ := aheadCrew_deletes
  have member : deed ∈ aheadCrew.history := by
    rw [parts]
    exact List.mem_append_right _ List.mem_cons_self
  have unrequested : ¬ Requested (aheadCrew.history.take 9) plainWorkspace.resource := by
    decide +kernel
  obtain ⟨-, cancelled, ahead⟩ :=
    (justified _ deed _ plainWorkspace.resource parts deletes).resolve_left unrequested
  refine ⟨permitted, ⟨deed, member, cancelled, ahead⟩, ?_⟩
  intro watched other reached exchange asked
  obtain ⟨first, recorded, addressed⟩ : ∃ first ∈ aheadCrew.session.outside.2,
      first.1 = .delete plainWorkspace.resource :=
    Crew.Accounted.deletes_iff accounted |>.mp ⟨deed, member, deletes⟩
  exact apart eager default default watched Unit other rfl reached (by decide) first recorded
    exchange asked plainWorkspace.resource (by rw [addressed]; rfl)

end CommandLine.CheckSettings

end AddonCheck
