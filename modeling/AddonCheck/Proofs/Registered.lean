import AddonCheck.Proofs.Backlog
import AddonCheck.Proofs.Shelf
import AddonCheck.Proofs.Tally
import AddonCheck.Proofs.Whereabouts
import Mathlib.Data.Finset.Card

/-
This file shows that threads which share a workspace lose no registration and delete none twice,
whatever the order of their deeds is. The books on registrations agree with the registry, with what
each thread is about to delete, and with the deletions that have been sent.
-/

namespace AddonCheck

open Cluster (Resource)

variable {ι σ : Type} [DecidableEq ι] {outside : Outside σ}

/-! ## The books agree with the deeds -/

/-- The books agree with the registry, with the backlogs and with the deletions. -/
structure Booked (states : ι → Backlog) (crew : Crew ι σ) : Prop where
  registry : crew.session.registry = (whereabouts crew.history).registry
  backlog : ∀ thread,
    ((whereabouts crew.history).backlog thread).map (·.resource) = states thread
  deletions : ∀ number, named Action.deletes? crew.history number =
    ((whereabouts crew.history).deleted number).map (·.resource)

namespace Booked

variable {states : ι → Backlog} {crew : Crew ι σ} {session : Session σ} {rest : Program Unit}

/-- A deed that neither takes nor deletes leaves backlogs and deletions as they are. -/
theorem unburdened (booked : Booked states crew) (deed : Deed ι σ)
    (registry : session.registry = (whereabouts (crew.history ++ [deed])).registry)
    (spares : deed.action.deletes? = none)
    (same : ((whereabouts crew.history).follow deed.thread deed.action).backlog =
        (whereabouts crew.history).backlog ∧
      ((whereabouts crew.history).follow deed.thread deed.action).deleted =
        (whereabouts crew.history).deleted) :
    Booked (Function.update states deed.thread (states deed.thread))
      (crew.did deed session rest) := by
  rw [Function.update_eq_self]
  refine ⟨registry, fun thread => ?_, fun number => ?_⟩
  · change ((whereabouts (crew.history ++ [deed])).backlog thread).map _ = _
    rw [whereabouts_append]
    change (((whereabouts crew.history).follow _ _).backlog thread).map _ = _
    rw [same.1]
    exact booked.backlog thread
  · change named _ (crew.history ++ [deed]) number =
      ((whereabouts (crew.history ++ [deed])).deleted number).map _
    rw [whereabouts_append, named_append_of_none _ _ _ spares]
    change _ = (((whereabouts crew.history).follow _ _).deleted number).map _
    rw [same.2]
    exact booked.deletions number

/-- What is in the registry becomes the backlog of the thread that takes it. -/
theorem drain (booked : Booked states crew) (deed : Deed ι σ) (acts : deed.action = .drain)
    (empty : states deed.thread = []) (emptied : session.registry = {}) :
    Booked (Function.update states deed.thread crew.session.registry.deletionOrder)
      (crew.did deed session rest) := by
  refine ⟨?_, fun thread => ?_, fun number => ?_⟩
  · change session.registry = (whereabouts (crew.history ++ [deed])).registry
    rw [emptied, whereabouts_append]
    simp [Whereabouts.after, Whereabouts.follow, acts, Whereabouts.registry]
  · change ((whereabouts (crew.history ++ [deed])).backlog thread).map _ = _
    rw [whereabouts_append]
    by_cases own : thread = deed.thread
    · subst own
      have before := (booked.backlog deed.thread).trans empty
      simp [Whereabouts.after, Whereabouts.follow, acts, booked.registry,
        Whereabouts.registry_deletionOrder, List.map_eq_nil_iff.mp before]
    · simpa [Whereabouts.after, Whereabouts.follow, acts, Function.update_of_ne own] using
        booked.backlog thread
  · change named _ (crew.history ++ [deed]) number =
      ((whereabouts (crew.history ++ [deed])).deleted number).map _
    rw [whereabouts_append, named_append_of_none _ _ _ (by rw [acts]; rfl), booked.deletions number]
    simp [Whereabouts.after, Whereabouts.follow, acts]

/-- The first object of a backlog is the one that is deleted. -/
theorem delete (booked : Booked states crew) (deed : Deed ι σ) {resource : Resource}
    (acts : deed.action = .ask (.delete resource))
    (first : (states deed.thread).head? = some resource)
    (same : session.registry = crew.session.registry) :
    Booked (Function.update states deed.thread (states deed.thread).tail)
      (crew.did deed session rest) := by
  refine ⟨?_, fun thread => ?_, fun number => ?_⟩
  · change session.registry = (whereabouts (crew.history ++ [deed])).registry
    rw [same, booked.registry, whereabouts_append]
    simp [Whereabouts.after, Whereabouts.follow, acts, Whereabouts.registry]
  · change ((whereabouts (crew.history ++ [deed])).backlog thread).map _ = _
    rw [whereabouts_append]
    by_cases own : thread = deed.thread
    · subst own
      simp [Whereabouts.after, Whereabouts.follow, acts, ← booked.backlog deed.thread]
    · simpa [Whereabouts.after, Whereabouts.follow, acts, Function.update_of_ne own] using
        booked.backlog thread
  · have count := (whereabouts_sound crew.history).count
    change named _ (crew.history ++ [deed]) number =
      ((whereabouts (crew.history ++ [deed])).deleted number).map _
    rw [whereabouts_append]
    by_cases last : number = crew.history.length
    · subst last
      rw [named_append_length, acts, ← count]
      rw [← booked.backlog deed.thread, List.head?_map] at first
      simpa [Whereabouts.after, Whereabouts.follow, acts, Action.deletes?] using first.symm
    · rw [named_append_of_ne _ _ _ last, booked.deletions number]
      simp [Whereabouts.after, Whereabouts.follow, acts, Function.update_of_ne (count ▸ last)]

end Booked

/-- The books agree with the deeds, whatever the order of the turns is. -/
theorem booked_stable :
    Crew.Stable outside Backlog.discipline (Booked : Crew.Assertion ι σ Backlog) where
  rest booked rests _ := ⟨rests.registry.trans booked.registry, booked.backlog, booked.deletions⟩
  evaluation booked _ rests _ :=
    ⟨rests.registry.trans booked.registry, booked.backlog, booked.deletions⟩
  deed := by
    intro states crew session rest thread action answer booked allowed _ effect
    have registry := effect.registry
    rw [booked.registry] at registry
    let deed : Deed ι σ := ⟨thread, action, answer, session.outside⟩
    have unmoved (spares : action.deletes? = none)
        (follows : ((whereabouts crew.history).follow thread action).registry =
          action.registryAfter (whereabouts crew.history).registry)
        (same : ((whereabouts crew.history).follow thread action).backlog =
            (whereabouts crew.history).backlog ∧
          ((whereabouts crew.history).follow thread action).deleted =
            (whereabouts crew.history).deleted) :
        Booked (Function.update states thread (states thread)) (crew.did deed session rest) := by
      refine booked.unburdened deed ?_ spares same
      rw [registry, whereabouts_append]
      exact follows.symm
    cases action with
    | drain =>
        obtain rfl := effect.answered
        exact booked.drain ⟨thread, .drain, _, session.outside⟩ rfl allowed registry
    | ask request =>
        cases request with
        | delete resource => exact booked.delete deed rfl allowed effect.registry
        | _ => exact unmoved rfl rfl ⟨rfl, rfl⟩
    | register resource =>
        refine unmoved rfl ?_ ⟨rfl, rfl⟩
        simp [Whereabouts.follow, Whereabouts.registry, Action.registryAfter, Registry.register]
    | _ => exact unmoved rfl rfl ⟨rfl, rfl⟩

/-- What a thread takes it deletes, or it has a backlog. -/
theorem Backlog.next_balance {backlog : Backlog} {action : Action} (answer : action.Answer)
    (allowed : backlog.allows action) :
    backlog ++ action.taken answer = action.deleted answer ++ backlog.next action answer := by
  cases action with
  | drain =>
      obtain rfl : backlog = [] := allowed
      rfl
  | ask request =>
      cases request with
      | delete resource =>
          obtain ⟨rest, rfl⟩ := List.head?_eq_some_iff.mp allowed
          exact List.append_nil _
      | _ => exact List.append_nil _
  | _ => exact List.append_nil _

/-! ## How often a handle is deleted -/

section

omit [DecidableEq ι]

/-- How many deeds of the history name the handle. -/
def timesNamed (names? : Action → Option Resource) (history : List (Deed ι σ))
    (resource : Resource) : Nat :=
  history.countP fun deed => names? deed.action = some resource

theorem timesNamed_eq_card (names? : Action → Option Resource) (history : List (Deed ι σ))
    (resource : Resource) : timesNamed names? history resource =
      {number ∈ Finset.range history.length |
        named names? history number = some resource}.card := by
  induction history using List.reverseRecOn with
  | nil => rfl
  | append_singleton history deed inductionHypothesis =>
      have earlier : {number ∈ Finset.range history.length |
            named names? (history ++ [deed]) number = some resource} =
          {number ∈ Finset.range history.length | named names? history number = some resource} := by
        apply Finset.filter_congr
        intro number early
        rw [named_append_of_ne _ _ _ (Finset.mem_range.mp early).ne]
      rw [List.length_append, List.length_singleton, Finset.range_add_one, Finset.filter_insert,
        named_append_length, earlier]
      unfold timesNamed at inductionHypothesis ⊢
      rw [List.countP_append, inductionHypothesis]
      split
      · next names => simp [names]
      · next other => simp [other]

theorem timesNamed_records (history : List (Deed ι σ)) (resource : Resource) :
    timesNamed Action.records? history resource =
      timesNamed Action.registersWorkspace? history resource +
        timesNamed Action.registers? history resource := by
  unfold timesNamed
  induction history with
  | nil => rfl
  | cons deed rest inductionHypothesis =>
      simp only [List.countP_cons, inductionHypothesis]
      cases deed.action <;>
        simp [Action.records?, Action.registersWorkspace?, Action.registers?] <;> omega

end

/-- A handle is deleted no more often than it has been registered. -/
theorem Booked.timesNamed_le {states : ι → Backlog} {crew : Crew ι σ}
    (booked : Booked states crew) (resource : Resource) :
    timesNamed Action.deletes? crew.history resource ≤
      timesNamed Action.records? crew.history resource := by
  have sound := whereabouts_sound crew.history
  have origin (number : Nat) (deletes : named Action.deletes? crew.history number = some resource) :
      ∃ registration, (whereabouts crew.history).deleted number = some registration ∧
        registration.resource = resource := by
    rw [booked.deletions number] at deletes
    exact Option.map_eq_some_iff.mp deletes
  rw [timesNamed_eq_card, timesNamed_eq_card]
  apply Finset.card_le_card_of_injOn
    fun number => (((whereabouts crew.history).deleted number).map (·.number)).getD 0
  · intro number member
    obtain ⟨_, deletes⟩ := Finset.mem_filter.mp member
    obtain ⟨registration, deleted, rfl⟩ := origin number deletes
    have held : registration ∈ (whereabouts crew.history).held (.deleted number) := by
      simp [Whereabouts.held, deleted]
    have records := sound.genuine (.deleted number) registration held
    simpa [deleted, records] using lt_length_of_named records
  · intro number member other memberToo same
    obtain ⟨_, deletes⟩ := Finset.mem_filter.mp member
    obtain ⟨_, deletesToo⟩ := Finset.mem_filter.mp memberToo
    obtain ⟨first, deleted, named⟩ := origin number deletes
    obtain ⟨second, deletedToo, namedToo⟩ := origin other deletesToo
    have numbers : first.number = second.number := by simpa [deleted, deletedToo] using same
    obtain rfl : first = second := by
      cases first
      cases second
      simp_all
    exact Place.deleted.inj (sound.apart.single (.deleted number) (.deleted other) first
      (by simp [Whereabouts.held, deleted]) (by simp [Whereabouts.held, deletedToo]))

/-! ## Every registration is in one place -/

/-- The registry is taken by a deed after which no object is registered. -/
def DrainedLast (history : List (Deed ι σ)) : Prop :=
  ∃ last, history[last]?.any (fun deed => deed.action.isDrain) = true ∧
    ∀ deed ∈ history.drop (last + 1), deed.action.registers? = none

/-- What is taken stays out of the registry until something is registered. -/
theorem resources_of_drain {before later : List (Deed ι σ)} {deed : Deed ι σ}
    (drains : deed.action.isDrain = true)
    (silent : ∀ other ∈ later, other.action.registers? = none) :
    (whereabouts (before ++ [deed] ++ later)).resources = [] := by
  induction later using List.reverseRecOn with
  | nil =>
      rw [List.append_nil, whereabouts_append]
      cases acts : deed.action <;> simp [acts, Action.isDrain] at drains
      simp [Whereabouts.after, Whereabouts.follow, acts]
  | append_singleton later last inductionHypothesis =>
      have empty := inductionHypothesis fun other member =>
        silent other (List.mem_append_left _ member)
      have silentLast := silent last (List.mem_append_right later List.mem_cons_self)
      rw [← List.append_assoc, whereabouts_append]
      cases acts : last.action with
      | register resource => simp [acts, Action.registers?] at silentLast
      | ask request =>
          cases request <;> simp only [Whereabouts.after, Whereabouts.follow, acts, empty]
      | _ => simp only [Whereabouts.after, Whereabouts.follow, acts, empty]

theorem DrainedLast.resources {history : List (Deed ι σ)} (drained : DrainedLast history) :
    (whereabouts history).resources = [] := by
  obtain ⟨last, drains, silent⟩ := drained
  obtain ⟨deed, found, isDrain⟩ := (Option.any_eq_true _ _).mp drains
  obtain ⟨inside, rfl⟩ := List.getElem?_eq_some_iff.mp found
  have parts : history = history.take last ++ [history[last]] ++ history.drop (last + 1) := by
    simp
  rw [parts]
  exact resources_of_drain isDrain silent

/-- The registrations of objects are where the deeds have put them, each in exactly one place and
there once. -/
structure PlacedOnce (crew : Crew ι σ) : Prop where
  registry : crew.session.registry = (whereabouts crew.history).registry
  /-- What a thread has taken it has asked to delete, up to its backlog. -/
  backlog : ∀ thread, taken crew.history thread = deleted crew.history thread ++
    ((whereabouts crew.history).backlog thread).map (·.resource)
  deletions : ∀ number, named Action.deletes? crew.history number =
    ((whereabouts crew.history).deleted number).map (·.resource)
  /-- What is deleted has been registered, the workspace or an object. -/
  origin : ∀ number registration, (whereabouts crew.history).deleted number = some registration →
    named Action.records? crew.history registration.number = some registration.resource
  once : ∀ number other registration,
    (whereabouts crew.history).deleted number = some registration →
      (whereabouts crew.history).deleted other = some registration → number = other
  single : ∀ registration : Registration,
    named Action.registers? crew.history registration.number = some registration.resource →
      ∃ place, ((whereabouts crew.history).held place).count registration = 1 ∧
        ∀ other, registration ∈ (whereabouts crew.history).held other → other = place

/-- A registration that is tracked is in exactly one place. -/
theorem Booked.placedOnce {states : ι → Backlog} {crew : Crew ι σ} (booked : Booked states crew)
    (balanced : Balanced Action.taken Action.deleted id states crew) : PlacedOnce crew := by
  have sound := whereabouts_sound crew.history
  refine ⟨booked.registry, fun thread => ?_, booked.deletions, fun number registration gone => ?_,
    fun number other registration gone goneToo => ?_, fun registration made => ?_⟩
  · rw [booked.backlog thread]
    exact balanced thread
  · exact sound.genuine (.deleted number) registration (by simp [Whereabouts.held, gone])
  · exact Place.deleted.inj (sound.apart.single (.deleted number) (.deleted other) registration
      (by simp [Whereabouts.held, gone]) (by simp [Whereabouts.held, goneToo]))
  · have inside : ∃ place, registration ∈ (whereabouts crew.history).held place := by
      rcases sound.complete registration made with inRegistry | ⟨thread, pending⟩ | ⟨number, gone⟩
      · exact ⟨.registry, List.mem_append_left _ (List.mem_reverse.mpr inRegistry)⟩
      · exact ⟨.backlog thread, pending⟩
      · exact ⟨.deleted number, by simp [Whereabouts.held, gone]⟩
    obtain ⟨place, member⟩ := inside
    exact ⟨place, List.count_eq_one_of_mem (sound.apart.nodup place) member,
      fun other memberToo => sound.apart.single other place registration memberToo member⟩

/-- When nobody has a backlog and the registry holds no object, every registration has been
deleted by one deed. -/
theorem Booked.deletedOnce {states : ι → Backlog} {crew : Crew ι σ} (booked : Booked states crew)
    (placed : PlacedOnce crew) (ended : ∀ thread, states thread = [])
    (drained : DrainedLast crew.history)
    {registration : Registration}
    (made : named Action.registers? crew.history registration.number =
      some registration.resource) :
    ∃! number, (whereabouts crew.history).deleted number = some registration := by
  have sound := whereabouts_sound crew.history
  rcases sound.complete registration made with inRegistry | ⟨thread, pending⟩ | ⟨number, gone⟩
  · rw [drained.resources] at inRegistry
    exact absurd inRegistry List.not_mem_nil
  · have empty := (booked.backlog thread).trans (ended thread)
    rw [List.map_eq_nil_iff.mp empty] at pending
    exact absurd pending List.not_mem_nil
  · exact ⟨number, gone, fun other goneToo =>
      placed.once other number registration goneToo gone⟩

/-- Threads that share a workspace keep every registration of an object in exactly one place. They
delete the namespace no more often than it has been registered, and when all of them are over and
the registry was taken after the last registration, every registration has been deleted once. -/
theorem registration_placed_once {workspace : Workspace} (deletes : workspace.debug = false)
    {crew : Crew ι σ} (fresh : crew.history = []) (unregistered : crew.session.registry = {})
    (tends : ∀ thread, (crew.programs thread).Tends workspace) {turns : List (Turn ι)}
    {after : Crew ι σ} (played : crew.plays outside turns = some after) :
    PlacedOnce after ∧
      timesNamed Action.deletes? after.history workspace.resource ≤
        timesNamed Action.registersWorkspace? after.history workspace.resource +
          timesNamed Action.registers? after.history workspace.resource ∧
      ((∀ thread, (after.programs thread).isOver = true) → DrainedLast after.history →
        ∀ registration : Registration,
          named Action.registers? after.history registration.number =
              some registration.resource →
            ∃! number, (whereabouts after.history).deleted number = some registration) := by
  have balances : Crew.Stable outside Backlog.discipline
      (Balanced Action.taken Action.deleted id : Crew.Assertion ι σ Backlog) :=
    balanced_stable fun _ _ answer allowed => Backlog.next_balance answer allowed
  have kept : crew.Keeps Backlog.discipline (fun _ _ backlog => backlog = []) fun _ => [] :=
    fun thread => (tends thread).keeps deletes
  have booked : Booked (fun _ => []) crew := by
    refine ⟨?_, fun _ => ?_, fun _ => ?_⟩
    · rw [unregistered, fresh]
      rfl
    · rw [fresh]
      rfl
    · rw [fresh]
      rfl
  have balanced : Balanced Action.taken Action.deleted id (fun _ : ι => ([] : Backlog)) crew := by
    intro thread
    rw [fresh]
    rfl
  obtain ⟨states, kept, booked, balanced⟩ :=
    Crew.plays_keeps (booked_stable.and balances) kept ⟨booked, balanced⟩ played
  have placed := booked.placedOnce balanced
  refine ⟨placed, ?_, fun isOver drained registration made => ?_⟩
  · rw [← timesNamed_records]
    exact booked.timesNamed_le workspace.resource
  · have ended (thread : ι) : states thread = [] := (kept.fits (isOver thread)).choose_spec
    exact booked.deletedOnce placed ended drained made

def sharedWorkspace : Workspace := ⟨"shared", false⟩

def sharedSpec : Workspace.Spec :=
  { object :=
      { kind := some .namespaceKind, metadata := { name := some "spare" }, data := .object [] } }

/-- One thread creates the namespace and twice the same object, and both threads tear down. -/
def sharedCrew : Crew Bool (List String) where
  session := { start := default, outside := [] }
  programs thread :=
    if thread then sharedWorkspace.deleteAll.bind fun _ => .done ()
    else
      sharedWorkspace.createNamespace.run.bind fun _ =>
        (sharedWorkspace.create sharedSpec).run.bind fun _ =>
          (sharedWorkspace.create sharedSpec).run.bind fun _ =>
            sharedWorkspace.deleteAll.bind fun _ => .done ()

theorem sharedCrew_tends (thread : Bool) : (sharedCrew.programs thread).Tends sharedWorkspace := by
  cases thread with
  | true => exact .deleteAll fun _ => .done ()
  | false =>
      exact .createNamespace fun _ => .create fun _ => .create fun _ => .deleteAll fun _ =>
        .done ()

/-- The second thread takes the first two registrations before the object is registered again. -/
def sharedTurns : List (Turn Bool) :=
  List.replicate 10 (.act false) ++ .act true :: List.replicate 5 (.act false) ++
    List.replicate 2 (.act true) ++ List.replicate 3 (.act false) ++
    List.replicate 4 (.act true)

/-- The second registration of the object, which is the deed with the number 12, is deleted once. -/
theorem registration_placed_once_shared :
    let after := (sharedCrew.plays Shelf.peers.outside sharedTurns).get (by decide +kernel)
    PlacedOnce after ∧
      timesNamed Action.deletes? after.history sharedWorkspace.resource ≤
        timesNamed Action.registersWorkspace? after.history sharedWorkspace.resource +
          timesNamed Action.registers? after.history sharedWorkspace.resource ∧
      ∃! number, (whereabouts after.history).deleted number =
        some ⟨12, ⟨.namespaceKind, "spare", "shared"⟩⟩ := by
  intro after
  have finished (thread : Bool) : (after.programs thread).isOver = true := by
    cases thread <;> decide +kernel
  have drained : DrainedLast after.history := ⟨18, by decide +kernel, by decide +kernel⟩
  have played : sharedCrew.plays Shelf.peers.outside sharedTurns = some after :=
    (Option.some_get _).symm
  have deletes : sharedWorkspace.debug = false := rfl
  have fresh : sharedCrew.history = [] := rfl
  have unregistered : sharedCrew.session.registry = {} := rfl
  obtain ⟨placed, bounded, ended⟩ :=
    registration_placed_once deletes fresh unregistered sharedCrew_tends played
  exact ⟨placed, bounded, ended finished drained _ (by decide +kernel)⟩

end AddonCheck
