import AddonCheck.Proofs.Watched

/-
This file finds out what a watched run leaves in the cluster. The watcher may delete an object that
has been registered and not yet been created; nobody deletes it after its creation.
-/

namespace AddonCheck

open Cluster (Resource)

variable {ι σ A : Type} {outside : Outside σ}

namespace Outside.Store

variable {store : outside.Store A} {workspace : Workspace} {handles : Set Resource}
  {watched : Bool}

/-- An allowed deed that deletes nothing at an address keeps what lies there. -/
theorem stays {duty : Duty} {action : Action} {answer : action.Answer} {before after : Session σ}
    {address : A} (allowed : duty.allows workspace handles watched action)
    (effect : Session.Effect outside action answer before after)
    (spares : ∀ resource, action.deletes? = some resource →
      store.address? resource ≠ some address)
    (member : address ∈ store.content before.outside) :
    address ∈ store.content after.outside := by
  rw [effect.outside]
  cases action with
  | ask request =>
      cases request with
      | create object =>
          obtain ⟨resource, -, named⟩ := allowed
          rcases store.creation object resource before.outside named with same | ⟨_, _, inserted⟩
          · exact same ▸ member
          · exact inserted ▸ Set.mem_insert_of_mem _ member
      | delete resource =>
          exact store.deletion resource before.outside ▸ ⟨member, spares resource rfl⟩
      | deliver message => exact store.delivery message before.outside ▸ member
      | _ =>
          refine (Set.ext_iff.mp (store.reading _ before.outside ?_) address).mpr member
          trivial
  | _ => exact member

/-- What a deed has left at an address lies there as long as nothing deletes it. -/
def Persistent (store : outside.Store A) (_ : ι → Duty) (crew : Crew ι σ) : Prop :=
  ∀ before deed after, crew.history = before ++ deed :: after →
    ∀ address ∈ store.content deed.left, store.Spares after address →
      address ∈ store.content crew.session.outside

/-- Only what is known is created. -/
structure Modest (handles : Set Resource) (states : ι → Duty) (crew : Crew ι σ) : Prop where
  announced : ∀ thread resource, states thread = .announced resource → resource ∈ handles
  created : ∀ deed ∈ crew.history, ∀ resource, deed.action.creates? = some resource →
    resource ∈ handles

/-- An object is left over when its creation was accepted and it is still there. -/
def LeftOver (store : outside.Store A) (crew : Crew ι σ) (address : A) : Prop :=
  address ∈ store.content crew.session.outside ∧
    ∃ deed ∈ crew.history, ∃ resource, deed.action.creates? = some resource ∧
      store.address? resource = some address ∧ address ∈ store.content deed.left

/-- An object that was overtaken is left over. -/
theorem Overtaken.leftOver {states : ι → Duty} {crew : Crew ι σ} {address : A}
    (overtaken : store.Overtaken crew.history address) (persistent : store.Persistent states crew) :
    store.LeftOver crew address := by
  obtain ⟨before, deed, after, resource, history, creates, located, left, -, spares⟩ := overtaken
  refine ⟨persistent before deed after history address left spares, deed, ?_, resource, creates,
    located, left⟩
  rw [history]
  exact List.mem_append_right before List.mem_cons_self

variable [DecidableEq ι]

theorem persistent_stable :
    Crew.Stable outside (Duty.discipline workspace handles watched)
      (store.Persistent : Crew.Assertion ι σ Duty) where
  rest persistent _ same before deed after history address left spares := by
    have member := persistent before deed after history address left spares
    change address ∈ store.content _
    exact same ▸ member
  evaluation := by
    intro states crew session thread condition persistent allowed _ asked before deed after
      history address left spares
    have member := persistent before deed after history address left spares
    change address ∈ store.content session.outside
    rw [asked, store.reading _ _ allowed]
    exact member
  deed := by
    intro states crew session rest thread action answer persistent allowed _ effect before deed
      after history address left spares
    rcases Crew.did_history history with ⟨-, rfl, -⟩ | ⟨earlier, rfl, former⟩
    · exact left
    · have member := persistent before deed earlier former address left
        fun other among => spares other (List.mem_append_left _ among)
      have spared := spares _ (List.mem_append_right earlier List.mem_cons_self)
      exact store.stays allowed effect spared member

theorem modest_stable :
    Crew.Stable outside (Duty.discipline workspace handles watched)
      (Modest handles : Crew.Assertion ι σ Duty) where
  rest modest _ _ := ⟨modest.announced, modest.created⟩
  evaluation modest _ _ _ := ⟨modest.announced, modest.created⟩
  deed := by
    intro states crew session rest thread action answer modest allowed _ effect
    constructor
    · intro other resource announced
      by_cases own : other = thread
      · subst own
        rw [Function.update_self] at announced
        cases action with
        | registerWorkspace registered =>
            cases announced
            exact allowed.2.2
        | register registered =>
            cases announced
            exact allowed.2
        | drain => cases announced
        | ask request =>
            cases request with
            | create object => cases announced
            | delete deleted => cases announced
            | _ => exact modest.announced other resource announced
        | _ => exact modest.announced other resource announced
      · rw [Function.update_of_ne own] at announced
        exact modest.announced other resource announced
    · intro deed member resource created
      rcases List.mem_append.mp member with before | last
      · exact modest.created deed before resource created
      · obtain rfl := List.mem_singleton.mp last
        cases action with
        | ask request =>
            cases request with
            | create object =>
                obtain ⟨announced, isAnnounced, named⟩ := allowed
                obtain rfl : announced = resource := Option.some.inj (named.symm.trans created)
                exact modest.announced thread announced isAnnounced
            | _ => cases created
        | _ => cases created

end Outside.Store

namespace Run

variable {κ : Type} {checker : Checker κ} {context : Context} {workspace : Workspace}
  {handles : Set Resource} {session : Session σ}

/-- When the run and its watcher are over, an object of the run is left over just when the run has
created it after the watcher had deleted it, and nobody has deleted it again. -/
theorem leftOver_iff_overtaken (store : outside.Store A)
    (creates : checker.CreatesIn context workspace handles) (deletes : workspace.debug = false)
    (unregistered : session.registry = {})
    (absent : ∀ resource ∈ handles, ∀ address ∈ store.content session.outside,
      store.address? resource ≠ some address)
    {turns : List (Turn Role)} {after : Crew Role σ}
    (played : (crew checker context workspace true session).plays outside turns = some after)
    (runIsOver : (after.programs .runner).isOver = true)
    (watcherIsOver : (after.programs .watcher).isOver = true ∨ after.isAwake .watcher = false)
    (address : A) :
    store.LeftOver after address ↔ store.Overtaken after.history address := by
  have begun : store.Custody workspace handles (store.content session.outside) Duty.initial
      (crew checker context workspace true session) := by
    apply store.custody_start (crew checker context workspace true session) unregistered
    rintro (_ | _)
    · exact .inr rfl
    · exact .inl rfl
  have modest : Outside.Store.Modest handles Duty.initial
      (crew checker context workspace true session) := by
    refine ⟨?_, fun _ none => absurd none List.not_mem_nil⟩
    rintro (_ | _) _ announced <;> cases announced
  have persistent : store.Persistent Duty.initial
      (crew checker context workspace true session) := by
    intro before deed later none
    simp [crew] at none
  have asleep : Crew.Asleep Role.watcher Duty.idle Duty.initial
      (crew checker context workspace true session) := ⟨rfl, .inr rfl⟩
  obtain ⟨states, kept, ⟨custody, modest⟩, persistent, asleep⟩ := Crew.plays_keeps
    (((store.custody_stable absent).and Outside.Store.modest_stable).and
      (Outside.Store.persistent_stable.and (Crew.asleep_stable Role.watcher Duty.idle)))
    (crew_keeps creates deletes) ⟨⟨begun, modest⟩, persistent, asleep⟩ played
  have ended (thread : Role) : states thread = .idle ∨ states thread = .clearing [] := by
    cases thread with
    | runner => exact .inr (kept.fits runIsOver).choose_spec
    | watcher =>
        rcases watcherIsOver with isOver | unwoken
        · exact .inr (kept.fits isOver).choose_spec
        · exact .inl (asleep.still.resolve_left (by simp [unwoken]))
  constructor
  · rintro ⟨present, deed, member, resource, created, located, -⟩
    apply (custody.ended ended present).resolve_left
    intro initial
    exact absent resource (modest.created deed member resource created) address initial located
  · exact fun overtaken => overtaken.leftOver persistent

/-- The namespace is registered, the watcher does all its work, and the run goes on to create it. -/
def overtakingTurns : List (Turn Role) :=
  List.replicate 5 (.act .runner) ++ .cancel :: List.replicate 8 (.act .watcher) ++
    List.replicate 8 (.act .runner)

/-- The namespace of the run is left over when the run and its watcher are over. -/
theorem leftOver_plain : ∃ after,
    plainCrew.plays Shelf.peers.outside overtakingTurns = some after ∧
      (after.programs .runner).isOver = true ∧ (after.programs .watcher).isOver = true ∧
      Shelf.store.outside.LeftOver after "/api/v1/namespaces/plain" := by
  have ended : (plainCrew.plays Shelf.peers.outside overtakingTurns).any (fun after =>
      (after.programs .runner).isOver && (after.programs .watcher).isOver &&
        "/api/v1/namespaces/plain" ∈ after.session.outside &&
        after.history.any fun deed => deed.action.creates? = some plainWorkspace.resource &&
          "/api/v1/namespaces/plain" ∈ deed.left) = true := by decide +kernel
  obtain ⟨after, played, facts⟩ := (Option.any_eq_true _ _).mp ended
  simp only [Bool.and_eq_true, decide_eq_true_eq, List.any_eq_true] at facts
  obtain ⟨⟨⟨runIsOver, watcherIsOver⟩, present⟩, deed, member, creates, left⟩ := facts
  exact ⟨after, played, runIsOver, watcherIsOver, present, deed, member, plainWorkspace.resource,
    creates, by decide +kernel, left⟩

/-- The same run and its watcher fulfil the conditions of the general statement. -/
theorem leftOver_iff_overtaken_plain :
    let after := (plainCrew.plays Shelf.peers.outside overtakingTurns).get (by decide +kernel)
    Shelf.store.outside.LeftOver after "/api/v1/namespaces/plain" ↔
      Shelf.store.outside.Overtaken after.history "/api/v1/namespaces/plain" :=
  leftOver_iff_overtaken Shelf.store.outside (plain_createsIn default) rfl rfl
    (fun _ _ _ none => absurd none List.not_mem_nil) (Option.some_get _).symm
    (by decide +kernel) (.inl (by decide +kernel)) _

end Run

end AddonCheck
