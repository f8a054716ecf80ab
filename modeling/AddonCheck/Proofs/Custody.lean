import AddonCheck.Proofs.Duty
import AddonCheck.Proofs.Interleaving
import AddonCheck.Proofs.Store

/-
This file follows every object of a run. An object in the cluster has been there before the run, or
its handle is held by the registry or by a thread that is about to delete it, or another thread had
deleted it before it was created.
-/

namespace AddonCheck

open Cluster (Resource)

/-- The namespace of a run is registered once, however often it is requested. -/
theorem Registry.mem_registerWorkspace {registry : Registry} {resource other : Resource}
    (single : ∀ found, registry.workspace = some found → found = resource) :
    other ∈ (registry.registerWorkspace resource).deletionOrder ↔
      other = resource ∨ other ∈ registry.deletionOrder := by
  simp only [registerWorkspace, deletionOrder, List.mem_append, Option.mem_toList,
    Option.some.injEq]
  constructor
  · rintro (member | rfl)
    · exact .inr (.inl member)
    · exact .inl rfl
  · rintro (rfl | member | found)
    · exact .inr rfl
    · exact .inl member
    · exact .inr (single other found).symm

namespace Action

/-- The handle of the object that the action asks to create. -/
def creates? : Action → Option Resource
  | .ask (.create object) => object.resource?
  | _ => none

/-- The handle of the object that the action asks to delete. -/
def deletes? : Action → Option Resource
  | .ask (.delete resource) => some resource
  | _ => none

end Action

variable {ι σ A : Type} {outside : Outside σ}

/-- The handle is in the registry, or a thread has taken it and has yet to delete its object. -/
def Held (states : ι → Duty) (registry : Registry) (resource : Resource) : Prop :=
  resource ∈ registry.deletionOrder ∨ ∃ thread, resource ∈ (states thread).pending

section

variable {states : ι → Duty} {registry : Registry} {thread : ι} [DecidableEq ι]

/-- A duty of as many deletions holds the same handles. -/
theorem held_update {duty : Duty} {resource : Resource}
    (same : duty.pending = (states thread).pending) :
    Held (Function.update states thread duty) registry resource ↔
      Held states registry resource := by
  refine or_congr Iff.rfl (exists_congr fun other => ?_)
  by_cases own : other = thread
  · subst own
    rw [Function.update_self, same]
  · rw [Function.update_of_ne own]

/-- A duty that announces nothing leaves the announcements to the other threads. -/
theorem announced_of_update {duty : Duty} {other : ι} {resource : Resource}
    (announced : Function.update states thread duty other = .announced resource)
    (silent : duty ≠ .announced resource) :
    other ≠ thread ∧ states other = .announced resource := by
  have different : other ≠ thread := by
    rintro rfl
    rw [Function.update_self] at announced
    exact silent announced
  rw [Function.update_of_ne different] at announced
  exact ⟨different, announced⟩

/-- A thread that has not announced a resource leaves its announcement to the others. -/
theorem announced_update {duty : Duty} {other : ι} {resource : Resource}
    (silent : states thread ≠ .announced resource) (announced : states other = .announced resource) :
    Function.update states thread duty other = .announced resource := by
  rw [Function.update_of_ne, announced]
  rintro rfl
  exact silent announced

/-- What is held after a deletion was held before. -/
theorem held_of_deleted {resource other : Resource} {later : List Resource}
    (clearing : states thread = .clearing (resource :: later))
    (held : Held (Function.update states thread (.clearing later)) registry other) :
    Held states registry other := by
  rcases held with registered | ⟨holder, pending⟩
  · exact .inl registered
  · refine .inr ⟨holder, ?_⟩
    by_cases own : holder = thread
    · subst own
      rw [Function.update_self] at pending
      rw [clearing]
      exact List.mem_cons_of_mem _ pending
    · rwa [Function.update_of_ne own] at pending

/-- A thread that takes what is registered holds it from then on. -/
theorem held_drained {other : Resource} (ready : (states thread).pending = []) :
    Held (Function.update states thread (.clearing registry.deletionOrder)) {} other ↔
      Held states registry other := by
  constructor
  · rintro (none | ⟨holder, pending⟩)
    · exact absurd none List.not_mem_nil
    · by_cases own : holder = thread
      · subst own
        rw [Function.update_self] at pending
        exact .inl pending
      · rw [Function.update_of_ne own] at pending
        exact .inr ⟨holder, pending⟩
  · rintro (registered | ⟨holder, pending⟩)
    · exact .inr ⟨thread, by rw [Function.update_self]; exact registered⟩
    · refine .inr ⟨holder, ?_⟩
      rw [Function.update_of_ne]
      · exact pending
      · rintro rfl
        rw [ready] at pending
        exact absurd pending List.not_mem_nil

end

/-- Another thread than the given one has deleted the object. -/
def DeletedByOther (history : List (Deed ι σ)) (thread : ι) (resource : Resource) : Prop :=
  ∃ deed ∈ history, deed.thread ≠ thread ∧ deed.action.deletes? = some resource

theorem DeletedByOther.append {history : List (Deed ι σ)} {thread : ι} {resource : Resource}
    (deleted : DeletedByOther history thread resource) (later : List (Deed ι σ)) :
    DeletedByOther (history ++ later) thread resource := by
  obtain ⟨deed, member, facts⟩ := deleted
  exact ⟨deed, List.mem_append_left later member, facts⟩

namespace Outside.Store

/-- No deed deletes what lies at the address. -/
def Spares (store : outside.Store A) (history : List (Deed ι σ)) (address : A) : Prop :=
  ∀ deed ∈ history, ∀ resource, deed.action.deletes? = some resource →
    store.address? resource ≠ some address

/-- A creation left an object at the address when another thread had already deleted it, and it was
not deleted again. -/
def Overtaken (store : outside.Store A) (history : List (Deed ι σ)) (address : A) : Prop :=
  ∃ before deed after resource, history = before ++ deed :: after ∧
    deed.action.creates? = some resource ∧ store.address? resource = some address ∧
    address ∈ store.content deed.left ∧ DeletedByOther before deed.thread resource ∧
    store.Spares after address

/-- What lies at the address is accounted for. -/
def Accounted (store : outside.Store A) (initial : Set A) (states : ι → Duty) (crew : Crew ι σ)
    (address : A) : Prop :=
  address ∈ initial ∨
    (∃ resource, Held states crew.session.registry resource ∧
      store.address? resource = some address) ∨
    store.Overtaken crew.history address

/-- The objects of a run are in good hands. -/
structure Custody (store : outside.Store A) (workspace : Workspace) (handles : Set Resource)
    (initial : Set A) (states : ι → Duty) (crew : Crew ι σ) : Prop where
  kept : initial ⊆ store.content crew.session.outside
  accounted : ∀ address ∈ store.content crew.session.outside,
    store.Accounted initial states crew address
  /-- A creation that is still to be sent belongs to a handle that is held or came too late. -/
  announced : ∀ thread resource, states thread = .announced resource →
    Held states crew.session.registry resource ∨ DeletedByOther crew.history thread resource
  known : ∀ resource, Held states crew.session.registry resource → resource ∈ handles
  workspace : ∀ resource, crew.session.registry.workspace = some resource →
    resource = workspace.resource
  /-- Who has registered something is still creating, as long as it is in the registry. -/
  owned : crew.session.registry.deletionOrder ≠ [] → ∃ thread, states thread = .creating ∨
    ∃ resource, states thread = .announced resource

variable {store : outside.Store A} {workspace : Workspace} {handles : Set Resource}
  {initial : Set A} {states : ι → Duty} {crew : Crew ι σ}

/-- Only a deletion changes that an object was overtaken. -/
theorem Overtaken.append {history later : List (Deed ι σ)} {address : A}
    (overtaken : store.Overtaken history address) (spares : store.Spares later address) :
    store.Overtaken (history ++ later) address := by
  obtain ⟨before, deed, after, resource, rfl, created, located, left, deleted, spared⟩ := overtaken
  refine ⟨before, deed, after ++ later, resource, by simp, created, located, left, deleted, ?_⟩
  intro other member
  rcases List.mem_append.mp member with early | late
  · exact spared other early
  · exact spares other late

theorem spares_of_reading {deed : Deed ι σ} (reading : deed.action.deletes? = none) (address : A) :
    store.Spares [deed] address := by
  intro other member resource deletes
  rw [List.mem_singleton.mp member, reading] at deletes
  cases deletes

/-- What lies at an address stays accounted for while its handle is held and nothing deletes it. -/
theorem Accounted.mono {address : A} (accounted : store.Accounted initial states crew address)
    {laterStates : ι → Duty} {after : Crew ι σ} {later : List (Deed ι σ)}
    (held : ∀ resource, store.address? resource = some address →
      Held states crew.session.registry resource →
        Held laterStates after.session.registry resource)
    (history : after.history = crew.history ++ later) (spares : store.Spares later address) :
    store.Accounted initial laterStates after address := by
  rcases accounted with inside | ⟨resource, isHeld, located⟩ | overtaken
  · exact .inl inside
  · exact .inr (.inl ⟨resource, held resource located isHeld, located⟩)
  · refine .inr (.inr ?_)
    rw [history]
    exact overtaken.append spares

/-- What changes neither the registry nor the cluster nor the duties keeps the objects in good
hands. -/
theorem Custody.steady {later : List (Deed ι σ)}
    (custody : store.Custody workspace handles initial states crew) (after : Crew ι σ)
    (registry : after.session.registry = crew.session.registry)
    (content : store.content after.session.outside = store.content crew.session.outside)
    (history : after.history = crew.history ++ later)
    (spares : ∀ address, store.Spares later address) :
    store.Custody workspace handles initial states after where
  kept := content ▸ custody.kept
  accounted address member := by
    rw [content] at member
    refine (custody.accounted address member).mono (fun _ _ isHeld => ?_) history (spares address)
    rw [registry]
    exact isHeld
  announced thread resource announced := by
    rw [registry, history]
    exact (custody.announced thread resource announced).imp_right (·.append later)
  known resource held := custody.known resource (registry ▸ held)
  workspace resource found := custody.workspace resource (registry ▸ found)
  owned present := custody.owned (registry ▸ present)

variable (store crew) in
/-- A run that has registered nothing has its objects in good hands. -/
theorem custody_start (registry : crew.session.registry = {})
    (begun : ∀ thread, states thread = .idle ∨ states thread = .creating) :
    store.Custody workspace handles (store.content crew.session.outside) states crew := by
  have nothing (resource : Resource) : ¬ Held states crew.session.registry resource := by
    rintro (registered | ⟨thread, pending⟩)
    · rw [registry] at registered
      exact absurd registered List.not_mem_nil
    · rcases begun thread with idle | creating
      · rw [idle] at pending
        exact absurd pending List.not_mem_nil
      · rw [creating] at pending
        exact absurd pending List.not_mem_nil
  refine ⟨Set.Subset.rfl, fun _ member => .inl member, ?_,
    fun resource held => absurd held (nothing resource), ?_, ?_⟩
  · intro thread resource announced
    rcases begun thread with other | other <;> rw [other] at announced <;> cases announced
  · intro resource found
    rw [registry] at found
    cases found
  · intro present
    rw [registry] at present
    exact absurd rfl present

/-- When no thread creates or has anything left to delete, only what was overtaken is left over. -/
theorem Custody.ended (custody : store.Custody workspace handles initial states crew)
    (ended : ∀ thread, states thread = .idle ∨ states thread = .clearing []) {address : A}
    (member : address ∈ store.content crew.session.outside) :
    address ∈ initial ∨ store.Overtaken crew.history address := by
  have empty : crew.session.registry.deletionOrder = [] := by
    by_contra present
    obtain ⟨thread, owns⟩ := custody.owned present
    rcases ended thread with state | state <;> rw [state] at owns <;> simp at owns
  rcases custody.accounted address member with inside | ⟨resource, held, -⟩ | overtaken
  · exact .inl inside
  · rcases held with registered | ⟨thread, pending⟩
    · rw [empty] at registered
      exact absurd registered List.not_mem_nil
    · rcases ended thread with state | state <;> rw [state] at pending <;>
        exact absurd pending List.not_mem_nil
  · exact .inr overtaken

variable [DecidableEq ι] {thread : ι}

/-- The handle that is registered is held, and its creation is announced. -/
theorem Custody.register {session : Session σ} {rest : Program Unit}
    {resource : Resource} (custody : store.Custody workspace handles initial states crew)
    (deed : Deed ι σ)
    (creating : states deed.thread = .creating) (known : resource ∈ handles)
    (reading : deed.action.deletes? = none)
    (members : ∀ other, other ∈ session.registry.deletionOrder ↔
      other = resource ∨ other ∈ crew.session.registry.deletionOrder)
    (single : ∀ other, session.registry.workspace = some other → other = workspace.resource)
    (same : session.outside = crew.session.outside) :
    store.Custody workspace handles initial
      (Function.update states deed.thread (.announced resource)) (crew.did deed session rest) := by
  have held (other : Resource) :
      Held (Function.update states deed.thread (.announced resource)) session.registry other ↔
        other = resource ∨ Held states crew.session.registry other := by
    rw [held_update (by rw [creating]; rfl)]
    unfold Held
    rw [members, or_assoc]
  refine ⟨?_, ?_, ?_, ?_, single, fun _ => ⟨deed.thread, .inr ⟨resource, ?_⟩⟩⟩
  · exact same ▸ custody.kept
  · intro address member
    exact (custody.accounted address (same ▸ member)).mono
      (fun other _ isHeld => (held other).mpr (.inr isHeld)) rfl
      (spares_of_reading reading address)
  · intro other announced isAnnounced
    by_cases own : other = deed.thread
    · subst own
      rw [Function.update_self] at isAnnounced
      cases isAnnounced
      exact .inl ((held resource).mpr (.inl rfl))
    · rw [Function.update_of_ne own] at isAnnounced
      exact (custody.announced other announced isAnnounced).imp
        (fun isHeld => (held announced).mpr (.inr isHeld)) (·.append [deed])
  · intro other isHeld
    rcases (held other).mp isHeld with rfl | before
    · exact known
    · exact custody.known other before
  · exact Function.update_self ..

/-- An object that its creation leaves in the cluster is held, or it was overtaken. -/
theorem Custody.create {session : Session σ} {rest : Program Unit}
    {resource : Resource} (custody : store.Custody workspace handles initial states crew)
    (deed : Deed ι σ)
    (announced : states deed.thread = .announced resource)
    (creates : deed.action.creates? = some resource) (reading : deed.action.deletes? = none)
    (registry : session.registry = crew.session.registry)
    (left : deed.left = session.outside)
    (content : store.content session.outside = store.content crew.session.outside ∨
      ∃ address, store.address? resource = some address ∧
        store.content session.outside = insert address (store.content crew.session.outside)) :
    store.Custody workspace handles initial
      (Function.update states deed.thread .creating) (crew.did deed session rest) := by
  have held (other : Resource) :
      Held (Function.update states deed.thread .creating) session.registry other ↔
        Held states crew.session.registry other := by
    rw [held_update (by rw [announced]; rfl), registry]
  have older (address : A) (member : address ∈ store.content crew.session.outside) :
      store.Accounted initial (Function.update states deed.thread .creating)
        (crew.did deed session rest) address :=
    (custody.accounted address member).mono (fun other _ => (held other).mpr) rfl
      (spares_of_reading reading address)
  have grown : store.content crew.session.outside ⊆ store.content session.outside := by
    rcases content with same | ⟨address, -, inserted⟩
    · rw [same]
    · rw [inserted]
      exact Set.subset_insert address _
  refine ⟨custody.kept.trans grown, ?_, ?_, fun other isHeld => custody.known other
    ((held other).mp isHeld), ?_, fun _ => ⟨deed.thread, .inl (Function.update_self ..)⟩⟩
  · intro address member
    rcases content with same | ⟨address, located, inserted⟩
    · exact older address (same ▸ member)
    · have stored : address ∈ store.content session.outside := inserted ▸ Set.mem_insert address _
      change _ ∈ store.content session.outside at member
      rw [inserted] at member
      rcases member with rfl | member
      · rcases custody.announced deed.thread resource announced with isHeld | deleted
        · exact .inr (.inl ⟨resource, (held resource).mpr isHeld, located⟩)
        · refine .inr (.inr ⟨crew.history, deed, [], resource, rfl, creates, located, ?_, deleted,
            ?_⟩)
          · exact left ▸ stored
          · exact fun _ none => absurd none List.not_mem_nil
      · exact older _ member
  · intro other awaited isAnnounced
    obtain ⟨-, isAnnounced⟩ := announced_of_update isAnnounced nofun
    exact (custody.announced other awaited isAnnounced).imp (held awaited).mpr (·.append [deed])
  · intro other found
    exact custody.workspace other (registry ▸ found)

/-- The handle whose object is deleted is held no more, and nothing lies at its address. -/
theorem Custody.delete {session : Session σ} {rest : Program Unit}
    {resource : Resource} {later : List Resource}
    (custody : store.Custody workspace handles initial states crew) (deed : Deed ι σ)
    (absent : ∀ resource ∈ handles, ∀ address ∈ initial, store.address? resource ≠ some address)
    (clearing : states deed.thread = .clearing (resource :: later))
    (deletes : deed.action.deletes? = some resource)
    (registry : session.registry = crew.session.registry)
    (content : store.content session.outside =
      {address ∈ store.content crew.session.outside | store.address? resource ≠ some address}) :
    store.Custody workspace handles initial
      (Function.update states deed.thread (.clearing later)) (crew.did deed session rest) := by
  have fewer (other : Resource)
      (isHeld : Held (Function.update states deed.thread (.clearing later)) session.registry
        other) : Held states crew.session.registry other := by
    rw [registry] at isHeld
    exact held_of_deleted clearing isHeld
  have remaining (other : Resource) (isHeld : Held states crew.session.registry other)
      (different : other ≠ resource) :
      Held (Function.update states deed.thread (.clearing later)) session.registry other := by
    rcases isHeld with registered | ⟨thread, pending⟩
    · exact .inl (registry ▸ registered)
    · refine .inr ⟨thread, ?_⟩
      by_cases own : thread = deed.thread
      · subst own
        rw [clearing] at pending
        rw [Function.update_self]
        exact (List.mem_cons.mp pending).resolve_left different
      · rwa [Function.update_of_ne own]
  have known : resource ∈ handles :=
    custody.known resource (.inr ⟨deed.thread, by rw [clearing]; exact List.mem_cons_self⟩)
  refine ⟨?_, ?_, ?_, fun other isHeld => custody.known other (fewer other isHeld), ?_, ?_⟩
  · intro address member
    change _ ∈ store.content session.outside
    rw [content]
    exact ⟨custody.kept member, absent resource known address member⟩
  · intro address member
    change _ ∈ store.content session.outside at member
    rw [content] at member
    refine (custody.accounted address member.1).mono (fun other located isHeld => ?_) rfl ?_
    · apply remaining other isHeld
      rintro rfl
      exact member.2 located
    · intro last isLast other deletesOther
      rw [List.mem_singleton.mp isLast, deletes] at deletesOther
      cases deletesOther
      exact member.2
  · intro other awaited isAnnounced
    obtain ⟨different, isAnnounced⟩ := announced_of_update isAnnounced nofun
    rcases custody.announced other awaited isAnnounced with isHeld | deleted
    · by_cases same : awaited = resource
      · exact .inr ⟨deed, List.mem_append_right _ List.mem_cons_self, different.symm,
          same ▸ deletes⟩
      · exact .inl (remaining awaited isHeld same)
    · exact .inr (deleted.append [deed])
  · intro other found
    exact custody.workspace other (registry ▸ found)
  · intro present
    obtain ⟨owner, owns⟩ := custody.owned (registry ▸ present)
    refine ⟨owner, ?_⟩
    rwa [Function.update_of_ne]
    rintro rfl
    rw [clearing] at owns
    simp at owns

/-- What is taken from the registry is held by the thread that has taken it. -/
theorem Custody.drain {session : Session σ} {rest : Program Unit}
    (custody : store.Custody workspace handles initial states crew) (deed : Deed ι σ)
    (ready : states deed.thread = .idle ∨ states deed.thread = .creating)
    (reading : deed.action.deletes? = none) (registry : session.registry = {})
    (same : session.outside = crew.session.outside) :
    store.Custody workspace handles initial
      (Function.update states deed.thread (.clearing crew.session.registry.deletionOrder))
      (crew.did deed session rest) := by
  have empty : (states deed.thread).pending = [] := by
    rcases ready with idle | creating
    · rw [idle]; rfl
    · rw [creating]; rfl
  have held (other : Resource) :
      Held (Function.update states deed.thread (.clearing crew.session.registry.deletionOrder))
        session.registry other ↔ Held states crew.session.registry other := by
    rw [registry]
    exact held_drained empty
  refine ⟨same ▸ custody.kept, ?_, ?_, fun other isHeld => custody.known other
    ((held other).mp isHeld), ?_, ?_⟩
  · intro address member
    exact (custody.accounted address (same ▸ member)).mono (fun other _ => (held other).mpr) rfl
      (spares_of_reading reading address)
  · intro other awaited isAnnounced
    obtain ⟨-, isAnnounced⟩ := announced_of_update isAnnounced nofun
    exact (custody.announced other awaited isAnnounced).imp (held awaited).mpr (·.append [deed])
  · intro other found
    change session.registry.workspace = _ at found
    rw [registry] at found
    cases found
  · intro present
    change session.registry.deletionOrder ≠ [] at present
    rw [registry] at present
    exact absurd rfl present

/-- A deed that changes no duty, no registry and no object. -/
theorem Custody.idle {session : Session σ} {rest : Program Unit} {duty : Duty}
    (custody : store.Custody workspace handles initial states crew) (deed : Deed ι σ)
    (same : duty = states deed.thread) (reading : deed.action.deletes? = none)
    (registry : session.registry = crew.session.registry)
    (content : store.content session.outside = store.content crew.session.outside) :
    store.Custody workspace handles initial (Function.update states deed.thread duty)
      (crew.did deed session rest) := by
  rw [same, Function.update_eq_self]
  exact custody.steady (crew.did deed session rest) registry content rfl
    (spares_of_reading reading)

variable (store) in
/-- The objects of a run stay in good hands, whatever the order of its turns is. -/
theorem custody_stable {watched : Bool}
    (absent : ∀ resource ∈ handles, ∀ address ∈ initial, store.address? resource ≠ some address) :
    Crew.Stable outside (Duty.discipline workspace handles watched)
      (store.Custody workspace handles initial : Crew.Assertion ι σ Duty) where
  rest custody rests same :=
    custody.steady _ rests.registry (congrArg store.content same) (List.append_nil _).symm
      fun _ _ none => absurd none List.not_mem_nil
  evaluation custody allowed rests asked := by
    refine custody.steady _ rests.registry ?_ (List.append_nil _).symm
      fun _ _ none => absurd none List.not_mem_nil
    rw [asked]
    exact store.reading _ _ allowed
  deed := by
    intro states crew session rest thread action answer custody allowed awake effect
    have outside := effect.outside
    have registry := effect.registry
    cases action with
    | registerWorkspace resource =>
        obtain ⟨creating, rfl, known⟩ := allowed
        refine custody.register ⟨thread, _, answer, session.outside⟩ creating known rfl ?_ ?_
          outside
        · intro other
          rw [registry]
          exact Registry.mem_registerWorkspace custody.workspace
        · intro other found
          rw [registry] at found
          cases found
          rfl
    | register resource =>
        obtain ⟨creating, known⟩ := allowed
        refine custody.register ⟨thread, _, answer, session.outside⟩ creating known rfl ?_ ?_
          outside
        · intro other
          rw [registry]
          change other ∈ (Registry.register _ resource).deletionOrder ↔ _
          rw [Registry.deletionOrder_register, List.mem_cons]
        · intro other found
          rw [registry] at found
          exact custody.workspace other found
    | drain =>
        have taken := effect.answered
        change answer = crew.session.registry.deletionOrder at taken
        subst taken
        exact custody.drain ⟨thread, .drain, _, session.outside⟩ allowed rfl registry outside
    | ask request =>
        cases request with
        | create object =>
            obtain ⟨resource, announced, named⟩ := allowed
            refine custody.create ⟨thread, _, answer, session.outside⟩ announced named rfl registry
              rfl ?_
            rw [outside]
            exact store.creation object resource _ named
        | delete resource =>
            obtain ⟨later, clearing⟩ := allowed
            have next : (Duty.discipline workspace handles watched).next (states thread)
                (.ask (.delete resource)) answer = .clearing later := by
              rw [clearing]
              rfl
            rw [next]
            refine custody.delete ⟨thread, _, answer, session.outside⟩ absent clearing rfl
              registry ?_
            rw [outside]
            exact store.deletion resource _
        | deliver message =>
            apply custody.idle ⟨thread, _, answer, session.outside⟩ rfl rfl registry
            rw [outside]
            exact store.delivery message _
        | _ =>
            apply custody.idle ⟨thread, _, answer, session.outside⟩ rfl rfl registry
            rw [outside]
            exact store.reading _ _ trivial
    | _ =>
        exact custody.idle ⟨thread, _, answer, session.outside⟩ rfl rfl registry
          (congrArg store.content outside)

end Outside.Store

end AddonCheck
