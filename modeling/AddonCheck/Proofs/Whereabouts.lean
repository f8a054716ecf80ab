import AddonCheck.Proofs.Custody
import Mathlib.Data.List.Induction
import Mathlib.Data.List.Nodup

/-
This file keeps the books on registrations. A registration is known by the number of its deed, so
that two registrations of one handle stay apart. The deeds of all threads say where each
registration is: in the registry, in the backlog of a thread, or deleted by a deed. Whatever the
deeds are, no registration is lost and none is in two places.
-/

namespace AddonCheck

open Cluster (Resource)

namespace Action

/-- The handle that the action registers for an object. -/
def registers? : Action → Option Resource
  | .register resource => some resource
  | _ => none

/-- The handle that the action registers for the namespace of a run. -/
def registersWorkspace? : Action → Option Resource
  | .registerWorkspace resource => some resource
  | _ => none

/-- The handle that the action registers. -/
def records? : Action → Option Resource
  | .registerWorkspace resource => some resource
  | .register resource => some resource
  | _ => none

end Action

variable {ι σ : Type}

/-- The handle that a deed of the history names. -/
def named (names? : Action → Option Resource) (history : List (Deed ι σ)) (number : Nat) :
    Option Resource :=
  history[number]?.bind fun deed => names? deed.action

section

variable (names? : Action → Option Resource) (history : List (Deed ι σ)) (deed : Deed ι σ)

theorem named_append_of_ne {number : Nat} (other : number ≠ history.length) :
    named names? (history ++ [deed]) number = named names? history number := by
  unfold named
  rcases Nat.lt_or_gt_of_ne other with before | after
  · rw [List.getElem?_append_left before]
  · rw [List.getElem?_eq_none (by simpa using Nat.succ_le_of_lt after),
      List.getElem?_eq_none after.le]

theorem named_append_length :
    named names? (history ++ [deed]) history.length = names? deed.action := by
  simp [named]

theorem named_append_of_none (none : names? deed.action = none) (number : Nat) :
    named names? (history ++ [deed]) number = named names? history number := by
  by_cases last : number = history.length
  · subst last
    rw [named_append_length, none]
    simp [named]
  · exact named_append_of_ne names? history deed last

end

theorem lt_length_of_named {names? : Action → Option Resource} {history : List (Deed ι σ)}
    {number : Nat} {resource : Resource} (found : named names? history number = some resource) :
    number < history.length := by
  by_contra beyond
  simp [named, List.getElem?_eq_none (Nat.le_of_not_lt beyond)] at found

/-! ## Places -/

/-- A registration: the number of the deeds before it, and the handle. -/
structure Registration where
  number : Nat
  resource : Resource
  deriving DecidableEq, Repr

/-- Where a registration can be. -/
inductive Place (ι : Type) where
  | registry
  /-- The thread has taken it from the registry, and has not asked for its deletion. -/
  | backlog (thread : ι)
  /-- The deed of this number has asked for its deletion. -/
  | deleted (number : Nat)
  deriving DecidableEq, Repr

/-- The registrations in each place, after as many deeds as are counted. -/
structure Whereabouts (ι : Type) where
  count : Nat := 0
  workspace : Option Registration := none
  resources : List Registration := []
  backlog : ι → List Registration := fun _ => []
  deleted : Nat → Option Registration := fun _ => none

namespace Whereabouts

/-- The handles in the registry. -/
def registry (places : Whereabouts ι) : Registry :=
  ⟨places.workspace.map (·.resource), places.resources.map (·.resource)⟩

/-- The registrations in the registry, in the order of deletion. -/
def deletionOrder (places : Whereabouts ι) : List Registration :=
  places.resources.reverse ++ places.workspace.toList

def held (places : Whereabouts ι) : Place ι → List Registration
  | .registry => places.deletionOrder
  | .backlog thread => places.backlog thread
  | .deleted number => (places.deleted number).toList

theorem registry_deletionOrder (places : Whereabouts ι) :
    places.registry.deletionOrder = places.deletionOrder.map (·.resource) := by
  cases found : places.workspace <;>
    simp [registry, deletionOrder, Registry.deletionOrder, found]

variable [DecidableEq ι]

/-- Where an action of a thread moves the registrations. -/
def follow (places : Whereabouts ι) (thread : ι) : Action → Whereabouts ι
  | .registerWorkspace resource => { places with workspace := some ⟨places.count, resource⟩ }
  | .register resource =>
      { places with resources := places.resources ++ [⟨places.count, resource⟩] }
  | .drain =>
      { places with
        workspace := none
        resources := []
        backlog := Function.update places.backlog thread
          (places.backlog thread ++ places.deletionOrder) }
  | .ask (.delete _) =>
      { places with
        backlog := Function.update places.backlog thread (places.backlog thread).tail
        deleted := Function.update places.deleted places.count (places.backlog thread).head? }
  | _ => places

def after (places : Whereabouts ι) (deed : Deed ι σ) : Whereabouts ι :=
  { places.follow deed.thread deed.action with count := places.count + 1 }

end Whereabouts

/-- Where the registrations are after a history. -/
def whereabouts [DecidableEq ι] (history : List (Deed ι σ)) : Whereabouts ι :=
  history.foldl Whereabouts.after {}

theorem whereabouts_append [DecidableEq ι] (history : List (Deed ι σ)) (deed : Deed ι σ) :
    whereabouts (history ++ [deed]) = (whereabouts history).after deed :=
  List.foldl_append

/-! ## Nothing is in two places -/

/-- Nothing is held twice, neither in one place nor in two. -/
structure Apart {P A : Type} (held : P → List A) : Prop where
  nodup : ∀ place, (held place).Nodup
  single : ∀ place other a, a ∈ held place → a ∈ held other → place = other

namespace Apart

variable {P A : Type} {held later : P → List A} {source target : P}

/-- What is moved from one place to another is held there alone. -/
theorem moved (apart : Apart held) {moved rest : List A} (different : source ≠ target)
    (parts : held source = moved ++ rest) (left : later source = rest)
    (put : later target = held target ++ moved)
    (others : ∀ place, place ≠ source → place ≠ target → later place = held place) :
    Apart later := by
  have sourceNodup : (moved ++ rest).Nodup := parts ▸ apart.nodup source
  have gone {a : A} (isMoved : a ∈ moved) (place : P) (member : a ∈ later place) :
      place = target := by
    by_contra elsewhere
    have inSource : a ∈ held source := parts ▸ List.mem_append_left rest isMoved
    by_cases atSource : place = source
    · subst atSource
      exact List.disjoint_of_nodup_append sourceNodup isMoved (left ▸ member)
    · exact atSource (apart.single place source a
        (others place atSource elsewhere ▸ member) inSource)
  have before {a : A} (isStill : a ∉ moved) (place : P) (member : a ∈ later place) :
      a ∈ held place := by
    by_cases atSource : place = source
    · subst atSource
      rw [parts]
      exact List.mem_append_right moved (left ▸ member)
    · by_cases atTarget : place = target
      · subst atTarget
        rw [put] at member
        exact (List.mem_append.mp member).resolve_right isStill
      · exact others place atSource atTarget ▸ member
  constructor
  · intro place
    by_cases atSource : place = source
    · subst atSource
      exact left ▸ sourceNodup.of_append_right
    · by_cases atTarget : place = target
      · subst atTarget
        rw [put]
        refine (apart.nodup place).append sourceNodup.of_append_left ?_
        intro a held isMoved
        exact different (apart.single source place a
          (parts ▸ List.mem_append_left rest isMoved) held)
      · exact others place atSource atTarget ▸ apart.nodup place
  · intro place other a member memberToo
    by_cases isMoved : a ∈ moved
    · rw [gone isMoved place member, gone isMoved other memberToo]
    · exact apart.single place other a (before isMoved place member)
        (before isMoved other memberToo)

/-- What is new is held in one place alone. -/
theorem added (apart : Apart held) {new : A} (fresh : ∀ place, new ∉ held place)
    (nodup : (later target).Nodup)
    (put : ∀ a ∈ later target, a = new ∨ a ∈ held target)
    (others : ∀ place, place ≠ target → later place = held place) : Apart later := by
  have before {a : A} (place : P) (member : a ∈ later place) :
      (a = new ∧ place = target) ∨ a ∈ held place := by
    by_cases atTarget : place = target
    · subst atTarget
      exact (put a member).imp_left fun isNew => ⟨isNew, rfl⟩
    · exact .inr (others place atTarget ▸ member)
  constructor
  · intro place
    by_cases atTarget : place = target
    · exact atTarget ▸ nodup
    · exact others place atTarget ▸ apart.nodup place
  · intro place other a member memberToo
    rcases before place member with ⟨rfl, atTarget⟩ | old
    · rcases before other memberToo with ⟨-, atTargetToo⟩ | old
      · rw [atTarget, atTargetToo]
      · exact absurd old (fresh other)
    · rcases before other memberToo with ⟨rfl, -⟩ | oldToo
      · exact absurd old (fresh place)
      · exact apart.single place other a old oldToo

end Apart

/-! ## The books are right, whatever the deeds are -/

namespace Whereabouts

/-- The registration is where one that was made for an object can be. -/
def Tracks (places : Whereabouts ι) (registration : Registration) : Prop :=
  registration ∈ places.resources ∨ (∃ thread, registration ∈ places.backlog thread) ∨
    ∃ number, places.deleted number = some registration

/-- The registrations of a history are tracked, and each is held in one place. -/
structure Sound (history : List (Deed ι σ)) (places : Whereabouts ι) : Prop where
  count : places.count = history.length
  apart : Apart places.held
  genuine : ∀ place, ∀ registration ∈ places.held place,
    named Action.records? history registration.number = some registration.resource
  deletions : ∀ number, places.count ≤ number → places.deleted number = none
  complete : ∀ registration : Registration,
    named Action.registers? history registration.number = some registration.resource →
      places.Tracks registration

namespace Sound

variable {history : List (Deed ι σ)} {places later : Whereabouts ι} {deed : Deed ι σ}

theorem early (sound : places.Sound history) {place : Place ι} {registration : Registration}
    (member : registration ∈ places.held place) : registration.number < places.count :=
  sound.count ▸ lt_length_of_named (sound.genuine place registration member)

theorem fresh (sound : places.Sound history) (resource : Resource) (place : Place ι) :
    ⟨places.count, resource⟩ ∉ places.held place :=
  fun member => Nat.lt_irrefl _ (sound.early member)

/-- The books stay right when everything that is tracked stays so and only what the deed registers
is new. -/
theorem extend (sound : places.Sound history) (count : later.count = places.count + 1)
    (apart : Apart later.held)
    (known : ∀ place, ∀ registration ∈ later.held place,
      (∃ other, registration ∈ places.held other) ∨
        registration.number = places.count ∧
          deed.action.records? = some registration.resource)
    (deletions : ∀ number, later.count ≤ number → later.deleted number = places.deleted number)
    (tracks : ∀ registration, places.Tracks registration → later.Tracks registration)
    (registered : ∀ resource, deed.action.registers? = some resource →
      later.Tracks ⟨places.count, resource⟩) :
    later.Sound (history ++ [deed]) where
  count := by rw [count, sound.count, List.length_append, List.length_singleton]
  apart := apart
  genuine := by
    intro place registration member
    rcases known place registration member with ⟨other, held⟩ | ⟨number, records⟩
    · rw [named_append_of_ne _ _ _ (sound.count ▸ (sound.early held).ne)]
      exact sound.genuine other registration held
    · rw [number, sound.count, named_append_length]
      exact records
  deletions := by
    intro number beyond
    rw [deletions number beyond]
    exact sound.deletions number (by omega)
  complete := by
    rintro ⟨number, resource⟩ made
    by_cases last : number = history.length
    · subst last
      rw [named_append_length] at made
      exact sound.count ▸ registered resource made
    · rw [named_append_of_ne _ _ _ last] at made
      exact tracks _ (sound.complete _ made)

/-- What a deed registers is held in the registry. -/
theorem recorded (sound : places.Sound history) {resource : Resource}
    {kept : List Registration} (records : deed.action.records? = some resource)
    (count : later.count = places.count + 1)
    (old : kept.Sublist (places.held .registry))
    (put : (later.held .registry).Perm (⟨places.count, resource⟩ :: kept))
    (others : ∀ place, place ≠ .registry → later.held place = places.held place)
    (deleted : later.deleted = places.deleted)
    (tracks : ∀ registration, places.Tracks registration → later.Tracks registration)
    (registered : ∀ resource, deed.action.registers? = some resource →
      later.Tracks ⟨places.count, resource⟩) :
    later.Sound (history ++ [deed]) := by
  have new : ∀ registration ∈ later.held .registry,
      registration = ⟨places.count, resource⟩ ∨ registration ∈ places.held .registry := by
    intro registration member
    exact (List.mem_cons.mp (put.subset member)).imp_right (old.subset ·)
  refine sound.extend count (sound.apart.added (sound.fresh resource) ?_ new others) ?_
    (fun _ _ => by rw [deleted]) tracks registered
  · refine put.nodup_iff.mpr (List.nodup_cons.mpr ⟨fun member => ?_, ?_⟩)
    · exact sound.fresh resource .registry (old.subset member)
    · exact old.nodup (sound.apart.nodup .registry)
  · intro place registration member
    by_cases atRegistry : place = .registry
    · subst atRegistry
      rcases new registration member with rfl | before
      · exact .inr ⟨rfl, records⟩
      · exact .inl ⟨_, before⟩
    · exact .inl ⟨place, others place atRegistry ▸ member⟩

/-- What a deed moves from one place to another is held there. -/
theorem carried (sound : places.Sound history) (source target : Place ι)
    (moved rest : List Registration) (silent : deed.action.registers? = none)
    (count : later.count = places.count + 1) (different : source ≠ target)
    (parts : places.held source = moved ++ rest) (left : later.held source = rest)
    (put : later.held target = places.held target ++ moved)
    (others : ∀ place, place ≠ source → place ≠ target → later.held place = places.held place)
    (deletions : ∀ number, later.count ≤ number → later.deleted number = places.deleted number)
    (tracks : ∀ registration, places.Tracks registration → later.Tracks registration) :
    later.Sound (history ++ [deed]) := by
  refine sound.extend count (sound.apart.moved different parts left put others) ?_ deletions tracks
    fun resource registers => ?_
  · intro place registration member
    refine .inl ?_
    by_cases atSource : place = source
    · subst atSource
      rw [left] at member
      exact ⟨_, parts ▸ List.mem_append_right moved member⟩
    · by_cases atTarget : place = target
      · subst atTarget
        rw [put] at member
        rcases List.mem_append.mp member with before | isMoved
        · exact ⟨_, before⟩
        · exact ⟨_, parts ▸ List.mem_append_left rest isMoved⟩
      · exact ⟨place, others place atSource atTarget ▸ member⟩
  · rw [silent] at registers
    cases registers

variable [DecidableEq ι]

theorem registerWorkspace (sound : places.Sound history) {resource : Resource}
    (acts : deed.action = .registerWorkspace resource) :
    (places.after deed).Sound (history ++ [deed]) := by
  refine sound.recorded (by rw [acts]; rfl) rfl (List.sublist_append_left _ _) ?_ ?_ ?_ ?_ ?_
  · simp [after, follow, acts, held, deletionOrder]
  · intro place elsewhere
    cases place with
    | registry => exact absurd rfl elsewhere
    | _ => simp [after, follow, acts, held]
  · simp [after, follow, acts]
  · simp [Tracks, after, follow, acts]
  · simp [acts, Action.registers?]

theorem register (sound : places.Sound history) {resource : Resource}
    (acts : deed.action = .register resource) :
    (places.after deed).Sound (history ++ [deed]) := by
  refine sound.recorded (by rw [acts]; rfl) rfl (List.Sublist.refl _) ?_ ?_ ?_ ?_ ?_
  · simp [after, follow, acts, held, deletionOrder]
  · intro place elsewhere
    cases place with
    | registry => exact absurd rfl elsewhere
    | _ => simp [after, follow, acts, held]
  · simp [after, follow, acts]
  · rintro registration (member | elsewhere)
    · exact .inl (by simp [after, follow, acts, member])
    · exact .inr (by simpa [after, follow, acts] using elsewhere)
  · intro other registers
    refine .inl ?_
    obtain rfl : resource = other := by simpa [acts, Action.registers?] using registers
    simp [after, follow, acts]

theorem drain (sound : places.Sound history) (acts : deed.action = .drain) :
    (places.after deed).Sound (history ++ [deed]) := by
  refine sound.carried .registry (.backlog deed.thread) places.deletionOrder []
    (by rw [acts]; rfl) rfl (by simp) ?_ ?_ ?_ ?_ ?_ ?_
  · simp [held]
  · simp [after, follow, acts, held, deletionOrder]
  · simp [after, follow, acts, held]
  · intro place _ elsewhere
    cases place with
    | registry => contradiction
    | backlog thread =>
        have other : thread ≠ deed.thread := fun same => elsewhere (same ▸ rfl)
        simp [after, follow, acts, held, Function.update_of_ne other]
    | deleted number => simp [after, follow, acts, held]
  · simp [after, follow, acts]
  · rintro registration (member | ⟨thread, member⟩ | deleted)
    · refine .inr (.inl ⟨deed.thread, ?_⟩)
      simp [after, follow, acts, deletionOrder, member]
    · refine .inr (.inl ⟨thread, ?_⟩)
      by_cases own : thread = deed.thread
      · subst own
        simp [after, follow, acts, member]
      · simp [after, follow, acts, Function.update_of_ne own, member]
    · refine .inr (.inr ?_)
      simpa [after, follow, acts] using deleted

theorem delete (sound : places.Sound history) {resource : Resource}
    (acts : deed.action = .ask (.delete resource)) :
    (places.after deed).Sound (history ++ [deed]) := by
  have unused := sound.deletions places.count le_rfl
  refine sound.carried (.backlog deed.thread) (.deleted places.count)
    (places.backlog deed.thread).head?.toList (places.backlog deed.thread).tail
    (by rw [acts]; rfl) rfl (by simp) ?_ ?_ ?_ ?_ ?_ ?_
  · cases backlog : places.backlog deed.thread <;> simp [held, backlog]
  · simp [after, follow, acts, held]
  · simp [after, follow, acts, held, unused]
  · intro place elsewhere elsewhereToo
    cases place with
    | registry => simp [after, follow, acts, held, deletionOrder]
    | backlog thread =>
        have other : thread ≠ deed.thread := fun same => elsewhere (same ▸ rfl)
        simp [after, follow, acts, held, Function.update_of_ne other]
    | deleted number =>
        have other : number ≠ places.count := fun same => elsewhereToo (same ▸ rfl)
        simp [after, follow, acts, held, Function.update_of_ne other]
  · intro number beyond
    have other : number ≠ places.count := by
      rintro rfl
      exact Nat.lt_irrefl _ beyond
    simp [after, follow, acts, Function.update_of_ne other]
  · rintro registration (member | ⟨thread, member⟩ | ⟨number, deleted⟩)
    · exact .inl (by simpa [after, follow, acts] using member)
    · by_cases own : thread = deed.thread
      · subst own
        cases backlog : places.backlog deed.thread with
        | nil => simp [backlog] at member
        | cons first rest =>
            rcases List.mem_cons.mp (backlog ▸ member) with rfl | later
            · exact .inr (.inr ⟨places.count, by simp [after, follow, acts, backlog]⟩)
            · exact .inr (.inl ⟨deed.thread, by simp [after, follow, acts, backlog, later]⟩)
      · refine .inr (.inl ⟨thread, ?_⟩)
        simp [after, follow, acts, Function.update_of_ne own, member]
    · have other : number ≠ places.count := by
        rintro rfl
        rw [unused] at deleted
        cases deleted
      refine .inr (.inr ⟨number, ?_⟩)
      simp [after, follow, acts, Function.update_of_ne other, deleted]

/-- A deed that neither registers, takes nor deletes leaves every registration where it is. -/
theorem idle (sound : places.Sound history) (silent : deed.action.records? = none)
    (same : places.follow deed.thread deed.action = places) :
    (places.after deed).Sound (history ++ [deed]) := by
  have inPlace : (places.after deed).held = places.held := by
    funext place
    cases place <;> simp [after, same, held, deletionOrder]
  refine sound.extend rfl (inPlace ▸ sound.apart) ?_ ?_ ?_ ?_
  · exact fun place registration member => .inl ⟨place, inPlace ▸ member⟩
  · simp [after, same]
  · simp [Tracks, after, same]
  · intro resource registers
    cases acts : deed.action <;> simp_all [Action.registers?, Action.records?]

/-- Every deed keeps the books right. -/
theorem after (sound : places.Sound history) (deed : Deed ι σ) :
    (places.after deed).Sound (history ++ [deed]) := by
  cases acts : deed.action with
  | registerWorkspace resource => exact sound.registerWorkspace acts
  | register resource => exact sound.register acts
  | drain => exact sound.drain acts
  | ask request =>
      cases request with
      | delete resource => exact sound.delete acts
      | _ => exact sound.idle (by rw [acts]; rfl) (by rw [acts]; rfl)
  | _ => exact sound.idle (by rw [acts]; rfl) (by rw [acts]; rfl)

end Sound

end Whereabouts

/-- The books are right after every history. -/
theorem whereabouts_sound [DecidableEq ι] (history : List (Deed ι σ)) :
    (whereabouts history).Sound history := by
  induction history using List.reverseRecOn with
  | nil =>
      refine ⟨rfl, ⟨?_, ?_⟩, ?_, fun _ _ => rfl, ?_⟩
      · intro place
        cases place <;> exact List.nodup_nil
      · intro place _ registration member
        cases place <;> exact absurd member List.not_mem_nil
      · intro place registration member
        cases place <;> exact absurd member List.not_mem_nil
      · intro registration made
        simp [named] at made
  | append_singleton history deed inductionHypothesis =>
      rw [whereabouts_append]
      exact inductionHypothesis.after deed

end AddonCheck
