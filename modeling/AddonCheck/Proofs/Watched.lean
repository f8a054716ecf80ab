import AddonCheck.Proofs.Shelf
import AddonCheck.Proofs.Tally

/-
This file holds a run and its watcher, whose deeds come in any order. The watcher ends the process
when it has deleted what it has taken itself; what the run has taken may be waiting still.
-/

namespace AddonCheck

open Cluster (Resource)

inductive Role where
  | runner
  | watcher
  deriving DecidableEq, Repr

namespace Crew

variable {ι σ φ : Type} [DecidableEq ι] {outside : Outside σ}

/-- The watcher is awake, or it has done nothing. -/
structure Asleep (watcher : ι) (start : φ) (states : ι → φ) (crew : Crew ι σ) : Prop where
  known : crew.watcher? = some watcher
  still : crew.isAwake watcher = true ∨ states watcher = start

/-- A thread that is awake does not fall asleep again. -/
theorem isAwake_mono {before after : Crew ι σ} {thread : ι}
    (awake : before.isAwake thread = true) (same : after.watcher? = before.watcher?)
    (started : before.session.watcher.isSome → after.session.watcher.isSome)
    (cancelled : before.session.isCancelled = true → after.session.isCancelled = true) :
    after.isAwake thread = true := by
  unfold isAwake at awake ⊢
  rw [same]
  simp only [Bool.or_eq_true, Bool.and_eq_true] at awake ⊢
  exact awake.imp_right (And.imp started cancelled)

theorem isAwake_rests {crew : Crew ι σ} {session : Session σ} {thread : ι}
    (awake : crew.isAwake thread = true) (rests : crew.session.Rests session) :
    isAwake { crew with session := session } thread = true := by
  refine isAwake_mono awake rfl (fun started => ?_) rests.cancelled
  rw [rests.watcher]
  exact started

/-- Only an awake watcher does a deed. -/
theorem asleep_stable {discipline : Discipline φ} (watcher : ι) (start : φ) :
    Stable outside discipline (Asleep watcher start : Assertion ι σ φ) where
  rest asleep rests _ := ⟨asleep.known, asleep.still.imp_left (isAwake_rests · rests)⟩
  evaluation asleep _ rests _ := ⟨asleep.known, asleep.still.imp_left (isAwake_rests · rests)⟩
  deed := by
    intro states crew session rest thread action answer asleep _ awake effect
    have later {other : ι} (awake : crew.isAwake other = true) :
        (crew.did ⟨thread, action, answer, session.outside⟩ session rest).isAwake other = true := by
      refine isAwake_mono awake rfl (fun started => ?_) effect.cancelled
      change session.watcher.isSome
      rw [effect.watcher]
      cases action with
      | watch watcher => rfl
      | _ => exact started
    refine ⟨asleep.known, ?_⟩
    by_cases own : watcher = thread
    · subst own
      exact .inl (later awake)
    · rw [Function.update_of_ne own]
      exact asleep.still.imp_left later

end Crew

/-- A run and its watcher before their first deeds. -/
def Run.crew {σ κ : Type} (checker : Run.Checker κ) (context : Run.Context)
    (workspace : Workspace) (watched : Bool) (session : Session σ) : Crew Role σ where
  session := session
  programs
    | .runner => (Run.run checker context workspace watched).bind fun _ => .done ()
    | .watcher => Run.interruption ⟨workspace, context.channel⟩
  watcher? := some .watcher

/-- What the run and its watcher owe before their first deeds. -/
def Duty.initial : Role → Duty
  | .runner => .creating
  | .watcher => .idle

/-- Both threads keep the discipline of duties, and have nothing left to delete in the end. -/
theorem Run.crew_keeps {σ κ : Type} {checker : Run.Checker κ} {context : Run.Context}
    {workspace : Workspace} {handles : Set Resource} {watched : Bool} {session : Session σ}
    (creates : checker.CreatesIn context workspace handles) (deletes : workspace.debug = false) :
    (Run.crew checker context workspace watched session).Keeps
      (Duty.discipline workspace handles watched) (fun _ _ duty => duty = .clearing [])
      Duty.initial := by
  rintro (_ | _)
  · exact (Run.run_keeps creates deletes).bind (fun _ _ ended => ended) fun _ ended => ended
  · exact Run.interruption_keeps ⟨workspace, context.channel⟩ deletes

/-- Whether the next deed of the program ends the process. -/
def Program.isExiting {α : Type} : Program α → Bool
  | perform .exit _ => true
  | _ => false

/-- A thread that is about to end the process has deleted everything that it has taken. -/
theorem Crew.Keeps.cleared {ι σ : Type} {workspace : Workspace} {handles : Set Resource}
    {watched : Bool} {fit : ι → Option Unit → Duty → Prop} {states : ι → Duty} {crew : Crew ι σ}
    {thread : ι} (kept : crew.Keeps (Duty.discipline workspace handles watched) fit states)
    (exiting : (crew.programs thread).isExiting = true) : states thread = .clearing [] := by
  have allowed := kept thread
  cases program : crew.programs thread with
  | perform action next =>
      rw [program] at exiting allowed
      cases action <;> cases exiting
      exact allowed.1
  | _ =>
      rw [program] at exiting
      cases exiting

section

variable {ι σ : Type} [DecidableEq ι]

/-- A handle waits while the thread has taken it from the registry more often than it has deleted
its object. -/
def Waits (history : List (Deed ι σ)) (thread : ι) (resource : Resource) : Prop :=
  (deleted history thread).count resource < (taken history thread).count resource

instance (history : List (Deed ι σ)) (thread : ι) (resource : Resource) :
    Decidable (Waits history thread resource) :=
  inferInstanceAs (Decidable (_ < _))

/-- What waits is what is pending. -/
theorem Tally.waits_iff {states : ι → Duty} {crew : Crew ι σ} (tally : Tally states crew)
    {thread : ι} {resource : Resource} :
    Waits crew.history thread resource ↔ resource ∈ (states thread).pending := by
  have balance : taken crew.history thread =
      deleted crew.history thread ++ (states thread).pending := tally.balance thread
  unfold Waits
  rw [balance, List.count_append, ← List.count_pos_iff]
  omega

end

namespace Run

variable {σ κ : Type} {checker : Checker κ} {context : Context} {workspace : Workspace}
  {handles : Set Resource} {session : Session σ} {outside : Outside σ}

/-- When the watcher is about to end the process, nothing waits that it has taken itself. Nothing
waits at all just when the run has deleted everything that it has taken. -/
theorem no_wait_at_exit_iff (creates : checker.CreatesIn context workspace handles)
    (deletes : workspace.debug = false) {turns : List (Turn Role)} {after : Crew Role σ}
    (played : (crew checker context workspace true session).plays outside turns = some after)
    (exiting : (after.programs .watcher).isExiting = true) :
    (∀ resource, ¬ Waits after.history .watcher resource) ∧
      ((∀ thread resource, ¬ Waits after.history thread resource) ↔
        deleted after.history .runner = taken after.history .runner) := by
  obtain ⟨states, kept, tally⟩ := Crew.plays_keeps tally_stable (crew_keeps creates deletes)
    (tally_start rfl (by rintro (_ | _) <;> simp [Duty.initial])) played
  have watching (resource : Resource) : ¬ Waits after.history .watcher resource := by
    rw [tally.waits_iff, kept.cleared exiting]
    exact List.not_mem_nil
  have balance : taken after.history .runner =
      deleted after.history .runner ++ (states .runner).pending := tally.balance .runner
  refine ⟨watching, fun nothing => ?_, ?_⟩
  · have none : (states .runner).pending = [] :=
      List.eq_nil_iff_forall_not_mem.mpr fun resource pending =>
        nothing .runner resource (tally.waits_iff.mpr pending)
    rw [balance, none, List.append_nil]
  · rintro same (_ | _) resource
    · have none : (states .runner).pending = [] :=
        List.self_eq_append_right.mp (same.trans balance)
      rw [tally.waits_iff, none]
      exact List.not_mem_nil
    · exact watching resource

/-- A check that creates its namespace and waits for nothing. -/
def plain : Checker Unit where
  name := "plain"
  create _ workspace := creating workspace.createNamespace
  converge _ _ _ := pure ()

def plainWorkspace : Workspace := ⟨"plain", false⟩

/-- The check and its watcher, on a cluster without objects. -/
def plainCrew : Crew Role (List String) :=
  crew plain default plainWorkspace true { start := default, outside := [] }

theorem plain_createsIn (context : Context) :
    plain.CreatesIn context plainWorkspace {plainWorkspace.resource} where
  create := (Program.createsIn_createNamespace (Set.mem_singleton _)).creating
  converge _ := .done _

/-- The run empties the registry, and then the watcher does all its work. -/
def exitingTurns : List (Turn Role) :=
  List.replicate 9 (.act .runner) ++ .cancel :: List.replicate 5 (.act .watcher)

/-- The watcher ends the process while the namespace of the run is still to be deleted. -/
theorem wait_at_exit_plain : ∃ after,
    plainCrew.plays Shelf.peers.outside exitingTurns = some after ∧
      (after.programs .watcher).isExiting = true ∧
      Waits after.history .runner plainWorkspace.resource := by
  have ended : (plainCrew.plays Shelf.peers.outside exitingTurns).any (fun after =>
      (after.programs .watcher).isExiting && Waits after.history .runner plainWorkspace.resource) =
      true := by decide +kernel
  obtain ⟨after, played, facts⟩ := (Option.any_eq_true _ _).mp ended
  simp only [Bool.and_eq_true, decide_eq_true_eq] at facts
  exact ⟨after, played, facts⟩

/-- The run has deleted its namespace before the watcher ends the process. -/
theorem no_wait_at_exit_iff_cleared :
    let turns := List.replicate 11 (.act .runner) ++ .cancel :: List.replicate 5 (.act .watcher)
    let after := (plainCrew.plays Shelf.peers.outside turns).get (by decide +kernel)
    (∀ resource, ¬ Waits after.history .watcher resource) ∧
      ((∀ thread resource, ¬ Waits after.history thread resource) ↔
        deleted after.history .runner = taken after.history .runner) :=
  no_wait_at_exit_iff (plain_createsIn default) rfl (Option.some_get _).symm (by decide +kernel)

end Run

end AddonCheck
