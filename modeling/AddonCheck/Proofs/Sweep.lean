import AddonCheck.Proofs.Lasting
import AddonCheck.Proofs.Recording
import AddonCheck.Proofs.Verdict
import AddonCheck.Proofs.Whereabouts

/-
This file shows what a teardown sends and reports, whatever it is answered. Every registered object
is deleted once, the last one first and the namespace at the end, and the failures are reported in
the order of the deletions. An empty registry stays empty until something is registered, so a
further teardown has nothing to do. What a watcher does meanwhile deletes nothing more.
-/

namespace AddonCheck

open Cluster (Resource)
open Workspace (DeletionFailure TeardownError)

/-- A deletion that was sent, and what it was answered. -/
abbrev Removal := Resource × Except Cluster.Error Cluster.Deletion

def Exchange.removal? : Exchange → Option Removal
  | ⟨.delete resource, answer⟩ => some (resource, answer)
  | _ => none

/-- The deletions among exchanges, in the order in which they were sent. -/
def removals (exchanges : List Exchange) : List Removal := exchanges.filterMap Exchange.removal?

theorem removals_append (first rest : List Exchange) :
    removals (first ++ rest) = removals first ++ removals rest := List.filterMap_append

theorem removals_eq_nil {exchanges : List Exchange}
    (spared : ∀ exchange ∈ exchanges, exchange.1.deletes = false) : removals exchanges = [] := by
  apply List.filterMap_eq_nil_iff.mpr
  intro ⟨request, answer⟩ member
  have spares := spared _ member
  cases request with
  | delete resource => cases spares
  | _ => rfl

/-- The object that is still there, and why. -/
def Removal.failure? : Removal → Option DeletionFailure
  | (resource, .error error) => some ⟨resource, error⟩
  | (_, .ok _) => none

def failures (removed : List Removal) : List DeletionFailure := removed.filterMap Removal.failure?

theorem failures_append (first rest : List Removal) :
    failures (first ++ rest) = failures first ++ failures rest := List.filterMap_append

theorem failures_eq_nil_iff (removed : List Removal) :
    failures removed = [] ↔ ∀ removal ∈ removed, ∃ deletion, removal.2 = .ok deletion := by
  rw [failures, List.filterMap_eq_nil_iff]
  apply forall₂_congr
  intro ⟨resource, answer⟩ _
  cases answer with
  | error error => simp [Removal.failure?]
  | ok deletion => simp [Removal.failure?]

namespace Session

variable {σ α : Type} {kind : Request → Prop} {outside : Outside σ}
  {reaction : Reaction (σ × List Exchange)} {rounds : Nat}
  {session middle after : Session (σ × List Exchange)}

/-! ## Sessions in which nothing is registered -/

/-- Between two sessions only requests of a kind are recorded, and nothing is registered at the
end. -/
structure Idles (kind : Request → Prop) (before after : Session (σ × List Exchange)) : Prop where
  registry : after.registry = {}
  records : ∃ exchanges, before.Records exchanges after ∧ ∀ exchange ∈ exchanges, kind exchange.1

namespace Idles

theorem same (empty : after.registry = {}) (unchanged : after.outside = session.outside) :
    session.Idles kind after :=
  ⟨empty, [], .nothing unchanged, fun _ none => absurd none List.not_mem_nil⟩

theorem trans (first : session.Idles kind middle) (rest : middle.Idles kind after) :
    session.Idles kind after := by
  obtain ⟨exchanges, recorded, kinds⟩ := first.records
  obtain ⟨others, recordedToo, kindsToo⟩ := rest.records
  refine ⟨rest.registry, exchanges ++ others, recorded.trans recordedToo, ?_⟩
  exact List.forall_mem_append.mpr ⟨kinds, kindsToo⟩

theorem mono {wider : Request → Prop} (idles : session.Idles kind after)
    (implies : ∀ request, kind request → wider request) : session.Idles wider after := by
  obtain ⟨exchanges, recorded, kinds⟩ := idles.records
  exact ⟨idles.registry, exchanges, recorded,
    fun exchange member => implies exchange.1 (kinds exchange member)⟩

end Idles

/-- When nothing is registered, a request of the kind is all that is recorded. -/
theorem replied_idles {request : Request} (asks : kind request)
    (session : Session (σ × List Exchange)) (empty : session.registry = {}) :
    session.Idles kind (session.replied outside.recording request) :=
  ⟨empty, [⟨request, (outside.reply request session.outside.1).1.answer⟩], rfl,
    List.forall_mem_singleton.mpr asks⟩

/-- An empty registry stays empty as long as nothing is registered. -/
theorem idles_lasting
    (reacts : ∀ watcher (session : Session (σ × List Exchange)), session.registry = {} →
      session.Idles kind (reaction watcher session)) :
    Lasting outside.recording reaction
      (fun action => action.AsksOnly kind ∧ action.records? = none)
      fun session after => session.registry = {} → session.Idles kind after where
  trans first rest empty := (first empty).trans (rest (first empty).registry)
  rests unchanged same _ _ empty := .same (same.trans empty) unchanged
  updates {action} allowed session empty := by
    refine .same ?_ rfl
    change action.registryAfter session.registry = {}
    rw [empty]
    cases action with
    | registerWorkspace resource => cases allowed.2
    | register resource => cases allowed.2
    | _ => rfl
  asks allowed := replied_idles allowed.1
  awaits allowed := replied_idles allowed.1
  reacts := reacts

end Session

/-! ## The parts of a teardown -/

namespace Workspace

/-- A teardown of an empty registry asks for nothing. -/
theorem deleteAll_of_empty {σ : Type} (outside : Outside σ) (reaction : Session.Reaction σ)
    (rounds : Nat) (workspace : Workspace) {session : Session σ}
    (empty : session.registry = {}) :
    ∃ transcript after,
      Session.Finishes outside reaction rounds workspace.deleteAll session transcript (.ok ())
        after ∧
      after.registry = {} ∧ after.outside = session.outside := by
  rw [deleteAll_eq]
  cases workspace.debug with
  | true => exact ⟨_, _, .perform rfl (.done _ _), empty, rfl⟩
  | false =>
      have drained : session.step outside reaction rounds .drain =
          (some [], { session with registry := {} }) := by
        change (some session.registry.deletionOrder, _) = _
        rw [empty, Registry.deletionOrder_empty]
      exact ⟨_, _, .perform drained (.done _ _), rfl, rfl⟩

section

variable {σ : Type} (outside : Outside σ) {reaction : Session.Reaction (σ × List Exchange)}
  (rounds : Nat) {session : Session (σ × List Exchange)}
  (reacts : ∀ watcher (session : Session (σ × List Exchange)), session.registry = {} →
    session.Idles (fun request => request.deletes = false) (reaction watcher session))

include reacts

/-- One deletion is sent. It fails just when it is answered with an error. -/
theorem delete_removes (resource : Resource) (empty : session.registry = {}) :
    ∃ answer failure transcript exchanges after,
      Session.Finishes outside.recording reaction rounds (delete resource) session transcript
        failure after ∧
      session.Records exchanges after ∧ removals exchanges = [(resource, answer)] ∧
      failure.toList = failures [(resource, answer)] ∧ after.registry = {} := by
  let logged := session.addLog [Log.info "Deleting resource"]
  let asked := logged.ask outside.recording reaction (.delete resource)
  let replied := logged.replied outside.recording (.delete resource)
  have recorded : logged.Records [⟨.delete resource, asked.1⟩] replied := rfl
  have idles : replied.Idles (fun request => request.deletes = false) asked.2 :=
    (Session.idles_lasting reacts).ask (.delete resource) logged empty
  obtain ⟨others, recordedToo, spared⟩ := idles.records
  have sent : removals (⟨.delete resource, asked.1⟩ :: others) = [(resource, asked.1)] :=
    congrArg ((resource, asked.1) :: ·) (removals_eq_nil spared)
  have records : session.Records (⟨.delete resource, asked.1⟩ :: others) asked.2 :=
    recorded.trans recordedToo
  -- Only what is logged about the answer and the value depend on it.
  have told : ∃ transcript failure after,
      Session.Finishes outside.recording reaction rounds (delete resource) session transcript
        failure after ∧ failure.toList = failures [(resource, asked.1)] ∧
      after.outside = asked.2.outside ∧ after.registry = asked.2.registry := by
    have first : session.step outside.recording reaction rounds
        (.log (Log.info "Deleting resource")) = (some (), logged) := rfl
    have second : logged.step outside.recording reaction rounds (.ask (.delete resource)) =
        (some asked.1, asked.2) := rfl
    rw [delete_eq]
    rcases answered : asked.1 with error | (_ | _)
    · rw [answered] at second
      exact ⟨_, _, _, .perform first (.perform second (.perform rfl (.done _ _))), rfl, rfl, rfl⟩
    · rw [answered] at second
      exact ⟨_, _, _, .perform first (.perform second (.perform rfl (.done _ _))), rfl, rfl, rfl⟩
    · rw [answered] at second
      exact ⟨_, _, _, .perform first (.perform second (.done _ _)), rfl, rfl, rfl⟩
  obtain ⟨transcript, failure, after, deleted, failed, sameOutside, sameRegistry⟩ := told
  refine ⟨asked.1, failure, transcript, _, after, deleted, ?_, sent, failed, ?_⟩
  · rw [Session.Records, sameOutside]
    exact records
  · rw [sameRegistry]
    exact idles.registry

/-- The deletions are sent in order, whatever the earlier ones are answered, and the failures are
gathered in this order. -/
theorem deleteEach_removes (resources : List Resource) (empty : session.registry = {}) :
    ∃ transcript exchanges after,
      Session.Finishes outside.recording reaction rounds (deleteEach resources) session transcript
        (failures (removals exchanges)) after ∧
      session.Records exchanges after ∧ (removals exchanges).map Prod.fst = resources ∧
      after.registry = {} := by
  induction resources generalizing session with
  | nil => exact ⟨[], [], session, .done [] session, .nothing rfl, rfl, empty⟩
  | cons resource rest inductionHypothesis =>
      obtain ⟨answer, failure, first, exchanges, middle, deleted, recorded, removed, failed,
        cleared⟩ := delete_removes outside rounds reacts resource empty
      obtain ⟨later, others, after, deletedToo, recordedToo, removedToo, clearedToo⟩ :=
        inductionHypothesis cleared
      have gathered : failures (removals (exchanges ++ others)) =
          failure.toList ++ failures (removals others) := by
        rw [removals_append, failures_append, removed, failed]
      refine ⟨first ++ later, exchanges ++ others, after, ?_, recorded.trans recordedToo, ?_,
        clearedToo⟩
      · rw [deleteEach_cons, gathered]
        exact deleted.bind (deletedToo.map fun failures => failure.toList ++ failures)
      · rw [removals_append, removed, List.map_append, removedToo]
        rfl

end

end Workspace

namespace Run

variable {σ : Type} {outside : Outside σ} {rounds : Nat} {session : Session (σ × List Exchange)}

/-- A watcher that finds an empty registry deletes nothing. -/
theorem reaction_idles (outside : Outside σ) (rounds : Nat) (watcher : Watcher)
    (session : Session (σ × List Exchange)) (empty : session.registry = {}) :
    session.Idles (fun request => request.deletes = false)
      (reaction outside.recording rounds watcher session) := by
  let noted : Session (σ × List Exchange) :=
    { session with
      log := session.log ++ [Log.warn "Interrupted, cleaning up resources"]
      gathered := session.gathered ++ Notification.line "Interrupted, cleaning up resources" }
  obtain ⟨transcript, after, finishes, cleared, same⟩ :=
    Workspace.deleteAll_of_empty outside.recording Session.still rounds watcher.workspace
      (show noted.registry = {} from empty)
  -- After the teardown, the watcher only tells about it.
  let rest : Program Unit := (Notification.flush watcher.channel).bind fun _ =>
    .perform .exit fun _ => .done ()
  let told := Session.execute outside.recording Session.still rounds rest after
  have executed : reaction outside.recording rounds watcher session = told.2 := by
    unfold reaction
    rw [interruption_eq]
    change (Session.execute _ Session.still _ (watcher.workspace.deleteAll.bind _) noted).2 = _
    rw [Session.execute_bind, finishes.execute]
    rfl
  have ends : rest.Ends (fun action =>
      action.AsksOnly (fun request => request.deletes = false) ∧ action.records? = none)
      fun _ => True := by
    apply (Notification.flush_ends (fun _ => ⟨trivial, rfl⟩) ⟨trivial, rfl⟩ (fun _ => ⟨rfl, rfl⟩)
      watcher.channel).bind
    exact fun _ _ => ⟨⟨trivial, rfl⟩, fun _ => trivial⟩
  have idles : after.Idles (fun request => request.deletes = false) told.2 :=
    (Session.idles_lasting fun _ _ unchanged => .same unchanged rfl).execute ends.uses rounds after
      cleared
  have began : session.Idles (fun request => request.deletes = false) after := .same cleared same
  rw [executed]
  exact began.trans idles

end Run

namespace Workspace

/-! ## The teardown -/

/-- What a teardown of a registry asks for and reports. -/
structure Swept (registry : Registry) (removed : List Removal)
    (result : Except TeardownError Unit) : Prop where
  /-- The last object is deleted first, and the namespace in the end if there is one. -/
  resources : removed.map Prod.fst = registry.resources.reverse ++ registry.workspace.toList
  succeeds : result = .ok () ↔ ∀ removal ∈ removed, ∃ deletion, removal.2 = .ok deletion
  fails : ∀ error, result = .error error → error.failures = failures removed

/-- Without failures a teardown succeeds, and otherwise it reports all of them. -/
theorem Swept.of_failures {registry : Registry} {removed : List Removal}
    (resources : removed.map Prod.fst = registry.resources.reverse ++ registry.workspace.toList) :
    Swept registry removed (TeardownError.mk (failures removed)).result := by
  have every := failures_eq_nil_iff removed
  refine ⟨resources, ?_, ?_⟩
  · rw [← every]
    cases failures removed <;> simp [TeardownError.result]
  · intro error
    cases failures removed with
    | nil =>
        intro failed
        cases failed
    | cons failure rest =>
        intro failed
        cases failed
        rfl

/-- A teardown deletes everything that is registered, whatever it is answered. The registry is empty
afterwards, and as long as nothing is registered, a further teardown asks for nothing. -/
theorem deleteAll_sweeps {σ : Type} (outside : Outside σ) (rounds : Nat) {workspace : Workspace}
    (deletes : workspace.debug = false) (session : Session (σ × List Exchange)) :
    ∃ result exchanges after,
      Run.execute outside.recording rounds workspace.deleteAll session =
        (.finished result, after) ∧
      session.Records exchanges after ∧
      Swept session.registry (removals exchanges) result ∧
      after.registry = {} ∧
      ∀ {β : Type} (between : Program β), (between.Uses fun action => action.records? = none) →
        let reached := (Run.execute outside.recording rounds between after).2
        ∃ last,
          Run.execute outside.recording rounds workspace.deleteAll reached =
            (.finished (.ok ()), last) ∧
          last.outside = reached.outside := by
  let reaction := Run.reaction outside.recording rounds
  have reacts : ∀ watcher (session : Session (σ × List Exchange)), session.registry = {} →
      session.Idles (fun request => request.deletes = false) (reaction watcher session) :=
    Run.reaction_idles outside rounds
  let drained := { session with registry := {} }
  obtain ⟨transcript, exchanges, after, deleted, recorded, removed, cleared⟩ :=
    deleteEach_removes outside rounds reacts session.registry.deletionOrder
      (show drained.registry = {} from rfl)
  have swept : Session.Finishes outside.recording reaction rounds workspace.deleteAll session
      (⟨.drain, session.registry.deletionOrder⟩ :: transcript)
      (TeardownError.mk (failures (removals exchanges))).result after := by
    rw [deleteAll_eq, if_neg (by rw [deletes]; exact Bool.false_ne_true)]
    exact .perform rfl (deleted.map fun failures => (TeardownError.mk failures).result)
  refine ⟨_, exchanges, after, swept.execute, recorded, .of_failures removed, cleared, ?_⟩
  intro β between registersNothing reached
  have idles : after.Idles (fun _ => True) reached := by
    have uses : between.Uses fun action =>
        action.AsksOnly (fun _ => True) ∧ action.records? = none := by
      refine registersNothing.mono fun action registers => ⟨?_, registers⟩
      cases action <;> trivial
    apply (Session.idles_lasting fun watcher session empty => ?_).execute uses rounds after cleared
    exact (reacts watcher session empty).mono fun _ _ => trivial
  obtain ⟨_, last, idle, -, same⟩ :=
    deleteAll_of_empty outside.recording reaction rounds workspace idles.registry
  exact ⟨last, idle.execute, same⟩

/-- An outside that refuses to delete the object of one name and knows none of another one. A
refusal comes together with the cancellation of the run. -/
def holdingOutside (held missing : String) : Outside Unit where
  reply
    | .delete resource, state =>
        if resource.name = held then
          ({ answer := .error (.refused 403 "forbidden"), cancels := true }, state)
        else if resource.name = missing then ({ answer := .ok .notFound }, state)
        else ({ answer := .ok .deleted }, state)
    | request, state => (grantingOutside (.ok .deleted)).reply request state

/-- The first of three deletions is refused while a watcher is there. The others follow, the
namespace last, and the refusal alone is reported. -/
theorem deleteAll_sweeps_refused :
    let workspace : Workspace := ⟨"ws", false⟩
    let secret (name : String) : Resource := ⟨⟨"v1", "Secret"⟩, name, "ws"⟩
    let session : Session (Unit × List Exchange) :=
      { start := default
        registry := { workspace := some workspace.resource, resources := [secret "a", secret "b"] }
        watcher := some ⟨workspace, .logOnly⟩
        outside := ((), []) }
    let outside := (holdingOutside "b" "a").recording
    let swept := Run.execute outside 0 workspace.deleteAll session
    let refusal : DeletionFailure := ⟨secret "b", .refused 403 "forbidden"⟩
    workspace.debug = false ∧
      swept.1 = .finished (.error ⟨[refusal]⟩) ∧
      swept.2.isCancelled = true ∧ swept.2.registry = {} ∧
      (removals swept.2.outside.2).map Prod.fst =
        [secret "b", secret "a", workspace.resource] := by
  intro workspace secret session outside swept refusal
  obtain ⟨result, exchanges, after, executed, recorded, sweeps, cleared, -⟩ :=
    deleteAll_sweeps (holdingOutside "b" "a") 0 (show workspace.debug = false from rfl) session
  have same : swept.2 = after := congrArg Prod.snd executed
  have sent : swept.2.outside.2 = exchanges := by
    rw [same]
    exact recorded
  refine ⟨rfl, rfl, rfl, ?_, ?_⟩
  · rw [same]
    exact cleared
  · rw [sent]
    exact sweeps.resources

end Workspace

end AddonCheck
