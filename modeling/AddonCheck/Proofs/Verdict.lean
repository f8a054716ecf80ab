import AddonCheck.Proofs.Actions
import AddonCheck.Proofs.Transcript
import AddonCheck.Proofs.Watched
import Mathlib.Data.List.Chain

/-
This file shows what a run without a watcher does and reports when both phases of its check return.
The phases come first, one teardown follows whatever they have come to, and the verdict is theirs
alone: a deletion that fails is reported beside it.
-/

namespace AddonCheck

open Cluster (Resource)

/-- A deletion that was answered with an error. -/
def Answered.deletionFailure? : Answered → Option Workspace.DeletionFailure
  | ⟨.ask (.delete resource), (.error error : Except Cluster.Error Cluster.Deletion)⟩ =>
      some ⟨resource, error⟩
  | _ => none

/-- The deletions of a transcript that were answered with an error. -/
def deletionFailures (transcript : List Answered) : List Workspace.DeletionFailure :=
  transcript.filterMap Answered.deletionFailure?

/-- How often the registry is emptied in a transcript. -/
def drains (transcript : List Answered) : Nat :=
  transcript.countP fun answered => answered.1.isDrain

theorem deletionFailures_append (first rest : List Answered) :
    deletionFailures (first ++ rest) = deletionFailures first ++ deletionFailures rest :=
  List.filterMap_append

theorem drains_append (first rest : List Answered) :
    drains (first ++ rest) = drains first + drains rest := List.countP_append

def Request.deletes : Request → Bool
  | .delete _ => true
  | _ => false

/-- An action that only tells something. -/
def Action.IsTelling : Action → Prop
  | .log _ => True
  | .addLine _ => True
  | .isRegistryEmpty => True
  | .takeLines => True
  | .ask (.deliver _) => True
  | _ => False

namespace Action

theorem isAwait_of_isTelling {action : Action} (telling : action.IsTelling) :
    action.IsAwait = false := by
  cases action with
  | await condition => exact telling.elim
  | _ => rfl

theorem isDrain_of_isTelling {action : Action} (telling : action.IsTelling) :
    action.isDrain = false := by
  cases action with
  | drain => exact telling.elim
  | _ => rfl

end Action

theorem drains_eq_zero {transcript : List Answered}
    (spares : ∀ answered ∈ transcript, answered.1.isDrain = false) : drains transcript = 0 := by
  apply List.countP_eq_zero.mpr
  intro answered member
  rw [spares answered member]
  exact Bool.false_ne_true

/-! ## The teardown -/

namespace Workspace

variable {σ : Type} (outside : Outside σ) (reaction : Session.Reaction σ) (rounds : Nat)

/-- One deletion is sent, and it fails just when it is answered with an error. -/
theorem delete_finishes (resource : Resource) (session : Session σ) :
    ∃ transcript failure after,
      Session.Finishes outside reaction rounds (delete resource) session transcript failure after ∧
        failure.toList = deletionFailures transcript ∧ drains transcript = 0 := by
  rw [delete_eq]
  let logged := session.addLog [Log.info "Deleting resource"]
  let asked := logged.ask outside reaction (.delete resource)
  have first : session.step outside reaction rounds (.log (Log.info "Deleting resource")) =
      (some (), logged) := rfl
  have second : logged.step outside reaction rounds (.ask (.delete resource)) =
      (some asked.1, asked.2) := rfl
  rcases answered : asked.1 with error | (_ | _)
  · rw [answered] at second
    exact ⟨_, _, _, .perform first (.perform second (.perform rfl (.done _ _))), rfl, rfl⟩
  · rw [answered] at second
    exact ⟨_, _, _, .perform first (.perform second (.perform rfl (.done _ _))), rfl, rfl⟩
  · rw [answered] at second
    exact ⟨_, _, _, .perform first (.perform second (.done _ _)), rfl, rfl⟩

/-- The failures of a teardown are gathered in the order of the deletions. -/
theorem deleteEach_finishes (resources : List Resource) (session : Session σ) :
    ∃ transcript after,
      Session.Finishes outside reaction rounds (deleteEach resources) session transcript
        (deletionFailures transcript) after ∧ drains transcript = 0 := by
  induction resources generalizing session with
  | nil => exact ⟨[], session, .done [] session, rfl⟩
  | cons resource rest inductionHypothesis =>
      obtain ⟨first, failure, middle, deleted, failed, spared⟩ :=
        delete_finishes outside reaction rounds resource session
      obtain ⟨later, after, others, sparedToo⟩ := inductionHypothesis middle
      rw [deleteEach_cons]
      refine ⟨first ++ later, after, ?_, ?_⟩
      · rw [deletionFailures_append, ← failed]
        exact deleted.bind (others.map fun failures => failure.toList ++ failures)
      · rw [drains_append, spared, sparedToo]

/-- A teardown empties the registry once, unless the run is a debug run, and it fails just when one
of its deletions fails. -/
theorem deleteAll_finishes (workspace : Workspace) (session : Session σ) :
    ∃ transcript after,
      Session.Finishes outside reaction rounds workspace.deleteAll session transcript
        (TeardownError.mk (deletionFailures transcript)).result after ∧
      drains transcript = if workspace.debug then 0 else 1 := by
  rw [deleteAll_eq]
  cases workspace.debug with
  | true => exact ⟨_, _, .perform rfl (.done _ _), rfl⟩
  | false =>
      let registry := session.registry.deletionOrder
      let drained := { session with registry := {} }
      have first : session.step outside reaction rounds .drain = (some registry, drained) := rfl
      obtain ⟨later, after, others, spared⟩ :=
        deleteEach_finishes outside reaction rounds registry drained
      have gathered := others.map fun failures => (TeardownError.mk failures).result
      refine ⟨⟨.drain, registry⟩ :: later, after, .perform first gathered, ?_⟩
      exact (List.countP_cons_of_pos rfl).trans (congrArg (· + 1) spared)

end Workspace

namespace Run

open Workspace (TeardownError)

variable {σ κ : Type} {outside : Outside σ} {rounds : Nat} {checker : Checker κ}
  {context : Context} {workspace : Workspace}

/-! ## What comes after the teardown -/

/-- The failures of a teardown that has failed. -/
def failed : Except TeardownError Unit → Option TeardownError
  | .ok _ => none
  | .error error => some error

/-- What a run tells about its teardown. -/
def tellCleanUp (context : Context) (cleaned : Except TeardownError Unit) :
    Program (Option TeardownError) :=
  match cleaned with
  | .ok _ =>
      if context.settings.debug then
        .perform .isRegistryEmpty fun (empty : Bool) =>
          if empty then .done none
          else (Program.announce "Skip Delete Resources").bind fun _ => .done none
      else .done none
  | .error error =>
      (Program.announce s!"Error Delete Resources: {error.message}").bind fun _ =>
        .done (some error)

theorem announce_tells (text : String) :
    (Program.announce text).Ends Action.IsTelling fun _ => True :=
  announce_ends (fun _ => trivial) (fun _ => trivial) text

theorem tellCleanUp_ends (context : Context) (cleaned : Except TeardownError Unit) :
    (tellCleanUp context cleaned).Ends Action.IsTelling fun told => told = failed cleaned := by
  unfold tellCleanUp
  cases cleaned with
  | error error => exact (announce_tells _).bind fun _ _ => rfl
  | ok _ =>
      dsimp only
      split
      · refine ⟨trivial, fun (empty : Bool) => ?_⟩
        cases empty with
        | true => rfl
        | false => exact (announce_tells _).bind fun _ _ => rfl
      · rfl

/-- The verdict of a check whose phases have come to a result. -/
def verdict : Except Error Unit → Phase
  | .ok _ => .succeeded
  | .error _ => .failed

theorem advance_of_allows {history : History} {target : Phase}
    (allowed : history.current.allows target = true) :
    advance history target = .done ⟨history.phases ++ [target]⟩ := by
  unfold advance History.advance
  rw [if_pos allowed]
  rfl

/-- After the cleanup, the verdict is added to the history. -/
theorem conclude_tells (name : String) (result : Except Error Unit) {history : History}
    (cleaning : history.current = .cleaningUp) :
    (conclude name result history).Ends Action.IsTelling fun concluded =>
      concluded = ⟨history.phases ++ [verdict result]⟩ := by
  cases result with
  | ok _ =>
      change ((advance history .succeeded).bind fun history =>
        (Program.announce _).bind fun _ => .done history).Ends _ _
      rw [advance_of_allows (by rw [cleaning]; rfl)]
      exact (announce_tells _).bind fun _ _ => rfl
  | error error =>
      change ((advance history .failed).bind fun history =>
        (Program.log _).bind fun _ => (Program.addLine _).bind fun _ => .done history).Ends _ _
      rw [advance_of_allows (by rw [cleaning]; rfl)]
      exact ⟨trivial, fun _ => ⟨trivial, fun _ => rfl⟩⟩

/-! ## The two phases of a check -/

/-- Neither phase of the check takes anything from the registry. -/
structure Checker.SparesRegistry (checker : Checker κ) (context : Context)
    (workspace : Workspace) : Prop where
  create : (checker.create context workspace).run.Uses fun action => action.isDrain = false
  converge : ∀ created,
    (checker.converge context workspace created).run.Uses fun action => action.isDrain = false

/-- Both phases of the check make requests of a kind alone, and they start no watcher. -/
structure Checker.AsksOnly (kind : Request → Prop) (checker : Checker κ) (context : Context)
    (workspace : Workspace) : Prop where
  create : (checker.create context workspace).run.Uses fun action =>
    action.AsksOnly kind ∧ ∀ watcher, action ≠ .watch watcher
  converge : ∀ created, (checker.converge context workspace created).run.Uses fun action =>
    action.AsksOnly kind ∧ ∀ watcher, action ≠ .watch watcher

/-- In a session, the first phase of the check returns, and so does the second one after it. -/
def Checker.Returns (outside : Outside σ) (rounds : Nat) (checker : Checker κ) (context : Context)
    (workspace : Workspace) (session : Session σ) : Prop :=
  ∃ created middle,
    execute outside rounds (checker.create context workspace).run session =
        (.finished created, middle) ∧
      ∀ value, created = .ok value → ∃ result after,
        execute outside rounds (checker.converge context workspace value).run middle =
          (.finished result, after)

/-- The phases of a check come to a result. The second phase begins where the first one has
succeeded, and does not begin when it has failed. -/
inductive Phased (outside : Outside σ) (rounds : Nat) (checker : Checker κ) (context : Context)
    (workspace : Workspace) (session : Session σ) :
    Except Error Unit → Bool → List Answered → Session σ → Prop where
  | failed {error : Error} {creating : List Answered} {after : Session σ}
      (created : Session.Finishes outside (reaction outside rounds) rounds
        (checker.create context workspace).run session creating (.error error) after) :
      Phased outside rounds checker context workspace session (.error error) false creating after
  | converged {value : κ} {creating converging : List Answered} {middle after : Session σ}
      {result : Except Error Unit}
      (created : Session.Finishes outside (reaction outside rounds) rounds
        (checker.create context workspace).run session creating (.ok value) middle)
      (ended : Session.Finishes outside (reaction outside rounds) rounds
        (checker.converge context workspace value).run middle converging result after) :
      Phased outside rounds checker context workspace session result true
        (creating ++ converging) after

/-- The phases of a check before its cleanup. -/
def begun (converges : Bool) : List Phase :=
  [.initialized, .resourcesCreating] ++ if converges then [.converging] else []

theorem Checker.Returns.phased {session : Session σ}
    (returns : checker.Returns outside rounds context workspace session) :
    ∃ result converges doings reached,
      Phased outside rounds checker context workspace session result converges doings reached := by
  obtain ⟨error | value, middle, first, second⟩ := returns
  · obtain ⟨creating, created⟩ := Session.Finishes.of_execute first
    exact ⟨_, _, _, _, .failed created⟩
  · obtain ⟨creating, created⟩ := Session.Finishes.of_execute first
    obtain ⟨result, after, last⟩ := second value rfl
    obtain ⟨converging, ended⟩ := Session.Finishes.of_execute last
    exact ⟨_, _, _, _, .converged created ended⟩

variable {session reached : Session σ} {result : Except Error Unit} {converges : Bool}
  {doings : List Answered}

theorem Phased.finishes
    (phased : Phased outside rounds checker context workspace session result converges doings
      reached) :
    Session.Finishes outside (reaction outside rounds) rounds
      (phases checker context workspace History.start) session doings
      (result, ⟨begun converges⟩) reached := by
  rw [phases_eq]
  cases phased with
  | failed created =>
      rw [← List.append_nil doings]
      exact created.bind (.done _ _)
  | converged created ended => exact created.bind (ended.map fun result => (result, _))

theorem Phased.undrained
    (phased : Phased outside rounds checker context workspace session result converges doings
      reached) (spares : checker.SparesRegistry context workspace) : drains doings = 0 := by
  apply drains_eq_zero
  cases phased with
  | failed created => exact created.uses spares.create
  | converged created ended =>
      intro answered member
      rcases List.mem_append.mp member with first | second
      · exact created.uses spares.create answered first
      · exact ended.uses (spares.converge _) answered second

/-- The phases of a check are the same when only requests of other kinds are answered otherwise. -/
theorem Phased.agree {kind : Request → Prop} {other : Outside σ}
    (phased : Phased outside rounds checker context workspace session result converges doings
      reached) (asks : checker.AsksOnly kind context workspace) (agree : outside.Agree kind other)
    (unwatched : session.watcher = none) :
    Phased other rounds checker context workspace session result converges doings reached := by
  cases phased with
  | failed created => exact .failed (created.agree agree asks.create unwatched).1
  | converged created ended =>
      obtain ⟨first, quiet⟩ := created.agree agree asks.create unwatched
      exact .converged first (ended.agree agree (asks.converge _) quiet).1

/-! ## The run -/

/-- The session of a run whose start has been told. -/
def opened (name : String) (session : Session σ) : Session σ :=
  { session with
    log := session.log ++ [Log.info s!"{name} check start"]
    gathered := session.gathered ++ Notification.line s!"{name} check start" }

/-- How the start of a run is told. -/
def opening (name : String) : List Answered :=
  [⟨.log (Log.info s!"{name} check start"), ()⟩, ⟨.addLine s!"{name} check start", ()⟩]

/-- What a run does and reports when the phases of its check have come to a result. -/
structure Reports (outside : Outside σ) (rounds : Nat) (name : String) (workspace : Workspace)
    (result : Except Error Unit) (converges : Bool) (doings : List Answered) (reached : Session σ)
    (transcript : List Answered) (report : Report) : Prop where
  /-- The phases come first, then one teardown, and the rest is only told. The failures of the
  teardown are those of its deletions. -/
  order : ∃ teardown telling cleaned after,
    transcript = opening name ++ doings ++ teardown ++ telling ∧
      Session.Finishes outside (reaction outside rounds) rounds workspace.deleteAll reached teardown
        cleaned after ∧
      (∀ answered ∈ telling, answered.1.IsTelling) ∧
      (report.cleanupError.isSome = true ↔
        ∃ answered ∈ teardown, answered.deletionFailure?.isSome = true)
  drains : drains transcript = if workspace.debug then 0 else 1
  history : report.history.phases = begun converges ++ [.cleaningUp, verdict result]
  allowed : report.history.phases.IsChain fun source target => source.allows target = true
  result : report.result = result

theorem begun_isChain (converges : Bool) (result : Except Error Unit) :
    (begun converges ++ [.cleaningUp, verdict result]).IsChain
      fun source target => source.allows target = true := by
  cases converges <;> cases result <;> simp [begun, verdict, Phase.allows]

/-- A teardown has failed just when one of its deletions has. -/
theorem failed_isSome (transcript : List Answered) :
    (failed (TeardownError.mk (deletionFailures transcript)).result).isSome = true ↔
      ∃ answered ∈ transcript, answered.deletionFailure?.isSome = true := by
  have some : (failed (TeardownError.mk (deletionFailures transcript)).result).isSome = true ↔
      deletionFailures transcript ≠ [] := by
    cases deletionFailures transcript with
    | nil => simp [TeardownError.result, failed]
    | cons failure rest => simp [TeardownError.result, failed]
  rw [some, deletionFailures, ne_eq, List.filterMap_eq_nil_iff]
  simp [Option.isSome_iff_ne_none]

/-- What a run does after its teardown. -/
def closing (name : String) (context : Context) (result : Except Error Unit) (converges : Bool)
    (cleaned : Except TeardownError Unit) : Program Report :=
  (tellCleanUp context cleaned).bind fun cleanupError =>
    (conclude name result ⟨begun converges ++ [.cleaningUp]⟩).bind fun history =>
      (Notification.flush context.channel).bind fun _ => .done ⟨history, result, cleanupError⟩

theorem closing_ends (name : String) (context : Context) (result : Except Error Unit)
    (converges : Bool) (cleaned : Except TeardownError Unit) :
    (closing name context result converges cleaned).Ends Action.IsTelling fun report =>
      report =
        ⟨⟨begun converges ++ [.cleaningUp] ++ [verdict result]⟩, result, failed cleaned⟩ := by
  have cleaning : History.current ⟨begun converges ++ [.cleaningUp]⟩ = .cleaningUp := by
    cases converges <;> rfl
  apply (tellCleanUp_ends context cleaned).bind
  rintro _ rfl
  apply (conclude_tells name result cleaning).bind
  rintro _ rfl
  have flushed : (Notification.flush context.channel).Ends Action.IsTelling fun _ => True :=
    Notification.flush_ends (fun _ => trivial) trivial (fun _ => trivial) context.channel
  exact flushed.bind fun _ _ => rfl

/-- The run of a check up to its teardown, and what is done then. -/
def throughTeardown {β : Type} (checker : Checker κ) (context : Context) (workspace : Workspace)
    (next : Except Error Unit → History → Except TeardownError Unit → Program β) : Program β :=
  (Program.announce s!"{checker.name} check start").bind fun _ =>
    ((phases checker context workspace History.start).onCrash (recover workspace)).bind fun found =>
      (advance found.2 .cleaningUp).bind fun history =>
        workspace.deleteAll.bind fun cleaned => next found.1 history cleaned

/-- What comes first is the start, the phases, and one teardown. -/
theorem Phased.throughTeardown_finishes {β : Type}
    {next : Except Error Unit → History → Except TeardownError Unit → Program β}
    (phased : Phased outside rounds checker context workspace (opened checker.name session) result
      converges doings reached) {teardown telling : List Answered}
    {cleaned : Except TeardownError Unit} {cleared after : Session σ} {value : β}
    (tornDown : Session.Finishes outside (reaction outside rounds) rounds workspace.deleteAll
      reached teardown cleaned cleared)
    (closes : Session.Finishes outside (reaction outside rounds) rounds
      (next result ⟨begun converges ++ [.cleaningUp]⟩ cleaned) cleared telling value after) :
    Session.Finishes outside (reaction outside rounds) rounds
      (throughTeardown checker context workspace next) session
      (opening checker.name ++ (doings ++ (teardown ++ telling))) value after := by
  have told : Session.Finishes outside (reaction outside rounds) rounds
      (Program.announce s!"{checker.name} check start") session (opening checker.name) ()
      (opened checker.name session) := .perform rfl (.perform rfl (.done _ _))
  have advanced : advance ⟨begun converges⟩ .cleaningUp =
      .done ⟨begun converges ++ [.cleaningUp]⟩ :=
    advance_of_allows (by cases converges <;> rfl)
  apply told.bind
  apply (phased.finishes.onCrash _).bind
  rw [advanced]
  exact tornDown.bind closes

/-- A run without a watcher tells of its teardown and of its verdict, and hands over. -/
theorem run_eq_throughTeardown (checker : Checker κ) (context : Context) (workspace : Workspace) :
    run checker context workspace false =
      throughTeardown checker context workspace fun result history cleaned =>
        (tellCleanUp context cleaned).bind fun cleanupError =>
          (conclude checker.name result history).bind fun history =>
            (Notification.flush context.channel).bind fun _ =>
              .done ⟨history, result, cleanupError⟩ := by
  rw [run_eq, cleanUp_eq]
  simp only [Program.bind_assoc]
  rfl

/-- The run is its phases, one teardown, and what comes after it. -/
theorem Phased.run_finishes
    (phased : Phased outside rounds checker context workspace (opened checker.name session) result
      converges doings reached) {teardown telling : List Answered}
    {cleaned : Except TeardownError Unit} {cleared after : Session σ} {report : Report}
    (tornDown : Session.Finishes outside (reaction outside rounds) rounds workspace.deleteAll
      reached teardown cleaned cleared)
    (closes : Session.Finishes outside (reaction outside rounds) rounds
      (closing checker.name context result converges cleaned) cleared telling report after) :
    Session.Finishes outside (reaction outside rounds) rounds
      (run checker context workspace false) session
      (opening checker.name ++ (doings ++ (teardown ++ telling))) report after := by
  rw [run_eq_throughTeardown]
  exact phased.throughTeardown_finishes tornDown closes

/-- When the phases of its check have come to a result, the run ends with a report. -/
theorem Phased.reports
    (phased : Phased outside rounds checker context workspace (opened checker.name session) result
      converges doings reached) (spares : checker.SparesRegistry context workspace) :
    ∃ transcript report after,
      Session.Finishes outside (reaction outside rounds) rounds
        (run checker context workspace false) session transcript report after ∧
      Reports outside rounds checker.name workspace result converges doings reached transcript
        report := by
  obtain ⟨teardown, cleared, tornDown, drained⟩ :=
    workspace.deleteAll_finishes outside (reaction outside rounds) rounds reached
  let cleaned := (TeardownError.mk (deletionFailures teardown)).result
  obtain ⟨telling, report, after, closes, same, tells⟩ :=
    (closing_ends checker.name context result converges cleaned).finishes
      (fun _ => Action.isAwait_of_isTelling) outside (reaction outside rounds) rounds cleared
  have openingDrains : drains (opening checker.name) = 0 := rfl
  have tellingDrains : drains telling = 0 := drains_eq_zero fun answered member =>
    Action.isDrain_of_isTelling (tells answered member)
  have drainedOnce : drains (opening checker.name ++ (doings ++ (teardown ++ telling))) =
      drains teardown := by
    simp only [drains_append, openingDrains, phased.undrained spares, tellingDrains,
      Nat.zero_add, Nat.add_zero]
  subst same
  refine ⟨_, _, after, phased.run_finishes tornDown closes, ?_⟩
  exact {
    order := ⟨teardown, telling, cleaned, cleared, by simp, tornDown, tells, failed_isSome teardown⟩
    drains := drainedOnce.trans drained
    history := List.append_assoc ..
    allowed := by
      rw [List.append_assoc]
      exact begun_isChain converges result
    result := rfl }

/-- When both phases of a check return, its run without a watcher executes the first one, the second
one just when the first has succeeded, and then one teardown. It reports every phase and the result
of the phases, beside the failures of its teardown. The result and the history depend on nothing
but the answers to the requests of the two phases. -/
theorem verdict_unmasked (unwatched : session.watcher = none)
    (spares : checker.SparesRegistry context workspace)
    (returns : checker.Returns outside rounds context workspace (opened checker.name session)) :
    ∃ result converges doings reached,
      Phased outside rounds checker context workspace (opened checker.name session) result
        converges doings reached ∧
      ∃ transcript report after,
        execute outside rounds (run checker context workspace false) session =
          (.finished report, after) ∧
        Session.Finishes outside (reaction outside rounds) rounds
          (run checker context workspace false) session transcript report after ∧
        Reports outside rounds checker.name workspace result converges doings reached transcript
          report ∧
        ∀ kind other, checker.AsksOnly kind context workspace → outside.Agree kind other →
          ∃ otherReport otherAfter,
            execute other rounds (run checker context workspace false) session =
              (.finished otherReport, otherAfter) ∧
            otherReport.result = report.result ∧ otherReport.history = report.history := by
  obtain ⟨result, converges, doings, reached, phased⟩ := returns.phased
  obtain ⟨transcript, report, after, finishes, reports⟩ := phased.reports spares
  refine ⟨result, converges, doings, reached, phased, transcript, report, after, finishes.execute,
    finishes, reports, ?_⟩
  intro kind other asks agree
  have quiet : (opened checker.name session).watcher = none := unwatched
  obtain ⟨_, otherReport, otherAfter, otherFinishes, otherReports⟩ :=
    (phased.agree asks agree quiet).reports spares
  refine ⟨otherReport, otherAfter, otherFinishes.execute,
    otherReports.result.trans reports.result.symm, ?_⟩
  have phases := otherReports.history.trans reports.history.symm
  cases histories : otherReport.history
  cases history : report.history
  rw [histories, history] at phases
  exact congrArg History.mk phases

/-- What the check does beside its requests and whatever is answered: it creates a namespace. -/
theorem plain_uses {kind : Action → Prop} (context : Context) (workspace : Workspace)
    (tests : kind .isCancelled) (registers : kind (.registerWorkspace workspace.resource))
    (logs : ∀ line, kind (.log line)) (asks : kind (.ask (.create workspace.object))) :
    (plain.create context workspace).run.Uses kind := by
  have created := (Workspace.createNamespace_ends logs tests registers asks).uses
  exact created.bind fun _ => trivial

/-- The namespace of the run is not deleted, and the run reports what it reports when it is. -/
theorem verdict_unmasked_plain :
    let session : Session Unit := { start := default, outside := () }
    let outcome (deletion : Except Cluster.Error Cluster.Deletion) :=
      execute (grantingOutside deletion) 0 (run plain default plainWorkspace false) session
    ∃ report after, outcome (.error .missingName) = (.finished report, after) ∧
      report.result = .ok () ∧ report.cleanupError.isSome = true ∧
      ∃ otherReport otherAfter, outcome (.ok .deleted) = (.finished otherReport, otherAfter) ∧
        otherReport.result = report.result ∧ otherReport.history = report.history := by
  intro session outcome
  have returns : plain.Returns (grantingOutside (.error .missingName)) 0 default plainWorkspace
      (opened plain.name session) := ⟨.ok (), _, rfl, fun _ _ => ⟨.ok (), _, rfl⟩⟩
  have spares : plain.SparesRegistry default plainWorkspace :=
    ⟨plain_uses _ _ rfl rfl (fun _ => rfl) rfl, fun _ => trivial⟩
  have asks : plain.AsksOnly (fun request => request.deletes = false) default plainWorkspace :=
    ⟨plain_uses _ _ ⟨trivial, nofun⟩ ⟨trivial, nofun⟩ (fun _ => ⟨trivial, nofun⟩) ⟨rfl, nofun⟩,
      fun _ => trivial⟩
  obtain ⟨_, _, _, _, -, _, report, after, executed, -, -, others⟩ :=
    verdict_unmasked rfl spares returns
  refine ⟨report, after, executed, ?_, ?_, others _ _ asks ?_⟩
  · cases executed
    rfl
  · cases executed
    rfl
  · intro request kept state
    cases request with
    | delete resource => cases kept
    | _ => rfl

end Run

end AddonCheck
