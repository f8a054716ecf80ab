import AddonCheck.Proofs.Kept
import AddonCheck.Proofs.Matching

/-
This file compares the debug run of a check with the run that tears its workspace down. Answered
alike, both do and report the same; the debug run deletes nothing, and its registry tells what it has
left behind.
-/

namespace AddonCheck

open Cluster (Resource)
open Run

/-! ## The two runs of a check -/

namespace Run

variable {κ : Type} {checker : Checker κ} {context : Context} {name : String}

/-- What is done and told beside the phases of a check is nothing that a run depends on. -/
def Idle (action : Action) : Prop := action.isEssential = false

theorem idle_log (line : Log.Line) : Idle (.log line) := rfl

theorem idle_addLine (text : String) : Idle (.addLine text) := rfl

/-- An action of a check that nothing depends on has one answer alone. -/
theorem subsingleton_of_idle {workspace : Workspace} (action : Action)
    (admitted : workspace.Admits action) (idle : action.isEssential = false) :
    Subsingleton action.Answer := by
  have unit : Subsingleton Unit := inferInstance
  cases action with
  | ask request => cases request <;> simp_all [Action.isEssential, Request.isAside,
      Workspace.Admits, Workspace.Besides, Request.IsReading]
  | log line => exact unit
  | registerWorkspace resource => exact unit
  | register resource => exact unit
  | addLine text => exact unit
  | clock => cases idle
  | isCancelled => cases idle
  | pause duration => cases idle
  | await condition => cases idle
  | _ => exact admitted.elim

/-- The teardown of a debug run has nothing to complain about. -/
theorem cleanUp_idle_of_debug (context : Context) {workspace : Workspace}
    (keeps : workspace.debug = true) :
    (cleanUp context workspace).Ends Idle fun cleanupError => cleanupError = none := by
  have told : (tellCleanUp context (.ok ())).Ends Idle fun told => told = none := by
    apply (tellCleanUp_ends context (.ok ())).wider
    intro action telling
    cases action with
    | ask request => cases request <;> first | rfl | exact telling.elim
    | _ => first | rfl | exact telling.elim
  rw [cleanUp_eq]
  apply (Workspace.deleteAll_ends_of_debug idle_log keeps).bind
  rintro _ rfl
  exact told

theorem flush_matches (channel : Notification.Channel) :
    (Notification.flush channel).Matches (fun _ _ => True) (Notification.flush channel) := by
  have flushed : (Notification.flush channel).Ends Idle fun _ => True :=
    Notification.flush_ends idle_log rfl (fun _ => rfl) channel
  exact flushed.matches flushed fun _ _ _ _ => trivial

/-- The hand over of a run depends on the token alone. -/
theorem handOver_matches (context : Context) (watched : Bool) :
    (handOver (context.withDebug true) watched).Matches (fun _ _ => True)
      (handOver (context.withDebug false) watched) := by
  rw [handOver_eq, handOver_eq]
  cases watched with
  | false => exact flush_matches context.channel
  | true =>
      apply Program.Matches.both rfl
      intro (cancelled : Bool)
      cases cancelled with
      | false => exact flush_matches context.channel
      | true => exact .left rfl fun _ => .right rfl fun _ => .done trivial

/-- What is only told of a run is told alike in both of its forms. -/
theorem matches_self_of_told {α : Type} {program : Program α}
    (told : program.Ends (fun action => action.isEssential = false ∧ Subsingleton action.Answer)
      fun _ => True) : program.Matches Eq program :=
  told.matches_self fun _ kind _ => kind.2

/-- The debug run of a check and the run that tears down match: their results and their histories
are the same, and the debug run has no error of its teardown. -/
theorem run_matches (ignores : checker.IgnoresDebug)
    (stays : ∀ debug, checker.StaysIn (context.withDebug debug) ⟨name, debug⟩) (watched : Bool) :
    (run checker (context.withDebug true) ⟨name, true⟩ watched).Matches
      (fun kept cleared => kept.cleanupError = none ∧ cleared.result = kept.result ∧
        cleared.history = kept.history)
      (run checker (context.withDebug false) ⟨name, false⟩ watched) := by
  let told (action : Action) := action.isEssential = false ∧ Subsingleton action.Answer
  have unit : Subsingleton Unit := inferInstance
  have logs (line : Log.Line) : told (.log line) := ⟨rfl, unit⟩
  have adds (text : String) : told (.addLine text) := ⟨rfl, unit⟩
  have watches (debug : Bool) :
      (if watched then Program.watch ⟨⟨name, debug⟩, context.channel⟩ else .done ()).Ends Idle
        fun _ => True := beginning_ends fun _ => rfl
  have samePhases : phases checker (context.withDebug true) ⟨name, true⟩ History.start =
      phases checker (context.withDebug false) ⟨name, false⟩ History.start := by
    simp only [phases_eq, ignores.create, ignores.converge]
  have ends := (stays false).ends
  have phasesMatch := ends.matches_self subsingleton_of_idle
  have clears : (cleanUp (context.withDebug false) ⟨name, false⟩).Ends Idle fun _ => True := by
    apply cleanUp_ends idle_log idle_addLine
    · exact Workspace.deleteAll_ends idle_log (fun _ => rfl) rfl _
    · rfl
  rw [run_eq, run_eq, samePhases, ends.onCrash_eq, ends.onCrash_eq]
  apply ((watches true).matches (watches false) fun _ _ _ _ => trivial).bind
  intro _ _ (_ : True)
  apply (matches_self_of_told (announce_ends logs adds _)).bind
  rintro _ _ rfl
  apply phasesMatch.bind
  rintro ⟨result, history⟩ _ rfl
  apply (matches_self_of_told (advance_ends logs history .cleaningUp)).bind
  rintro history _ rfl
  apply ((cleanUp_idle_of_debug _ rfl).matches clears fun _ _ none _ => none).bind
  intro cleanupError _ (none : cleanupError = none)
  apply (matches_self_of_told (conclude_ends logs adds checker.name result history)).bind
  rintro history _ rfl
  apply (handOver_matches context watched).bind
  intro _ _ _
  exact .done ⟨none, rfl, rfl⟩

end Run

/-! ## The five checks -/

namespace CommandLine.CheckSettings

/-- A new run and its watcher up to some time, in any order of their turns. -/
structure Played (settings : CheckSettings) (context : Context) (workspace : Workspace)
    (watched : Bool) where
  State : Type
  outside : Outside State
  session : Session (State × List Exchange)
  turns : List (Turn Role)
  after : Crew Role (State × List Exchange)
  empty : session.registry = {}
  fresh : session.outside.2 = []
  played : (settings.crew context workspace watched session).plays outside.recording turns =
    some after

namespace Played

variable {settings : CheckSettings} {context : Context} {workspace : Workspace} {watched : Bool}

/-- What the run has met, beside its watcher. -/
def encounters (play : settings.Played context workspace watched) : List Encounter :=
  (settings.crew context workspace watched play.session).encounters play.outside.recording .runner
    play.turns

/-- What the run and its watcher have asked for and been answered. -/
def exchanges (play : settings.Played context workspace watched) : List Exchange :=
  play.after.session.outside.2

/-- Whether the run has nothing left to do. -/
def isOver (play : settings.Played context workspace watched) : Bool :=
  (play.after.programs .runner).isOver

/-- What the run has met leads it to its report. -/
def Reports (play : settings.Played context workspace watched) (report : Report) : Prop :=
  (settings.runner context workspace watched).Journey play.encounters (.done report)

/-- What has been asked for beside deletions and deliveries is what the run has met. -/
theorem asked_eq (play : settings.Played context workspace watched) :
    asked play.exchanges = asked (play.encounters.filterMap Encounter.exchange?) := by
  have asides (thread : Role) (other : thread ≠ .runner) :
      ((settings.crew context workspace watched play.session).programs thread).Uses
        Action.IsAside := by
    cases thread with
    | runner => exact absurd rfl other
    | watcher => exact (interruption_isAside _).uses
  have whole := Crew.plays_asked asides play.played
  have nothing : (settings.crew context workspace watched play.session).session.outside.2 = [] :=
    play.fresh
  rw [nothing] at whole
  exact whole

/-- The run is on its way to a report. -/
theorem journey (play : settings.Played context workspace watched) :
    ∃ left, (settings.runner context workspace watched).Journey play.encounters left ∧
      play.isOver = left.isOver := by
  have mapped : ((settings.crew context workspace watched play.session).programs .runner).Journey
      play.encounters (play.after.programs .runner) := Crew.plays_journey play.played
  obtain ⟨left, journey, same⟩ := mapped.of_map
  refine ⟨left, journey, ?_⟩
  rw [isOver, same]
  cases left <;> rfl

/-- A run that is over has not ended unexpectedly, and it reports what it ends with. -/
theorem reports_of_isOver {kind : Action → Prop} {fit : Report → Prop}
    (play : settings.Played context workspace watched)
    (ends : (settings.runner context workspace watched).Ends kind fit)
    (isOver : play.isOver = true) : ∃ report, play.Reports report ∧ fit report := by
  obtain ⟨left, journey, ended⟩ := play.journey
  have leftEnds := journey.ends ends
  rw [isOver] at ended
  cases left with
  | done report => exact ⟨report, journey, leftEnds⟩
  | crash => exact leftEnds.elim
  | perform action next => cases ended

end Played

/-- The debug run of settings and the run that tears down match. -/
theorem runner_matches (settings : CheckSettings) (context : Context) (watched : Bool) :
    (settings.runner (context.withDebug true) ⟨context.workspaceName, true⟩ watched).Matches
      (fun kept cleared => kept.cleanupError = none ∧ cleared.result = kept.result ∧
        cleared.history = kept.history)
      (settings.runner (context.withDebug false) ⟨context.workspaceName, false⟩ watched) := by
  obtain ⟨κ, checker, runs, ignores, stays⟩ := settings.exists_checker
  rw [runs]
  exact run_matches ignores (fun debug => stays _ _ rfl) watched

/-- What is asked is a prefix when what is essential is one. -/
theorem asked_prefix {first second : List Encounter}
    (shorter : essentials first <+: essentials second) :
    asked (first.filterMap Encounter.exchange?) <+:
      asked (second.filterMap Encounter.exchange?) := by
  rw [← asked_essentials first, ← asked_essentials second]
  exact (shorter.filterMap _).filter _

variable {settings : CheckSettings} {context : Context} {watched : Bool}

/-- Answered alike to everything but deletions and deliveries, a debug run and a run that tears down
ask for the same. When they are over they have come to the same result through the same phases. The
debug run deletes nothing, has no cleanup error, and leaves registered what it has requested. -/
theorem debug_run_agrees
    (kept : settings.Played (context.withDebug true) ⟨context.workspaceName, true⟩ watched)
    (cleared : settings.Played (context.withDebug false) ⟨context.workspaceName, false⟩ watched)
    (alike : AnsweredAlike (essentials kept.encounters) (essentials cleared.encounters)) :
    (asked kept.exchanges <+: asked cleared.exchanges ∨
        asked cleared.exchanges <+: asked kept.exchanges) ∧
      (kept.isOver = true → cleared.isOver = true →
        asked kept.exchanges = asked cleared.exchanges ∧
          ∃ report other, kept.Reports report ∧ cleared.Reports other ∧
            other.result = report.result ∧ other.history = report.history) ∧
      (∀ exchange ∈ kept.exchanges, exchange.1.deletes = false) ∧
      (kept.isOver = true → ∃ report, kept.Reports report ∧ report.cleanupError = none ∧
        kept.after.session.registry =
          Registry.ofHandles (Workspace.resource ⟨context.workspaceName, true⟩)
            (requested kept.exchanges)) := by
  obtain ⟨left, keptJourney, -⟩ := kept.journey
  obtain ⟨leftToo, clearedJourney, -⟩ := cleared.journey
  obtain ⟨κ, checker, runs, -, stays⟩ := settings.exists_checker
  have known : checker.StaysIn (context.withDebug true) ⟨context.workspaceName, true⟩ :=
    stays _ _ rfl
  have keptPlayed := kept.played
  rw [crew_eq runs] at keptPlayed
  have agree := (settings.runner_matches context watched).agree keptJourney clearedJourney alike
  have tearsDown : (Workspace.deleteAll ⟨context.workspaceName, false⟩).Ends (fun _ => True)
      fun _ => True :=
    Workspace.deleteAll_ends (fun _ => trivial) (fun _ => trivial) trivial _
  have clears := cleanUp_ends (fun _ => trivial) (fun _ => trivial) tearsDown trivial
    (context.withDebug false)
  have keeps : (cleanUp (context.withDebug true) ⟨context.workspaceName, true⟩).Ends
      (fun _ => True) fun cleanupError => cleanupError = none :=
    (cleanUp_idle_of_debug _ rfl).wider fun _ _ => trivial
  have keptEnds := settings.runner_ends rfl (fun _ _ => trivial) keeps (fun _ => trivial) trivial
    trivial (fun _ => trivial) trivial watched
  have clearedEnds := settings.runner_ends rfl (fun _ _ => trivial) clears (fun _ => trivial)
    trivial trivial (fun _ => trivial) trivial watched
  refine ⟨?_, ?_, ?_, ?_⟩
  · rw [kept.asked_eq, cleared.asked_eq]
    exact agree.1.imp asked_prefix asked_prefix
  · intro keptOver clearedOver
    obtain ⟨report, reports, -⟩ := kept.reports_of_isOver keptEnds keptOver
    obtain ⟨other, reportsToo, -⟩ := cleared.reports_of_isOver clearedEnds clearedOver
    have both := (settings.runner_matches context watched).agree reports reportsToo alike
    obtain ⟨same, -, result, history⟩ := both.2 report other rfl rfl
    rw [kept.asked_eq, cleared.asked_eq, ← asked_essentials, same, asked_essentials]
    exact ⟨rfl, report, other, reports, reportsToo, result, history⟩
  · exact known.undeleting kept.fresh keptPlayed rfl
  · intro keptOver
    obtain ⟨report, reports, none⟩ := kept.reports_of_isOver keptEnds keptOver
    obtain ⟨duty, registered, settled⟩ := known.registry_eq rfl kept.empty kept.fresh keptPlayed
    rw [settled keptOver, List.append_nil] at registered
    exact ⟨report, reports, none, registered⟩

/-- The run is cancelled when it has created its namespace. It tears down as far as it does so, and
then waits for its watcher. -/
def eagerTurns (closing : Nat) : List (Turn Role) :=
  List.replicate 8 (.act .runner) ++ .cancel :: List.replicate closing (.act .runner) ++
    List.replicate 6 (.act .watcher) ++ [.act .runner]

/-- The eager check in a workspace, on a cluster that grants everything but deletions. -/
def playEager (debug : Bool) (closing : Nat)
    (plays : ((eager.crew (aheadContext.withDebug debug) ⟨aheadContext.workspaceName, debug⟩ true
      { start := default, outside := ((), []) }).plays
        (grantingOutside (.error .missingName)).recording (eagerTurns closing)).isSome = true) :
    eager.Played (aheadContext.withDebug debug) ⟨aheadContext.workspaceName, debug⟩ true where
  State := Unit
  outside := grantingOutside (.error .missingName)
  session := { start := default, outside := ((), []) }
  turns := eagerTurns closing
  after := Option.get _ plays
  empty := rfl
  fresh := rfl
  played := (Option.some_get _).symm

/-- What the run depends on in both of its forms. -/
def metEager : List Encounter :=
  [.did .isCancelled false, .did (.ask (.create plainWorkspace.object)) (.ok .created),
    .did .isCancelled true, .did .isCancelled true]

/-- The cancelled run asks for the same in both of its forms, although the deletion of its namespace
fails. The debug run leaves the namespace registered. -/
theorem debug_run_agrees_eager :
    let kept := playEager true 10 rfl
    let cleared := playEager false 12 rfl
    asked kept.exchanges = asked cleared.exchanges ∧
      (∀ exchange ∈ kept.exchanges, exchange.1.deletes = false) ∧
      ∃ report, kept.Reports report ∧ report.cleanupError = none ∧
        kept.after.session.registry =
          Registry.ofHandles plainWorkspace.resource (requested kept.exchanges) := by
  intro kept cleared
  have met : essentials kept.encounters = metEager := by
    simp only [kept, Played.encounters, playEager]
    rfl
  have metToo : essentials cleared.encounters = metEager := by
    simp only [cleared, Played.encounters, playEager]
    rfl
  have alike : AnsweredAlike (essentials kept.encounters) (essentials cleared.encounters) := by
    rw [met, metToo]
    exact .refl _
  have keptOver : kept.isOver = true := by decide +kernel
  have clearedOver : cleared.isOver = true := by decide +kernel
  obtain ⟨-, ended, spared, left⟩ := debug_run_agrees kept cleared alike
  exact ⟨(ended keptOver clearedOver).1, spared, left keptOver⟩

end CommandLine.CheckSettings

end AddonCheck
