import AddonCheck.Invocation
import AddonCheck.Proofs.Plans
import AddonCheck.Proofs.Recording
import AddonCheck.Proofs.Shelf

/-
This file shows that the run of every check follows its plan, whatever it is answered, and that it
reports a success just when the plan has been met to the end.
-/

namespace AddonCheck

open Run

namespace Run

variable {κ : Type} {checker : Checker κ} {context : Context} {workspace : Workspace}
  {agenda : Agenda} {middle : κ → Progress → Prop}

/-- A success is at the end of the plan, and no other result is. A run always has a result. -/
def Judges : Option (Except Error Unit) → Progress → Prop
  | some result, progress => result = .ok () ↔ progress = .towards []
  | none, _ => False

theorem Checker.Pursues.phases_keeps (pursues : checker.Pursues context workspace agenda middle) :
    (phases checker context workspace History.start).Keeps agenda.discipline agenda.start
      fun found? progress => Judges (found?.map Prod.fst) progress := by
  rw [phases_eq]
  apply Program.Keeps.bind pursues.create
  · intro result progress fits
    cases result with
    | error error => exact iff_of_false nofun fits
    | ok created =>
        apply Program.Keeps.bind (pursues.converge created progress fits)
        · intro result progress fits
          cases result with
          | error error => exact iff_of_false nofun fits
          | ok _ => exact iff_of_true rfl fits
        · exact fun _ crashed => crashed
  · exact fun _ crashed => crashed

theorem cleanUp_isAside (context : Context) (workspace : Workspace) :
    (cleanUp context workspace).Ends Action.IsAside fun _ => True :=
  cleanUp_ends (fun _ => trivial) (fun _ => trivial) workspace.deleteAll_isAside trivial context

/-- What comes after the phases of a check is no progress, and it keeps their result. -/
theorem ending_keeps {name : String} {watched : Bool} {found : Except Error Unit × History}
    {progress : Progress} (judges : Judges (some found.1) progress) :
    (ending name context workspace watched found).Keeps agenda.discipline progress
      fun report? progress => Judges (report?.map (·.result)) progress := by
  apply Agenda.keeps_aside (advance_ends (fun _ => trivial) found.2 .cleaningUp)
  intro history
  apply Agenda.keeps_aside (cleanUp_isAside context workspace)
  intro cleanupError
  apply Agenda.keeps_aside
    (conclude_ends (fun _ => trivial) (fun _ => trivial) name found.1 history)
  intro history
  apply Agenda.keeps_aside
    (handOver_ends (fun _ => trivial) trivial (fun _ => rfl) trivial trivial context watched)
  exact fun _ => judges

/-- The run of a check is at the end of its plan just when it reports a success. -/
theorem Checker.Pursues.run_keeps (pursues : checker.Pursues context workspace agenda middle)
    (watched : Bool) :
    (run checker context workspace watched).Keeps agenda.discipline agenda.start
      fun report? progress => Judges (report?.map (·.result)) progress := by
  have watches : (if watched then Program.watch ⟨workspace, context.channel⟩
      else .done ()).Ends Action.IsAside fun _ => True := beginning_ends fun _ => trivial
  rw [run_eq]
  apply Agenda.keeps_aside watches
  intro _
  apply Agenda.keeps_aside (Agenda.announce_isAside _)
  intro _
  have recovered : ((Run.phases checker context workspace History.start).onCrash
      (recover workspace)).Keeps agenda.discipline agenda.start
        fun found? progress => Judges (found?.map Prod.fst) progress := by
    apply pursues.phases_keeps.onCrash
    · exact fun _ _ judges => judges
    · exact fun _ crashed => crashed.elim
  apply recovered.bind
  · exact fun _ _ judges => ending_keeps judges
  · exact fun _ crashed => crashed

end Run

namespace CommandLine.CheckSettings

open Addon

/-- What a check is going to do. -/
def agenda (settings : CheckSettings) (context : Context) (workspace : Workspace) : Agenda :=
  match settings with
  | certManager settings => CertManager.agenda settings context workspace
  | clusterAutoscaler settings => ClusterAutoscaler.agenda settings workspace
  | ingressController settings => IngressController.agenda settings workspace
  | logShipper settings => LogShipper.agenda settings context workspace
  | metricsAgent settings => MetricsAgent.agenda settings

/-- The run of every check keeps to its agenda. -/
theorem runner_keeps (settings : CheckSettings) (context : Context) (workspace : Workspace)
    (watched : Bool) :
    (settings.runner context workspace watched).Keeps
      (settings.agenda context workspace).discipline (settings.agenda context workspace).start
      fun report? progress => Judges (report?.map (·.result)) progress := by
  cases settings with
  | certManager settings => exact (CertManager.checker_pursues settings _ _).run_keeps watched
  | clusterAutoscaler settings =>
      exact (ClusterAutoscaler.checker_pursues settings _ _).run_keeps watched
  | ingressController settings =>
      exact (IngressController.checker_pursues settings _ _).run_keeps watched
  | logShipper settings => exact (LogShipper.checker_pursues settings _ _).run_keeps watched
  | metricsAgent settings => exact (MetricsAgent.checker_pursues settings _ _).run_keeps watched

/-- Whatever it is answered, a run asks to create a prefix of the plan of its check, each object
after the milestones before it, and it ends with a success just when the plan has been met. -/
theorem plan_followed (settings : CheckSettings) {context : Context} {workspace : Workspace}
    {watched : Bool} {exchanges : List Exchange} {last : Program Report}
    (course : (settings.runner context workspace watched).Course exchanges last) :
    ∃ nodes, (settings.agenda context workspace).Follows nodes exchanges ∧
      (∀ report, last = .done report →
        (report.result = .ok () ↔
          Met ((settings.agenda context workspace).milestones nodes) exchanges)) ∧
      (Met ((settings.agenda context workspace).milestones nodes) exchanges →
        last.Ends Action.IsAside fun report => report.result = .ok ()) := by
  let agenda := settings.agenda context workspace
  obtain ⟨progress, kept, tracks⟩ := course.keeps agenda.tracks_stable
    (settings.runner_keeps context workspace watched) agenda.tracks_start
  obtain ⟨nodes, follows, atEnd⟩ := tracks.follows
  refine ⟨nodes, follows, ?_, ?_⟩
  · intro report isLast
    subst isLast
    have judges : Judges (some report.result) progress := kept
    exact judges.trans atEnd
  · intro met
    obtain rfl := atEnd.mpr met
    apply (Agenda.ends_of_keeps kept fun crashed => crashed).mono
    exact fun report judges => judges.mpr rfl

/-- A check of certificates that never waits between two looks at a secret. -/
def eager : CheckSettings := .certManager { certificateName := "sample", secretWait := default }

/-- A run of the eager check to which everything is granted meets the whole plan. -/
theorem plan_followed_eager :
    ∃ exchanges report nodes, (eager.runner default default false).Course exchanges (.done report) ∧
      report.result = .ok () ∧ (eager.agenda default default).Follows nodes exchanges ∧
      Met ((eager.agenda default default).milestones nodes) exchanges := by
  let session : Session (Unit × List Exchange) := { start := default, outside := ((), []) }
  have succeeded : ∃ report after, execute (grantingOutside (.ok .deleted)).recording 1
      (eager.runner default default false) session = (.finished report, after) ∧
        report.result = .ok () := ⟨_, _, rfl, rfl⟩
  obtain ⟨report, after, executed, success⟩ := succeeded
  obtain ⟨exchanges, _, -, course, ended⟩ := Run.execute_course executed
  obtain rfl := ended report rfl
  obtain ⟨nodes, follows, judged, -⟩ := plan_followed eager course
  exact ⟨exchanges, report, nodes, course, success, follows, (judged report rfl).mp success⟩

end CommandLine.CheckSettings

end AddonCheck
