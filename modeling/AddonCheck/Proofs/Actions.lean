import AddonCheck.Proofs.Discipline
import AddonCheck.Run.Interruption
import AddonCheck.Run.Report

/-
This file spells out the operations of a run as programs: which action comes first, and how its
answer decides on the rest. What is proved about an operation starts from its equation here.
-/

namespace AddonCheck

open Cluster (Resource)

namespace Workspace

theorem send_run (resource : Resource) (object : Cluster.Object) :
    (send resource object).run =
      .perform (.ask (.create object)) fun (answer : Except Cluster.Error Cluster.Creation) =>
        match answer with
        | .ok .created => .perform (.log (Log.info "Created resource")) fun _ => .done (.ok ())
        | .ok .alreadyExists =>
            .perform (.log (Log.warn "Resource already exists, reusing it")) fun _ =>
              .done (.ok ())
        | .error error => .done (.error (.refused resource error)) := by
  apply congrArg (Program.perform (.ask (.create object)))
  funext answer
  rcases answer with error | (_ | _) <;> rfl

theorem awaitReadiness_run (resource : Resource) (readiness : Readiness) :
    (awaitReadiness resource readiness).run =
      match readiness.condition? resource with
      | none => .done (.ok ())
      | some condition =>
          .perform (.await condition) fun (answer : Except Poll.Error Unit) =>
            match answer with
            | .ok _ => .done (.ok ())
            | .error error => .done (.error (.notReady resource error)) := by
  unfold awaitReadiness
  cases readiness.condition? resource with
  | none => rfl
  | some condition =>
      apply congrArg (Program.perform (.await condition))
      funext answer
      cases answer <;> rfl

/-- The token is tested, the namespace is registered, and only then its creation is sent. -/
theorem createNamespace_run (workspace : Workspace) :
    workspace.createNamespace.run =
      .perform .isCancelled fun (cancelled : Bool) =>
        if cancelled then .done (.error (.cancelled workspace.resource))
        else
          .perform (.registerWorkspace workspace.resource) fun _ =>
            .perform (.log (Log.info "Creating Namespace")) fun _ =>
              (send workspace.resource workspace.object).run := by
  apply congrArg (Program.perform .isCancelled)
  funext cancelled
  cases cancelled <;> rfl

/-- The token is tested, the object is registered, its creation is sent, and a creation that is
accepted is followed by a wait. -/
theorem create_run (workspace : Workspace) (spec : Spec) :
    (workspace.create spec).run =
      match spec.resource workspace with
      | .error error => .done (.error error)
      | .ok resource =>
          .perform .isCancelled fun (cancelled : Bool) =>
            if cancelled then .done (.error (.cancelled resource))
            else
              .perform (.register resource) fun _ =>
                .perform (.log (Log.info "Creating resource")) fun _ =>
                  (send resource (spec.placed workspace)).run.bind fun result =>
                    match result with
                    | .error error => .done (.error error)
                    | .ok _ => (awaitReadiness resource spec.readiness).run := by
  unfold create
  cases spec.resource workspace with
  | error error => rfl
  | ok resource =>
      apply congrArg (Program.perform .isCancelled)
      funext cancelled
      cases cancelled with
      | true => rfl
      | false =>
          refine congrArg (Program.perform (.register resource)) (funext fun _ => ?_)
          refine congrArg (Program.perform (.log _)) (funext fun _ => ?_)
          apply congrArg (Program.bind (send resource (spec.placed workspace)).run)
          funext result
          cases result <;> rfl

theorem createAll_run (workspace : Workspace) (spec : Spec) (rest : List Spec) :
    (workspace.createAll (spec :: rest)).run =
      (workspace.create spec).run.bind fun result =>
        match result with
        | .error error => .done (.error error)
        | .ok _ => (workspace.createAll rest).run := by
  apply congrArg (Program.bind (workspace.create spec).run)
  funext result
  cases result <;> rfl

theorem delete_eq (resource : Resource) :
    delete resource =
      .perform (.log (Log.info "Deleting resource")) fun _ =>
        .perform (.ask (.delete resource)) fun (answer : Except Cluster.Error Cluster.Deletion) =>
          match answer with
          | .ok .deleted =>
              .perform (.log (Log.info "Deleted resource")) fun _ => .done none
          | .ok .notFound => .done none
          | .error error =>
              .perform (.log (Log.error s!"Error deleting resource: {error.message}")) fun _ =>
                .done (some ⟨resource, error⟩) := by
  refine congrArg (Program.perform (.log _)) (funext fun _ => ?_)
  apply congrArg (Program.perform (.ask (.delete resource)))
  funext answer
  rcases answer with error | (_ | _) <;> rfl

theorem deleteEach_cons (resource : Resource) (rest : List Resource) :
    deleteEach (resource :: rest) =
      (delete resource).bind fun failure =>
        (deleteEach rest).bind fun failures => .done (failure.toList ++ failures) := rfl

/-- Unless the run is a debug run, the registry is emptied and what it held is deleted. -/
theorem deleteAll_eq (workspace : Workspace) :
    workspace.deleteAll =
      if workspace.debug = true then
        .perform (.log (Log.info "Skip Delete Resources")) fun _ => .done (.ok ())
      else
        .perform .drain fun (resources : List Resource) =>
          (deleteEach resources).bind fun failures =>
            .done (TeardownError.mk failures).result := rfl

end Workspace

namespace Notification

theorem flush_eq (channel : Channel) :
    flush channel =
      .perform .takeLines fun (message : String) =>
        if message = "" then .done ()
        else
          match channel with
          | .logOnly =>
              .perform (.log (Log.info
                s!"Notification not sent, no transport configured:\n{message}")) fun _ => .done ()
          | .transport =>
              .perform (.ask (.deliver message)) fun (answer : Except Error Unit) =>
                match answer with
                | .ok _ => .perform (.log (Log.info "Notification sent")) fun _ => .done ()
                | .error error =>
                    .perform (.log (Log.error
                      s!"Error sending notification: {error.message}")) fun _ => .done () := by
  refine congrArg (Program.perform .takeLines) (funext fun (message : String) => ?_)
  refine ite_congr rfl (fun _ => rfl) fun _ => ?_
  cases channel with
  | logOnly => rfl
  | transport =>
      apply congrArg (Program.perform (.ask (.deliver message)))
      funext answer
      cases answer <;> rfl

end Notification

namespace Run

/-- The two phases of a check are allowed in a run that has just begun. -/
theorem phases_eq {κ : Type} (checker : Checker κ) (context : Context) (workspace : Workspace) :
    phases checker context workspace History.start =
      (checker.create context workspace).run.bind fun result =>
        match result with
        | .error error => .done (.error error, ⟨[.initialized, .resourcesCreating]⟩)
        | .ok created =>
            (checker.converge context workspace created).run.bind fun result =>
              .done (result, ⟨[.initialized, .resourcesCreating, .converging]⟩) := by
  apply congrArg (Program.bind (checker.create context workspace).run)
  funext result
  cases result <;> rfl

theorem recover_eq (workspace : Workspace) :
    recover workspace =
      .perform (.log (Log.warn "Check stopped unexpectedly, cleaning up resources")) fun _ =>
        workspace.deleteAll.bind fun result =>
          match result with
          | .ok _ => .done ()
          | .error error =>
              .perform (.log (Log.error s!"Error Delete Resources: {error.message}")) fun _ =>
                .done () := by
  refine congrArg (Program.perform (.log _)) (funext fun _ => ?_)
  apply congrArg (Program.bind workspace.deleteAll)
  funext result
  cases result <;> rfl

theorem cleanUp_eq (context : Context) (workspace : Workspace) :
    cleanUp context workspace =
      workspace.deleteAll.bind fun result =>
        match result with
        | .ok _ =>
            if context.settings.debug then
              .perform .isRegistryEmpty fun (empty : Bool) =>
                if empty then .done none
                else (Program.announce "Skip Delete Resources").bind fun _ => .done none
            else .done none
        | .error error =>
            (Program.announce s!"Error Delete Resources: {error.message}").bind fun _ =>
              .done (some error) := by
  apply congrArg (Program.bind workspace.deleteAll)
  funext result
  cases result with
  | error error => rfl
  | ok _ =>
      refine ite_congr rfl (fun _ => ?_) fun _ => rfl
      refine congrArg (Program.perform .isRegistryEmpty) (funext fun (empty : Bool) => ?_)
      cases empty <;> rfl

theorem handOver_eq (context : Context) (watched : Bool) :
    handOver context watched =
      if watched then
        .perform .isCancelled fun (cancelled : Bool) =>
          if cancelled then .perform .joinWatcher fun _ => .done ()
          else Notification.flush context.channel
      else Notification.flush context.channel := by
  cases watched with
  | false => rfl
  | true =>
      refine congrArg (Program.perform .isCancelled) (funext fun (cancelled : Bool) => ?_)
      cases cancelled <;> rfl

theorem run_eq {κ : Type} (checker : Checker κ) (context : Context) (workspace : Workspace)
    (watched : Bool) :
    run checker context workspace watched =
      (if watched then Program.watch ⟨workspace, context.channel⟩ else .done ()).bind fun _ =>
        (Program.announce s!"{checker.name} check start").bind fun _ =>
          ((phases checker context workspace History.start).onCrash
              (recover workspace)).bind fun found =>
            (advance found.2 .cleaningUp).bind fun history =>
              (cleanUp context workspace).bind fun cleanupError =>
                (conclude checker.name found.1 history).bind fun history =>
                  (handOver context watched).bind fun _ =>
                    .done ⟨history, found.1, cleanupError⟩ := by
  cases watched <;> rfl

/-- What a run does after the phases of its check. -/
def ending (name : String) (context : Context) (workspace : Workspace) (watched : Bool)
    (found : Except Error Unit × History) : Program Report :=
  (advance found.2 .cleaningUp).bind fun history =>
    (cleanUp context workspace).bind fun cleanupError =>
      (conclude name found.1 history).bind fun history =>
        (handOver context watched).bind fun _ => .done ⟨history, found.1, cleanupError⟩

/-- How a watcher tells that its teardown has failed. -/
def tellTeardown : Except Workspace.TeardownError Unit → Program Unit
  | .ok _ => .done ()
  | .error error =>
      .perform (.log (Log.error s!"Error Delete Resources: {error.message}")) fun _ =>
        .perform (.addLine s!"Error Delete Resources: {error.message}") fun _ => .done ()

theorem interruption_eq (watcher : Watcher) :
    interruption watcher =
      .perform (.log (Log.warn "Interrupted, cleaning up resources")) fun _ =>
        .perform (.addLine "Interrupted, cleaning up resources") fun _ =>
          watcher.workspace.deleteAll.bind fun result =>
            (tellTeardown result).bind fun _ =>
              (Notification.flush watcher.channel).bind fun _ =>
                .perform .exit fun _ => .done () := by
  refine congrArg (Program.perform (.log _)) (funext fun _ => ?_)
  refine congrArg (Program.perform (.addLine _)) (funext fun _ => ?_)
  apply congrArg (Program.bind watcher.workspace.deleteAll)
  funext result
  cases result <;> rfl

/-- A run begins with its watcher, if it has one. -/
theorem beginning_ends {kind : Action → Prop} {watcher : Watcher} {watched : Bool}
    (watches : watched = true → kind (.watch watcher)) :
    (if watched then Program.watch watcher else .done ()).Ends kind fun _ => True := by
  cases watched with
  | true => exact ⟨watches rfl, fun _ => trivial⟩
  | false => trivial

/-! What is told about a run is logged and added to the notification. -/

section

variable {kind : Action → Prop} (logs : ∀ line, kind (.log line))
  (adds : ∀ text, kind (.addLine text))

include logs

theorem advance_ends (history : History) (target : Phase) :
    (advance history target).Ends kind fun _ => True := by
  unfold advance
  cases history.advance target with
  | ok history => trivial
  | error error => exact ⟨logs _, fun _ => trivial⟩

include adds

theorem announce_ends (text : String) : (Program.announce text).Ends kind fun _ => True :=
  ⟨logs _, fun _ => ⟨adds _, fun _ => trivial⟩⟩

theorem tellTeardown_ends (result : Except Workspace.TeardownError Unit) :
    (tellTeardown result).Ends kind fun _ => True := by
  cases result with
  | ok _ => trivial
  | error error => exact ⟨logs _, fun _ => ⟨adds _, fun _ => trivial⟩⟩

theorem conclude_ends (name : String) (result : Except Error Unit) (history : History) :
    (conclude name result history).Ends kind fun _ => True := by
  cases result with
  | ok _ =>
      exact (advance_ends logs history .succeeded).bind fun _ _ =>
        (announce_ends logs adds _).bind fun _ _ => trivial
  | error error =>
      exact (advance_ends logs history .failed).bind fun _ _ =>
        ⟨logs _, fun _ => ⟨adds _, fun _ => trivial⟩⟩

end

end Run

/-! A creation is registered, sent and awaited. -/

namespace Workspace

theorem awaitReadiness_ends {kind : Action → Prop} {resource : Resource} {readiness : Readiness}
    (awaits : ∀ condition, readiness.condition? resource = some condition →
      kind (.await condition)) :
    (awaitReadiness resource readiness).run.Ends kind fun _ => True := by
  rw [awaitReadiness_run]
  split
  · trivial
  · next condition found =>
      refine ⟨awaits condition found, fun answer => ?_⟩
      cases answer <;> trivial

section

variable {kind : Action → Prop} (logs : ∀ line, kind (.log line))

include logs

theorem send_ends {resource : Resource} {object : Cluster.Object}
    (asks : kind (.ask (.create object))) :
    (send resource object).run.Ends kind fun _ => True := by
  rw [send_run]
  refine ⟨asks, fun answer => ?_⟩
  rcases answer with error | (_ | _)
  · trivial
  · exact ⟨logs _, fun _ => trivial⟩
  · exact ⟨logs _, fun _ => trivial⟩

variable (tests : kind .isCancelled)

include tests

theorem createNamespace_ends {workspace : Workspace}
    (registers : kind (.registerWorkspace workspace.resource))
    (asks : kind (.ask (.create workspace.object))) :
    workspace.createNamespace.run.Ends kind fun _ => True := by
  rw [createNamespace_run]
  refine ⟨tests, fun (cancelled : Bool) => ?_⟩
  cases cancelled with
  | true => trivial
  | false => exact ⟨registers, fun _ => ⟨logs _, fun _ => send_ends logs asks⟩⟩

theorem create_ends {workspace : Workspace} {spec : Spec}
    (registers : ∀ resource, spec.resource workspace = .ok resource → kind (.register resource))
    (asks : ∀ resource, spec.resource workspace = .ok resource →
      kind (.ask (.create (spec.placed workspace))))
    (awaits : ∀ resource condition, spec.resource workspace = .ok resource →
      spec.readiness.condition? resource = some condition → kind (.await condition)) :
    (workspace.create spec).run.Ends kind fun _ => True := by
  rw [create_run]
  split
  · trivial
  · next resource found =>
      refine ⟨tests, fun (cancelled : Bool) => ?_⟩
      cases cancelled with
      | true => trivial
      | false =>
          refine ⟨registers resource found, fun _ => ⟨logs _, fun _ => ?_⟩⟩
          apply (send_ends logs (asks resource found)).bind
          intro result _
          cases result with
          | error error => trivial
          | ok _ => exact awaitReadiness_ends fun condition => awaits resource condition found

end

end Workspace

/-! A teardown empties the registry and deletes, and a notification is taken and delivered. -/

section

variable {kind : Action → Prop} (logs : ∀ line, kind (.log line))

include logs

theorem Workspace.deleteEach_ends (deletes : ∀ resource, kind (.ask (.delete resource)))
    (resources : List Resource) : (deleteEach resources).Ends kind fun _ => True := by
  induction resources with
  | nil => trivial
  | cons resource rest inductionHypothesis =>
      have deleted : (delete resource).Ends kind fun _ => True := by
        rw [delete_eq]
        refine ⟨logs _, fun _ => ⟨deletes resource, fun answer => ?_⟩⟩
        rcases answer with error | (_ | _)
        · exact ⟨logs _, fun _ => trivial⟩
        · exact ⟨logs _, fun _ => trivial⟩
        · trivial
      rw [deleteEach_cons]
      exact deleted.bind fun _ _ => inductionHypothesis.bind fun _ _ => trivial

theorem Workspace.deleteAll_ends (deletes : ∀ resource, kind (.ask (.delete resource)))
    (drains : kind .drain) (workspace : Workspace) :
    workspace.deleteAll.Ends kind fun _ => True := by
  rw [deleteAll_eq]
  split
  · exact ⟨logs _, fun _ => trivial⟩
  · exact ⟨drains, fun resources =>
      (deleteEach_ends logs deletes resources).bind fun _ _ => trivial⟩

/-- A teardown that deletes nothing only says so. -/
theorem Workspace.deleteAll_ends_of_debug {workspace : Workspace}
    (keeps : workspace.debug = true) : workspace.deleteAll.Ends kind fun result =>
      result = .ok () := by
  rw [deleteAll_eq, if_pos keeps]
  exact ⟨logs _, fun _ => rfl⟩

theorem Notification.flush_ends (takes : kind .takeLines)
    (delivers : ∀ message, kind (.ask (.deliver message))) (channel : Channel) :
    (flush channel).Ends kind fun _ => True := by
  rw [flush_eq]
  refine ⟨takes, fun (message : String) => ?_⟩
  dsimp only
  split
  · trivial
  · cases channel with
    | logOnly => exact ⟨logs _, fun _ => trivial⟩
    | transport =>
        refine ⟨delivers message, fun answer => ?_⟩
        cases answer <;> exact ⟨logs _, fun _ => trivial⟩

theorem Run.handOver_ends (takes : kind .takeLines)
    (delivers : ∀ message, kind (.ask (.deliver message))) (tests : kind .isCancelled)
    (joins : kind .joinWatcher) (context : Context) (watched : Bool) :
    (handOver context watched).Ends kind fun _ => True := by
  have flushed := Notification.flush_ends logs takes delivers context.channel
  rw [handOver_eq]
  cases watched with
  | false => exact flushed
  | true =>
      refine ⟨tests, fun (cancelled : Bool) => ?_⟩
      cases cancelled with
      | true => exact ⟨joins, fun _ => trivial⟩
      | false => exact flushed

namespace Run

variable {workspace : Workspace}

theorem recover_ends (tearsDown : workspace.deleteAll.Ends kind fun _ => True) :
    (recover workspace).Ends kind fun _ => True := by
  rw [recover_eq]
  refine ⟨logs _, fun _ => ?_⟩
  apply tearsDown.bind
  intro result _
  cases result with
  | ok _ => trivial
  | error error => exact ⟨logs _, fun _ => trivial⟩

variable (adds : ∀ text, kind (.addLine text))

include adds

/-- What comes after the phases keeps their result. What it reports of the cleanup is what the cleanup
ends with. -/
theorem ending_ends {context : Context} {fit : Option Workspace.TeardownError → Prop}
    (cleans : (cleanUp context workspace).Ends kind fit) (takes : kind .takeLines)
    (delivers : ∀ message, kind (.ask (.deliver message))) (tests : kind .isCancelled)
    (joins : kind .joinWatcher) (name : String) (watched : Bool)
    (found : Except Error Unit × History) :
    (ending name context workspace watched found).Ends kind fun report =>
      report.result = found.1 ∧ fit report.cleanupError := by
  apply (advance_ends logs found.2 .cleaningUp).bind
  intro history _
  apply cleans.bind
  intro cleanupError fits
  apply (conclude_ends logs adds name found.1 history).bind
  intro history _
  apply (handOver_ends logs takes delivers tests joins context watched).bind
  exact fun _ _ => ⟨rfl, fits⟩

/-- The run of a check does not end unexpectedly when the phases of the check do not. -/
theorem run_ends {κ : Type} {checker : Checker κ} {context : Context} {watched : Bool}
    {fit : Option Workspace.TeardownError → Prop}
    (ends : (phases checker context workspace History.start).Ends kind fun _ => True)
    (cleans : (cleanUp context workspace).Ends kind fit)
    (watches : watched = true → kind (.watch ⟨workspace, context.channel⟩))
    (takes : kind .takeLines) (delivers : ∀ message, kind (.ask (.deliver message)))
    (tests : kind .isCancelled) (joins : kind .joinWatcher) :
    (run checker context workspace watched).Ends kind fun report => fit report.cleanupError := by
  rw [run_eq, ends.onCrash_eq]
  apply (beginning_ends watches).bind
  intro _ _
  apply (announce_ends logs adds _).bind
  intro _ _
  apply ends.bind
  intro found _
  have ended := ending_ends logs adds cleans takes delivers tests joins checker.name watched found
  exact ended.mono fun _ fits => fits.2

variable (tearsDown : workspace.deleteAll.Ends kind fun _ => True)

include tearsDown

theorem cleanUp_ends (looks : kind .isRegistryEmpty) (context : Context) :
    (cleanUp context workspace).Ends kind fun _ => True := by
  rw [cleanUp_eq]
  apply tearsDown.bind
  intro result _
  cases result with
  | error error => exact (announce_ends logs adds _).bind fun _ _ => trivial
  | ok _ =>
      dsimp only
      split
      · refine ⟨looks, fun (empty : Bool) => ?_⟩
        cases empty with
        | true => trivial
        | false => exact (announce_ends logs adds _).bind fun _ _ => trivial
      · trivial

theorem interruption_ends (takes : kind .takeLines)
    (delivers : ∀ message, kind (.ask (.deliver message))) (exits : kind .exit)
    (channel : Notification.Channel) :
    (interruption ⟨workspace, channel⟩).Ends kind fun _ => True := by
  rw [interruption_eq]
  refine ⟨logs _, fun _ => ⟨adds _, fun _ => ?_⟩⟩
  apply tearsDown.bind
  intro result _
  apply (tellTeardown_ends logs adds result).bind
  intro _ _
  apply (Notification.flush_ends logs takes delivers channel).bind
  exact fun _ _ => ⟨exits, fun _ => trivial⟩

end Run

end

/-- What both phases of a check are made of makes up the two together. -/
theorem Run.phases_uses {kind : Action → Prop} {κ : Type} {checker : Checker κ} {context : Context}
    {workspace : Workspace} (creates : (checker.create context workspace).run.Uses kind)
    (converges : ∀ created, (checker.converge context workspace created).run.Uses kind) :
    (phases checker context workspace History.start).Uses kind := by
  rw [phases_eq]
  apply creates.bind
  intro result
  cases result with
  | error error => trivial
  | ok created => exact (converges created).bind fun _ => trivial

/-- The phases of a check end when both of them do. -/
theorem Run.phases_ends {kind : Action → Prop} {κ : Type} {checker : Checker κ} {context : Context}
    {workspace : Workspace} (creates : (checker.create context workspace).run.Ends kind fun _ => True)
    (converges : ∀ created,
      (checker.converge context workspace created).run.Ends kind fun _ => True) :
    (phases checker context workspace History.start).Ends kind fun _ => True := by
  rw [phases_eq]
  apply creates.bind
  intro result _
  cases result with
  | error error => trivial
  | ok created => exact (converges created).bind fun _ _ => trivial

end AddonCheck
