import AddonCheck.Proofs.Addressed
import AddonCheck.Proofs.Calm
import AddonCheck.Proofs.OneText
import AddonCheck.Proofs.Unset

/-
This file shows what becomes of an invocation that nobody interrupts. The first step of the
preparation that fails is all that is told of it, and the cluster is asked for nothing; otherwise
the result of the check decides on the exit code.
-/

namespace AddonCheck

namespace Notification

/-! ## Where the notification goes -/

/-- The channel of a run. A transport needs a chat room and a client for it. -/
def Channel.ofEnvironment (environment : Environment) (client : Except Error Unit) : Channel :=
  match ChatRoom.ofEnvironment environment, client with
  | some _, .ok _ => .transport
  | _, _ => .logOnly

/-- What is logged when there is a chat room and no client for it. -/
def refusals (environment : Environment) (client : Except Error Unit) : List Log.Line :=
  match ChatRoom.ofEnvironment environment, client with
  | some _, .error error => [Log.warn s!"Notifications only go to the log: {error.message}"]
  | _, _ => []

section

variable {σ : Type} (environment : Environment) (client : Except Error Unit)

/-- The channel is found, and nothing but the log changes. -/
theorem connect_finishes (outside : Outside σ) (reaction : Session.Reaction σ) (rounds : Nat)
    (session : Session σ) :
    ∃ transcript, Session.Finishes outside reaction rounds (connect environment client) session
      transcript (Channel.ofEnvironment environment client)
      (session.addLog (refusals environment client)) ∧ takings transcript = [] := by
  have unlogged (channel : Channel) : Session.Finishes outside reaction rounds (.done channel)
      session [] channel (session.addLog []) := by
    have same : session.addLog [] = session := by simp [Session.addLog]
    rw [same]
    exact .done channel session
  unfold connect Channel.ofEnvironment refusals
  cases ChatRoom.ofEnvironment environment with
  | none => exact ⟨_, unlogged _, rfl⟩
  | some chatRoom =>
      cases client with
      | ok _ => exact ⟨_, unlogged _, rfl⟩
      | error error => exact ⟨_, .perform rfl (.done _ _), rfl⟩

theorem connect_ends {kind : Action → Prop} (logs : ∀ line, kind (.log line)) :
    (connect environment client).Ends kind fun _ => True := by
  unfold connect
  cases ChatRoom.ofEnvironment environment with
  | none => trivial
  | some chatRoom =>
      cases client with
      | ok _ => trivial
      | error error => exact ⟨logs _, fun _ => trivial⟩

end

theorem getLast?_clock (clock : Calendar.Clock) :
    clock.text.getLast? = some (Digits.digit clock.second) := by
  simp [Calendar.Clock.text, Digits.fixed]

/-- The text that opens a notification ends in a digit. -/
theorem getLast?_startText (cluster : String) (now : Instant) :
    (startText cluster now).toList.getLast? ≠ some '\n' := by
  have digits : ∀ value < 10, Nat.digitChar value ≠ '\n' := by decide
  have unbroken (n : Nat) : Digits.digit n ≠ '\n' := digits (n % 10) (Nat.mod_lt n (by decide))
  have parts : startText cluster now =
      "kibertas start in " ++ cluster ++ " at " ++ Calendar.Tokyo.text now := rfl
  rw [parts, String.toList_append, List.getLast?_append, Calendar.Tokyo.text, String.toList_ofList,
    List.getLast?_append, List.getLast?_cons, getLast?_clock]
  exact fun same => unbroken _ (Option.some.inj same)

end Notification

namespace CommandLine

open Addon Run

/-! ## The steps of the preparation -/

/-- The peer that a check needs beside the cluster, whatever its settings are. -/
def Check.peer (setup : Setup) : Check → Except String Unit
  | .ingressController _ _ => setup.resolver.mapError Dns.Error.message
  | .logShipper => setup.bucket.mapError Bucket.Error.message
  | .metricsAgent => setup.metrics.mapError Metrics.Error.message
  | _ => .ok ()

/-- The steps of the preparation in their order. -/
def steps [Duration.Reader] (setup : Setup) (environment : Environment) (run : RunSettings)
    (check : Check) : List (Except String Unit) :=
  [setup.signals.mapError fun reason => s!"could not set signal handler: {reason}",
    setup.workers.mapError fun reason => s!"could not start the runtime: {reason}",
    ((CheckSettings.ofEnvironment environment run check).mapError SettingsError.message).map
      fun _ => (),
    setup.cluster.mapError Cluster.Error.message,
    check.peer setup]

/-- Why the first step that fails does so. -/
def firstFailure : List (Except String Unit) → Option String
  | [] => none
  | .error reason :: _ => some reason
  | .ok _ :: rest => firstFailure rest

section

variable {setup : Setup} {environment : Environment} {run : RunSettings} {check : Check}

/-- A value that is made of another one is there only with it. -/
theorem exists_of_map_eq_ok {ε α β : Type} {result : Except ε α} {change : α → β} {value : β}
    (found : result.map change = .ok value) : ∃ source, value = change source := by
  cases result with
  | error error => cases found
  | ok source =>
      cases found
      exact ⟨source, rfl⟩

variable [Duration.Reader]

/-- Which peer a check needs does not depend on its settings. -/
theorem CheckSettings.peer_of_ofEnvironment {settings : CheckSettings}
    (found : ofEnvironment environment run check = .ok settings) :
    settings.peer setup = check.peer setup := by
  cases check with
  | certManager =>
      obtain ⟨_, rfl⟩ := exists_of_map_eq_ok found
      rfl
  | clusterAutoscaler =>
      obtain ⟨_, rfl⟩ := exists_of_map_eq_ok found
      rfl
  | ingressController className skipsLookup =>
      obtain ⟨_, rfl⟩ := exists_of_map_eq_ok found
      rfl
  | logShipper =>
      obtain ⟨_, rfl⟩ := exists_of_map_eq_ok found
      rfl
  | metricsAgent =>
      obtain ⟨_, rfl⟩ := exists_of_map_eq_ok found
      rfl

/-- The first step that fails is reported. When none does, the check is run with its settings. -/
theorem prepare_eq (setup : Setup) (environment : Environment) (run : RunSettings) (check : Check) :
    match firstFailure (steps setup environment run check) with
    | some reason => prepare setup environment run check = .error (.precondition reason)
    | none => ∃ settings, CheckSettings.ofEnvironment environment run check = .ok settings ∧
        prepare setup environment run check = .ok settings.runner := by
  unfold steps prepare
  cases setup.signals with
  | error reason => rfl
  | ok _ =>
      cases setup.workers with
      | error reason => rfl
      | ok _ =>
          cases found : CheckSettings.ofEnvironment environment run check with
          | error error => rfl
          | ok settings =>
              cases setup.cluster with
              | error error => rfl
              | ok _ =>
                  have same : settings.peer setup = check.peer setup :=
                    CheckSettings.peer_of_ofEnvironment found
                  rw [← same]
                  cases peer : settings.peer setup with
                  | error reason =>
                      change Except.mapError Failure.precondition
                        (settings.peer setup >>= fun _ => pure settings.runner) = _
                      rw [peer]
                      rfl
                  | ok _ =>
                      refine ⟨settings, rfl, ?_⟩
                      change Except.mapError Failure.precondition
                        (settings.peer setup >>= fun _ => pure settings.runner) = _
                      rw [peer]
                      rfl

theorem prepare_of_failure {reason : String}
    (failed : firstFailure (steps setup environment run check) = some reason) :
    prepare setup environment run check = .error (.precondition reason) := by
  have decided := prepare_eq setup environment run check
  rwa [failed] at decided

theorem prepare_of_success (succeeded : firstFailure (steps setup environment run check) = none) :
    ∃ settings, CheckSettings.ofEnvironment environment run check = .ok settings ∧
      prepare setup environment run check = .ok settings.runner := by
  have decided := prepare_eq setup environment run check
  rwa [succeeded] at decided

/-- Settings that cannot be read are reported whatever the peers would say. -/
theorem prepare_of_invalid {error : SettingsError}
    (invalid : CheckSettings.ofEnvironment environment run check = .error error) {other : Setup}
    (signals : other.signals = setup.signals) (workers : other.workers = setup.workers) :
    prepare other environment run check = prepare setup environment run check := by
  unfold prepare
  rw [signals, workers, invalid]
  cases setup.signals with
  | error reason => rfl
  | ok _ =>
      cases setup.workers with
      | error reason => rfl
      | ok _ => rfl

end

/-! ## The result of a check -/

section

variable {σ : Type} {outside : Outside σ} {reaction : Session.Reaction σ} {rounds : Nat}
  {context : Context} {workspace : Workspace} {session after : Session σ} {report : Report}

/-- A run begins with its phases when nothing but its start has been told. -/
theorem run_begins {κ : Type} {checker : Checker κ} (stays : checker.StaysIn context workspace)
    (uncancelled : session.isCancelled = false) :
    ∃ opened, session.OnlyTold opened ∧
      Session.execute outside reaction rounds (Run.run checker context workspace true) session =
        Session.execute outside reaction rounds
          ((Run.phases checker context workspace History.start).bind
            (ending checker.name context workspace true)) opened := by
  let watching := session.watch reaction ⟨workspace, context.channel⟩
  have watches : watching = { session with watcher := some ⟨workspace, context.channel⟩ } :=
    if_neg (by simp [uncancelled])
  let start := s!"{checker.name} check start"
  let opened : Session σ :=
    { watching with
      log := watching.log ++ [Log.info start]
      gathered := watching.gathered ++ Notification.line start }
  refine ⟨opened, ?_, ?_⟩
  · simp only [Session.OnlyTold, opened, watches]
  · rw [run_eq, stays.ends.onCrash_eq]
    rfl

/-- What comes after the phases keeps their result. -/
theorem result_eq_of_ending {name : String} {watched : Bool} {found : Except Run.Error Unit × History}
    (executed : Session.execute outside reaction rounds (ending name context workspace watched found)
      session = (.finished report, after)) : report.result = found.1 := by
  have tearsDown : workspace.deleteAll.Ends (fun _ => True) fun _ => True :=
    Workspace.deleteAll_ends (fun _ => trivial) (fun _ => trivial) trivial workspace
  have cleans := cleanUp_ends (fun _ => trivial) (fun _ => trivial) tearsDown trivial context
  have ends := ending_ends (fun _ => trivial) (fun _ => trivial) cleans trivial (fun _ => trivial)
    trivial trivial name watched found
  rcases ends.execute outside reaction rounds session with unsettled | ⟨value, finished, same, -⟩
  · rw [executed] at unsettled
    cases unsettled
  · rw [executed] at finished
    cases finished
    exact same

/-- What the run of a check reports is the result of its phases. -/
theorem result_eq_of_run {κ : Type} {checker : Checker κ}
    (stays : checker.StaysIn context workspace) (uncancelled : session.isCancelled = false)
    (executed : Session.execute outside reaction rounds (Run.run checker context workspace true)
      session = (.finished report, after)) :
    ∃ opened history reached, session.OnlyTold opened ∧
      Session.execute outside reaction rounds
        (Run.phases checker context workspace History.start) opened =
          (.finished (report.result, history), reached) := by
  obtain ⟨opened, idle, begins⟩ := run_begins stays uncancelled
  rw [begins] at executed
  obtain ⟨⟨result, history⟩, reached, phases, rest⟩ := Session.execute_bind_eq_finished executed
  obtain rfl : report.result = result := result_eq_of_ending rest
  exact ⟨opened, history, reached, idle, phases⟩

end

/-! ## The program of an invocation -/

namespace Invocation

/-- How the process ends when its check has been run. -/
def leave (report : Report) : Program Nat :=
  (match report.cleanupError with
    | some error => Program.log (Log.warn s!"Check finished with cleanup errors: {error.message}")
    | none => .done ()).bind fun _ =>
      match report.result with
      | .ok _ => .done 0
      | .error error => .perform (.log (Log.error s!"error: {error.message}")) fun _ => .done 1

/-- The result of the check decides on the exit code, and the cleanup does not. -/
theorem leave_ends {kind : Action → Prop} (logs : ∀ line, kind (.log line)) (report : Report) :
    (leave report).Ends kind fun code => (code = 0 ↔ report.result = .ok ()) ∧
      (code = 1 ↔ ∃ error, report.result = .error error) := by
  obtain ⟨history, result, cleanupError⟩ := report
  have told : (match cleanupError with
      | some error =>
          Program.log (Log.warn s!"Check finished with cleanup errors: {error.message}")
      | none => .done ()).Ends kind fun _ => True := by
    cases cleanupError with
    | none => trivial
    | some error => exact ⟨logs _, fun _ => trivial⟩
  apply told.bind
  intro _ _
  cases result with
  | ok _ => exact ⟨iff_of_true rfl rfl, iff_of_false nofun nofun⟩
  | error error =>
      exact ⟨logs _, fun _ => ⟨iff_of_false nofun nofun, iff_of_true rfl ⟨error, rfl⟩⟩⟩

/-- What the run of an invocation knows. -/
def context (invocation : Invocation) (setup : Setup) (environment : Environment)
    (choices : List Nat) (named started : Instant) : Context where
  workspaceName := Workspace.nameAt invocation.check.namespaceStart named choices
  settings := invocation.runSettings environment
  channel := Notification.Channel.ofEnvironment environment setup.transport
  startedAt := started

/-- How the namespace of a run is told. -/
def whereabouts (invocation : Invocation) (context : Context) : String :=
  s!"{invocation.check.name} check application Namespace: {context.workspaceName}"

variable [Duration.Reader] (invocation : Invocation) (choices : List Nat)

/-- What follows when the channel is known. -/
def afterConnecting (setup : Setup) (environment : Environment)
    (channel : Notification.Channel) : Program Nat :=
  .perform .clock fun (now : Instant) =>
    .perform (.addLine (Notification.startText
        (invocation.runSettings environment).clusterName now)) fun _ =>
      match prepare setup environment (invocation.runSettings environment) invocation.check with
      | .ok runner =>
          .perform .clock fun (named : Instant) =>
            .perform .clock fun (started : Instant) =>
              let context :=
                { invocation.context setup environment choices named started with channel }
              (Program.announce (invocation.whereabouts context)).bind fun _ =>
                (runner context ⟨context.workspaceName, context.settings.debug⟩ true).bind leave
      | .error failure =>
          .perform (.log (Log.error failure.message)) fun _ =>
            .perform (.addLine s!"Error: {failure.message}") fun _ =>
              (Notification.flush channel).bind fun _ =>
                .perform (.log (Log.error s!"error: {failure.message}")) fun _ =>
                  .done failure.exitCode

theorem program_eq (setup : Setup) (environment : Environment) :
    invocation.program setup environment choices =
      .perform (.log (Log.info s!"Starting {invocation.check.name} check")) fun _ =>
        (Notification.connect environment setup.transport).bind
          (invocation.afterConnecting choices setup environment) := by
  refine congrArg (Program.perform _) (funext fun _ => ?_)
  change ((Notification.connect environment setup.transport).bind _).bind _ =
    (Notification.connect environment setup.transport).bind _
  rw [Program.bind_assoc]
  refine congrArg (Program.bind _) (funext fun channel => ?_)
  refine congrArg (Program.perform .clock) (funext fun (now : Instant) => ?_)
  refine congrArg (Program.perform _) (funext fun _ => ?_)
  cases prepare setup environment (invocation.runSettings environment) invocation.check with
  | error failure =>
      refine congrArg (Program.perform _) (funext fun _ => ?_)
      refine congrArg (Program.perform _) (funext fun _ => ?_)
      exact Program.bind_assoc (Notification.flush _) _ _
  | ok runner =>
      refine congrArg (Program.perform .clock) (funext fun (named : Instant) => ?_)
      refine congrArg (Program.perform .clock) (funext fun (started : Instant) => ?_)
      refine congrArg (Program.perform _) (funext fun _ => ?_)
      refine congrArg (Program.perform _) (funext fun _ => ?_)
      change ((runner _ _ true).bind _).bind _ = (runner _ _ true).bind leave
      rw [Program.bind_assoc]
      apply congrArg (Program.bind (runner _ _ true))
      funext report
      obtain ⟨history, result, cleanupError⟩ := report
      cases cleanupError <;> cases result <;> rfl

/-- No program of an invocation ends unexpectedly, cancels its run, or tells its process to end. -/
theorem program_ends (setup : Setup) (environment : Environment) :
    (invocation.program setup environment choices).Ends Action.IsCalm fun _ => True := by
  have logs (line : Log.Line) : (Action.log line).IsCalm := trivial
  have adds (text : String) : (Action.addLine text).IsCalm := trivial
  rw [program_eq]
  refine ⟨trivial, fun _ => (Notification.connect_ends _ _ logs).bind fun channel _ => ?_⟩
  refine ⟨trivial, fun (now : Instant) => ⟨trivial, fun _ => ?_⟩⟩
  cases first : firstFailure
      (steps setup environment (invocation.runSettings environment) invocation.check) with
  | some reason =>
      rw [prepare_of_failure first]
      refine ⟨trivial, fun _ => ⟨trivial, fun _ => ?_⟩⟩
      apply (Notification.flush_ends logs trivial (fun _ => trivial) _).bind
      exact fun _ _ => ⟨trivial, fun _ => trivial⟩
  | none =>
      obtain ⟨settings, -, prepared⟩ := prepare_of_success first
      rw [prepared]
      refine ⟨trivial, fun (named : Instant) => ⟨trivial, fun (started : Instant) => ?_⟩⟩
      let context := { invocation.context setup environment choices named started with channel }
      let workspace : Workspace := ⟨context.workspaceName, context.settings.debug⟩
      have calm (action : Action) (admitted : workspace.Admits action) : action.IsCalm := by
        cases action with
        | cancel => exact admitted.elim
        | exit => exact admitted.elim
        | _ => trivial
      have tearsDown : workspace.deleteAll.Ends Action.IsCalm fun _ => True :=
        Workspace.deleteAll_ends logs (fun _ => trivial) trivial workspace
      have cleans := cleanUp_ends logs adds tearsDown trivial context
      have runs := settings.runner_ends rfl calm cleans adds trivial trivial (fun _ => trivial)
        trivial true
      apply (announce_ends logs adds _).bind
      intro _ _
      apply runs.bind
      exact fun report _ => (leave_ends logs report).mono fun _ _ => trivial

end Invocation

/-! ## What becomes of an invocation -/

/-- What is told of a run whose preparation fails: a line that it has started, and a line that tells
why it goes no further. -/
def refusalText (cluster reason : String) (now : Instant) : String :=
  let text := s!"kibertas start in {cluster} at {Calendar.Tokyo.text now}" ++ "\n" ++
    s!"Error: failed to start the check: {reason}"
  text ++ if text.toList.getLast? = some '\n' then "" else "\n"

theorem lines_eq_refusalText (cluster reason : String) (now : Instant) :
    Notification.lines [Notification.startText cluster now,
      s!"Error: {(Failure.precondition reason).message}"] = refusalText cluster reason now := by
  let greeting := Notification.startText cluster now
  let error := "Error: failed to start the check: " ++ reason
  have failure : s!"Error: {(Failure.precondition reason).message}" = error := by
    have merged : "Error: " ++ "failed to start the check: " =
        "Error: failed to start the check: " := by decide
    change "Error: " ++ ("failed to start the check: " ++ reason) = error
    rw [← String.append_assoc, merged]
  have nonempty : error.toList ≠ [] := by simp [error]
  have last : (greeting ++ "\n" ++ error).toList.getLast? = error.toList.getLast? := by
    rw [String.toList_append, List.getLast?_append_of_ne_nil _ nonempty]
  have first : Notification.line greeting = greeting ++ "\n" := by
    rw [Notification.line_eq, if_neg (Notification.getLast?_startText cluster now)]
  rw [failure]
  change Notification.line greeting ++ (Notification.line error ++ "") =
    greeting ++ "\n" ++ error ++
      if (greeting ++ "\n" ++ error).toList.getLast? = some '\n' then "" else "\n"
  rw [first, last, Notification.line_eq, String.append_empty, ← String.append_assoc]

section

variable {σ : Type} {outside : Outside σ}

/-- A session in which nothing has happened. -/
def freshSession (start : Instant) (state : σ) : Session (σ × List Exchange) :=
  { start := start, outside := (state, []) }

/-- The process ends with the code of a failed precondition. It tells one text, and it asks for
nothing but the delivery of this text, which is logged when there is no transport. -/
def Refuses (outside : Outside σ) (rounds : Nat) (program : Program Nat)
    (session : Session (σ × List Exchange)) (channel : Notification.Channel) (text : String) :
    Prop :=
  ∃ transcript after exchanges,
    execute outside.recording rounds program session = (.finished 69, after) ∧
    exitCodeOf (.finished 69) after = 69 ∧
    Session.Finishes outside.recording (reaction outside.recording rounds) rounds program session
      transcript 69 after ∧
    takings transcript = [text] ∧ session.Records exchanges after ∧
    exchanges.map (·.1) = deliveriesTo channel text ∧
    (channel = .logOnly → undelivered text ∈ after.log)

/-- The process ends when the run of its check does, and not unexpectedly. The result of the phases
of the check, which are run before anything has been asked, decides on the exit code. -/
def Concludes (outside : Outside σ) (rounds : Nat) (program : Program Nat)
    (session : Session (σ × List Exchange)) (phases : Program (Except Run.Error Unit × History)) :
    Outcome Report → Prop
  | .finished report =>
      ∃ opened history reached code after,
        session.OnlyTold opened ∧
        execute outside.recording rounds phases opened =
          (.finished (report.result, history), reached) ∧
        execute outside.recording rounds program session = (.finished code, after) ∧
        exitCodeOf (.finished code) after = code ∧
        (code = 0 ↔ report.result = .ok ()) ∧ (code = 1 ↔ ∃ error, report.result = .error error)
  | .unsettled => (execute outside.recording rounds program session).1 = .unsettled
  | .crashed => False

/-- The check of the settings is run before anything has been asked, and its phases delete nothing.
They alone decide on how the process ends. -/
def FollowsCheck (outside : Outside σ) (rounds : Nat) (program : Program Nat)
    (session : Session (σ × List Exchange)) (settings : CheckSettings) (context : Context) : Prop :=
  let workspace : Workspace := ⟨context.workspaceName, context.settings.debug⟩
  ∃ (κ : Type) (checker : Checker κ) (begun : Session (σ × List Exchange)),
    settings.runner = Run.run checker ∧
    (phases checker context workspace History.start).Uses
      (Action.AsksOnly fun request => request.deletes = false) ∧
    session.OnlyTold begun ∧
    Concludes outside rounds program session (phases checker context workspace History.start)
      (execute outside.recording rounds (settings.runner context workspace true) begun).1

variable [Duration.Reader]

/-- When no step fails, the check is run when nothing but the namespace has been told. -/
theorem program_begins {invocation : Invocation} {settings : CheckSettings} (outside : Outside σ)
    (rounds : Nat) (start : Instant) (state : σ) (choices : List Nat)
    (prepared : prepare setup environment (invocation.runSettings environment) invocation.check =
      .ok settings.runner) :
    let context := invocation.context setup environment choices (start.after 0) (start.after 0)
    ∃ begun, (freshSession start state).OnlyTold begun ∧
      execute outside.recording rounds (invocation.program setup environment choices)
          (freshSession start state) =
        execute outside.recording rounds
          ((settings.runner context ⟨context.workspaceName, context.settings.debug⟩ true).bind
            Invocation.leave) begun := by
  intro context
  let opened := (freshSession start state).addLog
    [Log.info s!"Starting {invocation.check.name} check"]
  obtain ⟨silent, connected, -⟩ := Notification.connect_finishes environment setup.transport
    outside.recording (reaction outside.recording rounds) rounds opened
  let greeting := Notification.startText (invocation.runSettings environment).clusterName
    ((freshSession start state).start.after 0)
  let connecting := opened.addLog (Notification.refusals environment setup.transport)
  let begun : Session (σ × List Exchange) :=
    { connecting with
      log := connecting.log ++ [Log.info (invocation.whereabouts context)]
      gathered := "" ++ Notification.line greeting ++
        Notification.line (invocation.whereabouts context) }
  refine ⟨begun, rfl, ?_⟩
  rw [invocation.program_eq]
  change Session.execute outside.recording (reaction outside.recording rounds) rounds
    ((Notification.connect environment setup.transport).bind _) opened = _
  rw [Session.execute_bind, connected.execute]
  simp only [Invocation.afterConnecting, prepared]
  rfl

omit [Duration.Reader] in
theorem recording_isSteady (steady : outside.IsSteady) : outside.recording.IsSteady :=
  fun request state => steady request state.1

variable (steady : outside.IsSteady) (rounds : Nat) (start : Instant) (state : σ)
  (invocation : Invocation) (setup : Setup) (environment : Environment) (choices : List Nat)

include steady

/-- A process that nobody interrupts ends with the code that its program has found. -/
theorem exitCodeOf_of_steady {code : Nat} {after : Session (σ × List Exchange)}
    (executed : execute outside.recording rounds
      (invocation.program setup environment choices) (freshSession start state) =
        (.finished code, after)) : exitCodeOf (.finished code) after = code := by
  have fresh : (freshSession start state).Calm := ⟨rfl, rfl⟩
  have calm : (execute outside.recording rounds
      (invocation.program setup environment choices) (freshSession start state)).2.Calm :=
    fresh.execute (recording_isSteady steady)
      (invocation.program_ends choices setup environment).uses
  rw [executed] at calm
  rw [exitCodeOf, calm.running]
  rfl

/-- The first step that fails is all that is told, and nothing is asked for. -/
theorem refuses {reason : String} (failed : firstFailure
      (steps setup environment (invocation.runSettings environment) invocation.check) =
        some reason) :
    Refuses outside rounds (invocation.program setup environment choices)
      (freshSession start state)
      (Notification.Channel.ofEnvironment environment setup.transport)
      (refusalText (invocation.runSettings environment).clusterName reason (start.after 0)) := by
  let failure := Failure.precondition reason
  let channel := Notification.Channel.ofEnvironment environment setup.transport
  let greeting := Notification.startText (invocation.runSettings environment).clusterName
    ((freshSession start state).start.after 0)
  let opened := (freshSession start state).addLog
    [Log.info s!"Starting {invocation.check.name} check"]
  obtain ⟨silent, connected, untaken⟩ := Notification.connect_finishes environment setup.transport
    outside.recording (reaction outside.recording rounds) rounds opened
  let connecting := opened.addLog (Notification.refusals environment setup.transport)
  let told : Session (σ × List Exchange) :=
    { connecting with
      log := connecting.log ++ [Log.error failure.message]
      gathered := "" ++ Notification.line greeting ++
        Notification.line s!"Error: {failure.message}" }
  have gathered : told.gathered =
      refusalText (invocation.runSettings environment).clusterName reason (start.after 0) := by
    rw [← lines_eq_refusalText]
    simp [told, Notification.lines, greeting, failure, freshSession]
  have nonempty : told.gathered ≠ "" := by
    simp [told, Notification.line_ne_empty]
  obtain ⟨handing, handed, exchanges, flushed, taken, recorded, delivered, -, logged⟩ :=
    flush_finishes outside (reaction outside.recording rounds) rounds channel
      (rfl : told.watcher = none) nonempty
  have leaves : Session.Finishes outside.recording (reaction outside.recording rounds) rounds
      ((Notification.flush channel).bind fun _ =>
        .perform (.log (Log.error s!"error: {failure.message}")) fun _ => .done failure.exitCode)
      told (handing ++ [⟨.log (Log.error s!"error: {failure.message}"), ()⟩]) 69
      (handed.addLog [Log.error s!"error: {failure.message}"]) :=
    flushed.bind (.perform rfl (.done _ _))
  let farewell := Log.error s!"error: {failure.message}"
  let telling : List Answered :=
    [⟨.clock, (freshSession start state).start.after 0⟩, ⟨.addLine greeting, ()⟩,
      ⟨.log (Log.error failure.message), ()⟩, ⟨.addLine s!"Error: {failure.message}", ()⟩]
  have refused : Session.Finishes outside.recording (reaction outside.recording rounds) rounds
      (invocation.afterConnecting choices setup environment channel) connecting
      (telling ++ (handing ++ [⟨.log farewell, ()⟩])) 69 (handed.addLog [farewell]) := by
    unfold Invocation.afterConnecting
    rw [prepare_of_failure failed]
    exact .perform rfl (.perform rfl (.perform rfl (.perform rfl leaves)))
  have finishes : Session.Finishes outside.recording (reaction outside.recording rounds) rounds
      (invocation.program setup environment choices) (freshSession start state)
      (⟨.log (Log.info s!"Starting {invocation.check.name} check"), ()⟩ ::
        (silent ++ (telling ++ (handing ++ [⟨.log farewell, ()⟩])))) 69
      (handed.addLog [farewell]) := by
    rw [invocation.program_eq]
    exact .perform rfl (connected.bind refused)
  have executed := finishes.execute
  have same := exitCodeOf_of_steady steady rounds start state invocation setup environment choices
    executed
  rw [gathered] at taken delivered logged
  refine ⟨_, _, exchanges, executed, same, finishes, ?_, recorded, delivered, fun unsent => ?_⟩
  · change takings (silent ++ (telling ++ (handing ++ [⟨.log farewell, ()⟩]))) = _
    rw [takings_append, takings_append, takings_append, untaken, taken]
    rfl
  · exact List.mem_append_left _ (logged unsent)

/-- The process ends as the run of its check does. -/
theorem concludes {κ : Type} {checker : Checker κ} {context : Context} {workspace : Workspace}
    {begun : Session (σ × List Exchange)} (stays : checker.StaysIn context workspace)
    (idle : (freshSession start state).OnlyTold begun)
    (begins : execute outside.recording rounds (invocation.program setup environment choices)
        (freshSession start state) =
      execute outside.recording rounds
        ((Run.run checker context workspace true).bind Invocation.leave) begun) :
    Concludes outside rounds (invocation.program setup environment choices)
      (freshSession start state) (phases checker context workspace History.start)
      (execute outside.recording rounds (Run.run checker context workspace true) begun).1 := by
  unfold execute at begins ⊢
  rw [Session.execute_bind] at begins
  rcases ran : Session.execute outside.recording (reaction outside.recording rounds) rounds
      (Run.run checker context workspace true) begun with ⟨report | _ | _, ended⟩
  · rw [ran] at begins
    have uncancelled : begun.isCancelled = false := congrArg Session.isCancelled idle
    obtain ⟨opened, history, reached, idleToo, judged⟩ := result_eq_of_run stays uncancelled ran
    have leaves : (Invocation.leave report).Ends (fun action => action.IsAwait = false) _ :=
      Invocation.leave_ends (fun _ => rfl) report
    obtain ⟨_, code, after, left, verdict, -⟩ := leaves.finishes (fun _ prompt => prompt)
      outside.recording (reaction outside.recording rounds) rounds ended
    have executed : execute outside.recording rounds
        (invocation.program setup environment choices) (freshSession start state) =
          (.finished code, after) := begins.trans left.execute
    exact ⟨opened, history, reached, code, after, idle.trans idleToo, judged, executed,
      exitCodeOf_of_steady steady rounds start state invocation setup environment choices executed,
      verdict⟩
  · rw [ran] at begins
    have ends := (invocation.program_ends choices setup environment).execute outside.recording
      (reaction outside.recording rounds) rounds (freshSession start state)
    rw [begins] at ends
    rcases ends with unsettled | ⟨value, finished, -⟩
    · cases unsettled
    · cases finished
  · rw [ran] at begins
    exact congrArg Prod.fst begins

/-- When no step fails, the process follows the check of the settings. -/
theorem follows_check (succeeded : firstFailure
      (steps setup environment (invocation.runSettings environment) invocation.check) = none) :
    ∃ settings, CheckSettings.ofEnvironment environment (invocation.runSettings environment)
        invocation.check = .ok settings ∧
      FollowsCheck outside rounds (invocation.program setup environment choices)
        (freshSession start state) settings
        (invocation.context setup environment choices (start.after 0) (start.after 0)) := by
  obtain ⟨settings, found, prepared⟩ := prepare_of_success succeeded
  obtain ⟨κ, checker, runs, -, stays⟩ := settings.exists_checker
  let context := invocation.context setup environment choices (start.after 0) (start.after 0)
  let workspace : Workspace := ⟨context.workspaceName, context.settings.debug⟩
  have staying := stays context workspace rfl
  have deletesNothing : (phases checker context workspace History.start).Uses
      (Action.AsksOnly fun request => request.deletes = false) :=
    staying.ends.uses.mono fun _ admitted =>
      Workspace.Admits.asksOnly (fun _ _ spares => spares) admitted
  obtain ⟨begun, idle, begins⟩ := program_begins outside rounds start state choices prepared
  refine ⟨settings, found, κ, checker, begun, runs, deletesNothing, idle, ?_⟩
  rw [runs] at begins ⊢
  exact concludes steady rounds start state invocation setup environment choices staying idle begins

/-- An invocation that nobody interrupts is refused when a step of its preparation fails, and
follows its check otherwise. Settings that cannot be read are reported whatever the cluster and the
peers would say. -/
theorem preparation_decides :
    (∀ reason, firstFailure
        (steps setup environment (invocation.runSettings environment) invocation.check) =
          some reason →
      Refuses outside rounds (invocation.program setup environment choices)
        (freshSession start state)
        (Notification.Channel.ofEnvironment environment setup.transport)
        (refusalText (invocation.runSettings environment).clusterName reason (start.after 0))) ∧
    (firstFailure (steps setup environment (invocation.runSettings environment)
        invocation.check) = none →
      ∃ settings, CheckSettings.ofEnvironment environment (invocation.runSettings environment)
          invocation.check = .ok settings ∧
        FollowsCheck outside rounds (invocation.program setup environment choices)
          (freshSession start state) settings
          (invocation.context setup environment choices (start.after 0) (start.after 0))) ∧
    ∀ error, CheckSettings.ofEnvironment environment (invocation.runSettings environment)
        invocation.check = .error error →
      (setup.signals = .ok () → setup.workers = .ok () → firstFailure (steps setup environment
        (invocation.runSettings environment) invocation.check) = some error.message) ∧
      ∀ other : Setup, other.signals = setup.signals → other.workers = setup.workers →
        other.transport = setup.transport →
        invocation.program other environment choices =
          invocation.program setup environment choices := by
  refine ⟨fun reason failed => refuses steady rounds start state invocation setup environment
      choices failed,
    follows_check steady rounds start state invocation setup environment choices, ?_⟩
  intro error invalid
  constructor
  · intro signals workers
    rw [steps, signals, workers, invalid]
    rfl
  · intro other signals workers transport
    rw [invocation.program_eq, invocation.program_eq, transport]
    have prepared := prepare_of_invalid invalid signals workers
    unfold Invocation.afterConnecting Invocation.context
    rw [prepared, transport]

end

/-- The check of certificates, as it is when nothing is said about it. -/
def certificates : Invocation :=
  { check := .certManager, debug := false, timeout := 20, level := default }

/-- A cluster that cannot be reached is told once, in the chat room, or in the log when there is no
client for the room. A check succeeds although nothing can be deleted. A timeout that cannot be read
is reported before the cluster is. -/
theorem preparation_decides_certificates :
    letI := twoMinutes
    let outside := grantingOutside (.error .missingName)
    let unreachable : Setup := { Setup.complete with cluster := .error (.client "no route") }
    let clientless : Setup := { unreachable with transport := .error (.build "no roots") }
    let chatting := Environment.ofPairs [("CHATWORK_API_TOKEN", "t"), ("CHATWORK_ROOM_ID", "1")]
    let misspelt := Environment.ofPairs [("SECRET_WAIT_TIMEOUT", "soon")]
    let program (setup : Setup) (environment : Environment) :=
      certificates.program setup environment []
    let text := "kibertas start in unknown at 1970-01-01 09:00:00\n" ++
      "Error: failed to start the check: the kube client returned an error: `no route`\n"
    outside.IsSteady ∧
    Refuses outside 0 (program unreachable chatting) (freshSession default ()) .transport text ∧
    Refuses outside 0 (program clientless chatting) (freshSession default ()) .logOnly text ∧
    (∃ settings, FollowsCheck outside 1 (program .complete .empty) (freshSession default ())
      settings (certificates.context .complete .empty [] (Instant.after default 0)
        (Instant.after default 0))) ∧
    (execute outside.recording 1 (program .complete .empty) (freshSession default ())).1 =
      .finished 0 ∧
    (∃ reason : String, firstFailure
        (steps unreachable misspelt (certificates.runSettings misspelt) .certManager) =
      some s!"invalid duration in `SECRET_WAIT_TIMEOUT`: {reason}") ∧
    program unreachable misspelt = program .complete misspelt := by
  let this := twoMinutes
  intro outside unreachable clientless chatting misspelt program text
  have steady : outside.IsSteady := by
    intro request state
    cases request <;> rfl
  let missing := (Cluster.Error.client "no route").message
  have literal : refusalText (certificates.runSettings chatting).clusterName missing
      (Instant.after default 0) = text := by decide +kernel
  have told := (preparation_decides steady 0 default () certificates unreachable chatting []).1
    missing rfl
  have logged := (preparation_decides steady 0 default () certificates clientless chatting []).1
    missing rfl
  rw [literal] at told logged
  obtain ⟨settings, -, follows⟩ :=
    (preparation_decides steady 1 default () certificates .complete .empty []).2.1 rfl
  have invalid : CheckSettings.ofEnvironment misspelt (certificates.runSettings misspelt)
      .certManager = .error (.invalidDuration "SECRET_WAIT_TIMEOUT" "soon") := by decide
  obtain ⟨first, others⟩ :=
    (preparation_decides steady 0 default () certificates unreachable misspelt []).2.2 _ invalid
  exact ⟨steady, told, logged, ⟨settings, follows⟩, rfl, ⟨"soon", first rfl rfl⟩,
    (others .complete rfl rfl rfl).symm⟩

end CommandLine

end AddonCheck
