import AddonCheck.Invocation
import AddonCheck.Proofs.Ownership
import AddonCheck.Proofs.Plans

/-
This file shows that every one of the five checks stays in its workspace, when the context of the
run names the same namespace.
-/

namespace AddonCheck

open Cluster Run Workspace

namespace Workspace.Spec

variable {workspace : Workspace} {kind : Kind} {metadata : Metadata}

/-- An object of a placed kind that names no namespace is created in that of the workspace. -/
theorem ofWritten_inside (placed : kind ∈ Kind.placed) (free : metadata.namespaceName = none)
    (written : Json) (readiness : Readiness) (resource : Resource)
    (found : ((ofWritten kind metadata written).withReadiness readiness).resource workspace =
      .ok resource) : workspace.Contains resource := by
  obtain ⟨name, namespaceName, labels, annotations, others⟩ := metadata
  cases free
  cases name with
  | none => cases found
  | some name =>
      cases found
      exact ⟨placed, rfl⟩

/-- An object of a placed kind that names the namespace of the workspace is created there. -/
theorem named_inside {name : String} {data : Json} {readiness : Readiness}
    (placed : kind ∈ Kind.placed) (resource : Resource)
    (found : Spec.resource workspace ⟨Object.named kind name workspace.name data, readiness⟩ =
      .ok resource) : workspace.Contains resource := by
  cases found
  exact ⟨placed, rfl⟩

end Workspace.Spec

namespace Addon

open Run.Checking.StaysIn

variable {context : Context} {workspace : Workspace}

theorem CertManager.checker_staysIn (settings : Settings)
    (same : context.workspaceName = workspace.name) :
    (checker settings).StaysIn context workspace where
  create := by
    change Checking.StaysIn workspace (create settings context workspace)
    unfold create
    rw [same]
    apply namespaceCreated.andThen
    intro _
    apply announce
    apply (created (Spec.named_inside (by decide))).andThen
    intro _
    apply announce
    exact created (Spec.named_inside (by decide))
  converge := by
    intro _
    change Checking.StaysIn workspace (converge settings context workspace)
    unfold converge
    rw [same]
    apply announce
    apply (created (Spec.named_inside (by decide))).andThen
    intro _
    exact announced _

theorem ClusterAutoscaler.checker_staysIn (settings : Settings) :
    (checker settings).StaysIn context workspace where
  create := by
    have lists : workspace.Besides (.ask (.nodes settings.selector)) := ⟨trivial, nofun⟩
    apply perform lists
    intro answer
    cases answer with
    | error error => exact .done _
    | ok nodes =>
        apply announce
        exact namespaceCreated.andThen fun _ => value _
  converge := by
    intro replicas
    apply announce
    apply typed (Spec.ofTyped_deployment _)
    apply (created (Spec.ofWritten_inside (by decide) rfl _ _)).andThen
    exact fun _ => announced _

theorem IngressController.checker_staysIn (settings : Settings) :
    (checker settings).StaysIn context workspace where
  create := by
    apply namespaceCreated.andThen
    intro _
    apply announce
    apply typed (Spec.ofTyped_deployment _)
    apply (created (Spec.ofWritten_inside (by decide) rfl _ _)).andThen
    intro _
    apply announce
    apply typed (Spec.ofTyped_service _)
    exact created (Spec.ofWritten_inside (by decide) rfl _ .created)
  converge := by
    intro _
    apply announce
    apply typed (Spec.ofTyped_ingress _ _ _ _)
    apply (created (Spec.ofWritten_inside (by decide) rfl _ _)).andThen
    intro _
    cases settings.skipsLookup with
    | true => exact announced _
    | false =>
        have looksUp : workspace.Besides (.await (lookupCondition settings)) := ⟨trivial, nofun⟩
        apply announce
        exact (Checking.StaysIn.awaiting looksUp _).andThen fun _ => announced _

theorem LogShipper.checker_staysIn (settings : Settings) :
    (checker settings).StaysIn context workspace where
  create := by
    have lists : workspace.Besides (.ask (.nodes "")) := ⟨trivial, nofun⟩
    apply perform lists
    intro answer
    cases answer with
    | error error => exact .done _
    | ok nodes =>
        apply announce
        apply namespaceCreated.andThen
        intro _
        apply announce
        apply typed (Spec.ofTyped_deployment _)
        exact created (Spec.ofWritten_inside (by decide) rfl _ _)
  converge := by
    intro _
    have clocks : workspace.Besides .clock := trivial
    apply perform clocks
    intro now
    have lists : workspace.Besides (.await (logCondition settings context.startedAt
      (settings.keyStart context.workspaceName now))) := ⟨trivial, nofun⟩
    apply announce
    exact (Checking.StaysIn.awaiting lists _).andThen fun _ => announced _

theorem MetricsAgent.checker_staysIn (settings : Settings) :
    (checker settings).StaysIn context workspace where
  create := value _
  converge := by
    intro _
    have logs (line : Log.Line) : workspace.Besides (.log line) := trivial
    have pauses : workspace.Besides (.pause settings.warmUp) := trivial
    have clocks : workspace.Besides .clock := trivial
    apply announce
    apply perform (logs _)
    intro _
    apply perform pauses
    intro (cancelled : Bool)
    cases cancelled with
    | true => exact .done _
    | false =>
        apply perform clocks
        intro (now : Instant)
        have queries : workspace.Besides (.await (metricsCondition settings now.seconds)) :=
          ⟨trivial, nofun⟩
        exact (Checking.StaysIn.awaiting queries _).andThen fun _ => announced _

end Addon

/-- The context of a run with the flag. -/
def Run.Context.withDebug (context : Context) (debug : Bool) : Context :=
  { context with settings := { context.settings with debug := debug } }

/-- The phases of the check do not depend on the debug flags. -/
structure Run.Checker.IgnoresDebug {κ : Type} (checker : Checker κ) : Prop where
  create : ∀ (context : Context) (name : String),
    checker.create (context.withDebug true) ⟨name, true⟩ =
      checker.create (context.withDebug false) ⟨name, false⟩
  converge : ∀ (context : Context) (name : String) (created : κ),
    checker.converge (context.withDebug true) ⟨name, true⟩ created =
      checker.converge (context.withDebug false) ⟨name, false⟩ created

/-- The run of settings is the run of a check that stays in its workspace and ignores the debug
flags. -/
theorem CommandLine.CheckSettings.exists_checker (settings : CommandLine.CheckSettings) :
    ∃ (κ : Type) (checker : Checker κ), settings.runner = Run.run checker ∧
      checker.IgnoresDebug ∧ ∀ context workspace, context.workspaceName = workspace.name →
        checker.StaysIn context workspace := by
  cases settings with
  | certManager settings =>
      exact ⟨_, _, rfl, ⟨fun _ _ => rfl, fun _ _ _ => rfl⟩,
        fun _ _ same => Addon.CertManager.checker_staysIn settings same⟩
  | clusterAutoscaler settings =>
      exact ⟨_, _, rfl, ⟨fun _ _ => rfl, fun _ _ _ => rfl⟩,
        fun _ _ _ => Addon.ClusterAutoscaler.checker_staysIn settings⟩
  | ingressController settings =>
      exact ⟨_, _, rfl, ⟨fun _ _ => rfl, fun _ _ _ => rfl⟩,
        fun _ _ _ => Addon.IngressController.checker_staysIn settings⟩
  | logShipper settings =>
      exact ⟨_, _, rfl, ⟨fun _ _ => rfl, fun _ _ _ => rfl⟩,
        fun _ _ _ => Addon.LogShipper.checker_staysIn settings⟩
  | metricsAgent settings =>
      exact ⟨_, _, rfl, ⟨fun _ _ => rfl, fun _ _ _ => rfl⟩,
        fun _ _ _ => Addon.MetricsAgent.checker_staysIn settings⟩

/-- The run of settings ends, and what it reports of the cleanup is what the cleanup ends with. -/
theorem CommandLine.CheckSettings.runner_ends (settings : CommandLine.CheckSettings)
    {kind : Action → Prop} {context : Context} {workspace : Workspace}
    {fit : Option Workspace.TeardownError → Prop} (same : context.workspaceName = workspace.name)
    (admits : ∀ action, workspace.Admits action → kind action)
    (cleans : (cleanUp context workspace).Ends kind fit) (adds : ∀ text, kind (.addLine text))
    (watches : kind (.watch ⟨workspace, context.channel⟩)) (takes : kind .takeLines)
    (delivers : ∀ message, kind (.ask (.deliver message))) (joins : kind .joinWatcher)
    (watched : Bool) :
    (settings.runner context workspace watched).Ends kind fun report =>
      fit report.cleanupError := by
  obtain ⟨κ, checker, runs, -, stays⟩ := settings.exists_checker
  have ends := (stays context workspace same).ends.wider admits
  rw [runs]
  exact run_ends (fun _ => admits _ trivial) adds ends cleans (fun _ => watches) takes delivers
    (admits _ trivial) joins

end AddonCheck
