import AddonCheck.Addon.CertManager
import AddonCheck.Addon.ClusterAutoscaler
import AddonCheck.Proofs.Pursuit

/-
This file holds the plans of the five checks, and shows that both phases of each check pursue its
plan up to the end.
-/

namespace AddonCheck

open Cluster Run Workspace Workspace.Spec

namespace Cluster.Object

/-- The object of a kind that is written as a value, in a namespace. -/
def ofWritten (kind : Kind) (metadata : Metadata) (namespaceName : String) (written : Json) :
    Object :=
  { kind := some kind
    metadata := { metadata with namespaceName := some namespaceName }
    data := .object (remaining (written.fields?.getD [])) }

end Cluster.Object

namespace Workspace.Spec

/-- The object of a kind that is written as a value, whatever namespace it is created in. -/
def ofWritten (kind : Kind) (metadata : Metadata) (written : Json) : Spec :=
  { object := ⟨some kind, metadata, .object (Object.remaining (written.fields?.getD []))⟩ }

/-- An object whose kind, metadata and name can be read is the object that is written. -/
theorem ofTyped_written {fields : List (String × Json)} (kind : Kind) (metadata : Metadata)
    (hasKind : Object.kindOf? fields = some kind)
    (hasMetadata : Object.metadataOf? fields = some metadata)
    (named : metadata.name.isNone = false) :
    ofTyped (.object fields) = .ok (ofWritten kind metadata (.object fields)) := by
  have read : Object.ofTyped (.object fields) =
      .ok ⟨some kind, metadata, .object (Object.remaining fields)⟩ := by
    simp [Object.ofTyped, Object.ofJson?, hasKind, hasMetadata, named]
  rw [ofTyped, read]
  rfl

theorem ofTyped_deployment (deployment : Deployment) :
    ofTyped deployment.toJson =
      .ok (ofWritten Kind.deployment (.labelled deployment.name) deployment.toJson) :=
  ofTyped_written _ _ rfl rfl rfl

theorem ofTyped_service (service : Service) :
    ofTyped service.toJson =
      .ok (ofWritten Kind.service (.labelled service.name) service.toJson) :=
  ofTyped_written _ _ rfl rfl rfl

theorem ofTyped_ingress (name className host : String) (servicePort : Int) :
    let ingress := Ingress.ofService name className host servicePort
    ofTyped ingress.toJson = .ok (ofWritten Kind.ingress ingress.metadata ingress.toJson) :=
  ofTyped_written _ _ rfl rfl rfl

end Workspace.Spec

/-- The first phase of the check pursues the agenda from its start, and the second one goes on from
where the first one ends up to the end of the plan. -/
structure Run.Checker.Pursues {κ : Type} (checker : Checker κ) (context : Context)
    (workspace : Workspace) (agenda : Agenda) (middle : κ → Progress → Prop) : Prop where
  create : agenda.Pursues agenda.start (checker.create context workspace).run middle
  converge : ∀ created progress, middle created progress →
    agenda.Pursues progress (checker.converge context workspace created).run
      fun _ progress => progress = .towards []

namespace Addon

namespace CertManager

/-- The namespace, the authority with its secret, the issuer, and the certificate with its
secret. -/
def plan (settings : Settings) (context : Context) (workspace : Workspace) : List Milestone :=
  let namespaceName := context.workspaceName
  [.created workspace.object,
    .created (authority settings namespaceName).object,
    .seen (.secret settings.authoritySecret namespaceName),
    .created (issuer settings namespaceName).object,
    .created (leaf settings namespaceName).object,
    .seen (.secret settings.leafName namespaceName)]

def agenda (settings : Settings) (context : Context) (workspace : Workspace) : Agenda where
  selector? := none
  milestones _ := plan settings context workspace
  milestones_ne_nil _ := List.cons_ne_nil _ _

theorem checker_pursues (settings : Settings) (context : Context) (workspace : Workspace) :
    (checker settings).Pursues context workspace (agenda settings context workspace)
      fun _ progress => progress = .towards ((plan settings context workspace).drop 4) where
  create := by
    apply Agenda.Pursues.createNamespace
    apply Agenda.Pursues.announce
    refine Agenda.Pursues.create rfl rfl ?_
    apply Agenda.Pursues.announce
    exact Agenda.pursues_create rfl rfl
  converge := by
    intro _ _ left
    subst left
    apply Agenda.Pursues.announce
    refine Agenda.Pursues.create rfl rfl ?_
    exact Agenda.pursues_announce _ _

end CertManager

namespace ClusterAutoscaler

/-- The namespace, and a deployment with one pod more than there are nodes. -/
def plan (settings : Settings) (workspace : Workspace) (nodes : Nat) : List Milestone :=
  [.created workspace.object,
    .created (.ofWritten Kind.deployment (.labelled settings.resourceName) workspace.name
      (deployment settings (replicas nodes)).toJson),
    .seen (.rollout settings.resourceName workspace.name)]

def agenda (settings : Settings) (workspace : Workspace) : Agenda where
  selector? := some settings.selector
  milestones := plan settings workspace
  milestones_ne_nil _ := List.cons_ne_nil _ _

theorem checker_pursues (settings : Settings) (context : Context) (workspace : Workspace) :
    (checker settings).Pursues context workspace (agenda settings workspace)
      fun created progress => ∃ nodes, created = replicas nodes ∧
        progress = .towards ((plan settings workspace nodes).drop 1) where
  create := by
    refine Agenda.Pursues.list rfl (fun names => ?_) fun _ => ⟨_, rfl⟩
    apply Agenda.Pursues.announce
    apply Agenda.Pursues.createNamespace
    exact ⟨names.length, rfl, rfl⟩
  converge := by
    intro _ _ counted
    obtain ⟨nodes, rfl, rfl⟩ := counted
    apply Agenda.Pursues.announce
    refine Agenda.Pursues.typed (ofTyped_deployment _) ?_
    refine Agenda.Pursues.create rfl rfl ?_
    exact Agenda.pursues_announce _ _

end ClusterAutoscaler

namespace IngressController

/-- The host name of the ingress, when its class is the default one. -/
def publication (settings : Settings) (workspace : Workspace) : List Milestone :=
  if settings.className = defaultClass then
    [.seen (.hostname settings.resourceName workspace.name)]
  else []

/-- The address of the host, unless it is not looked up. -/
def resolution (settings : Settings) : List Milestone :=
  if settings.skipsLookup then [] else [.seen (.address settings.externalHostname)]

/-- The namespace, a deployment, its service, and the ingress of the service with what is to be seen
of it. -/
def plan (settings : Settings) (workspace : Workspace) : List Milestone :=
  [.created workspace.object,
    .created (.ofWritten Kind.deployment (.labelled settings.resourceName) workspace.name
      (deployment settings).toJson),
    .seen (.rollout settings.resourceName workspace.name),
    .created (.ofWritten Kind.service (.labelled settings.resourceName) workspace.name
      (service settings).toJson),
    .created (.ofWritten Kind.ingress (ingress settings).metadata workspace.name
      (ingress settings).toJson)]
  ++ (publication settings workspace ++ resolution settings)

def agenda (settings : Settings) (workspace : Workspace) : Agenda where
  selector? := none
  milestones _ := plan settings workspace
  milestones_ne_nil _ := List.cons_ne_nil _ _

/-- The part of the plan that the creation of the ingress meets. -/
theorem ingress_parts (settings : Settings) (workspace : Workspace) :
    let spec := (Spec.ofWritten Kind.ingress (ingress settings).metadata
      (ingress settings).toJson).withReadiness (ingressReadiness settings)
    (plan settings workspace).drop 4 =
      .created (spec.placed workspace) ::
        spec.readiness.milestones ⟨Kind.ingress, settings.resourceName, workspace.name⟩ ++
        resolution settings := by
  have awaited : (ingressReadiness settings).milestones
      ⟨Kind.ingress, settings.resourceName, workspace.name⟩ =
        publication settings workspace := by
    unfold ingressReadiness publication
    split <;> rfl
  intro spec
  change _ = .created _ :: (ingressReadiness settings).milestones _ ++ resolution settings
  rw [awaited]
  rfl

theorem converge_end_pursues (settings : Settings) (agenda : Agenda) :
    agenda.Pursues (.towards (resolution settings))
      (if settings.skipsLookup then Program.announce "Skip Dns Check"
        else awaitLookup settings : Checking Unit).run
      fun _ progress => progress = .towards [] := by
  unfold resolution
  cases settings.skipsLookup with
  | true => exact Agenda.pursues_announce _ _
  | false =>
      apply Agenda.Pursues.announce
      apply Agenda.Pursues.await (lookupCondition_decides settings)
      exact Agenda.pursues_announce _ _

theorem checker_pursues (settings : Settings) (context : Context) (workspace : Workspace) :
    (checker settings).Pursues context workspace (agenda settings workspace)
      fun _ progress => progress = .towards ((plan settings workspace).drop 4) where
  create := by
    apply Agenda.Pursues.createNamespace
    apply Agenda.Pursues.announce
    refine Agenda.Pursues.typed (ofTyped_deployment _) ?_
    refine Agenda.Pursues.create rfl rfl ?_
    apply Agenda.Pursues.announce
    refine Agenda.Pursues.typed (ofTyped_service _) ?_
    exact Agenda.pursues_create rfl rfl
  converge := by
    intro _ _ left
    subst left
    apply Agenda.Pursues.announce
    refine Agenda.Pursues.typed (ofTyped_ingress _ _ _ _) ?_
    apply Agenda.Pursues.create rfl (ingress_parts settings workspace)
    exact converge_end_pursues settings _

end IngressController

namespace LogShipper

/-- The namespace, a deployment that writes lines, and a new object of their log. -/
def plan (settings : Settings) (context : Context) (workspace : Workspace) (nodes : Nat) :
    List Milestone :=
  [.created workspace.object,
    .created (.ofWritten Kind.deployment (.labelled settings.resourceName) workspace.name
      (Deployment.logGenerator settings.resourceName (replicas nodes)).toJson),
    .seen (.rollout settings.resourceName workspace.name),
    .seen (.newObject settings.bucket (settings.keyStart context.workspaceName)
      context.startedAt)]

def agenda (settings : Settings) (context : Context) (workspace : Workspace) : Agenda where
  selector? := some ""
  milestones := plan settings context workspace
  milestones_ne_nil _ := List.cons_ne_nil _ _

theorem checker_pursues (settings : Settings) (context : Context) (workspace : Workspace) :
    (checker settings).Pursues context workspace (agenda settings context workspace)
      fun _ progress => progress = .towards ((plan settings context workspace 0).drop 3) where
  create := by
    refine Agenda.Pursues.list rfl (fun names => ?_) fun _ => ⟨_, rfl⟩
    apply Agenda.Pursues.announce
    apply Agenda.Pursues.createNamespace
    apply Agenda.Pursues.announce
    refine Agenda.Pursues.typed (ofTyped_deployment _) ?_
    exact Agenda.pursues_create rfl rfl
  converge := by
    intro _ _ left
    subst left
    refine ⟨trivial, fun now => ?_⟩
    apply Agenda.Pursues.announce
    have awaits := logCondition_decides settings context.startedAt
      (settings.keyStart context.workspaceName) now
    apply Agenda.Pursues.await awaits
    exact Agenda.pursues_announce _ _

end LogShipper

namespace MetricsAgent

/-- Only the metrics are queried. -/
def plan (settings : Settings) : List Milestone := [.seen (.series windowSeconds settings.query)]

def agenda (settings : Settings) : Agenda where
  selector? := none
  milestones _ := plan settings
  milestones_ne_nil _ := List.cons_ne_nil _ _

theorem checker_pursues (settings : Settings) (context : Context) (workspace : Workspace) :
    (checker settings).Pursues context workspace (agenda settings)
      fun _ progress => progress = .towards (plan settings) where
  create := rfl
  converge := by
    intro _ _ left
    subst left
    apply Agenda.Pursues.announce
    refine ⟨trivial, fun _ => ⟨trivial, fun (cancelled : Bool) => ?_⟩⟩
    cases cancelled with
    | true => exact fun ended => nomatch ended
    | false =>
        refine ⟨trivial, fun (now : Instant) => ?_⟩
        have awaits := metricsCondition_decides settings now.seconds
        apply Agenda.Pursues.await awaits
        exact Agenda.pursues_announce _ _

end MetricsAgent

end Addon

end AddonCheck
