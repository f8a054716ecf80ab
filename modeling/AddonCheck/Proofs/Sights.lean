import AddonCheck.Addon.IngressController
import AddonCheck.Addon.LogShipper
import AddonCheck.Addon.MetricsAgent
import AddonCheck.Proofs.Milestones
import Mathlib.Data.Sigma.Basic

/-
This file says what the waits of the checks have to see. Each sight is described by the answer
alone, and a wait ends well just when the answer to its request shows it.
-/

namespace AddonCheck

namespace Sight

/-- The secret exists. -/
def secret (name namespaceName : String) : Sight where
  isSeenIn exchange := exchange = ⟨.secret name namespaceName, .ok true⟩
  isAwaited exchange seen := by
    subst seen
    rfl

/-- As many pods of the deployment are ready as it asks for. -/
def rollout (name namespaceName : String) : Sight where
  isSeenIn exchange := ∃ rollout : Cluster.Rollout,
    exchange = ⟨.deployment name namespaceName, .ok (some rollout)⟩ ∧
      rollout.ready.getD 0 = rollout.desired.getD 1
  isAwaited exchange seen := by
    obtain ⟨_, rfl, _⟩ := seen
    rfl

/-- The load balancer of the ingress has a host name. -/
def hostname (name namespaceName : String) : Sight where
  isSeenIn exchange := ∃ hostnames text,
    exchange = ⟨.ingress name namespaceName, .ok (some hostnames)⟩ ∧
      some text ∈ hostnames ∧ text ≠ ""
  isAwaited exchange seen := by
    obtain ⟨_, _, rfl, _⟩ := seen
    rfl

/-- The host has an address. -/
def address (host : String) : Sight where
  isSeenIn exchange := ∃ addresses : List Dns.Address,
    exchange = ⟨.lookup host, .ok addresses⟩ ∧ addresses ≠ []
  isAwaited exchange seen := by
    obtain ⟨_, rfl, _⟩ := seen
    rfl

/-- Under the keys of some day, the bucket has an object that is newer than an instant. -/
def newObject (bucket : String) (keyStart : Instant → String) (since : Instant) : Sight where
  isSeenIn exchange := ∃ day objects, ∃ object : Bucket.StoredObject, ∃ modified,
    exchange = ⟨.listing bucket (keyStart day), .ok objects⟩ ∧
      object ∈ objects ∧ object.lastModified = some modified ∧ since.isBefore modified = true
  isAwaited exchange seen := by
    obtain ⟨_, _, _, _, rfl, _⟩ := seen
    rfl

/-- The query over the last seconds before some time reports no error and has a series. -/
def series (seconds : Int) (query : String) : Sight where
  isSeenIn exchange := ∃ now, ∃ response : Metrics.Response,
    exchange = ⟨.metrics (now - seconds) now query, .ok response⟩ ∧
      (∀ text ∈ response.error, text = "") ∧ response.status ≠ some "error" ∧
      response.series ≠ []
  isAwaited exchange seen := by
    obtain ⟨_, _, rfl, _⟩ := seen
    rfl

end Sight

/-! ## What the waits look for -/

theorem Cluster.publishedHostname_isSome_iff (hostnames : List (Option String)) :
    (publishedHostname hostnames).isSome = true ↔
      ∃ text, some text ∈ hostnames ∧ text ≠ "" := by
  rw [publishedHostname, List.findSome?_isSome_iff]
  constructor
  · intro found
    obtain ⟨hostname, member, published⟩ := found
    cases hostname with
    | none => cases published
    | some text => exact ⟨text, member, by simpa using published⟩
  · intro found
    obtain ⟨text, member, nonempty⟩ := found
    exact ⟨some text, member, by simpa using nonempty⟩

namespace Workspace

theorem judgeError_ne_converged (error : Cluster.Error) :
    (judgeError error).probe ≠ .converged := by
  unfold judgeError
  split <;> simp

theorem judgeSecret_converged (name : String) (answer : Except Cluster.Error Bool) :
    (judgeSecret name answer).probe = .converged ↔ answer = .ok true := by
  rcases answer with error | (_ | _)
  · simp [judgeSecret, judgeError_ne_converged]
  · simp [judgeSecret]
  · simp [judgeSecret]

theorem judgeRollout_converged (answer : Except Cluster.Error (Option Cluster.Rollout)) :
    (judgeRollout answer).probe = .converged ↔
      ∃ rollout : Cluster.Rollout, answer = .ok (some rollout) ∧
        rollout.ready.getD 0 = rollout.desired.getD 1 := by
  rcases answer with error | (_ | rollout)
  · simp [judgeRollout, judgeError_ne_converged]
  · simp [judgeRollout]
  · have probe : (judgeRollout (.ok (some rollout))).probe = .converged ↔
        rollout.readyCount = rollout.desiredCount := by
      simp only [judgeRollout]
      split <;> simp_all
    rw [probe]
    simp [Cluster.Rollout.readyCount, Cluster.Rollout.desiredCount]

theorem judgeHostnames_converged (answer : Except Cluster.Error (Option (List (Option String)))) :
    (judgeHostnames answer).probe = .converged ↔
      ∃ hostnames text, answer = .ok (some hostnames) ∧ some text ∈ hostnames ∧ text ≠ "" := by
  cases answer with
  | error error => simp [judgeHostnames, judgeError_ne_converged]
  | ok found =>
      have published := Cluster.publishedHostname_isSome_iff (found.getD [])
      have probe : (judgeHostnames (.ok found)).probe = .converged ↔
          (Cluster.publishedHostname (found.getD [])).isSome = true := by
        simp only [judgeHostnames]
        cases Cluster.publishedHostname (found.getD []) <;> simp
      rw [probe, published]
      cases found <;> simp

end Workspace

namespace Addon

theorem judgeLookup_converged (host : String) (answer : Except Dns.Error (List Dns.Address)) :
    (IngressController.judgeLookup host answer).probe = .converged ↔
      ∃ addresses, answer = .ok addresses ∧ addresses ≠ [] := by
  rcases answer with error | (_ | ⟨address, rest⟩)
  · simp [IngressController.judgeLookup]
  · simp [IngressController.judgeLookup]
  · simp [IngressController.judgeLookup]

theorem judgeListing_converged (since : Instant)
    (answer : Except Bucket.Error (List Bucket.StoredObject)) :
    (LogShipper.judgeListing since answer).probe = .converged ↔
      ∃ objects, ∃ object : Bucket.StoredObject, ∃ modified, answer = .ok objects ∧
        object ∈ objects ∧ object.lastModified = some modified ∧
        since.isBefore modified = true := by
  cases answer with
  | error error =>
      have unsettled : (LogShipper.judgeListing since (.error error)).probe ≠ .converged := by
        simp only [LogShipper.judgeListing]
        split <;> simp
      simp [unsettled]
  | ok objects =>
      have newer : (objects.any fun object => object.lastModified.any since.isBefore) = true ↔
          ∃ object ∈ objects, ∃ modified, object.lastModified = some modified ∧
            since.isBefore modified = true := by
        simp only [List.any_eq_true, Option.any_eq_true]
      have probe : (LogShipper.judgeListing since (.ok objects)).probe = .converged ↔
          (objects.any fun object => object.lastModified.any since.isBefore) = true := by
        simp only [LogShipper.judgeListing]
        split <;> simp_all
      rw [probe, newer]
      simp

theorem reported_eq_none_iff (response : Metrics.Response) :
    response.reported = none ↔
      (∀ text ∈ response.error, text = "") ∧ response.status ≠ some "error" := by
  obtain ⟨status, error, series⟩ := response
  have empty : (error.filter fun text => text != "") = none ↔ ∀ text ∈ error, text = "" := by
    simp [Option.filter_eq_none_iff]
  rw [← empty]
  unfold Metrics.Response.reported
  cases error.filter fun text => text != "" with
  | none => simp
  | some text => simp

theorem judgeMetrics_converged (start finish : Int)
    (answer : Except Metrics.Error Metrics.Response) :
    (MetricsAgent.judgeMetrics start finish answer).probe = .converged ↔
      ∃ response : Metrics.Response, answer = .ok response ∧
        (∀ text ∈ response.error, text = "") ∧ response.status ≠ some "error" ∧
        response.series ≠ [] := by
  cases answer with
  | error error =>
      have unsettled : (MetricsAgent.judgeMetrics start finish (.error error)).probe ≠
          .converged := by
        simp only [MetricsAgent.judgeMetrics]
        split <;> simp
      simp [unsettled]
  | ok response =>
      have probe : (MetricsAgent.judgeMetrics start finish (.ok response)).probe = .converged ↔
          response.reported = none ∧ response.series ≠ [] := by
        simp only [MetricsAgent.judgeMetrics]
        cases response.reported with
        | some reported => simp
        | none => cases response.series <;> simp
      rw [probe, reported_eq_none_iff]
      simp [and_assoc]

end Addon

/-! ## The conditions decide on the sights -/

theorem Exchange.answer_inj {request : Request} {answer other : request.Answer} :
    (⟨request, answer⟩ : Exchange) = ⟨request, other⟩ ↔ answer = other :=
  sigma_mk_injective.eq_iff

namespace Workspace

/-- What has to be seen of an object after its creation. -/
def Readiness.milestones (readiness : Readiness) (resource : Cluster.Resource) : List Milestone :=
  match readiness with
  | created => []
  | deployment _ => [.seen (.rollout resource.name resource.namespaceName)]
  | loadBalancer _ => [.seen (.hostname resource.name resource.namespaceName)]
  | secret name _ => [.seen (.secret name resource.namespaceName)]

theorem Readiness.milestones_of_none {readiness : Readiness} {resource : Cluster.Resource}
    (nothing : readiness.condition? resource = none) : readiness.milestones resource = [] := by
  cases readiness with
  | created => rfl
  | _ => cases nothing

theorem Readiness.milestones_of_some {readiness : Readiness} {resource : Cluster.Resource}
    {condition : Condition} (found : readiness.condition? resource = some condition) :
    ∃ sight, readiness.milestones resource = [.seen sight] ∧ sight.Decides condition := by
  cases readiness with
  | created => cases found
  | deployment wait =>
      cases found
      refine ⟨_, rfl, rfl, fun answer => ?_⟩
      exact (exists_congr fun _ => and_congr_left' Exchange.answer_inj).trans
        (judgeRollout_converged answer).symm
  | loadBalancer wait =>
      cases found
      refine ⟨_, rfl, rfl, fun answer => ?_⟩
      exact (exists₂_congr fun _ _ => and_congr_left' Exchange.answer_inj).trans
        (judgeHostnames_converged answer).symm
  | secret name wait =>
      cases found
      refine ⟨_, rfl, rfl, fun answer => ?_⟩
      exact Exchange.answer_inj.trans (judgeSecret_converged name answer).symm

end Workspace

namespace Addon

theorem lookupCondition_decides (settings : IngressController.Settings) :
    (Sight.address settings.externalHostname).Decides
      (IngressController.lookupCondition settings) where
  isAwaited := rfl
  isSeenIn_iff answer :=
    (exists_congr fun _ => and_congr_left' Exchange.answer_inj).trans
      (judgeLookup_converged _ answer).symm

theorem logCondition_decides (settings : LogShipper.Settings) (since : Instant)
    (keyStart : Instant → String) (day : Instant) :
    (Sight.newObject settings.bucket keyStart since).Decides
      (LogShipper.logCondition settings since (keyStart day)) where
  isAwaited := rfl
  isSeenIn_iff answer := by
    apply Iff.trans _ (judgeListing_converged since answer).symm
    constructor
    · intro seen
      obtain ⟨_, objects, object, modified, same, shown⟩ := seen
      have told : answer = .ok objects := eq_of_heq (Sigma.mk.inj same).2
      exact ⟨objects, object, modified, told, shown⟩
    · intro found
      obtain ⟨objects, object, modified, rfl, shown⟩ := found
      exact ⟨day, objects, object, modified, rfl, shown⟩

theorem metricsCondition_decides (settings : MetricsAgent.Settings) (now : Int) :
    (Sight.series MetricsAgent.windowSeconds settings.query).Decides
      (MetricsAgent.metricsCondition settings now) where
  isAwaited := rfl
  isSeenIn_iff answer := by
    apply Iff.trans _ (judgeMetrics_converged _ _ answer).symm
    constructor
    · intro seen
      obtain ⟨_, response, same, shown⟩ := seen
      have told : answer = .ok response := eq_of_heq (Sigma.mk.inj same).2
      exact ⟨response, told, shown⟩
    · intro found
      obtain ⟨response, rfl, shown⟩ := found
      exact ⟨now, response, rfl, shown⟩

end Addon

end AddonCheck
