import AddonCheck.Proofs.Hearing
import AddonCheck.Proofs.Shelf
import AddonCheck.Proofs.Sights

/-
This file shows what decides on the waits for what an add-on has done: an object in a bucket, a
series of metrics, an address of a host. A request that is not allowed is pointless to repeat, and
so is a query that is answered with an error of its own. No answer makes it pointless to look up a
host again.
-/

namespace AddonCheck

open Run

/-! ## Answers that make it pointless to ask again -/

/-- The status of the answer that a listing failed with. -/
def Bucket.Error.status? : Bucket.Error → Option Nat
  | missingRegion => none
  | listing _ _ status _ => status

theorem Bucket.Error.isUnauthorized_iff (error : Bucket.Error) :
    error.isUnauthorized = true ↔ IsForbidden error.status? := by
  unfold IsForbidden
  cases error with
  | missingRegion => simp [isUnauthorized, status?]
  | listing bucket keyStart status reason =>
      cases status <;> simp [isUnauthorized, status?]

/-- The status of the answer that a query failed with. -/
def Metrics.Error.status? : Metrics.Error → Option Nat
  | status code _ => some code
  | _ => none

theorem Metrics.Error.isUnauthorized_iff (error : Metrics.Error) :
    error.isUnauthorized = true ↔ IsForbidden error.status? := by
  unfold IsForbidden
  cases error <;> simp [isUnauthorized, status?]

/-- A response reports the text of its error, or that its status is one. An empty text is no
error. -/
def Metrics.Response.Reports (response : Metrics.Response) (reported : String) : Prop :=
  (response.error = some reported ∧ reported ≠ "") ∨
    ((∀ text ∈ response.error, text = "") ∧ response.status = some "error" ∧
      reported = "query status is error")

theorem Metrics.Response.reported_eq_some_iff (response : Metrics.Response) (reported : String) :
    response.reported = some reported ↔ response.Reports reported := by
  obtain ⟨status, error, series⟩ := response
  have status_iff : (if status == some "error" then some "query status is error" else none) =
      some reported ↔ status = some "error" ∧ reported = "query status is error" := by
    simp [@eq_comm _ reported]
  unfold Metrics.Response.reported Reports
  rcases error with _ | text
  · simpa using status_iff
  · by_cases empty : text = ""
    · subst empty
      have nothing : Option.filter (fun text => text != "") (some "") = none := rfl
      rw [nothing]
      simpa using status_iff
    · have something : Option.filter (fun text => text != "") (some text) = some text := by
        simp [empty]
      rw [something]
      constructor
      · intro same
        cases same
        exact .inl ⟨rfl, empty⟩
      · rintro (⟨same, _⟩ | ⟨blank, _⟩)
        · exact same
        · exact absurd (blank text rfl) empty

theorem Instant.isBefore_iff (first second : Instant) :
    first.isBefore second = true ↔ first.seconds < second.seconds ∨
      (first.seconds = second.seconds ∧ first.nanos < second.nanos) := by
  simp [Instant.isBefore]

namespace Addon

/-! ## What the waits ask -/

/-- An object under the keys, at any position, that was changed after the start. -/
def LogShipper.question (settings : LogShipper.Settings) (startedAt : Instant)
    (keyStart : String) : Question where
  wait := settings.logWait
  immediate := true
  request := .listing settings.bucket keyStart
  shows := fun (answer : Except Bucket.Error (List Bucket.StoredObject)) =>
    ∃ objects, answer = .ok objects ∧ ∃ object ∈ objects, ∃ modified,
      object.lastModified = some modified ∧ (startedAt.seconds < modified.seconds ∨
        (startedAt.seconds = modified.seconds ∧ startedAt.nanos < modified.nanos))
  refuses := fun (answer : Except Bucket.Error (List Bucket.StoredObject)) reason =>
    ∃ error, answer = .error error ∧ IsForbidden error.status? ∧ reason = error.message

/-- A series in the two minutes before an instant, in a response that reports no error. -/
def MetricsAgent.question (settings : MetricsAgent.Settings) (now : Int) : Question where
  wait := settings.metricsWait
  immediate := true
  request := .metrics (now - 120) now settings.query
  shows := fun (answer : Except Metrics.Error Metrics.Response) =>
    ∃ response, answer = .ok response ∧ (∀ reported, ¬ response.Reports reported) ∧
      response.series ≠ []
  refuses := fun (answer : Except Metrics.Error Metrics.Response) reason =>
    (∃ error, answer = .error error ∧ IsForbidden error.status? ∧ reason = error.message) ∨
      ∃ response reported, answer = .ok response ∧ response.Reports reported ∧
        reason = s!"HTTP status was 200 OK but got Datadog API error: {reported}"

/-- An address of the host. -/
def IngressController.question (settings : IngressController.Settings) : Question where
  wait := settings.lookupWait
  immediate := false
  request := .lookup settings.externalHostname
  shows := fun (answer : Except Dns.Error (List Dns.Address)) =>
    ∃ addresses, answer = .ok addresses ∧ addresses ≠ []
  refuses := fun _ _ => False

theorem judgeListing_fatal (since : Instant)
    (answer : Except Bucket.Error (List Bucket.StoredObject)) (reason : String) :
    (LogShipper.judgeListing since answer).probe = .fatal reason ↔
      ∃ error, answer = .error error ∧ IsForbidden error.status? ∧ reason = error.message := by
  cases answer with
  | error error =>
      have forbidden := error.isUnauthorized_iff
      simp only [LogShipper.judgeListing]
      split
      · next denied => simp [← forbidden, denied, eq_comm]
      · next allowed => simp [← forbidden, allowed]
  | ok objects =>
      simp only [LogShipper.judgeListing]
      split <;> simp

theorem judgeMetrics_fatal (start finish : Int) (answer : Except Metrics.Error Metrics.Response)
    (reason : String) :
    (MetricsAgent.judgeMetrics start finish answer).probe = .fatal reason ↔
      (∃ error, answer = .error error ∧ IsForbidden error.status? ∧ reason = error.message) ∨
        ∃ response reported, answer = .ok response ∧ response.Reports reported ∧
          reason = s!"HTTP status was 200 OK but got Datadog API error: {reported}" := by
  cases answer with
  | error error =>
      have forbidden := error.isUnauthorized_iff
      simp only [MetricsAgent.judgeMetrics]
      split
      · next denied => simp [← forbidden, denied, eq_comm]
      · next allowed => simp [← forbidden, allowed]
  | ok response =>
      have reports := response.reported_eq_some_iff
      simp only [MetricsAgent.judgeMetrics]
      cases found : response.reported with
      | some reported => simp [← reports, found, eq_comm]
      | none =>
          simp only
          split <;> simp [← reports, found]

theorem judgeLookup_not_fatal (host : String) (answer : Except Dns.Error (List Dns.Address))
    (reason : String) : (IngressController.judgeLookup host answer).probe ≠ .fatal reason := by
  rcases answer with error | (_ | ⟨address, rest⟩) <;> simp [IngressController.judgeLookup]

/-- The conditions of the waits read their answers by these questions. -/
theorem logCondition_question (settings : LogShipper.Settings) (startedAt : Instant)
    (keyStart : String) :
    (LogShipper.logCondition settings startedAt keyStart).question =
      LogShipper.question settings startedAt keyStart := by
  have shows (answer : Except Bucket.Error (List Bucket.StoredObject)) :
      (LogShipper.judgeListing startedAt answer).probe = .converged ↔
        (LogShipper.question settings startedAt keyStart).shows answer := by
    rw [judgeListing_converged]
    simp only [LogShipper.question, Instant.isBefore_iff]
    simp only [exists_and_left]
  exact congrArg₂ (Question.mk settings.logWait true (.listing _ _))
    (funext fun answer => propext (shows answer))
    (funext₂ fun answer reason => propext (judgeListing_fatal startedAt answer reason))

theorem metricsCondition_question (settings : MetricsAgent.Settings) (now : Int) :
    (MetricsAgent.metricsCondition settings now).question = MetricsAgent.question settings now := by
  have shows (answer : Except Metrics.Error Metrics.Response) :
      (MetricsAgent.judgeMetrics (now - 120) now answer).probe = .converged ↔
        (MetricsAgent.question settings now).shows answer := by
    rw [judgeMetrics_converged]
    refine exists_congr fun response => and_congr_right fun _ => ?_
    rw [← and_assoc, ← reported_eq_none_iff, Option.eq_none_iff_forall_ne_some]
    simp only [ne_eq, response.reported_eq_some_iff]
  exact congrArg₂ (Question.mk settings.metricsWait true (.metrics _ _ _))
    (funext fun answer => propext (shows answer))
    (funext₂ fun answer reason => propext (judgeMetrics_fatal _ _ answer reason))

theorem lookupCondition_question (settings : IngressController.Settings) :
    (IngressController.lookupCondition settings).question =
      IngressController.question settings :=
  congrArg₂ (Question.mk settings.lookupWait false (.lookup _))
    (funext fun answer => propext (judgeLookup_converged _ answer))
    (funext₂ fun answer reason => propext (iff_false_intro (judgeLookup_not_fatal _ answer reason)))

end Addon

/-! ## What becomes of the waits -/

namespace Addon

variable {σ : Type} {outside : Outside σ} {rounds : Nat}

theorem wait_injective (context : String) : Function.Injective (Run.Error.wait context) := by
  intro first second same
  cases same
  rfl

/-- What is told after a wait takes no time. -/
theorem announce_told (text : String) (session : Session (σ × List Exchange)) :
    ∃ after, Run.execute outside.recording rounds
        ((Program.announce text).bind fun _ => .done (.ok ()) : Program (Except Run.Error Unit))
        session = (.finished (.ok ()), after) ∧ session.OnlyTold after :=
  ⟨_, rfl, rfl⟩

/-- The prefix of the keys is that of the moment in which the wait begins. -/
theorem LogShipper.converge_settles (settings : LogShipper.Settings) (context : Context)
    (session : Session (σ × List Exchange)) :
    Settles rounds (LogShipper.converge settings context).run session []
      ⟨LogShipper.question settings context.startedAt
        (settings.keyStart context.workspaceName (session.start.after session.elapsed)), outside,
        session.opening⟩
      (Run.Error.wait "error waiting for log objects") := by
  rw [← logCondition_question]
  refine .aside trivial rfl (.aside trivial rfl (.aside trivial rfl ?_))
  exact Settles.await rfl (wait_injective _) (.inl rfl) (announce_told _) fun _ => rfl

/-- The window ends when the agent has had its time to start. A cancellation in this time is the end
of the wait. -/
theorem MetricsAgent.converge_settles (settings : MetricsAgent.Settings)
    (session : Session (σ × List Exchange)) :
    let warm := session.pause settings.warmUp
    Settles rounds (MetricsAgent.converge settings).run session []
      ⟨MetricsAgent.question settings (warm.start.after warm.elapsed).seconds, outside,
        warm.opening⟩
      (Run.Error.wait MetricsAgent.waitContext) := by
  intro warm
  let announced := s!"Querying metrics with query: {settings.query}"
  let told : Session (σ × List Exchange) :=
    { session with
      log := session.log ++ [Log.info announced] ++ [Log.info "Waiting metrics..."]
      gathered := session.gathered ++ Notification.line announced }
  let reached := told.pause settings.warmUp
  have same : reached.start.after reached.elapsed = warm.start.after warm.elapsed ∧
      reached.opening = warm.opening := by
    unfold reached warm Session.pause
    split <;> exact ⟨rfl, rfl⟩
  rw [← metricsCondition_question, ← same.1, ← same.2]
  refine .aside trivial rfl (.aside trivial rfl (.aside trivial rfl ?_))
  have paused : told.step outside.recording (reaction outside.recording rounds) rounds
      (.pause settings.warmUp) = (some reached.isCancelled, reached) := rfl
  refine .aside trivial paused ?_
  cases cancelled : reached.isCancelled with
  | true => exact .cancelled cancelled (wait_injective _)
  | false =>
      refine .aside trivial rfl ?_
      exact Settles.await rfl (wait_injective _) (.inl rfl) (announce_told _) fun _ => rfl

theorem IngressController.awaitLookup_settles (settings : IngressController.Settings)
    (session : Session (σ × List Exchange)) :
    Settles rounds (IngressController.awaitLookup settings).run session []
      ⟨IngressController.question settings, outside, session.opening⟩
      (Run.Error.wait s!"error waiting for DNS record of {settings.externalHostname}") := by
  rw [← lookupCondition_question]
  refine .aside trivial rfl (.aside trivial rfl ?_)
  exact Settles.await rfl (wait_injective _) (.inl rfl) (announce_told _) fun _ => rfl

/-- Each of the three waits asks one request alone, and its first decisive answer ends it. -/
theorem peer_waits_settle (outside : Outside σ) (rounds : Nat)
    (session : Session (σ × List Exchange)) :
    (∀ (settings : LogShipper.Settings) (context : Context),
      let day := session.start.after session.elapsed
      let keyStart := settings.keyStart context.workspaceName day
      Settles rounds (LogShipper.converge settings context).run session []
        ⟨LogShipper.question settings context.startedAt keyStart, outside, session.opening⟩
        (Run.Error.wait "error waiting for log objects")) ∧
    (∀ settings : MetricsAgent.Settings,
      let warm := session.pause settings.warmUp
      let now := (warm.start.after warm.elapsed).seconds
      Settles rounds (MetricsAgent.converge settings).run session []
        ⟨MetricsAgent.question settings now, outside, warm.opening⟩
        (Run.Error.wait MetricsAgent.waitContext)) ∧
    (∀ settings : IngressController.Settings,
      Settles rounds (IngressController.awaitLookup settings).run session []
        ⟨IngressController.question settings, outside, session.opening⟩
        (Run.Error.wait s!"error waiting for DNS record of {settings.externalHostname}")) := by
  refine ⟨fun settings context => ?_, fun settings => ?_, fun settings => ?_⟩
  · exact LogShipper.converge_settles settings context session
  · exact MetricsAgent.converge_settles settings session
  · exact IngressController.awaitLookup_settles settings session

/-- What three peers are still going to answer. -/
structure Outlook where
  listings : List (Except Bucket.Error (List Bucket.StoredObject))
  responses : List (Except Metrics.Error Metrics.Response)
  lookups : List (Except Dns.Error (List Dns.Address))

/-- Each answer of the outlook takes a nanosecond. -/
def outlookOutside : Outside Outlook where
  reply
    | .listing _ _, ⟨answer :: rest, responses, lookups⟩ =>
        ({ answer := answer, takes := ⟨1⟩ }, ⟨rest, responses, lookups⟩)
    | .metrics _ _ _, ⟨listings, answer :: rest, lookups⟩ =>
        ({ answer := answer, takes := ⟨1⟩ }, ⟨listings, rest, lookups⟩)
    | .lookup _, ⟨listings, responses, answer :: rest⟩ =>
        ({ answer := answer, takes := ⟨1⟩ }, ⟨listings, responses, rest⟩)
    | request, outlook =>
        ({ answer := ((grantingOutside (.ok .deleted)).reply request ()).1.answer }, outlook)

/-- Old objects, empty answers and failures that may pass are asked about again. A newer object, an
error beside a series and an address are not. -/
theorem peer_waits_settle_outlook :
    let wait : Wait := ⟨⟨30⟩, ⟨100⟩⟩
    let old : Bucket.StoredObject := ⟨"old", some ⟨10, 0⟩, 1⟩
    let timeless : Bucket.StoredObject := ⟨"timeless", none, 1⟩
    let newer : Bucket.StoredObject := ⟨"newer", some ⟨10, 1⟩, 1⟩
    let listings : List (Except Bucket.Error (List Bucket.StoredObject)) :=
      [.error (.listing "logs" "keys" (some 503) "busy"), .ok [old, timeless],
        .ok [old, newer, timeless]]
    let responses : List (Except Metrics.Error Metrics.Response) :=
      [.error (.transport "no answer"), .ok ⟨some "ok", some "", []⟩,
        .ok ⟨some "error", none, [{}]⟩]
    let reported := "query status is error"
    let lookups : List (Except Dns.Error (List Dns.Address)) :=
      [.error (.io "no answer"), .ok [], .ok [⟨10, 0, 0, 1⟩]]
    let outlook : Outlook :=
      ⟨listings ++ [.ok []], responses ++ [.ok {}], lookups ++ [.ok []]⟩
    let session : Session (Outlook × List Exchange) :=
      { start := ⟨10, 0⟩, outside := (outlook, []) }
    let shipper : LogShipper.Settings := ⟨"logs", "logs", "test", "path", wait, wait⟩
    let agent : MetricsAgent.Settings := ⟨"key", "key", "query", "site", ⟨5⟩, wait⟩
    let controller : IngressController.Settings :=
      ⟨"web", "web.example", "alb", false, wait, wait, wait⟩
    let context : Context :=
      { (default : Context) with workspaceName := "ws", startedAt := ⟨10, 0⟩ }
    let keyStart := shipper.keyStart "ws" (session.start.after 0)
    let now := ((session.pause ⟨5⟩).start.after 5).seconds
    let shipped := execute outlookOutside.recording 9 (LogShipper.converge shipper context).run
      session
    let queried := execute outlookOutside.recording 9 (MetricsAgent.converge agent).run session
    let found := execute outlookOutside.recording 9 (IngressController.awaitLookup controller).run
      session
    Settles 9 (LogShipper.converge shipper context).run session []
        ⟨LogShipper.question shipper ⟨10, 0⟩ keyStart, outlookOutside, session.opening⟩
        (Run.Error.wait "error waiting for log objects") ∧
      shipped.1 = .finished (.ok ()) ∧ shipped.2.elapsed = 63 ∧
      shipped.2.outside.2 = listings.map (fun answer => ⟨.listing "logs" keyStart, answer⟩) ∧
      queried.1 = .finished (.error (.wait MetricsAgent.waitContext
        (.fatal s!"HTTP status was 200 OK but got Datadog API error: {reported}"))) ∧
      queried.2.elapsed = 68 ∧
      queried.2.outside.2 =
        responses.map (fun answer => ⟨.metrics (now - 120) now "query", answer⟩) ∧
      found.1 = .finished (.ok ()) ∧ found.2.elapsed = 93 ∧
      found.2.outside.2 = lookups.map (fun answer => ⟨.lookup "web.example", answer⟩) := by
  intro wait old timeless newer listings responses reported lookups outlook session shipper agent
    controller context keyStart now shipped queried found
  have settles := (peer_waits_settle outlookOutside 9 session).1 shipper context
  exact ⟨settles, rfl, rfl, rfl, rfl, rfl, rfl, rfl, rfl, rfl⟩

/-- An error that a response reports counts for more than its series. -/
example : (MetricsAgent.judgeMetrics 0 120 (.ok ⟨some "ok", some "limited", [{}]⟩)).probe =
    .fatal "HTTP status was 200 OK but got Datadog API error: limited" := by decide

end Addon

end AddonCheck
