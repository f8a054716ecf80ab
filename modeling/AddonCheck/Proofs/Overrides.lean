import AddonCheck.Proofs.Unset
import Mathlib.Data.List.Forall2

/-
This file shows what the settings of a check are made of. Each text and each wait has a variable of
its own, and the first variable that cannot be read is reported.
-/

namespace AddonCheck

open Addon

/-- A text that a variable replaces, and the text without it. -/
structure TextOverride where
  name : String
  fallback : String

/-- A wait whose timeout a variable replaces. -/
structure WaitOverride where
  name : String
  interval : Duration

/-- The wait has its own interval. Its timeout is that of the run, or the duration that its variable
holds. -/
structure WaitOverride.Gives [Duration.Reader] (environment : Environment) (run : RunSettings)
    (override : WaitOverride) (wait : Wait) : Prop where
  interval : wait.interval = override.interval
  unset : environment.value? override.name = none → wait.timeout = run.timeout
  set : ∀ text, environment.value? override.name = some text →
    Duration.Reader.read text = .ok wait.timeout

/-- The variable of a wait holds a text that is no duration, and this is reported. -/
def WaitOverride.Fails [Duration.Reader] (environment : Environment) (override : WaitOverride)
    (error : SettingsError) : Prop :=
  ∃ text reason, environment.value? override.name = some text ∧
    Duration.Reader.read text = .error reason ∧ error = .invalidDuration override.name reason

variable {environment : Environment} {run : RunSettings}

/-! ## Waits in a row -/

section

variable [Duration.Reader] {override : WaitOverride} {overrides : List WaitOverride} {wait : Wait}
  {waits : List Wait} {error : SettingsError}

theorem waitFor_eq (environment : Environment) (run : RunSettings) (override : WaitOverride) :
    waitFor environment run override.interval override.name =
      match environment.value? override.name with
      | none => .ok ⟨override.interval, run.timeout⟩
      | some text =>
          match Duration.Reader.read text with
          | .ok timeout => .ok ⟨override.interval, timeout⟩
          | .error reason => .error (.invalidDuration override.name reason) := by
  unfold waitFor Wait.withTimeoutFrom Environment.durationOr
  cases environment.value? override.name with
  | none => rfl
  | some text => cases read : Duration.Reader.read text <;> simp [read]

theorem waitFor_eq_ok_iff :
    waitFor environment run override.interval override.name = .ok wait ↔
      override.Gives environment run wait := by
  rw [waitFor_eq]
  obtain ⟨interval, timeout⟩ := wait
  constructor
  · intro found
    constructor <;> grind
  · rintro ⟨same, unset, set⟩
    grind

theorem waitFor_eq_error_iff (run : RunSettings) :
    waitFor environment run override.interval override.name = .error error ↔
      override.Fails environment error := by
  rw [waitFor_eq, WaitOverride.Fails]
  grind

/-- The waits of a check, which are read in their order. -/
def readWaits (environment : Environment) (run : RunSettings) (overrides : List WaitOverride) :
    Except SettingsError (List Wait) :=
  overrides.mapM fun override => waitFor environment run override.interval override.name

theorem readWaits_cons (override : WaitOverride) (rest : List WaitOverride) :
    readWaits environment run (override :: rest) =
      match waitFor environment run override.interval override.name with
      | .error error => .error error
      | .ok wait => (readWaits environment run rest).map (wait :: ·) := by
  rw [readWaits, List.mapM_cons]
  cases waitFor environment run override.interval override.name with
  | error error => rfl
  | ok wait =>
      change (readWaits environment run rest).bind (fun waits => .ok (wait :: waits)) = _
      cases readWaits environment run rest <;> rfl

theorem readWaits_eq_ok_iff :
    readWaits environment run overrides = .ok waits ↔
      List.Forall₂ (WaitOverride.Gives environment run) overrides waits := by
  induction overrides generalizing waits with
  | nil => cases waits <;> simp [readWaits, pure, Except.pure]
  | cons override rest inductionHypothesis =>
      rw [readWaits_cons, List.forall₂_cons_left_iff]
      simp only [← inductionHypothesis, ← waitFor_eq_ok_iff]
      cases waitFor environment run override.interval override.name with
      | error error => simp
      | ok wait => cases readWaits environment run rest <;> simp [Except.map, eq_comm]

/-- The first variable of a row that fails is reported. -/
def FailsFirst (environment : Environment) (overrides : List WaitOverride)
    (error : SettingsError) : Prop :=
  ∃ before override after, overrides = before ++ override :: after ∧
    (∀ earlier ∈ before, ∀ other, ¬ earlier.Fails environment other) ∧
    override.Fails environment error

/-- Either the first variable fails, or it does not and one after it does. -/
theorem failsFirst_cons_iff :
    FailsFirst environment (override :: overrides) error ↔
      override.Fails environment error ∨
        (∀ other, ¬ override.Fails environment other) ∧ FailsFirst environment overrides error := by
  constructor
  · rintro ⟨before, failing, after, split, reads, fails⟩
    cases before with
    | nil =>
        obtain ⟨rfl, rfl⟩ := List.cons.inj split
        exact .inl fails
    | cons first before =>
        obtain ⟨rfl, rfl⟩ := List.cons.inj split
        obtain ⟨first, others⟩ := List.forall_mem_cons.mp reads
        exact .inr ⟨first, before, failing, after, rfl, others, fails⟩
  · rintro (fails | ⟨first, before, failing, after, rfl, reads, fails⟩)
    · exact ⟨[], override, overrides, rfl, by simp, fails⟩
    · exact ⟨override :: before, failing, after, rfl, List.forall_mem_cons.mpr ⟨first, reads⟩,
        fails⟩

theorem readWaits_eq_error_iff :
    readWaits environment run overrides = .error error ↔
      FailsFirst environment overrides error := by
  induction overrides with
  | nil => simp [readWaits, FailsFirst, pure, Except.pure]
  | cons override rest inductionHypothesis =>
      rw [readWaits_cons, failsFirst_cons_iff, ← inductionHypothesis]
      simp only [← waitFor_eq_error_iff run]
      cases waitFor environment run override.interval override.name with
      | error other => simp
      | ok wait => cases readWaits environment run rest <;> simp [Except.map]

/-- A row fails when one of its variables does. -/
theorem exists_failsFirst_iff :
    (∃ error, FailsFirst environment overrides error) ↔
      ∃ override ∈ overrides, ∃ error, override.Fails environment error := by
  induction overrides with
  | nil => simp [FailsFirst]
  | cons override rest inductionHypothesis =>
      simp only [failsFirst_cons_iff, exists_or, exists_and_left, inductionHypothesis,
        List.exists_mem_cons_iff]
      by_cases fails : ∃ error, override.Fails environment error
      · simp [fails]
      · simp [not_exists.mp fails]

end

namespace CommandLine

/-! ## What a check reads -/

namespace Check

/-- The keys that a check cannot do without. -/
def keyNames : Check → List String
  | .metricsAgent => [MetricsAgent.apiKeyName, MetricsAgent.applicationKeyName]
  | _ => []

/-- The texts of a check in the order of its settings. -/
def textOverrides : Check → List TextOverride
  | .certManager => [⟨"CERT_NAME", "sample"⟩]
  | .clusterAutoscaler =>
      [⟨"RESOURCE_NAME", "sample-for-scale"⟩,
        ⟨"NODE_LABEL_KEY", "eks.amazonaws.com/capacityType"⟩, ⟨"NODE_LABEL_VALUE", "SPOT"⟩]
  | .ingressController _ _ =>
      [⟨"RESOURCE_NAME", "sample"⟩, ⟨"EXTERNAL_HOSTNAME", "sample-skmt.cwtest.info"⟩]
  | .logShipper =>
      [⟨"RESOURCE_NAME", "burst-log-generator"⟩, ⟨"LOG_BUCKET_NAME", "cwtest-kubernetes-logs"⟩,
        ⟨"ENV", "cwtest"⟩, ⟨"LOG_PATH", "fluentd"⟩]
  | .metricsAgent =>
      [⟨"QUERY_METRICS", MetricsAgent.defaultQuery⟩, ⟨"DD_SITE", MetricsAgent.defaultSite⟩]

/-- The waits of a check in the order of its settings. -/
def waitOverrides : Check → List WaitOverride
  | .certManager => [⟨"SECRET_WAIT_TIMEOUT", CertManager.secretInterval⟩]
  | .clusterAutoscaler => [⟨"DEPLOYMENT_WAIT_TIMEOUT", deploymentInterval⟩]
  | .ingressController _ _ =>
      [⟨"DEPLOYMENT_WAIT_TIMEOUT", deploymentInterval⟩,
        ⟨"INGRESS_WAIT_TIMEOUT", IngressController.loadBalancerInterval⟩,
        ⟨"DNS_WAIT_TIMEOUT", IngressController.lookupInterval⟩]
  | .logShipper =>
      [⟨"DEPLOYMENT_WAIT_TIMEOUT", deploymentInterval⟩,
        ⟨"LOG_WAIT_TIMEOUT", LogShipper.logInterval⟩]
  | .metricsAgent => [⟨"METRICS_WAIT_TIMEOUT", MetricsAgent.metricsInterval⟩]

theorem variableNames_eq (check : Check) :
    check.variableNames = check.keyNames ++ check.textOverrides.map TextOverride.name ++
      check.waitOverrides.map WaitOverride.name := by
  cases check <;> rfl

end Check

namespace CheckSettings

/-- The check that the settings are for. -/
def check : CheckSettings → Check
  | certManager _ => .certManager
  | clusterAutoscaler _ => .clusterAutoscaler
  | ingressController settings => .ingressController settings.className settings.skipsLookup
  | logShipper _ => .logShipper
  | metricsAgent _ => .metricsAgent

def keys : CheckSettings → List String
  | metricsAgent settings => [settings.apiKey, settings.applicationKey]
  | _ => []

def texts : CheckSettings → List String
  | certManager settings => [settings.certificateName]
  | clusterAutoscaler settings =>
      [settings.resourceName, settings.nodeLabelKey, settings.nodeLabelValue]
  | ingressController settings => [settings.resourceName, settings.externalHostname]
  | logShipper settings =>
      [settings.resourceName, settings.bucket, settings.environment, settings.logPath]
  | metricsAgent settings => [settings.query, settings.site]

def waits : CheckSettings → List Wait
  | certManager settings => [settings.secretWait]
  | clusterAutoscaler settings => [settings.deploymentWait]
  | ingressController settings =>
      [settings.deploymentWait, settings.loadBalancerWait, settings.lookupWait]
  | logShipper settings => [settings.deploymentWait, settings.logWait]
  | metricsAgent settings => [settings.metricsWait]

/-- The time before the first query, where there is one. -/
def warmUp? : CheckSettings → Option Duration
  | metricsAgent settings => some settings.warmUp
  | _ => none

/-- The settings of the check hold its keys, and each text is that of its variable or stands for
it. -/
structure Holds (environment : Environment) (check : Check) (settings : CheckSettings) : Prop where
  sameCheck : settings.check = check
  keys : settings.keys.map some = check.keyNames.map environment.value?
  texts : settings.texts = check.textOverrides.map fun override =>
    (environment.value? override.name).getD override.fallback
  warmUp : ∀ warmUp ∈ settings.warmUp?, warmUp = MetricsAgent.warmUp

section

variable [Duration.Reader]

/-- And each wait is as its variable gives it. -/
structure Follows (environment : Environment) (run : RunSettings) (check : Check)
    (settings : CheckSettings) : Prop extends settings.Holds environment check where
  waits : List.Forall₂ (WaitOverride.Gives environment run) check.waitOverrides settings.waits

/-- Why the settings of a check cannot be read. A key that is missing comes before any wait. -/
inductive Fault (environment : Environment) (check : Check) : SettingsError → Prop where
  | keyless {name : String} (needed : name ∈ check.keyNames)
      (missing : environment.value? name = none) :
      Fault environment check (.missing "DD_API_KEY or DD_APP_KEY is empty")
  | misread {error : SettingsError}
      (keyed : ∀ name ∈ check.keyNames, environment.value? name ≠ none)
      (fails : FailsFirst environment check.waitOverrides error) : Fault environment check error

variable {check : Check} {settings : CheckSettings} {error : SettingsError}

theorem ofEnvironment_keyless {name : String} (needed : name ∈ check.keyNames)
    (missing : environment.value? name = none) :
    ofEnvironment environment run check =
      .error (.missing "DD_API_KEY or DD_APP_KEY is empty") := by
  cases check with
  | metricsAgent =>
      simp only [Check.keyNames, List.mem_cons, List.not_mem_nil, or_false] at needed
      simp only [ofEnvironment, MetricsAgent.Settings.ofEnvironment]
      rcases needed with rfl | rfl
      · rw [missing]
        rfl
      · cases environment.value? MetricsAgent.apiKeyName <;> rw [missing] <;> rfl
  | _ => simp [Check.keyNames] at needed

/-- When the keys are there, the settings are there when the waits are. -/
theorem ofEnvironment_keyed (run : RunSettings)
    (keyed : ∀ name ∈ check.keyNames, environment.value? name ≠ none) :
    match readWaits environment run check.waitOverrides with
    | .error error => ofEnvironment environment run check = .error error
    | .ok waits => ∃ settings, ofEnvironment environment run check = .ok settings ∧
        settings.Holds environment check ∧ settings.waits = waits := by
  cases check with
  | certManager =>
      simp only [Check.waitOverrides, readWaits_cons, ofEnvironment,
        CertManager.Settings.ofEnvironment]
      cases waitFor environment run CertManager.secretInterval "SECRET_WAIT_TIMEOUT" with
      | error error => rfl
      | ok wait => exact ⟨_, rfl, ⟨rfl, rfl, rfl, by simp [warmUp?]⟩, rfl⟩
  | clusterAutoscaler =>
      simp only [Check.waitOverrides, readWaits_cons, ofEnvironment,
        ClusterAutoscaler.Settings.ofEnvironment, deploymentWait]
      cases waitFor environment run deploymentInterval "DEPLOYMENT_WAIT_TIMEOUT" with
      | error error => rfl
      | ok wait => exact ⟨_, rfl, ⟨rfl, rfl, rfl, by simp [warmUp?]⟩, rfl⟩
  | ingressController className skipsLookup =>
      simp only [Check.waitOverrides, readWaits_cons, ofEnvironment,
        IngressController.Settings.ofEnvironment, deploymentWait]
      cases waitFor environment run deploymentInterval "DEPLOYMENT_WAIT_TIMEOUT" with
      | error error => rfl
      | ok deploymentWait =>
          cases waitFor environment run IngressController.loadBalancerInterval
              "INGRESS_WAIT_TIMEOUT" with
          | error error => rfl
          | ok loadBalancerWait =>
              cases waitFor environment run IngressController.lookupInterval "DNS_WAIT_TIMEOUT" with
              | error error => rfl
              | ok lookupWait => exact ⟨_, rfl, ⟨rfl, rfl, rfl, by simp [warmUp?]⟩, rfl⟩
  | logShipper =>
      simp only [Check.waitOverrides, readWaits_cons, ofEnvironment,
        LogShipper.Settings.ofEnvironment, deploymentWait]
      cases waitFor environment run deploymentInterval "DEPLOYMENT_WAIT_TIMEOUT" with
      | error error => rfl
      | ok deploymentWait =>
          cases waitFor environment run LogShipper.logInterval "LOG_WAIT_TIMEOUT" with
          | error error => rfl
          | ok logWait => exact ⟨_, rfl, ⟨rfl, rfl, rfl, by simp [warmUp?]⟩, rfl⟩
  | metricsAgent =>
      obtain ⟨apiKey, api⟩ := Option.ne_none_iff_exists'.mp
        (keyed MetricsAgent.apiKeyName (by simp [Check.keyNames]))
      obtain ⟨applicationKey, application⟩ := Option.ne_none_iff_exists'.mp
        (keyed MetricsAgent.applicationKeyName (by simp [Check.keyNames]))
      have keys : [apiKey, applicationKey].map some =
          (Check.keyNames .metricsAgent).map environment.value? := by
        simp [Check.keyNames, api, application]
      simp only [Check.waitOverrides, readWaits_cons, ofEnvironment,
        MetricsAgent.Settings.ofEnvironment, api, application]
      cases waitFor environment run MetricsAgent.metricsInterval "METRICS_WAIT_TIMEOUT" with
      | error error => rfl
      | ok wait => exact ⟨_, rfl, ⟨rfl, keys, rfl, by simp [warmUp?]⟩, rfl⟩

theorem ofEnvironment_follows (found : ofEnvironment environment run check = .ok settings) :
    settings.Follows environment run check := by
  by_cases keyless : ∃ name ∈ check.keyNames, environment.value? name = none
  · obtain ⟨name, needed, missing⟩ := keyless
    rw [ofEnvironment_keyless needed missing] at found
    cases found
  · have decided := ofEnvironment_keyed run fun name needed missing =>
      keyless ⟨name, needed, missing⟩
    cases read : readWaits environment run check.waitOverrides with
    | error error =>
        rw [read, found] at decided
        cases decided
    | ok waits =>
        rw [read, found] at decided
        obtain ⟨_, ⟨⟩, holds, rfl⟩ := decided
        exact ⟨holds, readWaits_eq_ok_iff.mp read⟩

theorem ofEnvironment_eq_error_iff :
    ofEnvironment environment run check = .error error ↔ Fault environment check error := by
  by_cases keyless : ∃ name ∈ check.keyNames, environment.value? name = none
  · obtain ⟨name, needed, missing⟩ := keyless
    rw [ofEnvironment_keyless needed missing]
    constructor
    · rintro ⟨⟩
      exact .keyless needed missing
    · rintro (⟨-, -⟩ | ⟨keyed, -⟩)
      · rfl
      · exact absurd missing (keyed name needed)
  · have keyed : ∀ name ∈ check.keyNames, environment.value? name ≠ none :=
      fun name needed missing => keyless ⟨name, needed, missing⟩
    have fault : Fault environment check error ↔
        readWaits environment run check.waitOverrides = .error error := by
      rw [readWaits_eq_error_iff]
      constructor
      · rintro (⟨needed, missing⟩ | ⟨-, fails⟩)
        · exact absurd missing (keyed _ needed)
        · exact fails
      · exact .misread keyed
    have decided := ofEnvironment_keyed run keyed
    rw [fault]
    cases read : readWaits environment run check.waitOverrides with
    | error other =>
        rw [read] at decided
        simp [decided]
    | ok waits =>
        rw [read] at decided
        obtain ⟨settings, found, -⟩ := decided
        simp [found]

/-- A check cannot be prepared when a key is missing or a variable fails. -/
theorem exists_fault_iff :
    (∃ error, Fault environment check error) ↔
      (∃ name ∈ check.keyNames, environment.value? name = none) ∨
        ∃ override ∈ check.waitOverrides, ∃ error, override.Fails environment error := by
  rw [← exists_failsFirst_iff]
  constructor
  · rintro ⟨_, ⟨needed, missing⟩ | ⟨-, fails⟩⟩
    · exact .inl ⟨_, needed, missing⟩
    · exact .inr ⟨_, fails⟩
  · by_cases keyless : ∃ name ∈ check.keyNames, environment.value? name = none
    · obtain ⟨name, needed, missing⟩ := keyless
      exact fun _ => ⟨_, .keyless needed missing⟩
    · rintro (missing | ⟨error, fails⟩)
      · exact absurd missing keyless
      · exact ⟨error, .misread (fun name needed missing => keyless ⟨name, needed, missing⟩) fails⟩

/-- The settings of a check are made of its variables alone. Each text is that of its own variable
or its default. Each wait has its own interval, and the timeout that its own variable holds, or that
of the run. They cannot be read just when a key is missing, which is reported first, or when a
variable of a wait holds no duration, and then the first such variable is reported. -/
theorem settings_follow_variables (environment : Environment) (run : RunSettings) (check : Check) :
    (∀ settings, ofEnvironment environment run check = .ok settings →
      settings.Follows environment run check) ∧
    (∀ error, ofEnvironment environment run check = .error error ↔ Fault environment check error) ∧
    ((∃ error, ofEnvironment environment run check = .error error) ↔
      (∃ name ∈ check.keyNames, environment.value? name = none) ∨
        ∃ override ∈ check.waitOverrides, ∃ error, override.Fails environment error) ∧
    ∀ other, Environment.AgreeOn (check.keyNames ++ check.textOverrides.map TextOverride.name ++
        check.waitOverrides.map WaitOverride.name) other environment →
      ofEnvironment other run check = ofEnvironment environment run check := by
  refine ⟨fun settings => ofEnvironment_follows, fun error => ofEnvironment_eq_error_iff, ?_, ?_⟩
  · simp only [ofEnvironment_eq_error_iff, exists_fault_iff]
  · intro other agree
    rw [← Check.variableNames_eq] at agree
    exact ofEnvironment_agree agree run

end

/-- One timeout is empty, one is a duration, and two are none. -/
def unevenEnvironment : Environment :=
  .ofPairs [("DEPLOYMENT_WAIT_TIMEOUT", ""), ("SECRET_WAIT_TIMEOUT", "2m"),
    ("DNS_WAIT_TIMEOUT", "later"), ("INGRESS_WAIT_TIMEOUT", "soon"), ("DD_API_KEY", "key")]

/-- An empty timeout is that of the run, and the first one that is no duration is reported, unless a
key is missing. -/
theorem settings_follow_variables_uneven :
    letI := twoMinutes
    Follows unevenEnvironment .standard .certManager
      (.certManager ⟨"sample", .ofSeconds 5, .ofSeconds 120⟩) ∧
    (∃ reason, ofEnvironment unevenEnvironment .standard (.ingressController "alb" false) =
      .error (.invalidDuration "INGRESS_WAIT_TIMEOUT" reason)) ∧
    ofEnvironment unevenEnvironment .standard .metricsAgent =
      .error (.missing "DD_API_KEY or DD_APP_KEY is empty") ∧
    ofEnvironment .empty .standard .clusterAutoscaler =
      ofEnvironment unevenEnvironment .standard .clusterAutoscaler := by
  let this := twoMinutes
  obtain ⟨follows, -, -, -⟩ := settings_follow_variables unevenEnvironment .standard .certManager
  obtain ⟨-, misread, -, -⟩ :=
    settings_follow_variables unevenEnvironment .standard (.ingressController "alb" false)
  obtain ⟨-, keyless, -, -⟩ := settings_follow_variables unevenEnvironment .standard .metricsAgent
  obtain ⟨-, -, -, agree⟩ :=
    settings_follow_variables unevenEnvironment .standard .clusterAutoscaler
  refine ⟨follows _ ?_, ⟨"soon", (misread _).mpr (.misread nofun ?_)⟩, (keyless _).mpr ?_, agree _ ?_⟩
  · have set : unevenEnvironment.value? "SECRET_WAIT_TIMEOUT" = some "2m" := by decide
    have wait := waitFor_eq unevenEnvironment .standard
      ⟨"SECRET_WAIT_TIMEOUT", CertManager.secretInterval⟩
    simp only [set] at wait
    simp only [ofEnvironment, CertManager.Settings.ofEnvironment, wait]
    rfl
  · refine ⟨[⟨"DEPLOYMENT_WAIT_TIMEOUT", deploymentInterval⟩], _, _, rfl, ?_,
      "soon", _, by decide, rfl, rfl⟩
    have empty : unevenEnvironment.value? "DEPLOYMENT_WAIT_TIMEOUT" = none := by decide
    simp [WaitOverride.Fails, empty]
  · exact .keyless (show MetricsAgent.applicationKeyName ∈ _ by decide) (by decide)
  · intro name member
    simp only [Check.keyNames, Check.textOverrides, Check.waitOverrides, List.map_cons,
      List.map_nil, List.nil_append, List.cons_append, List.mem_cons, List.not_mem_nil,
      or_false] at member
    rcases member with rfl | rfl | rfl | rfl <;> decide

end CheckSettings

end CommandLine

end AddonCheck
