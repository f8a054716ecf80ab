import AddonCheck.Invocation

/-
This file shows which variables count as unset when they hold nothing. Settings are made of the
values of variables, and a value is never empty; only the class of an ingress is what its variable
holds, even if that is nothing.
-/

namespace AddonCheck

open Addon

namespace Environment

/-- The environment in which a variable is not set. -/
def without (environment : Environment) (name : String) : Environment :=
  ⟨fun other => if other = name then none else environment.lookup other⟩

/-- Two environments give the same values of the named variables. -/
def AgreeOn (names : List String) (first second : Environment) : Prop :=
  ∀ name ∈ names, first.value? name = second.value? name

variable {names : List String} {first second : Environment}

theorem AgreeOn.valueOr (agree : AgreeOn names first second) (name : String)
    (member : name ∈ names) (fallback : String) :
    first.valueOr name fallback = second.valueOr name fallback := by
  rw [Environment.valueOr, agree name member, Environment.valueOr]

theorem AgreeOn.waitFor [Duration.Reader] (agree : AgreeOn names first second) (name : String)
    (member : name ∈ names) (run : RunSettings) (interval : Duration) :
    Addon.waitFor first run interval name = Addon.waitFor second run interval name := by
  unfold Addon.waitFor Wait.withTimeoutFrom durationOr
  rw [agree name member]

/-- Nothing is lost with a variable that is empty. -/
theorem agreeOn_without {environment : Environment} {name : String}
    (blank : environment.lookup name = some "") (names : List String) :
    AgreeOn names (environment.without name) environment := by
  intro other _
  by_cases same : other = name
  · simp [value?, without, same, blank, Option.filter]
  · simp [value?, without, same]

theorem lookup_without_of_ne {environment : Environment} {name other : String}
    (different : other ≠ name) :
    (environment.without name).lookup other = environment.lookup other :=
  if_neg different

theorem lookup_without (environment : Environment) (name : String) :
    (environment.without name).lookup name = none := if_pos rfl

end Environment

open Environment

variable {environment first second : Environment}

/-! ## Settings are made of values -/

theorem RunSettings.ofEnvironment_agree (agree : AgreeOn ["CLUSTER_NAME"] first second)
    (debug : Bool) (timeout : Duration) :
    ofEnvironment debug timeout first = ofEnvironment debug timeout second := by
  simp only [ofEnvironment, agree.valueOr "CLUSTER_NAME" (by simp)]

namespace Notification.ChatRoom

def variableNames : List String := ["CHATWORK_API_TOKEN", "CHATWORK_ROOM_ID", "CHATWORK_SITE"]

theorem ofEnvironment_agree (agree : AgreeOn variableNames first second) :
    ofEnvironment first = ofEnvironment second := by
  unfold ofEnvironment
  rw [agree "CHATWORK_API_TOKEN" (by simp [variableNames]),
    agree "CHATWORK_ROOM_ID" (by simp [variableNames]),
    agree.valueOr "CHATWORK_SITE" (by simp [variableNames])]

end Notification.ChatRoom

namespace CommandLine

/-- The variables of which the settings of a check are made. -/
def Check.variableNames : Check → List String
  | .certManager => ["CERT_NAME", "SECRET_WAIT_TIMEOUT"]
  | .clusterAutoscaler =>
      ["RESOURCE_NAME", "NODE_LABEL_KEY", "NODE_LABEL_VALUE", "DEPLOYMENT_WAIT_TIMEOUT"]
  | .ingressController _ _ =>
      ["RESOURCE_NAME", "EXTERNAL_HOSTNAME", "DEPLOYMENT_WAIT_TIMEOUT", "INGRESS_WAIT_TIMEOUT",
        "DNS_WAIT_TIMEOUT"]
  | .logShipper =>
      ["RESOURCE_NAME", "LOG_BUCKET_NAME", "ENV", "LOG_PATH", "DEPLOYMENT_WAIT_TIMEOUT",
        "LOG_WAIT_TIMEOUT"]
  | .metricsAgent =>
      ["DD_API_KEY", "DD_APP_KEY", "QUERY_METRICS", "DD_SITE", "METRICS_WAIT_TIMEOUT"]

/-- The settings of a check depend on the values of its variables alone. -/
theorem CheckSettings.ofEnvironment_agree [Duration.Reader] {check : Check}
    (agree : AgreeOn check.variableNames first second) (run : RunSettings) :
    ofEnvironment first run check = ofEnvironment second run check := by
  cases check with
  | certManager =>
      simp only [ofEnvironment, CertManager.Settings.ofEnvironment,
        agree.valueOr "CERT_NAME" (by simp [Check.variableNames]),
        agree.waitFor "SECRET_WAIT_TIMEOUT" (by simp [Check.variableNames])]
  | clusterAutoscaler =>
      simp only [ofEnvironment, ClusterAutoscaler.Settings.ofEnvironment, deploymentWait,
        agree.valueOr "RESOURCE_NAME" (by simp [Check.variableNames]),
        agree.valueOr "NODE_LABEL_KEY" (by simp [Check.variableNames]),
        agree.valueOr "NODE_LABEL_VALUE" (by simp [Check.variableNames]),
        agree.waitFor "DEPLOYMENT_WAIT_TIMEOUT" (by simp [Check.variableNames])]
  | ingressController className skipsLookup =>
      simp only [ofEnvironment, IngressController.Settings.ofEnvironment, deploymentWait,
        agree.valueOr "RESOURCE_NAME" (by simp [Check.variableNames]),
        agree.valueOr "EXTERNAL_HOSTNAME" (by simp [Check.variableNames]),
        agree.waitFor "DEPLOYMENT_WAIT_TIMEOUT" (by simp [Check.variableNames]),
        agree.waitFor "INGRESS_WAIT_TIMEOUT" (by simp [Check.variableNames]),
        agree.waitFor "DNS_WAIT_TIMEOUT" (by simp [Check.variableNames])]
  | logShipper =>
      simp only [ofEnvironment, LogShipper.Settings.ofEnvironment, deploymentWait,
        agree.valueOr "RESOURCE_NAME" (by simp [Check.variableNames]),
        agree.valueOr "LOG_BUCKET_NAME" (by simp [Check.variableNames]),
        agree.valueOr "ENV" (by simp [Check.variableNames]),
        agree.valueOr "LOG_PATH" (by simp [Check.variableNames]),
        agree.waitFor "DEPLOYMENT_WAIT_TIMEOUT" (by simp [Check.variableNames]),
        agree.waitFor "LOG_WAIT_TIMEOUT" (by simp [Check.variableNames])]
  | metricsAgent =>
      simp only [ofEnvironment, MetricsAgent.Settings.ofEnvironment,
        agree MetricsAgent.apiKeyName (by simp [Check.variableNames, MetricsAgent.apiKeyName]),
        agree MetricsAgent.applicationKeyName
          (by simp [Check.variableNames, MetricsAgent.applicationKeyName]),
        agree.valueOr "QUERY_METRICS" (by simp [Check.variableNames]),
        agree.valueOr "DD_SITE" (by simp [Check.variableNames]),
        agree.waitFor "METRICS_WAIT_TIMEOUT" (by simp [Check.variableNames])]

/-! ## The class of an ingress -/

/-- The name of the command that the arguments end with. -/
def lastCommand (levels : List Level) : String := (levels.getLast?.map (·.command)).getD ""

/-- The arguments ask for the check of an ingress controller, and name no class. -/
def LeavesClassOpen (arguments : List String) : Prop :=
  ∃ levels, CommandLine.read rootCommand {} arguments = .ok levels ∧
    lastCommand levels = IngressController.name ∧ valueOf? levels "ingress-class-name" = none

/-- The same invocation, for the check of an ingress controller of a class. -/
def Invocation.ofClass (invocation : Invocation) (skipsLookup : Bool) (className : String) :
    Invocation :=
  { invocation with check := .ingressController className skipsLookup }

/-- Only the check of an ingress controller has a class. -/
theorem checkOf_eq (levels : List Level) (value : Option String) :
    checkOf levels value =
      if lastCommand levels = IngressController.name then
        some (.ingressController
          (((valueOf? levels "ingress-class-name").or value).getD IngressController.defaultClass)
          (valueOf? levels "no-dns-check").isSome)
      else checkOf levels none := by
  unfold checkOf
  rw [← lastCommand]
  split
  · next ingress =>
      rw [ingress]
      rfl
  · next other =>
      have unnamed : (IngressController.name == lastCommand levels) = false :=
        beq_eq_false_iff_ne.mpr (Ne.symm other)
      simp only [List.find?, Check.name, unnamed]

/-- A class that is left open is the value of the variable, if it is set. -/
theorem read_of_leavesClassOpen {arguments : List String} (isOpen : LeavesClassOpen arguments) :
    ∃ (invocation : Invocation) (skipsLookup : Bool), ∀ value : Option String,
      Invocation.read arguments value =
        .ok (invocation.ofClass skipsLookup (value.getD IngressController.defaultClass)) := by
  obtain ⟨levels, parsed, ingress, unnamed⟩ := isOpen
  let invocation : Invocation :=
    { check := default
      debug := (valueOf? levels "debug").isSome
      timeout := ((valueOf? levels "timeout").bind readMinutes?).getD
        RunSettings.defaultTimeoutMinutes
      level := ((valueOf? levels "log-level").bind Log.Level.read?).getD .info }
  refine ⟨invocation, (valueOf? levels "no-dns-check").isSome, fun value => ?_⟩
  change (CommandLine.read rootCommand {} arguments).bind (invocationOf · value) = _
  rw [parsed]
  change invocationOf levels value = _
  rw [invocationOf, checkOf_eq, if_pos ingress, unnamed]
  rfl

/-- A class that is left open is empty with an empty variable, and that of the load balancer
controller without it. -/
theorem read_of_blank_class (blank : environment.lookup classVariable = some "")
    {arguments : List String} (isOpen : LeavesClassOpen arguments) :
    ∃ (invocation : Invocation) (skipsLookup : Bool),
      Invocation.read arguments (environment.lookup classVariable) =
        .ok (invocation.ofClass skipsLookup "") ∧
      Invocation.read arguments ((environment.without classVariable).lookup classVariable) =
        .ok (invocation.ofClass skipsLookup IngressController.defaultClass) := by
  obtain ⟨invocation, skipsLookup, read⟩ := read_of_leavesClassOpen isOpen
  refine ⟨invocation, skipsLookup, ?_, ?_⟩
  · rw [blank]
    exact read (some "")
  · rw [lookup_without]
    exact read none

/-- Arguments that name the class, or need none, do not depend on the variable. -/
theorem read_of_not_leavesClassOpen {arguments : List String}
    (settled : ¬ LeavesClassOpen arguments) (value : Option String) :
    Invocation.read arguments value = Invocation.read arguments none := by
  change (CommandLine.read rootCommand {} arguments).bind (invocationOf · value) =
    (CommandLine.read rootCommand {} arguments).bind (invocationOf · none)
  cases parsed : CommandLine.read rootCommand {} arguments with
  | error stop => rfl
  | ok levels =>
      change invocationOf levels value = invocationOf levels none
      have same : checkOf levels value = checkOf levels none := by
        by_cases ingress : lastCommand levels = IngressController.name
        · rw [checkOf_eq levels value, checkOf_eq levels none, if_pos ingress, if_pos ingress]
          cases named : valueOf? levels "ingress-class-name" with
          | none => exact absurd ⟨levels, parsed, ingress, named⟩ settled
          | some className => rfl
        · rw [checkOf_eq levels value, if_neg ingress]
      rw [invocationOf, same, invocationOf]

/-- Nothing is known to wait for but the host name of the load balancer controller. -/
theorem ingressReadiness_of_ofEnvironment [Duration.Reader] {run : RunSettings}
    {className : String} {skipsLookup : Bool} {settings : IngressController.Settings}
    (found : IngressController.Settings.ofEnvironment environment run className skipsLookup =
      .ok settings) :
    IngressController.ingressReadiness settings =
      if className = IngressController.defaultClass then .loadBalancer settings.loadBalancerWait
      else .created := by
  have named : settings.className = className := by
    revert found
    unfold IngressController.Settings.ofEnvironment
    cases deploymentWait environment run with
    | error error => exact nofun
    | ok deploymentWait =>
        cases waitFor environment run IngressController.loadBalancerInterval
            "INGRESS_WAIT_TIMEOUT" with
        | error error => exact nofun
        | ok loadBalancerWait =>
            cases waitFor environment run IngressController.lookupInterval "DNS_WAIT_TIMEOUT" with
            | error error => exact nofun
            | ok lookupWait =>
                intro found
                cases found
                rfl
  rw [IngressController.ingressReadiness, named]

/-! ## Variables that hold nothing -/

/-- A variable that holds nothing counts as unset: without it, the settings of the run, the settings
of each check and the chat room are the same, and so is what the arguments ask for. The exception is
the class of an ingress that no argument names. It is then empty, and nothing is awaited; without
the variable it is the class of the load balancer controller, whose host name is awaited. -/
theorem blank_variable_is_unset_iff [Duration.Reader] {name : String}
    (blank : environment.lookup name = some "") (arguments : List String) :
    (∀ debug timeout, RunSettings.ofEnvironment debug timeout (environment.without name) =
      RunSettings.ofEnvironment debug timeout environment) ∧
    (∀ run check, CheckSettings.ofEnvironment (environment.without name) run check =
      CheckSettings.ofEnvironment environment run check) ∧
    Notification.ChatRoom.ofEnvironment (environment.without name) =
      Notification.ChatRoom.ofEnvironment environment ∧
    (Invocation.read arguments ((environment.without name).lookup classVariable) =
        Invocation.read arguments (environment.lookup classVariable) ↔
      ¬ (name = classVariable ∧ LeavesClassOpen arguments)) ∧
    (name = classVariable → LeavesClassOpen arguments →
      ∃ (invocation : Invocation) (skipsLookup : Bool),
        Invocation.read arguments (environment.lookup classVariable) =
          .ok (invocation.ofClass skipsLookup "") ∧
        (∀ run settings, IngressController.Settings.ofEnvironment environment run "" skipsLookup =
          .ok settings → IngressController.ingressReadiness settings = .created) ∧
        Invocation.read arguments ((environment.without name).lookup classVariable) =
          .ok (invocation.ofClass skipsLookup IngressController.defaultClass) ∧
        ∀ run settings, IngressController.Settings.ofEnvironment (environment.without name) run
            IngressController.defaultClass skipsLookup = .ok settings →
          IngressController.ingressReadiness settings =
            .loadBalancer settings.loadBalancerWait) := by
  have agree := agreeOn_without blank
  refine ⟨RunSettings.ofEnvironment_agree (agree _),
    fun run check => CheckSettings.ofEnvironment_agree (agree _) run,
    Notification.ChatRoom.ofEnvironment_agree (agree _), ⟨?_, ?_⟩, ?_⟩
  · rintro unchanged ⟨rfl, isOpen⟩
    obtain ⟨invocation, skipsLookup, blankClass, unsetClass⟩ := read_of_blank_class blank isOpen
    rw [blankClass, unsetClass] at unchanged
    simp [Invocation.ofClass, IngressController.defaultClass] at unchanged
  · intro settled
    by_cases same : name = classVariable
    · have known : ¬ LeavesClassOpen arguments := fun isOpen => settled ⟨same, isOpen⟩
      rw [read_of_not_leavesClassOpen known, ← read_of_not_leavesClassOpen known]
    · rw [lookup_without_of_ne (Ne.symm same)]
  · rintro rfl isOpen
    obtain ⟨invocation, skipsLookup, blankClass, unsetClass⟩ := read_of_blank_class blank isOpen
    refine ⟨invocation, skipsLookup, blankClass, fun run settings found => ?_, unsetClass,
      fun run settings found => ?_⟩
    · rw [ingressReadiness_of_ofEnvironment found]
      rfl
    · rw [ingressReadiness_of_ofEnvironment found]
      rfl

/-- The class of an ingress and the name of a certificate are empty. -/
def hollowEnvironment : Environment := .ofPairs [(classVariable, ""), ("CERT_NAME", "")]

/-- The arguments ask for an ingress of no class, where they would ask for one of the load balancer
controller if the empty variable counted as unset. -/
theorem blank_class_is_not_unset :
    hollowEnvironment.lookup classVariable = some "" ∧
    Invocation.read ["test", "ingress"] (hollowEnvironment.lookup classVariable) =
      .ok ⟨.ingressController "" false, false, 20, .info⟩ ∧
    Invocation.read ["test", "ingress"]
        ((hollowEnvironment.without classVariable).lookup classVariable) =
      .ok ⟨.ingressController "alb" false, false, 20, .info⟩ ∧
    Invocation.read ["test", "ingress"]
        ((hollowEnvironment.without classVariable).lookup classVariable) ≠
      Invocation.read ["test", "ingress"] (hollowEnvironment.lookup classVariable) := by
  have blank : Invocation.read ["test", "ingress"] (hollowEnvironment.lookup classVariable) =
      .ok ⟨.ingressController "" false, false, 20, .info⟩ := rfl
  have unset : Invocation.read ["test", "ingress"]
      ((hollowEnvironment.without classVariable).lookup classVariable) =
        .ok ⟨.ingressController "alb" false, false, 20, .info⟩ := rfl
  refine ⟨by decide, blank, unset, ?_⟩
  rw [blank, unset]
  simp

/-- A reader of durations that knows a single one. -/
abbrev twoMinutes : Duration.Reader where
  read text := if text = "2m" then .ok (.ofSeconds 120) else .error text

/-- Arguments that name the class are read alike with the empty variable and without it. -/
theorem blank_variable_is_unset_iff_named :
    hollowEnvironment.lookup classVariable = some "" ∧
    Invocation.read ["test", "ingress", "--ingress-class-name", "nginx"]
        ((hollowEnvironment.without classVariable).lookup classVariable) =
      Invocation.read ["test", "ingress", "--ingress-class-name", "nginx"]
        (hollowEnvironment.lookup classVariable) := by
  have blank : hollowEnvironment.lookup classVariable = some "" := by decide
  have parsed : CommandLine.read rootCommand {}
      ["test", "ingress", "--ingress-class-name", "nginx"] =
        .ok [⟨"kibertas", []⟩, ⟨"test", []⟩,
          ⟨"ingress", [("ingress-class-name", "nginx")]⟩] := rfl
  have settled : ¬ LeavesClassOpen ["test", "ingress", "--ingress-class-name", "nginx"] := by
    rintro ⟨levels, found, -, unnamed⟩
    rw [parsed] at found
    cases found
    revert unnamed
    decide
  obtain ⟨-, -, -, reads, -⟩ := @blank_variable_is_unset_iff _ twoMinutes _ blank
    ["test", "ingress", "--ingress-class-name", "nginx"]
  exact ⟨blank, reads.mpr fun exception => settled exception.2⟩

end CommandLine

end AddonCheck
