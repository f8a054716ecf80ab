import AddonCheck.Addon.Waits
import AddonCheck.Run.Checker

/-
This file checks a metrics agent: it waits until the metrics of the agent can be queried.
-/

namespace AddonCheck.Addon.MetricsAgent

open Run

def name : String := "datadog-agent"

def namespaceStart : String := "datadog-agent-test"

structure Settings where
  apiKey : String
  applicationKey : String
  query : String
  site : String
  /-- The time that the agent gets before the first query. -/
  warmUp : Duration
  metricsWait : Wait
  deriving DecidableEq, Repr

def apiKeyName : String := "DD_API_KEY"

def applicationKeyName : String := "DD_APP_KEY"

def defaultQuery : String := "avg:kubernetes.cpu.user.total\x7b*\x7d"

def defaultSite : String := "datadoghq.com"

def warmUp : Duration := Duration.ofSeconds 180

def metricsInterval : Duration := Duration.ofSeconds 30

/-- The seconds that a query looks back. -/
def windowSeconds : Int := 120

/-- Both keys are needed, and they are looked at first. -/
def Settings.ofEnvironment [Duration.Reader] (environment : Environment) (run : RunSettings) :
    Except SettingsError Settings :=
  match environment.value? apiKeyName, environment.value? applicationKeyName with
  | some apiKey, some applicationKey => do
      return {
        apiKey := apiKey
        applicationKey := applicationKey
        query := environment.valueOr "QUERY_METRICS" defaultQuery
        site := environment.valueOr "DD_SITE" defaultSite
        warmUp := MetricsAgent.warmUp
        metricsWait := ← waitFor environment run metricsInterval "METRICS_WAIT_TIMEOUT" }
  | _, _ => .error (.missing "DD_API_KEY or DD_APP_KEY is empty")

/-- An answer is decisive when it reports an error or has a series, or when the query is not
allowed. -/
def judgeMetrics (start finish : Int) : Except Metrics.Error Metrics.Response → Finding
  | .error error =>
      if error.isUnauthorized then ⟨[], .fatal error.message⟩
      else ⟨[Log.warn s!"Error when querying metrics: {error.message}"], .pending⟩
  | .ok response =>
      match response.reported with
      | some reported =>
          ⟨[], .fatal s!"HTTP status was 200 OK but got Datadog API error: {reported}"⟩
      | none =>
          if response.series.isEmpty then
            ⟨[Log.info s!"No results found: from={start} to={finish}"], .pending⟩
          else ⟨[], .converged⟩

def metricsCondition (settings : Settings) (now : Int) : Condition :=
  { wait := settings.metricsWait
    immediate := true
    announcement := []
    request := .metrics (now - windowSeconds) now settings.query
    judge := judgeMetrics (now - windowSeconds) now }

/-- What the check waits for. -/
def waitContext : String := "error waiting for query metrics results"

def converge (settings : Settings) : Checking Unit := do
  Program.announce s!"Querying metrics with query: {settings.query}"
  Program.log (Log.info "Waiting metrics...")
  if ← Program.pause settings.warmUp then throw (.wait waitContext .cancelled)
  let now ← Program.clock
  awaiting waitContext (metricsCondition settings now.seconds)
  Program.announce "Response from `MetricsApi.QueryMetrics`"

def checker (settings : Settings) : Checker Unit :=
  { name := name
    create := fun _ _ => pure ()
    converge := fun _ _ _ => converge settings }

end AddonCheck.Addon.MetricsAgent
