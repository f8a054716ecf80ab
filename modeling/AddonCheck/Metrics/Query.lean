import AddonCheck.Http
import AddonCheck.Metrics.Decoding

/-
This file queries a metrics service.
-/

namespace AddonCheck.Metrics

/-- The site and the keys of a metrics service. -/
structure Service where
  site : String
  apiKey : String
  applicationKey : String
  deriving DecidableEq, Repr, Inhabited

namespace Service

def address (service : Service) : String := Http.baseAddress "https://api." service.site

/-- The request of a query over a window of seconds. -/
def request (service : Service) (start finish : Int) (query : String) : Http.Request :=
  { method := .get
    path := service.address ++ "/api/v1/query"
    query := Http.form [("from", toString start), ("to", toString finish), ("query", query)]
    headers :=
      [("DD-API-KEY", Http.trimHeader service.apiKey),
       ("DD-APPLICATION-KEY", Http.trimHeader service.applicationKey)] }

/-- What a response says. -/
def judge (response : Http.Response) : Except Error Response :=
  if response.isSuccess then
    match Response.read? response.body with
    | some decoded => .ok decoded
    | none => .error (.decode "the body is not an answer")
  else .error (.status response.status (Http.reasonPhrase response.status))

/-- Sends a query. A key that is no header is not sent. -/
def query {σ : Type} (service : Service) (exchange : Http.Exchange σ) (start finish : Int)
    (query : String) : StateM σ (Except Error Response) := do
  if Http.isHeaderValue service.apiKey && Http.isHeaderValue service.applicationKey then
    match ← exchange (service.request start finish query) with
    | some response => return judge response
    | none => return .error (.transport "no answer")
  else return .error (.transport "a key cannot be sent")

end Service

end AddonCheck.Metrics
