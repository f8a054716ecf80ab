/-
This file holds the answers of a metrics service.
-/

namespace AddonCheck.Metrics

/-- A row of numbers, any of which may be missing. A number is given by its 64 bits. -/
abbrev Point := List (Option UInt64)

/-- The points of one metric in one scope. -/
structure Series where
  metric : Option String := none
  scope : Option String := none
  points : List Point := []
  deriving DecidableEq, Repr, Inhabited

/-- The answer to a query. -/
structure Response where
  status : Option String := none
  error : Option String := none
  series : List Series := []
  deriving DecidableEq, Repr, Inhabited

/-- The error that an answer reports, either as a text or as its status. -/
def Response.reported (response : Response) : Option String :=
  match response.error.filter fun text => text != "" with
  | some text => some text
  | none => if response.status == some "error" then some "query status is error" else none

/-- Why a query has no answer. -/
inductive Error where
  | status (code : Nat) (reason : String)
  | transport (reason : String)
  | decode (reason : String)
  deriving DecidableEq, Repr, Inhabited

namespace Error

def message : Error → String
  | status code reason => s!"{code} {reason}"
  | transport reason => s!"error querying metrics: {reason}"
  | decode reason => s!"could not decode the metrics response: {reason}"

/-- Trying again does not help a request that is not allowed. -/
def isUnauthorized : Error → Bool
  | status code _ => code == 401 || code == 403
  | _ => false

end Error

end AddonCheck.Metrics
