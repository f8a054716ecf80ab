import AddonCheck.Calendar
import AddonCheck.Environment

/-
This file holds the objects of a bucket, and how the pages of a listing are put together.
-/

namespace AddonCheck.Bucket

/-- An object of a bucket. -/
structure StoredObject where
  key : String
  lastModified : Option Instant
  size : Int
  deriving DecidableEq, Repr, Inhabited

/-- Why a bucket could not be listed. -/
inductive Error where
  | missingRegion
  /-- The status is missing when no answer arrived. -/
  | listing (bucket keyStart : String) (status : Option Nat) (reason : String)
  deriving DecidableEq, Repr, Inhabited

namespace Error

def message : Error → String
  | missingRegion => "region is empty: please set AWS_DEFAULT_REGION"
  | listing bucket keyStart _ reason =>
      s!"error listing objects in s3://{bucket}/{keyStart}: {reason}"

/-- Trying again does not help a request that is not allowed. -/
def isUnauthorized : Error → Bool
  | listing _ _ (some status) _ => status == 401 || status == 403
  | _ => false

end Error

/-- The region of the buckets, which must not be empty. -/
def region (environment : Environment) : Except Error String :=
  match (environment.lookup "AWS_REGION").or (environment.lookup "AWS_DEFAULT_REGION") with
  | none => .error .missingRegion
  | some name => if name.isEmpty then .error .missingRegion else .ok name

/-- An object as a page describes it: every part may be missing, and the time of the last change is
in seconds and nanoseconds. -/
structure Entry where
  key : Option String
  lastModified : Option (Int × Nat)
  size : Option Int
  deriving DecidableEq, Repr, Inhabited

/-- A time that the calendar does not hold counts as missing. -/
def StoredObject.ofEntry (entry : Entry) : StoredObject :=
  { key := entry.key.getD ""
    lastModified := entry.lastModified.bind fun time => Instant.ofUnix? time.1 time.2
    size := entry.size.getD 0 }

/-- A page of a listing, whether more pages follow, and the token that asks for the next one. -/
structure Page where
  entries : List Entry
  truncated : Option Bool
  next : Option String
  deriving DecidableEq, Repr, Inhabited

/-- The token that asks for the page after this one. -/
def Page.following (page : Page) : Option String :=
  if page.truncated.getD false then page.next else none

/-- Why a page did not arrive. -/
structure Failure where
  status : Option Nat
  reason : String
  deriving DecidableEq, Repr, Inhabited

/-- The rest of a listing, from the page that a token asks for. The fetch answers a token in a state
of the bucket; a listing that is longer than the bound on its pages has no answer. -/
def collect {σ : Type} (fetch : Option String → σ → Except Failure Page × σ) :
    Nat → Option String → List StoredObject → σ →
      Option (Except Failure (List StoredObject)) × σ
  | 0, _, _, state => (none, state)
  | pages + 1, token, objects, state =>
      match fetch token state with
      | (.error failure, state) => (some (.error failure), state)
      | (.ok page, state) =>
          let objects := objects ++ page.entries.map StoredObject.ofEntry
          match page.following with
          | some following => collect fetch pages (some following) objects state
          | none => (some (.ok objects), state)

/-- The listing of the objects of a bucket whose keys start in a given way. -/
def list {σ : Type} (fetch : Option String → σ → Except Failure Page × σ)
    (bucket keyStart : String) (pages : Nat) (state : σ) :
    Option (Except Error (List StoredObject)) × σ :=
  let (answer, state) := collect fetch pages none [] state
  (answer.map fun result => result.mapError fun failure =>
    .listing bucket keyStart failure.status failure.reason, state)

end AddonCheck.Bucket
