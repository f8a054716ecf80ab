import AddonCheck.Bucket.Listing
import AddonCheck.Cluster.Resource
import AddonCheck.Dns.Address
import AddonCheck.Log
import AddonCheck.Metrics.Response
import AddonCheck.Notification
import AddonCheck.Poll

/-
This file holds what a run asks of the outside, what each request is answered with, and the
conditions that a run waits for.
-/

namespace AddonCheck

/-- A request to the cluster or to another peer. -/
inductive Request where
  | create (object : Cluster.Object)
  | delete (resource : Cluster.Resource)
  | nodes (selector : String)
  | deployment (name namespaceName : String)
  | ingress (name namespaceName : String)
  | secret (name namespaceName : String)
  | lookup (host : String)
  | listing (bucket keyStart : String)
  /-- A query over a window of seconds since the start of 1970. -/
  | metrics (start finish : Int) (query : String)
  | deliver (message : String)
  /-- A condition that is known by a number alone. -/
  | evaluate (condition : Nat)
  deriving Inhabited

/-- The type of the answer to a request. -/
def Request.Answer : Request → Type
  | create _ => Except Cluster.Error Cluster.Creation
  | delete _ => Except Cluster.Error Cluster.Deletion
  | nodes _ => Except Cluster.Error (List String)
  | deployment _ _ => Except Cluster.Error (Option Cluster.Rollout)
  | ingress _ _ => Except Cluster.Error (Option (List (Option String)))
  | secret _ _ => Except Cluster.Error Bool
  | lookup _ => Except Dns.Error (List Dns.Address)
  | listing _ _ => Except Bucket.Error (List Bucket.StoredObject)
  | metrics _ _ _ => Except Metrics.Error Metrics.Response
  | deliver _ => Except Notification.Error Unit
  | evaluate _ => Probe

/-- What is read off the answer to one evaluation, and the lines that are logged about it. -/
structure Finding where
  log : List Log.Line
  probe : Probe
  deriving DecidableEq, Repr

/-- A condition is awaited by one request that is repeated, and a reading of its answers. -/
structure Condition where
  wait : Wait
  immediate : Bool
  /-- The lines that are logged before each request. -/
  announcement : List Log.Line
  request : Request
  judge : request.Answer → Finding

end AddonCheck
