import AddonCheck.Cluster.Api
import AddonCheck.Duration.Expression
import AddonCheck.Session

/-
This file puts the outside of a run together from its peers. It also says how the process reads
durations.
-/

namespace AddonCheck

instance : Duration.Reader where
  read text := (Duration.Expression.read text).mapError Duration.ExpressionError.message

/-- What a peer answers from a state of the outside. -/
abbrev Peer (σ α : Type) := σ → Reply α × σ

/-- The cluster is asked over exchanges; of every other peer only its answers are known. -/
structure Peers (σ : Type) where
  cluster : Http.Exchange σ
  lookup : String → Peer σ (Except Dns.Error (List Dns.Address))
  listing : String → String → Peer σ (Except Bucket.Error (List Bucket.StoredObject))
  metrics : Int → Int → String → Peer σ (Except Metrics.Error Metrics.Response)
  deliver : String → Peer σ (Except Notification.Error Unit)
  evaluate : Nat → Peer σ Probe

namespace Peers

variable {σ : Type}

/-- The peer that asks the cluster. -/
def asking {α : Type} (request : StateM σ α) : Peer σ α := fun state =>
  let (answer, state) := request.run state
  ({ answer := answer }, state)

/-- Each request goes to its peer. -/
def outside (peers : Peers σ) : Outside σ where
  reply
    | .create object => asking (Cluster.Api.create peers.cluster object)
    | .delete resource => asking (Cluster.Api.delete peers.cluster resource)
    | .nodes selector => asking (Cluster.Api.nodes peers.cluster selector)
    | .deployment name namespaceName =>
        asking (Cluster.Api.deployment peers.cluster name namespaceName)
    | .ingress name namespaceName =>
        asking (Cluster.Api.ingress peers.cluster name namespaceName)
    | .secret name namespaceName => asking (Cluster.Api.secret peers.cluster name namespaceName)
    | .lookup host => peers.lookup host
    | .listing bucket keyStart => peers.listing bucket keyStart
    | .metrics start finish query => peers.metrics start finish query
    | .deliver message => peers.deliver message
    | .evaluate condition => peers.evaluate condition

/-- Peers of which none can be reached. -/
def unreachable : Peers Unit where
  cluster := Http.unreachable
  lookup _ state := ({ answer := .error (.io "no answer") }, state)
  listing bucket keyStart state :=
    ({ answer := .error (.listing bucket keyStart none "no answer") }, state)
  metrics _ _ _ state := ({ answer := .error (.transport "no answer") }, state)
  deliver _ state := ({ answer := .error (.send "no answer") }, state)
  evaluate _ state := ({ answer := .fatal "no answer" }, state)

end Peers

end AddonCheck
