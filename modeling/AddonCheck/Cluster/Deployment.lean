import AddonCheck.Cluster.Object

/-
This file holds deployments: a number of equal pods, the containers of a pod, and where a pod may be
placed. A field that has no value is not written.
-/

namespace AddonCheck.Cluster

/-- The label that a workload shares with the objects that select it. -/
def appLabels (name : String) : List (String × String) := [("app", name)]

/-- The metadata of an object that carries its own app label. -/
def Metadata.labelled (name : String) : Metadata :=
  { name := some name, labels := some (appLabels name) }

/-- A requirement holds of labels in which the key has one of the values. -/
structure Requirement where
  key : String
  values : List String
  deriving DecidableEq, Repr

def Requirement.toJson (requirement : Requirement) : Json :=
  .object
    [("key", .string requirement.key),
     ("operator", .string "In"),
     ("values", .array (requirement.values.map .string))]

/-- Two pods whose labels meet the requirements do not share a place of the topology. -/
structure Separation where
  requirements : List Requirement
  topologyKey : String
  deriving DecidableEq, Repr

def Separation.toJson (separation : Separation) : Json :=
  .object
    [("labelSelector", .object
        [("matchExpressions", .array (separation.requirements.map Requirement.toJson))]),
     ("topologyKey", .string separation.topologyKey)]

/-- Where pods may be placed: on a node that meets all the requirements of one term, apart from the
pods of each separation. -/
structure Affinity where
  nodeTerms : List (List Requirement)
  separations : List Separation
  deriving DecidableEq, Repr

def Affinity.toJson (affinity : Affinity) : Json :=
  let required := "requiredDuringSchedulingIgnoredDuringExecution"
  let term (requirements : List Requirement) : Json :=
    .object [("matchExpressions", .array (requirements.map Requirement.toJson))]
  .object
    [("nodeAffinity", .object
        [(required, .object [("nodeSelectorTerms", .array (affinity.nodeTerms.map term))])]),
     ("podAntiAffinity", .object
        [(required, .array (affinity.separations.map Separation.toJson))])]

/-- A port that a container listens on. -/
structure ContainerPort where
  name : String
  protocol : String
  number : Int
  deriving DecidableEq, Repr

def ContainerPort.toJson (port : ContainerPort) : Json :=
  .object
    [("containerPort", .integer port.number),
     ("name", .string port.name),
     ("protocol", .string port.protocol)]

/-- A container of a pod. -/
structure Container where
  name : String
  image : Option String := none
  arguments : Option (List String) := none
  ports : Option (List ContainerPort) := none
  deriving DecidableEq, Repr

def Container.toJson (container : Container) : Json :=
  .object
    (Json.optional "args" (container.arguments.map fun texts => .array (texts.map .string))
      ++ Json.optional "image" (container.image.map .string)
      ++ [("name", .string container.name)]
      ++ Json.optional "ports"
        (container.ports.map fun ports => .array (ports.map ContainerPort.toJson)))

/-- A deployment keeps a number of pods that its selector finds. -/
structure Deployment where
  name : String
  replicas : Int
  selector : List (String × String)
  podLabels : List (String × String)
  containers : List Container
  affinity : Option Affinity := none
  deriving DecidableEq, Repr

namespace Deployment

/-- The written form of the pods. -/
def podTemplate (deployment : Deployment) : Json :=
  .object
    [("metadata", .object [("labels", .ofTexts deployment.podLabels)]),
     ("spec", .object
        (Json.optional "affinity" (deployment.affinity.map Affinity.toJson)
          ++ [("containers", .array (deployment.containers.map Container.toJson))]))]

def toJson (deployment : Deployment) : Json :=
  .object
    (Object.kindFields Kind.deployment
      ++ [("metadata", (Metadata.labelled deployment.name).toJson),
          ("spec", .object
            [("replicas", .integer deployment.replicas),
             ("selector", .object [("matchLabels", .ofTexts deployment.selector)]),
             ("template", deployment.podTemplate)])])

/-- A deployment whose pods carry its own app label. -/
def ofContainers (name : String) (replicas : Int) (containers : List Container) : Deployment :=
  { name := name
    replicas := replicas
    selector := appLabels name
    podLabels := appLabels name
    containers := containers }

def webServerImage : String := "nginx:1.25.2"

/-- Pods with one web server that listens on a port. -/
def webServer (name : String) (replicas port : Int) : Deployment :=
  ofContainers name replicas
    [{ name := "nginx"
       image := some webServerImage
       ports := some [⟨"http", "TCP", port⟩] }]

def logGeneratorImage : String := "ubuntu"

def logGeneratorScript : String :=
  "while true; do cat /dev/urandom | tr -dc 'a-zA-Z0-9' | fold -w 128 | head -n 64; sleep 2; done"

/-- Pods that write bursts of random lines. -/
def logGenerator (name : String) (replicas : Int) : Deployment :=
  ofContainers name replicas
    [{ name := "log-generator"
       image := some logGeneratorImage
       arguments := some ["sh", "-c", logGeneratorScript] }]

end Deployment

end AddonCheck.Cluster
