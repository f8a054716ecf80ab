import AddonCheck.Cluster.Deployment

/-
This file holds namespaces, and the services and ingresses that lead to the pods of a deployment.
-/

namespace AddonCheck.Cluster

/-- The written form of a namespace. -/
def namespaceJson (name : String) : Json :=
  .object
    (Object.kindFields Kind.namespaceKind
      ++ [("metadata", Metadata.toJson { name := some name })])

/-- A service leads its port to a port of the pods that it selects. -/
structure Service where
  name : String
  selector : List (String × String)
  portName : String
  protocol : String
  port : Int
  targetPort : Int
  deriving DecidableEq, Repr

namespace Service

def toJson (service : Service) : Json :=
  .object
    (Object.kindFields Kind.service
      ++ [("metadata", (Metadata.labelled service.name).toJson),
          ("spec", .object
            [("ports", .array
                [.object
                  [("name", .string service.portName),
                   ("port", .integer service.port),
                   ("protocol", .string service.protocol),
                   ("targetPort", .integer service.targetPort)]]),
             ("selector", .ofTexts service.selector)])])

/-- The service of the pods that carry its own app label. -/
def ofPods (name : String) (port targetPort : Int) : Service :=
  { name := name
    selector := appLabels name
    portName := "http"
    protocol := "TCP"
    port := port
    targetPort := targetPort }

end Service

/-- An ingress leads every path of a host to a port of a service. -/
structure Ingress where
  name : String
  annotations : List (String × String)
  className : String
  host : String
  path : String
  pathType : String
  serviceName : String
  servicePort : Int
  deriving DecidableEq, Repr

namespace Ingress

/-- The annotation that publishes a host name. -/
def hostnameKey : String := "external-dns.alpha.kubernetes.io/hostname"

/-- The annotations that the load balancer controller reads. -/
def loadBalancerAnnotations : List (String × String) :=
  [("alb.ingress.kubernetes.io/backend-protocol", "HTTP"),
   ("alb.ingress.kubernetes.io/connection-idle-timeout", "60"),
   ("alb.ingress.kubernetes.io/healthcheck-interval-seconds", "5"),
   ("alb.ingress.kubernetes.io/healthcheck-protocol", "HTTP"),
   ("alb.ingress.kubernetes.io/healthcheck-timeout-seconds", "2"),
   ("alb.ingress.kubernetes.io/healthy-threshold-count", "2"),
   ("alb.ingress.kubernetes.io/inbound-cidrs", "0.0.0.0/0"),
   ("alb.ingress.kubernetes.io/target-type", "ip")]

def metadata (ingress : Ingress) : Metadata :=
  { Metadata.labelled ingress.name with annotations := some ingress.annotations }

/-- The written form of what the host leads to. -/
def backend (ingress : Ingress) : Json :=
  .object
    [("service", .object
        [("name", .string ingress.serviceName),
         ("port", .object [("number", .integer ingress.servicePort)])])]

def toJson (ingress : Ingress) : Json :=
  .object
    (Object.kindFields Kind.ingress
      ++ [("metadata", ingress.metadata.toJson),
          ("spec", .object
            [("ingressClassName", .string ingress.className),
             ("rules", .array
                [.object
                  [("host", .string ingress.host),
                   ("http", .object
                      [("paths", .array
                          [.object
                            [("backend", ingress.backend),
                             ("path", .string ingress.path),
                             ("pathType", .string ingress.pathType)]])])]])])])

/-- The ingress that publishes a host for the service of its own name. -/
def ofService (name className host : String) (servicePort : Int) : Ingress :=
  { name := name
    annotations := loadBalancerAnnotations ++ [(hostnameKey, host)]
    className := className
    host := host
    path := "/"
    pathType := "ImplementationSpecific"
    serviceName := name
    servicePort := servicePort }

end Ingress

end AddonCheck.Cluster
