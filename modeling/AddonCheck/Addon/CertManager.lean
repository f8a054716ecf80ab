import AddonCheck.Addon.Waits
import AddonCheck.Run.Checker

/-
This file checks a certificate manager: it asks for a certificate authority, an issuer that signs
with it, and a certificate of that issuer, and waits for the secrets of both certificates.
-/

namespace AddonCheck.Addon.CertManager

open Run Workspace

def name : String := "cert-manager"

def namespaceStart : String := "cert-manager-test"

structure Settings where
  certificateName : String
  secretWait : Wait
  deriving DecidableEq, Repr

def secretInterval : Duration := Duration.ofSeconds 5

def Settings.ofEnvironment [Duration.Reader] (environment : Environment) (run : RunSettings) :
    Except SettingsError Settings := do
  return {
    certificateName := environment.valueOr "CERT_NAME" "sample"
    secretWait := ← waitFor environment run secretInterval "SECRET_WAIT_TIMEOUT" }

namespace Settings

def authorityName (settings : Settings) : String := s!"{settings.certificateName}-ca"

def authoritySecret (settings : Settings) : String := s!"{settings.certificateName}-tls"

def issuerName (settings : Settings) : String := s!"{settings.certificateName}-issuer"

/-- The certificate and its secret have one name. -/
def leafName (settings : Settings) : String := s!"{settings.certificateName}-cert"

end Settings

/-- The issuer of the cluster that signs the certificate authority. -/
def clusterIssuer : String := "selfsigned-issuer"

/-- The certificate authority, which is ready when its secret exists. -/
def authority (settings : Settings) (namespaceName : String) : Spec :=
  { object := Cluster.Object.named Cluster.Kind.certificate settings.authorityName namespaceName
      (.object
        [("spec", .object
          [("secretName", .string settings.authoritySecret),
           ("commonName", .string settings.authoritySecret),
           ("isCA", .bool true),
           ("privateKey", .object
              [("algorithm", .string "ECDSA"), ("size", .integer 256)]),
           ("issuerRef", .object
              [("name", .string clusterIssuer),
               ("kind", .string "ClusterIssuer"),
               ("group", .string "cert-manager.io")])])])
    readiness := .secret settings.authoritySecret settings.secretWait }

/-- The issuer that signs with the secret of the certificate authority. -/
def issuer (settings : Settings) (namespaceName : String) : Spec :=
  { object := Cluster.Object.named Cluster.Kind.issuer settings.issuerName namespaceName
      (.object
        [("spec", .object
          [("ca", .object [("secretName", .string settings.authoritySecret)])])]) }

/-- The certificate of the issuer, which is ready when its secret exists. -/
def leaf (settings : Settings) (namespaceName : String) : Spec :=
  let host := settings.certificateName
  { object := Cluster.Object.named Cluster.Kind.certificate settings.leafName namespaceName
      (.object
        [("spec", .object
          [("secretName", .string settings.leafName),
           ("issuerRef", .object
              [("name", .string settings.issuerName), ("kind", .string "Issuer")]),
           ("dnsNames", .array
              [.string host,
               .string s!"{host}.{namespaceName}.svc",
               .string s!"{host}.{namespaceName}.svc.cluster.local"])])])
    readiness := .secret settings.leafName settings.secretWait }

def create (settings : Settings) (context : Context) (workspace : Workspace) : Checking Unit := do
  creating workspace.createNamespace
  Program.announce s!"Create RootCA: {settings.authorityName}"
  creating (workspace.create (authority settings context.workspaceName))
  Program.announce s!"Create Issuer: {settings.issuerName}"
  creating (workspace.create (issuer settings context.workspaceName))

def converge (settings : Settings) (context : Context) (workspace : Workspace) :
    Checking Unit := do
  Program.announce s!"Create Certificate: {settings.leafName}"
  creating (workspace.create (leaf settings context.workspaceName))
  Program.announce s!"Certificate secret {settings.leafName} is ready"

def checker (settings : Settings) : Checker Unit :=
  { name := name
    create := create settings
    converge := fun context workspace _ => converge settings context workspace }

end AddonCheck.Addon.CertManager
