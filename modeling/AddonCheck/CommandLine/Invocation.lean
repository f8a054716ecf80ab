import AddonCheck.Addon.CertManager
import AddonCheck.Addon.ClusterAutoscaler
import AddonCheck.Addon.IngressController
import AddonCheck.Addon.LogShipper
import AddonCheck.Addon.MetricsAgent
import AddonCheck.CommandLine.Grammar
import AddonCheck.Word

/-
This file holds the commands of the program and what they ask for.
-/

namespace AddonCheck.CommandLine

open Addon

/-- The check of one add-on. -/
inductive Check where
  | certManager
  | clusterAutoscaler
  | ingressController (className : String) (skipsLookup : Bool)
  | logShipper
  | metricsAgent
  deriving DecidableEq, Repr, Inhabited

namespace Check

def name : Check → String
  | certManager => CertManager.name
  | clusterAutoscaler => ClusterAutoscaler.name
  | ingressController _ _ => IngressController.name
  | logShipper => LogShipper.name
  | metricsAgent => MetricsAgent.name

/-- How the name of the namespace of the check starts. -/
def namespaceStart : Check → String
  | certManager => CertManager.namespaceStart
  | clusterAutoscaler => ClusterAutoscaler.namespaceStart
  | ingressController _ _ => IngressController.namespaceStart
  | logShipper => LogShipper.namespaceStart
  | metricsAgent => MetricsAgent.namespaceStart

end Check

/-- What the arguments ask for. -/
structure Invocation where
  check : Check
  debug : Bool
  /-- The timeout in minutes. -/
  timeout : Nat
  level : Log.Level
  deriving DecidableEq, Repr, Inhabited

/-- A number of minutes fits in a word of 64 bits. -/
def readMinutes? (text : String) : Option Nat := Digits.readBelow? Word.bound64 text.toList

/-- The parameters that every command takes. -/
def globalParameters : List Parameter :=
  [{ name := "debug", form := .switch },
   { name := "timeout", form := .valued, accepts := fun text => (readMinutes? text).isSome },
   { name := "log-level", form := .valued, accepts := fun text => (Log.Level.read? text).isSome },
   { name := "help", letter := some 'h', form := .help }]

def leafCommand (name : String) (parameters : List Parameter) : Command :=
  .mk name (parameters ++ globalParameters) []

/-- The parameters of the check of an ingress controller. -/
def ingressParameters : List Parameter :=
  [{ name := "no-dns-check", form := .switch },
   { name := "ingress-class-name", form := .valued }]

/-- The variable that names the class of an ingress when no argument does. -/
def classVariable : String := "INGRESS_CLASS_NAME"

def testCommand : Command :=
  .mk "test" globalParameters
    [leafCommand CertManager.name [],
     leafCommand ClusterAutoscaler.name [],
     leafCommand IngressController.name ingressParameters,
     leafCommand LogShipper.name [],
     leafCommand MetricsAgent.name []]

def programName : String := "kibertas"

def programVersion : String := "0.4.0"

def rootCommand : Command :=
  .mk programName
    (globalParameters ++ [{ name := "version", letter := some 'V', form := .version }])
    [testCommand]

/-- What is printed when the arguments ask for the version or for help. -/
def Stop.printed : Stop → String
  | .version => s!"{programName} {programVersion}\n"
  | .help => s!"Usage: {programName} [OPTIONS] <COMMAND>\n"
  | _ => ""

/-- The check that a command names. -/
def checkOf (levels : List Level) (classVariableValue : Option String) : Option Check :=
  let className :=
    ((valueOf? levels "ingress-class-name").or classVariableValue).getD
      IngressController.defaultClass
  let skipsLookup := (valueOf? levels "no-dns-check").isSome
  let name := (levels.getLast?.map (·.command)).getD ""
  [.certManager, .clusterAutoscaler, .ingressController className skipsLookup, .logShipper,
    .metricsAgent].find? fun check : Check => check.name == name

/-- The invocation that the values of the commands describe. -/
def invocationOf (levels : List Level) (classVariableValue : Option String) :
    Except Stop Invocation :=
  match checkOf levels classVariableValue with
  | none => .error .missingCommand
  | some check => .ok
      { check := check
        debug := (valueOf? levels "debug").isSome
        timeout := ((valueOf? levels "timeout").bind readMinutes?).getD
          RunSettings.defaultTimeoutMinutes
        level := ((valueOf? levels "log-level").bind Log.Level.read?).getD .info }

/-- Reads the arguments after the name of the program. The class variable counts when it is set,
whatever its value is. -/
def Invocation.read (arguments : List String) (classVariableValue : Option String) :
    Except Stop Invocation := do
  invocationOf (← CommandLine.read rootCommand {} arguments) classVariableValue

namespace Invocation

/-- The level at which the run logs. -/
def effectiveLevel (invocation : Invocation) : Log.Level :=
  invocation.level.effective invocation.debug

def runSettings (invocation : Invocation) (environment : Environment) : RunSettings :=
  RunSettings.ofEnvironment invocation.debug (Duration.ofMinutes invocation.timeout) environment

end Invocation

end AddonCheck.CommandLine
