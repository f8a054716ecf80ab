/-
This file reads the arguments of commands that have parameters and commands of their own. Each
command on the way to the last one has its own row of values.
-/

namespace AddonCheck.CommandLine

/-- What a parameter does when it is given. -/
inductive Form where
  | switch
  | valued
  | help
  | version
  deriving DecidableEq, Repr, Inhabited

/-- A parameter is written as two hyphens and its name, or as one hyphen and its letter. -/
structure Parameter where
  name : String
  letter : Option Char := none
  form : Form
  /-- Whether a text is a value of the parameter. -/
  accepts : String → Bool := fun _ => true

/-- A command has parameters, and either stands alone or has commands of its own. -/
inductive Command where
  | mk (name : String) (parameters : List Parameter) (commands : List Command)

namespace Command

def name : Command → String
  | mk name _ _ => name

def parameters : Command → List Parameter
  | mk _ parameters _ => parameters

def commands : Command → List Command
  | mk _ _ commands => commands

/-- A command that has commands of its own also has one that shows help. -/
def helpName : String := "help"

def find? (command : Command) (name : String) : Option Command :=
  command.commands.find? fun other => other.name == name

end Command

/-- Why the arguments do not lead to an invocation. -/
inductive Stop where
  | help
  | version
  | missingArguments
  | missingCommand
  | unknownCommand
  | unknownArgument
  | unwantedValue
  | missingValue
  | invalidValue
  | repeatedParameter
  deriving DecidableEq, Repr, Inhabited

/-- Help and the version are what was asked for; every other stop is a failure. -/
def Stop.exitCode : Stop → Nat
  | help => 0
  | version => 0
  | _ => 2

/-- The values of one command, by the names of its parameters. -/
structure Level where
  command : String
  values : List (String × String)
  deriving DecidableEq, Repr, Inhabited

/-- The values that are settled, and the parameter whose value is awaited or not settled yet. -/
structure Progress where
  values : List (String × String) := []
  pending : Option (Parameter × Option String) := none

namespace Progress

/-- Settles the value of a parameter, which may not be given twice. -/
def add (progress : Progress) (parameter : Parameter) (value : String) : Except Stop Progress :=
  if progress.values.any fun entry => entry.1 == parameter.name then .error .repeatedParameter
  else if parameter.accepts value then
    .ok { progress with values := progress.values ++ [(parameter.name, value)] }
  else .error .invalidValue

/-- Settles the pending parameter. -/
def settle (progress : Progress) : Except Stop Progress :=
  match progress.pending with
  | none => .ok progress
  | some (_, none) => .error .missingValue
  | some (parameter, some value) => { progress with pending := none }.add parameter value

/-- Whether the next argument may be the value of the pending parameter. -/
def awaitsValue (progress : Progress) : Bool :=
  match progress.pending with
  | some (_, none) => true
  | _ => false

/-- Takes an argument as the value of the pending parameter. -/
def take (progress : Progress) (value : String) : Progress :=
  { progress with pending := progress.pending.map fun entry => (entry.1, some value) }

/-- Takes a parameter that has no value attached to it. -/
def give (progress : Progress) (parameter : Parameter) : Except Stop Progress := do
  let progress ← progress.settle
  match parameter.form with
  | .help => .error .help
  | .version => .error .version
  | .switch => progress.add parameter "true"
  | .valued => .ok { progress with pending := some (parameter, none) }

/-- Takes a parameter that has a value attached to it. -/
def giveAttached (progress : Progress) (parameter : Parameter) (value : String) :
    Except Stop Progress :=
  match parameter.form with
  | .valued => do (← progress.settle).add parameter value
  | _ => .error .unwantedValue

end Progress

/-- The name and the attached value of an argument that follows two hyphens. -/
def splitAttached (text : List Char) : String × Option String :=
  let name := String.ofList (text.takeWhile (· != '='))
  match text.dropWhile (· != '=') with
  | [] => (name, none)
  | _ :: value => (name, some (String.ofList value))

/-- Takes an argument that starts with two hyphens. -/
def takeLong (command : Command) (progress : Progress) (text : List Char) :
    Except Stop Progress :=
  let (name, value) := splitAttached text
  match command.parameters.find? fun parameter => parameter.name == name with
  | none => .error .unknownArgument
  | some parameter =>
      match value with
      | none => progress.give parameter
      | some value => progress.giveAttached parameter value

/-- Takes an argument that starts with one hyphen: a row of letters. -/
def takeShort (command : Command) : Progress → List Char → Except Stop Progress
  | progress, [] => .ok progress
  | progress, letter :: rest =>
      match command.parameters.find? fun parameter => parameter.letter == some letter with
      | none => .error .unknownArgument
      | some parameter => do takeShort command (← progress.give parameter) rest

/-- Follows the names after a request for help. -/
def findHelp (command : Command) : List String → Stop
  | [] => .help
  | name :: rest =>
      match command.find? name with
      | some found => findHelp found rest
      | none =>
          if name == Command.helpName && !command.commands.isEmpty && rest.isEmpty then .help
          else .unknownCommand

/-- What an argument means that is neither a parameter, nor a value, nor a command. -/
def refuse (command : Command) (afterHyphens : Bool) (argument : String) : Stop :=
  if command.commands.isEmpty then .unknownArgument
  else if afterHyphens
      && (argument == Command.helpName || (command.find? argument).isSome) then .unknownArgument
  else .unknownCommand

/-- The end of the arguments of a command. -/
def finish (command : Command) (progress : Progress) (deeper : Option (List Level)) :
    Except Stop (List Level) := do
  let progress ← progress.settle
  let level : Level := ⟨command.name, progress.values⟩
  match deeper with
  | some levels => return level :: levels
  | none =>
      if command.commands.isEmpty then return [level]
      else if progress.values.isEmpty then .error .missingArguments
      else .error .missingCommand

/-- The rows of values of a command and of the commands that follow it. -/
def read (command : Command) : Progress → List String → Except Stop (List Level)
  | progress, [] => finish command progress none
  | progress, argument :: rest =>
      let sub := if progress.awaitsValue then none else command.find? argument
      match sub with
      | some sub => do
          let levels ← read sub {} rest
          finish command progress (some levels)
      | none =>
          if !progress.awaitsValue && argument == Command.helpName && !command.commands.isEmpty then
            .error (findHelp command rest)
          else
            match argument.toList with
            | ['-', '-'] =>
                match rest with
                | [] => finish command progress none
                | next :: _ => .error (refuse command true next)
            | '-' :: '-' :: text => do
                read command (← takeLong command progress text) rest
            | '-' :: letter :: text => do
                read command (← takeShort command progress (letter :: text)) rest
            | _ =>
                if progress.awaitsValue then read command (progress.take argument) rest
                else .error (refuse command false argument)

/-- The values that were given to a parameter, at each command on the way. -/
def valuesOf (levels : List Level) (name : String) : List String :=
  levels.filterMap fun level =>
    (level.values.find? fun entry => entry.1 == name).map (·.2)

/-- The value of a parameter that is given at the command nearest to the last one. -/
def valueOf? (levels : List Level) (name : String) : Option String :=
  (valuesOf levels name).getLast?

end AddonCheck.CommandLine
