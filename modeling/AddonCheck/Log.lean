import AddonCheck.Text.Digits
import AddonCheck.Word

/-
This file holds log lines and their levels.
-/

namespace AddonCheck.Log

/-- The levels of a log line, the gravest first. -/
inductive Level where
  | error
  | warn
  | info
  | debug
  | trace
  deriving DecidableEq, Repr, Inhabited

namespace Level

def all : List Level := [error, warn, info, debug, trace]

def name : Level → String
  | error => "ERROR"
  | warn => "WARN"
  | info => "INFO"
  | debug => "DEBUG"
  | trace => "TRACE"

/-- The number of a level counts from one. -/
def number : Level → Nat
  | error => 1
  | warn => 2
  | info => 3
  | debug => 4
  | trace => 5

/-- A level is written as its number or as its name in any case. -/
def read? (text : String) : Option Level :=
  match Digits.readBelow? Word.bound64 text.toList with
  | some n => all.find? fun level => level.number == n
  | none => all.find? fun level => level.name.toList == text.toList.map Char.toUpper

/-- A debug run shows debug lines at least. -/
def effective (level : Level) (debugRun : Bool) : Level :=
  if debugRun && level.number < debug.number then debug else level

end Level

/-- A log line is a level and a text. -/
structure Line where
  level : Level
  text : String
  deriving DecidableEq, Repr, Inhabited

def info (text : String) : Line := ⟨.info, text⟩

def warn (text : String) : Line := ⟨.warn, text⟩

def error (text : String) : Line := ⟨.error, text⟩

/-- A line is shown after the name of its level. -/
def Line.shown (line : Line) : String := s!"{line.level.name} {line.text}"

end AddonCheck.Log
