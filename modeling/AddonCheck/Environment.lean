/-
This file holds environment variables. A blank variable counts as unset.
-/

namespace AddonCheck

/-- A view of environment variables by name. -/
structure Environment where
  lookup : String → Option String

namespace Environment

/-- The first pair of a name holds its value. -/
def ofPairs (pairs : List (String × String)) : Environment :=
  ⟨fun name => (pairs.find? fun pair => pair.1 == name).map (·.2)⟩

def empty : Environment := ⟨fun _ => none⟩

/-- The value of a variable that is set and not empty. -/
def value? (environment : Environment) (name : String) : Option String :=
  (environment.lookup name).filter fun value => value != ""

def valueOr (environment : Environment) (name fallback : String) : String :=
  (environment.value? name).getD fallback

end Environment

end AddonCheck
