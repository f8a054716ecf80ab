/-
This file holds JSON values.
-/

namespace AddonCheck

/-- A JSON value. A number is an integer or a binary floating-point number of 64 bits. -/
inductive Json where
  | null
  | bool (value : Bool)
  | integer (value : Int)
  | real (bits : UInt64)
  | string (text : String)
  | array (items : List Json)
  | object (fields : List (String × Json))
  deriving Inhabited, Repr

namespace Json

instance : Coe String Json := ⟨string⟩

/-- The fields of an object. -/
def fields? : Json → Option (List (String × Json))
  | object fields => some fields
  | _ => none

def string? : Json → Option String
  | string text => some text
  | _ => none

def bool? : Json → Option Bool
  | bool value => some value
  | _ => none

def integer? : Json → Option Int
  | integer value => some value
  | _ => none

def array? : Json → Option (List Json)
  | array items => some items
  | _ => none

def isNull : Json → Bool
  | null => true
  | _ => false

/-- The value of a name in a list of fields. -/
def lookup (fields : List (String × Json)) (name : String) : Option Json :=
  (fields.find? fun field => field.1 == name).map (·.2)

/-- The value of a field that is present and not null. -/
def present (fields : List (String × Json)) (name : String) : Option Json :=
  (lookup fields name).filter fun value => !value.isNull

/-- The value of a field of an object. -/
def field? (value : Json) (name : String) : Option Json :=
  value.fields?.bind fun fields => lookup fields name

/-- A field that is left out when it has no value. -/
def optional (name : String) : Option Json → List (String × Json)
  | some value => [(name, value)]
  | none => []

/-- An object whose values are texts. -/
def ofTexts (pairs : List (String × String)) : Json :=
  object (pairs.map fun pair => (pair.1, string pair.2))

end Json

end AddonCheck
