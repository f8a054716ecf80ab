import AddonCheck.Dns.Address

/-
This file reads host names. A name is a row of labels with dots between them; a backslash takes the
next character, or the character of three octal digits, as it is.
-/

namespace AddonCheck.Dns

/-- The labels of a host name, the outermost last. -/
structure Name where
  labels : List (List Char)
  deriving DecidableEq, Repr, Inhabited

namespace Name

def maximumLabelLength : Nat := 63

def maximumLength : Nat := 255

/-- A character of a name, and whether a backslash took it as it is. -/
structure Symbol where
  character : Char
  escaped : Bool
  deriving DecidableEq, Repr, Inhabited

def octal? (c : Char) : Option Nat :=
  if '0' ≤ c ∧ c ≤ '7' then some (c.toNat - '0'.toNat) else none

/-- The characters of a name. A backslash at the end, or with fewer digits than it needs, is left
out. -/
def symbols? : List Char → Option (List Symbol)
  | [] => some []
  | ['\\'] => some []
  | '\\' :: first :: rest =>
      if first.isDigit then
        match rest with
        | second :: third :: rest => do
            let a ← octal? first
            let b ← octal? second
            let c ← octal? third
            return ⟨Char.ofNat (a * 64 + b * 8 + c), true⟩ :: (← symbols? rest)
        | [second] => do
            let _ ← octal? first
            let _ ← octal? second
            return []
        | [] => (octal? first).map fun _ => []
      else do return ⟨first, true⟩ :: (← symbols? rest)
  | c :: rest => do return ⟨c, false⟩ :: (← symbols? rest)

/-- The labels between the dots that no backslash took. -/
def splitLabels : List Symbol → List (List Char)
  | [] => [[]]
  | symbol :: rest =>
      if symbol.character == '.' && !symbol.escaped then [] :: splitLabels rest
      else
        match splitLabels rest with
        | [] => [[symbol.character]]
        | label :: labels => (symbol.character :: label) :: labels

/-- The characters that a label may start with. -/
def mayStart (c : Char) : Bool := c.isAlphanum || c == '_' || c == '.' || c == '*'

/-- The characters that a label may go on with. -/
def mayContinue (c : Char) : Bool := c.isAlphanum || c == '-' || c == '_' || c == '.'

/-- A label is not empty, not too long, and made of characters that it may hold. -/
def isLabel (label : List Char) : Bool :=
  match label with
  | [] => false
  | first :: rest =>
      label.length ≤ maximumLabelLength && mayStart first && rest.all mayContinue

/-- The length of a name as it is sent: each label after its length, and an empty label. -/
def sentLength (labels : List (List Char)) : Nat :=
  labels.foldl (fun length label => length + label.length + 1) 1

/-- The labels without the empty one that a dot at the end leaves. -/
def withoutRoot (labels : List (List Char)) : List (List Char) :=
  if labels.getLast? = some [] then labels.dropLast else labels

/-- The name that a text writes. -/
def read? (host : String) : Option Name :=
  if host == "." then some ⟨[]⟩
  else do
    let labels := withoutRoot (splitLabels (← symbols? host.toList))
    if labels.all isLabel && sentLength labels ≤ maximumLength then some ⟨labels⟩ else none

end Name

end AddonCheck.Dns
