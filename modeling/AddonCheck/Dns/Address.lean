/-
This file holds network addresses and the errors of looking them up.
-/

namespace AddonCheck.Dns

/-- An address of four bytes. -/
structure Address where
  first : UInt8
  second : UInt8
  third : UInt8
  fourth : UInt8
  deriving DecidableEq, Repr, Inhabited

def Address.text (address : Address) : String :=
  s!"{address.first}.{address.second}.{address.third}.{address.fourth}"

/-- Why a name could not be looked up. -/
inductive Error where
  | invalidName (host reason : String)
  | invalidResolver (address : String)
  | io (reason : String)
  | malformed (reason : String)
  deriving DecidableEq, Repr, Inhabited

def Error.message : Error → String
  | invalidName host reason => s!"invalid hostname `{host}`: {reason}"
  | invalidResolver address => s!"invalid resolver address `{address}`"
  | io reason => s!"dns query failed: {reason}"
  | malformed reason => s!"dns message error: {reason}"

end AddonCheck.Dns
