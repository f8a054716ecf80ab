import AddonCheck.Json
import AddonCheck.Text.Digits
import AddonCheck.Word

/-
This file reads the numbers of JSON text. An integer that fits in 64 bits is exact. Any other number
is the floating-point number of its leading digits, multiplied by or divided by a power of ten.
-/

namespace AddonCheck.Json.Number

/-- The leading digits of a number, and the power of ten that they are multiplied by. -/
structure Scaled where
  significand : Nat := 0
  exponent : Int := 0
  deriving DecidableEq, Repr

/-- Adds a digit before the point. From the first digit on that does not fit, digits only raise the
exponent. -/
def addWhole (scaled : Scaled) (digit : Nat) : Scaled :=
  let significand := scaled.significand * 10 + digit
  if scaled.exponent = 0 ∧ significand < Word.bound64 then ⟨significand, 0⟩
  else ⟨scaled.significand, scaled.exponent + 1⟩

/-- Adds the digits after the point, up to the first one that does not fit. -/
def addFraction : Scaled → List Nat → Scaled
  | scaled, [] => scaled
  | scaled, digit :: rest =>
      let significand := scaled.significand * 10 + digit
      if significand < Word.bound64 then addFraction ⟨significand, scaled.exponent - 1⟩ rest
      else scaled

/-- The power of ten that is closest to it. -/
def powerOfTen (exponent : Nat) : Float := Float.ofScientific 1 false exponent

def largestPower : Nat := 308

/-- The value of a number with a small exponent, which is divided down in steps. -/
def shrink : Nat → Float → Nat → Float
  | 0, value, _ => value
  | steps + 1, value, exponent =>
      if exponent ≤ largestPower then value / powerOfTen exponent
      else if value == 0 then value
      else shrink steps (value / powerOfTen largestPower) (exponent - largestPower)

/-- The size of a number; one that is too large has none. -/
def magnitude? (scaled : Scaled) : Option Float :=
  let value := (UInt64.ofNat scaled.significand).toFloat
  match scaled.exponent with
  | .ofNat exponent =>
      if exponent ≤ largestPower then
        let product := value * powerOfTen exponent
        if product.isInf then none else some product
      else if value == 0 then some value
      else none
  | .negSucc below =>
      let exponent := below + 1
      some (shrink (min exponent 4000 / largestPower + 1) value exponent)

/-- The sign, the whole digits, the digits after the point when there is one, and the exponent with
its sign when there is one. -/
structure Parts where
  negative : Bool
  whole : List Nat
  fraction : Option (List Nat)
  exponent : Option (Bool × List Nat)
  deriving DecidableEq, Repr

def digits (text : List Char) : List Nat × List Char :=
  let row := text.takeWhile fun c => (Digits.value? c).isSome
  (row.filterMap Digits.value?, text.drop row.length)

def sign? : List Char → Bool × List Char
  | '-' :: rest => (true, rest)
  | rest => (false, rest)

/-- The whole digits do not start with a zero unless they are that zero. -/
def whole? (text : List Char) : Option (List Nat × List Char) :=
  match digits text with
  | ([], _) => none
  | (0 :: _ :: _, _) => none
  | found => some found

def fraction? : List Char → Option (Option (List Nat) × List Char)
  | '.' :: rest =>
      match digits rest with
      | ([], _) => none
      | (found, rest) => some (some found, rest)
  | rest => some (none, rest)

def exponent? : List Char → Option (Option (Bool × List Nat) × List Char)
  | c :: rest =>
      if c == 'e' || c == 'E' then
        let (negative, rest) := match rest with
          | '-' :: rest => (true, rest)
          | '+' :: rest => (false, rest)
          | rest => (false, rest)
        match digits rest with
        | ([], _) => none
        | (found, rest) => some (some (negative, found), rest)
      else some (none, c :: rest)
  | [] => some (none, [])

/-- The parts of a number. -/
def parts? (text : List Char) : Option Parts := do
  let (negative, rest) := sign? text
  let (whole, rest) ← whole? rest
  let (fraction, rest) ← fraction? rest
  let (exponent, rest) ← exponent? rest
  if rest.isEmpty then some ⟨negative, whole, fraction, exponent⟩ else none

def number (digits : List Nat) : Nat := digits.foldl (fun total digit => total * 10 + digit) 0

/-- A number with an exponent; one that cannot be held stands for zero or for nothing. -/
def withExponent? (scaled : Scaled) (negative : Bool) (exponent : Nat) : Option Float :=
  if exponent < Word.signedBound32 then
    magnitude?
      { scaled with
        exponent := if negative then scaled.exponent - exponent else scaled.exponent + exponent }
  else if negative || scaled.significand == 0 then some 0
  else none

def real (negative : Bool) (magnitude : Float) : Json :=
  .real (if negative then -magnitude else magnitude).toBits

/-- The value of a number that is an integer as it is written. -/
def integer? (negative : Bool) (scaled : Scaled) : Option Json :=
  let n := scaled.significand
  if scaled.exponent != 0 then none
  else if !negative then some (.integer n)
  else if n == 0 || Word.signedBound64 < n then none
  else some (.integer (-n))

/-- The value of a number; one that is too large has none. -/
def value? (parts : Parts) : Option Json :=
  let whole := parts.whole.foldl addWhole {}
  match parts.fraction, parts.exponent with
  | none, none =>
      match integer? parts.negative whole with
      | some value => some value
      | none => (magnitude? whole).map (real parts.negative)
  | fraction, exponent =>
      let scaled := addFraction whole (fraction.getD [])
      match exponent with
      | none => (magnitude? scaled).map (real parts.negative)
      | some (negative, digits) =>
          (withExponent? scaled negative (number digits)).map (real parts.negative)

end AddonCheck.Json.Number
