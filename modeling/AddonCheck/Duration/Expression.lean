import AddonCheck.Duration
import AddonCheck.Text.Digits
import AddonCheck.Word

/-
This file reads durations such as `5m`, `1h 30m` or `2s*3`. An expression is a row of terms that
are all added or all multiplied; a term is a count and a unit.
-/

namespace AddonCheck.Duration

/-- What is wrong with a text that is no duration. -/
inductive ExpressionError where
  | malformed (rest : String)
  | unknownUnit (name : String)
  | mixedOperators
  | tooLong
  deriving DecidableEq, Repr

namespace ExpressionError

def message : ExpressionError → String
  | malformed rest => s!"expected a number and a unit at `{rest}`"
  | unknownUnit name => s!"unknown unit of time `{name}`"
  | mixedOperators => "a duration is either a sum or a product"
  | tooLong => "the duration is too long"

end ExpressionError

namespace Expression

inductive Operator where
  | plus
  | times
  deriving DecidableEq, Repr

/-- The names of the units, with the nanoseconds that each one lasts. -/
def units : List (List String × Nat) :=
  [(["y", "year", "years"], 365 * 86400 * nanosPerSecond),
   (["mon", "month", "months"], 30 * 86400 * nanosPerSecond),
   (["w", "week", "weeks"], 7 * 86400 * nanosPerSecond),
   (["d", "day", "days"], 86400 * nanosPerSecond),
   (["h", "hr", "hour", "hours"], 3600 * nanosPerSecond),
   (["m", "min", "minute", "minutes"], 60 * nanosPerSecond),
   (["s", "sec", "second", "seconds"], nanosPerSecond),
   (["ms", "msec", "millisecond", "milliseconds"], 1000000),
   (["µs", "µsec", "µsecond", "us", "usec", "usecond", "microsecond", "microseconds"], 1000),
   (["ns", "nsec", "nanosecond", "nanoseconds"], 1)]

/-- The length of a unit, whatever the case of its name. -/
def unit? (name : List Char) : Option Nat :=
  let lower := String.ofList (name.map Char.toLower)
  (units.find? fun entry => entry.1.contains lower).map (·.2)

def isBlank (c : Char) : Bool := c == ' ' || c == '\t' || c == '\r' || c == '\n'

def isDigit (c : Char) : Bool := '0' ≤ c && c ≤ '9'

def isUnitLetter (c : Char) : Bool := c.isAlpha || c == 'µ'

def skipBlanks (text : List Char) : List Char := text.dropWhile isBlank

/-- The operator that opens a text. -/
def operator? : List Char → Option (Operator × List Char)
  | '+' :: rest => some (.plus, rest)
  | '*' :: rest => some (.times, rest)
  | _ => none

/-- Only the end of the text or an operator may follow a count without a unit. -/
def mayLackUnit (rest : List Char) : Bool := rest.isEmpty || (operator? rest).isSome

/-- A count that stands without a unit counts seconds. -/
def unitLength (name rest : List Char) : Except ExpressionError Nat :=
  if name.isEmpty then
    if mayLackUnit (skipBlanks rest) then .ok nanosPerSecond
    else .error (.malformed (String.ofList rest))
  else
    match unit? name with
    | some length => .ok length
    | none => .error (.unknownUnit (String.ofList name))

/-- The nanoseconds of the term that opens a text, and what follows it. -/
def term (text : List Char) : Except ExpressionError (Nat × List Char) :=
  let count := text.takeWhile isDigit
  let tail := skipBlanks (text.dropWhile isDigit)
  let name := tail.takeWhile isUnitLetter
  let rest := tail.dropWhile isUnitLetter
  match Digits.read? count with
  | none => .error (.malformed (String.ofList text))
  | some count =>
      match unitLength name rest with
      | .error error => .error error
      | .ok length =>
          if count < Word.bound64 && count * length < Word.bound64 then .ok (count * length, rest)
          else .error .tooLong

theorem length_skipBlanks_le (text : List Char) : (skipBlanks text).length ≤ text.length :=
  (List.dropWhile_suffix isBlank).length_le

theorem length_operator {text rest : List Char} {operator : Operator}
    (found : operator? text = some (operator, rest)) : rest.length < text.length := by
  unfold operator? at found
  split at found <;> simp_all

/-- A term takes at least one digit. -/
theorem length_term {text rest : List Char} {nanos : Nat}
    (read : term text = .ok (nanos, rest)) : rest.length < text.length := by
  have split := List.takeWhile_append_dropWhile (p := isDigit) (l := text)
  have lengths := congrArg List.length split
  have blanks := length_skipBlanks_le (text.dropWhile isDigit)
  have unitName := (List.dropWhile_suffix (l := skipBlanks (text.dropWhile isDigit))
    isUnitLetter).length_le
  unfold term at read
  cases digits : text.takeWhile isDigit with
  | nil => simp [digits, Digits.read?] at read
  | cons digit others =>
      simp only [digits, List.length_append, List.length_cons] at lengths
      simp only at read
      repeat' split at read
      all_goals simp_all
      all_goals omega

/-- What follows the operator that opens a text; no operator means a sum. -/
def operand (text : List Char) : Operator × List Char :=
  match operator? text with
  | some (operator, rest) => (operator, skipBlanks rest)
  | none => (.plus, text)

theorem length_operand_le (text : List Char) : (operand text).2.length ≤ text.length := by
  unfold operand
  split
  · rename_i operator rest found
    have := length_skipBlanks_le rest
    have := length_operator found
    simp only
    omega
  · simp

/-- The terms after the first, each with the operator before it. -/
def tailTerms (text : List Char) : Except ExpressionError (List (Operator × Nat)) :=
  if (skipBlanks text).isEmpty then .ok []
  else
    match _ : term (operand (skipBlanks text)).2 with
    | .error error => .error error
    | .ok (nanos, rest) =>
        (tailTerms rest).map (((operand (skipBlanks text)).1, nanos) :: ·)
termination_by text.length
decreasing_by
  have := length_term ‹term _ = .ok _›
  have := length_operand_le (skipBlanks text)
  have := length_skipBlanks_le text
  omega

/-- A sum stays a word of 64 bits at every step. -/
def addWithin (total nanos : Nat) : Except ExpressionError Nat :=
  if total + nanos < Word.bound64 then .ok (total + nanos) else .error .tooLong

/-- A product is a product of seconds, cut to whole nanoseconds at every step. -/
def multiplyWithin (total nanos : Nat) : Except ExpressionError Nat :=
  let product := total * nanos / nanosPerSecond
  if product < Word.bound64 then .ok product else .error .tooLong

/-- All operators of an expression are equal; without any the first term is the value. -/
def evaluate (first : Nat) (terms : List (Operator × Nat)) : Except ExpressionError Nat :=
  match terms with
  | [] => .ok first
  | (operator, _) :: _ =>
      if terms.all fun entry => entry.1 == operator then
        match operator with
        | .plus => (terms.map (·.2)).foldlM addWithin 0 >>= addWithin first
        | .times => (terms.map (·.2)).foldlM multiplyWithin nanosPerSecond >>= multiplyWithin first
      else .error .mixedOperators

/-- Reads a whole text as a duration. -/
def read (text : String) : Except ExpressionError Duration := do
  let (first, rest) ← term (skipBlanks text.toList)
  let terms ← tailTerms rest
  return ⟨← evaluate first terms⟩

end Expression

end AddonCheck.Duration
