import AddonCheck.Json.Written
import AddonCheck.Metrics.Response

/-
This file reads the answer of a metrics service. A record is an object, or an array of its fields in
order. A field that is missing has its standing value, a name that is not known is skipped, and a
known name may not be repeated.
-/

namespace AddonCheck.Metrics

open Json (Written)

/-- A text, or nothing for null. -/
def optionalText? : Written → Option (Option String)
  | .null => some none
  | .text (some text) => some (some text)
  | _ => none

/-- The members of an array. -/
def members? {α : Type} (member : Written → Option α) : Written → Option (List α)
  | .array items => items.mapM member
  | _ => none

/-- The bits of the floating-point number closest to a number, or nothing for null. -/
def coordinate? : Written → Option (Option UInt64)
  | .null => some none
  | .number (some (.real bits)) => some (some bits)
  | .number (some (.integer value)) =>
      let magnitude := (UInt64.ofNat value.natAbs).toFloat
      some (some (if value < 0 then -magnitude else magnitude).toBits)
  | _ => none

/-- The values of the named fields of a record. -/
def fields? (names : List String) : Written → Option (List (Option Written))
  | .array items =>
      if items.length ≤ names.length then
        some ((List.range names.length).map fun position => items[position]?)
      else none
  | .object fields =>
      if fields.all fun field => field.1.isSome then
        names.mapM fun name =>
          match fields.filter fun field => field.1 == some name with
          | [] => some none
          | [field] => some (some field.2)
          | _ => none
      else none
  | _ => none

/-- The value of a field, or its standing value when it is missing. -/
def fieldOr? {α : Type} (standing : α) (read : Written → Option α) :
    Option Written → Option α
  | none => some standing
  | some value => read value

def Series.ofWritten? (value : Written) : Option Series := do
  match ← fields? ["metric", "scope", "pointlist"] value with
  | [metric, scope, points] =>
      return {
        metric := ← fieldOr? none optionalText? metric
        scope := ← fieldOr? none optionalText? scope
        points := ← fieldOr? [] (members? (members? coordinate?)) points }
  | _ => none

def Response.ofWritten? (value : Written) : Option Response := do
  match ← fields? ["status", "error", "series"] value with
  | [status, error, series] =>
      return {
        status := ← fieldOr? none optionalText? status
        error := ← fieldOr? none optionalText? error
        series := ← fieldOr? [] (members? Series.ofWritten?) series }
  | _ => none

/-- The answer that a text writes. -/
def Response.read? (body : String) : Option Response := do
  Response.ofWritten? (← Written.read? body)

end AddonCheck.Metrics
