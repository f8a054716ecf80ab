/-
This file writes natural numbers as decimal digits of a given width.
-/

namespace AddonCheck.Digits

/-- The digit of a number below ten. -/
def digit (n : Nat) : Char := Nat.digitChar (n % 10)

/-- The last `width` digits of a number, the most significant first. -/
def fixed : Nat → Nat → List Char
  | 0, _ => []
  | width + 1, n => fixed width (n / 10) ++ [digit n]

theorem length_fixed (width n : Nat) : (fixed width n).length = width := by
  induction width generalizing n with
  | zero => rfl
  | succ width inductionHypothesis => simp [fixed, inductionHypothesis]

/-- A number is filled up with zeros on the left; one that needs more digits keeps them all. -/
def padded (width n : Nat) : List Char :=
  let digits := Nat.toDigits 10 n
  List.replicate (width - digits.length) '0' ++ digits

/-- The digits after the point, without the zeros that end them. -/
def fraction (width n : Nat) : List Char :=
  ((fixed width n).reverse.dropWhile (· == '0')).reverse

/-- The value of a digit. -/
def value? (c : Char) : Option Nat :=
  if '0' ≤ c ∧ c ≤ '9' then some (c.toNat - '0'.toNat) else none

/-- Reads a nonempty row of digits. -/
def read? : List Char → Option Nat
  | [] => none
  | digits => digits.foldl (fun total c => do return (← total) * 10 + (← value? c)) (some 0)

/-- Reads a nonempty row of digits after an optional plus sign, below a bound. -/
def readBelow? (bound : Nat) (text : List Char) : Option Nat :=
  let digits := match text with
    | '+' :: rest => rest
    | other => other
  match read? digits with
  | some n => if n < bound then some n else none
  | none => none

/-- Reads exactly `width` digits and keeps what follows them. -/
def take? (width : Nat) (text : List Char) : Option (Nat × List Char) :=
  let digits := text.take width
  if digits.length < width then none
  else (read? digits).map fun n => (n, text.drop width)

end AddonCheck.Digits
