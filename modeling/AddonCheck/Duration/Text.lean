import AddonCheck.Duration
import AddonCheck.Text.Digits

/-
This file writes a duration in the largest unit that it fills.
-/

namespace AddonCheck.Duration

/-- The whole part, the digits after the point when there are any, and the unit. -/
def inUnit (unitName : String) (places whole rest : Nat) : String :=
  let digits := Digits.fraction places rest
  let point := if digits.isEmpty then "" else "."
  toString whole ++ point ++ String.ofList digits ++ unitName

/-- A duration is written in seconds, milliseconds, microseconds or nanoseconds, exactly. -/
def text (duration : Duration) : String :=
  let n := duration.nanos
  if nanosPerSecond ≤ n then inUnit "s" 9 (n / nanosPerSecond) (n % nanosPerSecond)
  else if 1000000 ≤ n then inUnit "ms" 6 (n / 1000000) (n % 1000000)
  else if 1000 ≤ n then inUnit "µs" 3 (n / 1000) (n % 1000)
  else inUnit "ns" 0 n 0

end AddonCheck.Duration
