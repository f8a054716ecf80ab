import AddonCheck.Calendar

/-
This file holds the civil time of Tokyo.
-/

namespace AddonCheck.Calendar.Tokyo

def hour : Int := 3600

/-- The mean solar time of the city was the civil time before 1888. -/
def meanTime : Int := 9 * hour + 18 * 60 + 59

def standardTime : Int := 9 * hour

def summerTime : Int := 10 * hour

/-- The second at which the standard time replaced the mean time. -/
def standardTimeStart : Int := -2587712400

/-- The first second of each summer time, and the first second after it. -/
def summers : List (Int × Int) :=
  [(-683802000, -672310800), (-654771600, -640861200),
   (-620298000, -609411600), (-588848400, -577962000)]

/-- The seconds that the civil time is ahead of UTC. -/
def offset (instant : Instant) : Int :=
  if instant.seconds < standardTimeStart then meanTime
  else if summers.any fun summer =>
      summer.1 ≤ instant.seconds && instant.seconds < summer.2 then summerTime
  else standardTime

/-- The civil date and time of day. -/
def text (instant : Instant) : String :=
  let ahead := offset instant
  String.ofList
    ((instant.dateAt ahead).hyphenated ++ ' ' :: (instant.clockAt ahead).text)

end AddonCheck.Calendar.Tokyo
