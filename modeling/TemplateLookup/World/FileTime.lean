/-
# TemplateLookup.World.FileTime -- when a file was last changed

A file time is a whole number of seconds and a count of nanoseconds below one
second. What a look-up compares is its stamp, the floating-point number nearest
to the seconds plus the nearest number to the fraction: two roundings, so
different times can have equal stamps.
-/

import TemplateLookup.Number.Binary64

namespace TemplateLookup

/-- Seconds since the epoch, and nanoseconds within the second. -/
structure FileTime where
  seconds : Int
  nanoseconds : Nat
  deriving DecidableEq, Repr, Inhabited

namespace FileTime

/-- A whole second. -/
def ofSeconds (s : Int) : FileTime := ⟨s, 0⟩

/-- A count of nanoseconds since the epoch. -/
def ofNanoseconds (n : Int) : FileTime := ⟨n / 1000000000, (n % 1000000000).toNat⟩

/-- The number nearest to a billionth, in units. -/
def billionth : Int := ((Number.Binary64.ofRatio false 1 1000000000).units?).getD 0

/-- The fraction of a second, rounded. -/
def fraction (t : FileTime) : Number.Binary64 :=
  .ofUnits (billionth * t.nanoseconds)

/-- The stamp of a time: seconds and fraction added and rounded. -/
def stamp (t : FileTime) : Number.Binary64 :=
  .ofUnits ((((Number.Binary64.ofInt t.seconds).units?).getD 0) + (t.fraction.units?).getD 0)

end FileTime

end TemplateLookup
