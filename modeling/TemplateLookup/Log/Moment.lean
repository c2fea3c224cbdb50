/-
# TemplateLookup.Log.Moment -- the date and time of a record

A moment is counted in seconds since the epoch, with microseconds rounded to
the nearest, a half to the even one. Dates are those of the Gregorian calendar
in universal time: `civil` counts whole eras of 400 years from the first of
March of the year 0, so that a leap day is the last day of its year.
-/

import TemplateLookup.Number.Binary64
import TemplateLookup.Text.Digit

namespace TemplateLookup.Log

/-- Seconds since the epoch, and microseconds within the second. -/
structure Moment where
  seconds : Int
  micros : Nat
  deriving DecidableEq, Repr, Inhabited

namespace Moment

/-! ## From a floating-point count of seconds -/

/-- A whole second. -/
def ofSeconds (s : Int) : Moment := ⟨s, 0⟩

/-- The moment of a number of seconds: the whole part, and the fraction taken
times a million and rounded to a whole number of microseconds. Numbers that are
not finite have no moment. -/
def ofStamp? (x : Number.Binary64) : Option Moment := do
  let units ← x.units?
  let one : Int := Number.Binary64.one
  let whole := Int.tdiv units one
  let scaled ← (Number.Binary64.ofUnits ((units - whole * one) * 1000000)).units?
  let nearest : Int := Number.nearestEven scaled.natAbs Number.Binary64.one
  let micros := if scaled < 0 then -nearest else nearest
  if 1000000 ≤ micros then some ⟨whole + 1, (micros - 1000000).toNat⟩
  else if micros < 0 then some ⟨whole - 1, (micros + 1000000).toNat⟩
  else some ⟨whole, micros.toNat⟩

/-! ## The calendar -/

/-- Year, month and day of a count of days since the epoch. -/
def civil (days : Int) : Int × Nat × Nat :=
  let shifted := days + 719468
  let era := shifted / 146097
  let dayOfEra := (shifted % 146097).toNat
  let yearOfEra :=
    (dayOfEra - dayOfEra / 1460 + dayOfEra / 36524 - dayOfEra / 146096) / 365
  let dayOfYear := dayOfEra - (365 * yearOfEra + yearOfEra / 4 - yearOfEra / 100)
  let monthFromMarch := (5 * dayOfYear + 2) / 153
  let day := dayOfYear - (153 * monthFromMarch + 2) / 5 + 1
  let month := if monthFromMarch < 10 then monthFromMarch + 3 else monthFromMarch - 9
  let year : Int := yearOfEra + era * 400
  (if month ≤ 2 then year + 1 else year, month, day)

/-- The date of a moment. -/
def date (m : Moment) : Int × Nat × Nat := civil (m.seconds / 86400)

/-- The second of the day. -/
def secondOfDay (m : Moment) : Nat := (m.seconds % 86400).toNat

/-- Whether the year of a moment can be written: it has one to four digits. -/
def isWritable (m : Moment) : Bool := 1 ≤ m.date.1 && m.date.1 ≤ 9999

/-! ## Writing -/

/-- Hours, minutes and seconds. -/
def clockText (m : Moment) : String :=
  let s := m.secondOfDay
  Text.padded 2 (s / 3600) ++ ":" ++ Text.padded 2 (s / 60 % 60) ++ ":" ++ Text.padded 2 (s % 60)

/-- Date and time with the offset of universal time; the microseconds are
written only when there are some. -/
def text (m : Moment) : String :=
  let (year, month, day) := m.date
  Text.padded 4 year.toNat ++ "-" ++ Text.padded 2 month ++ "-" ++ Text.padded 2 day ++ "T" ++
    m.clockText ++ (if m.micros = 0 then "" else "." ++ Text.padded 6 m.micros) ++ "+00:00"

end Moment

end TemplateLookup.Log
