import FileShare.Text.Decimal

/-!
# Dates

A clock reading in seconds since 1970 and nanoseconds, and its form as an HTTP
date in Greenwich time, such as `Mon, 19 Oct 2026 09:00:56 GMT`.
-/

set_option autoImplicit false

namespace FileShare

structure Instant where
  seconds : Int
  nanoseconds : Nat
deriving DecidableEq, Repr

namespace Instant

def secondOfDay (now : Instant) : Nat := (now.seconds % 86400).toNat

def hour (now : Instant) : Nat := now.secondOfDay / 3600

def minute (now : Instant) : Nat := now.secondOfDay / 60 % 60

def second (now : Instant) : Nat := now.secondOfDay % 60

def day (now : Instant) : Int := now.seconds / 86400

structure Calendar where
  year : Int
  month : Nat
  day : Nat
deriving DecidableEq, Repr

/-- The calendar day with a given number.  Days are counted in eras of 400 years
that begin on the first of March, so that the leap day ends its year. -/
def calendar (now : Instant) : Calendar :=
  let shifted := now.day + 719468
  let era := shifted / 146097
  let dayOfEra := (shifted % 146097).toNat
  let yearOfEra :=
    (dayOfEra - dayOfEra / 1460 + dayOfEra / 36524 - dayOfEra / 146096) / 365
  let dayOfYear := dayOfEra - (365 * yearOfEra + yearOfEra / 4 - yearOfEra / 100)
  let monthFromMarch := (5 * dayOfYear + 2) / 153
  let month := if monthFromMarch < 10 then monthFromMarch + 3 else monthFromMarch - 9
  { year := era * 400 + yearOfEra + (if month ≤ 2 then 1 else 0)
    month
    day := dayOfYear - (153 * monthFromMarch + 2) / 5 + 1 }

/-- The names of the days of the week, from the one on which 1970 began. -/
def weekdayNames : List String := ["Thu", "Fri", "Sat", "Sun", "Mon", "Tue", "Wed"]

def weekday (now : Instant) : Text := (weekdayNames.getD (now.day % 7).toNat "").toList

def monthNames : List String :=
  ["Jan", "Feb", "Mar", "Apr", "May", "Jun", "Jul", "Aug", "Sep", "Oct", "Nov", "Dec"]

/-- A year in at least four digits; years beyond those and before the first one
bear a sign. -/
def yearText (year : Int) : Text :=
  if year < 0 then '-' :: Text.decimalPadded 4 year.natAbs
  else if 9999 < year then '+' :: Text.decimal year.natAbs
  else Text.decimalPadded 4 year.natAbs

def httpDate (now : Instant) : Text :=
  let date := now.calendar
  let two := Text.decimalPadded 2
  now.weekday ++ ", " ++ two date.day ++ ' ' :: (monthNames.getD (date.month - 1) "").toList ++
    ' ' :: yearText date.year ++ ' ' :: two now.hour ++ ':' :: two now.minute ++
    ':' :: two now.second ++ " GMT"

end Instant

end FileShare
