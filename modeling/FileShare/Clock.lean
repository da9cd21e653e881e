import FileShare.Http.Date

/-!
# Reading the clock

A clock may show a time that is no date: one before 1970, or one after the last
day of the calendar.  Whoever reads it then stops with a message, which says for
the first kind how far away 1970 is.
-/

set_option autoImplicit false

namespace FileShare

structure Span where
  seconds : Nat
  nanoseconds : Nat
deriving DecidableEq, Repr

namespace Span

/-- A number with a fraction of so many figures, whose closing zeros are left out;
a fraction of zero is left out with its point. -/
def fractionText (whole width fraction : Nat) : Text :=
  let figures :=
    ((Text.decimalPadded width fraction).reverse.dropWhile (· == '0')).reverse
  Text.decimal whole ++ (if figures.isEmpty then [] else '.' :: figures)

/-- The span in the greatest unit that it fills. -/
def toText (span : Span) : Text :=
  let n := span.nanoseconds
  if 0 < span.seconds then fractionText span.seconds 9 n ++ "s"
  else if 1000000 ≤ n then fractionText (n / 1000000) 6 (n % 1000000) ++ "ms"
  else if 1000 ≤ n then fractionText (n / 1000) 3 (n % 1000) ++ "µs"
  else Text.decimal n ++ "ns"

end Span

inductive ClockFault where
  | beforeEpoch (lag : Span)
  | pastCalendar
deriving DecidableEq, Repr

def ClockFault.message : ClockFault -> Text
  | .beforeEpoch lag => "system time before Unix epoch: SystemTimeError(" ++ lag.toText ++ ")"
  | .pastCalendar => "called \x60Option::unwrap()\x60 on a \x60None\x60 value"

namespace Instant

/-- The first second after the calendar, which ends with the year 262142. -/
def calendarEnd : Int := 8210266876800

def lag (now : Instant) : Span :=
  if now.nanoseconds = 0 then ⟨now.seconds.natAbs, 0⟩
  else ⟨now.seconds.natAbs - 1, 1000000000 - now.nanoseconds⟩

def dated (now : Instant) : Except ClockFault Instant :=
  if now.seconds < 0 then .error (.beforeEpoch now.lag)
  else if calendarEnd ≤ now.seconds then .error .pastCalendar
  else .ok now

end Instant

end FileShare
