import ConfigBinding.Time.Calendar

/-!
# Instants

A point of time in UTC, to the nanosecond. A leap second is the second before it with a second's
worth of nanoseconds on top, so that it stays apart from the second after it; that is why there
are up to two thousand million nanoseconds.
-/

namespace ConfigBinding.Time

/-- The nanoseconds of a second. -/
def nanosPerSecond : Nat := 1000000000

/-- A point of time: seconds since 1970-01-01T00:00:00Z, and nanoseconds on top, of which the
second thousand million are a leap second. -/
structure Instant where
  seconds : Int
  nanos : Nat
  nanos_lt : nanos < 2 * nanosPerSecond
  deriving DecidableEq

namespace Instant

/-- The day of an instant. -/
def date (t : Instant) : Date := Date.ofDays (t.seconds / 86400)

/-- The number written with at least `width` digits. -/
def padded (width n : Nat) : String :=
  let digits := toString n
  String.ofList (List.replicate (width - digits.length) '0') ++ digits

/-- The year with four digits; a year outside these gets a sign. -/
def yearText (year : Int) : String :=
  if 0 ≤ year ∧ year ≤ 9999 then padded 4 year.toNat
  else (if year < 0 then "-" else "+") ++ padded 4 year.natAbs

/-- The fraction of a second: nothing when it is zero, else three, six or nine digits, the fewest
that lose nothing. -/
def fractionText (nanos : Nat) : String :=
  if nanos = 0 then ""
  else if nanos % 1000000 = 0 then "." ++ padded 3 (nanos / 1000000)
  else if nanos % 1000 = 0 then "." ++ padded 6 (nanos / 1000)
  else "." ++ padded 9 nanos

/-- Date and time of day, without the offset. -/
def civilText (t : Instant) : String :=
  let d := t.date
  let ofDay := (t.seconds % 86400).toNat
  let second := ofDay % 60 + t.nanos / nanosPerSecond
  yearText d.year ++ "-" ++ padded 2 d.month ++ "-" ++ padded 2 d.day ++ "T"
    ++ padded 2 (ofDay / 3600) ++ ":" ++ padded 2 (ofDay / 60 % 60) ++ ":" ++ padded 2 second
    ++ fractionText (t.nanos % nanosPerSecond)

/-- The RFC 3339 text, with the offset of UTC in numbers. -/
def toRfc3339 (t : Instant) : String := t.civilText ++ "+00:00"

/-- The inspection text, with the offset of UTC as a letter. -/
def inspect (t : Instant) : String := t.civilText ++ "Z"

end Instant

end ConfigBinding.Time
