import SchemaMigration.Calendar.Date
import SchemaMigration.Text.Pieces

/-!
# Instants

An `Instant` is a moment of universal time. During a leap second the nanoseconds count on beyond
one second.
-/

namespace SchemaMigration

open Text

/-- A moment of universal time. -/
structure Instant where
  /-- Whole seconds from the start of 1970. -/
  seconds : Int
  /-- Nanoseconds within the second. -/
  nanos : Nat
deriving DecidableEq, Inhabited

/-- The nanoseconds of a second. -/
def nanosPerSecond : Nat := 1000000000

namespace Instant

/-- The order in time. -/
def order (a b : Instant) : Ordering :=
  (compare a.seconds b.seconds).then (compare a.nanos b.nanos)

/-- The moment a microsecond later. -/
def next (i : Instant) : Instant :=
  if i.nanos + 1000 < nanosPerSecond then ⟨i.seconds, i.nanos + 1000⟩
  else ⟨i.seconds + 1, i.nanos + 1000 - nanosPerSecond⟩

/-- The whole milliseconds from an earlier instant on. -/
def millisSince (i earlier : Instant) : Nat :=
  (((i.seconds - earlier.seconds) * nanosPerSecond + i.nanos - earlier.nanos) / 1000000).toNat

/-- The day on which an instant lies. -/
def date (i : Instant) : Date :=
  Date.ofDays (i.seconds.fdiv 86400)

/-- The seconds since the start of the day. -/
def secondOfDay (i : Instant) : Nat :=
  (i.seconds.fmod 86400).toNat

/-- The hour of the day. -/
def hour (i : Instant) : Nat := i.secondOfDay / 3600

/-- The minute of the hour. -/
def minute (i : Instant) : Nat := i.secondOfDay / 60 % 60

/-- The second of the minute, 60 in a leap second. -/
def second (i : Instant) : Nat :=
  i.secondOfDay % 60 + if i.nanos < nanosPerSecond then 0 else 1

/-- The nanoseconds within the second that is shown. -/
def fraction (i : Instant) : Nat := i.nanos % nanosPerSecond

/-- A year in four digits, or with a sign if it has none between 0 and 9999. -/
def yearText (year : Int) : String :=
  if 0 ≤ year ∧ year ≤ 9999 then padded 4 year.toNat
  else (if year < 0 then "-" else "+") ++ padded 4 year.natAbs

/-- Year, month and day with hyphens. -/
def dateText (i : Instant) : String :=
  let d := i.date
  yearText d.year ++ "-" ++ padded 2 d.month ++ "-" ++ padded 2 d.day

/-- Hour, minute and second with colons. -/
def timeText (i : Instant) : String :=
  padded 2 i.hour ++ ":" ++ padded 2 i.minute ++ ":" ++ padded 2 i.second

/-- Year, month, day, hour, minute and second without separators: fourteen digits for a year of four
digits. -/
def stamp (i : Instant) : String :=
  let d := i.date
  yearText d.year ++ padded 2 d.month ++ padded 2 d.day ++ padded 2 i.hour ++ padded 2 i.minute ++
    padded 2 i.second

end Instant

end SchemaMigration
