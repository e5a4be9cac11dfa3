/-
Points in time, to the nanosecond.

A leap second is written as the last nanosecond count of the second before it: its nanoseconds run
from 10^9 to 2 * 10^9.  JSON carries milliseconds only, so an instant has a millisecond floor, and a
count of milliseconds outside the range of instants becomes the nearest end of the range.
-/
import DocumentModel.Time.Calendar

namespace DocumentModel

open Time

/-- Seconds since 1970-01-01T00:00:00Z and nanoseconds into the second. -/
structure Instant where
  seconds : Int
  nanos : Nat
deriving DecidableEq, Repr

namespace Instant

def earliest : Instant := ⟨-8334601228800, 0⟩

/-- The last instant that is not part of a leap second. -/
def latest : Instant := ⟨8210266876799, 999999999⟩

/-- The milliseconds since 1970 that have passed.  A leap second counts towards the next second. -/
def floorMillis (t : Instant) : Int :=
  t.seconds * 1000 + (t.nanos / 1000000 : Nat)

/-- Is this many milliseconds after 1970 an instant? -/
def inRange (millis : Int) : Bool :=
  earliest.seconds ≤ millis / 1000 && millis / 1000 ≤ latest.seconds

/-- The instant a number of milliseconds after 1970, or the nearest end of the range. -/
def ofMillis (millis : Int) : Instant :=
  if inRange millis then ⟨millis / 1000, (millis % 1000).toNat * 1000000⟩
  else if millis < 0 then earliest
  else latest

def date (t : Instant) : Date :=
  Date.ofDays (t.seconds / 86400)

def secondOfDay (t : Instant) : Nat :=
  (t.seconds % 86400).toNat

end Instant

end DocumentModel
