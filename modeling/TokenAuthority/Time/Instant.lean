import TokenAuthority.Time.Calendar

/-!
# Instants

## Main definitions

* `Instant` — a local date and time with its offset from UTC.
* `Instant.utc` — the nanoseconds since 1 January 1970 in UTC, by which instants are compared.
* `Instant.OnClock` — an instant that a clock can show.
* `Instant.addSeconds?` — the instant some seconds later, if it can be represented.
* `Instant.unixSeconds`, `Instant.wholeSecond` — the seconds begun, and the instant cut to them.
* `Instant.secondsUntil` — the whole seconds between two instants, toward zero.
-/

set_option autoImplicit false

namespace TokenAuthority

/-- The nanoseconds of a second. -/
def nanosPerSecond : Int := 1000000000

/-- The seconds of a day. -/
def secondsPerDay : Int := 86400

/-- A date and time on a clock with a fixed offset from UTC. -/
structure Instant where
  /-- Nanoseconds between the reading of the clock and 1 January 1970, 00:00, on the same clock. -/
  clock : Int
  /-- The seconds by which the clock is ahead of UTC. -/
  offset : Int
deriving DecidableEq

namespace Instant

/-- Nanoseconds since 1 January 1970 in UTC. -/
def utc (t : Instant) : Int := t.clock - t.offset * nanosPerSecond

/-- The seconds that have begun since 1 January 1970 in UTC. -/
def unixSeconds (t : Instant) : Int := t.utc / nanosPerSecond

/-- The instant of a number of seconds since 1970, on the clock of UTC. -/
def ofUnixSeconds (seconds : Int) : Instant := ⟨seconds * nanosPerSecond, 0⟩

/-- The same instant on the clock of UTC, cut to whole seconds. -/
def wholeSecond (t : Instant) : Instant := ofUnixSeconds t.unixSeconds

/-- Nanoseconds at the start of the first year that a clock can show. -/
def leastClock : Int := yearStart (-9999) * secondsPerDay * nanosPerSecond

/-- Nanoseconds at the end of the last year that a clock can show. -/
def endOfClock : Int := yearStart 10000 * secondsPerDay * nanosPerSecond

/-- A reading within the years -9999 to 9999. -/
def isReading (clock : Int) : Bool := leastClock ≤ clock && clock < endOfClock

/-- The reading of the clock is within the years that it can show, and its offset is less than 26
hours. Instants are kept in a type that has no others. -/
structure OnClock (t : Instant) : Prop where
  reading : isReading t.clock = true
  offset : t.offset.natAbs < 26 * 3600

instance (t : Instant) : Decidable t.OnClock :=
  decidable_of_iff (isReading t.clock = true ∧ t.offset.natAbs < 26 * 3600)
    ⟨fun h => ⟨h.1, h.2⟩, fun h => ⟨h.reading, h.offset⟩⟩

/-- The instant some seconds later on the same clock, if the clock can show it. -/
def addSeconds? (t : Instant) (seconds : Int) : Option Instant :=
  let clock := t.clock + seconds * nanosPerSecond
  if isReading clock then some ⟨clock, t.offset⟩ else none

/-- The instant of a number of seconds since 1970, if the clock of UTC can show it. -/
def ofUnixSeconds? (seconds : Int) : Option Instant :=
  let t := ofUnixSeconds seconds
  if isReading t.clock then some t else none

/-- Not after the other instant. -/
def le (s t : Instant) : Bool := s.utc ≤ t.utc

/-- Before the other instant. -/
def lt (s t : Instant) : Bool := s.utc < t.utc

/-- The earlier of two instants, the first one if they are the same. -/
def earlier (s t : Instant) : Instant := if t.utc < s.utc then t else s

/-- The nanoseconds from one instant to another. -/
def nanosUntil (s t : Instant) : Int := t.utc - s.utc

/-- The whole seconds from one instant to another, rounded toward zero. -/
def secondsUntil (s t : Instant) : Int := (s.nanosUntil t).tdiv nanosPerSecond

/-- The day on the clock. -/
def day (t : Instant) : Int := t.clock / (secondsPerDay * nanosPerSecond)

/-- The nanoseconds since midnight on the clock. -/
def nanosOfDay (t : Instant) : Nat := (t.clock % (secondsPerDay * nanosPerSecond)).toNat

/-- The year on the clock. -/
def year (t : Instant) : Int := yearOfDay t.day

end Instant

end TokenAuthority
