import TokenAuthority.Number.Digits
import TokenAuthority.Time.Instant

/-!
# RFC 3339 texts of instants

## Main definitions

* `Instant.rfc3339?` — the text of an instant of the years 0 to 9999.
* `Instant.ofRfc3339?` — the instant of a text.

## Implementation notes

The fraction of a second is written without zeros at its end and left out where it is zero. A text
may have any one ASCII character between date and time, and more than nine digits of a fraction, of
which the first nine count. The 60th second is read as the last nanosecond of the 59th, and only
where a leap second may be: at the end of a month in UTC.
-/

set_option autoImplicit false

namespace TokenAuthority

namespace Instant

/-- The last zeros taken off a list of digits. -/
def dropLastZeros (ds : List Char) : List Char := (ds.reverse.dropWhile (· == '0')).reverse

/-- The fraction of a second as it is written after the seconds. -/
def fractionChars (nanos : Nat) : List Char :=
  if nanos = 0 then [] else '.' :: dropLastZeros (fixedDigits 9 nanos)

/-- An offset as it is written at the end. -/
def offsetChars (offset : Int) : List Char :=
  if offset = 0 then ['Z']
  else
    let minutes := offset.natAbs / 60
    (if 0 ≤ offset then '+' else '-') ::
      (fixedDigits 2 (minutes / 60) ++ ':' :: fixedDigits 2 (minutes % 60))

/-- The characters of the RFC 3339 text, for a year of four digits. -/
def rfc3339Chars (t : Instant) : List Char :=
  let year := t.year
  let (month, day) := monthAndDay (isLeapYear year) (ordinalOfDay t.day)
  let seconds := t.nanosOfDay / nanosPerSecond.toNat
  fixedDigits 4 year.toNat ++ '-' :: (fixedDigits 2 month ++ '-' :: (fixedDigits 2 day ++ 'T' ::
    (fixedDigits 2 (seconds / 3600) ++ ':' :: (fixedDigits 2 (seconds / 60 % 60) ++ ':' ::
      (fixedDigits 2 (seconds % 60) ++
        (fractionChars (t.nanosOfDay % nanosPerSecond.toNat) ++ offsetChars t.offset))))))

/-- An RFC 3339 text has a year of four digits. -/
def isWritable (t : Instant) : Bool := 0 ≤ t.year && t.year ≤ 9999

/-- The RFC 3339 text of an instant of the years 0 to 9999. -/
def rfc3339? (t : Instant) : Option String :=
  if t.isWritable then some (String.ofList t.rfc3339Chars) else none

/-- The RFC 3339 text of an instant; one word says that there is none. -/
def text (t : Instant) : String := t.rfc3339?.getD "unrepresentable"

/-- The nanoseconds of the digits after the point: the first nine count, each a tenth of the one
before. -/
def fractionNanos : Nat → List Char → Nat
  | 0, _ => 0
  | _, [] => 0
  | n + 1, c :: rest => (c.toNat - 0x30) * Nat.pow 10 n + fractionNanos n rest

/-- Reads the fraction of a second, if there is one. -/
def takeFraction? : List Char → Option (Nat × List Char)
  | '.' :: rest =>
    let ds := rest.takeWhile Char.isDigit
    if ds.isEmpty then none else some (fractionNanos 9 ds, rest.dropWhile Char.isDigit)
  | cs => some (0, cs)

/-- Reads the offset at the end of a text. -/
def offset? : List Char → Option Int
  | ['Z'] | ['z'] => some 0
  | sign :: rest => do
    guard (sign = '+' ∨ sign = '-')
    let (hours, rest) ← takeDigits? 2 rest
    let rest ← takeChar? ':' rest
    let (minutes, rest) ← takeDigits? 2 rest
    guard (rest = [] ∧ hours ≤ 23 ∧ minutes ≤ 59)
    let seconds : Int := ((hours * 60 + minutes) * 60 : Nat)
    some (if sign = '-' then -seconds else seconds)
  | [] => none

/-- The last nanosecond of a month in UTC, where a leap second may follow. -/
def precedesLeapSecond (t : Instant) : Bool :=
  let u : Instant := ⟨t.utc, 0⟩
  let leap := isLeapYear u.year
  let (month, day) := monthAndDay leap (ordinalOfDay u.day)
  isReading u.clock && day == daysInMonth leap month &&
    (u.nanosOfDay : Int) == secondsPerDay * nanosPerSecond - 1

/-- The instant of an RFC 3339 text. -/
def ofRfc3339Chars? (cs : List Char) : Option Instant := do
  let (year, cs) ← takeDigits? 4 cs
  let cs ← takeChar? '-' cs
  let (month, cs) ← takeDigits? 2 cs
  let cs ← takeChar? '-' cs
  let (day, cs) ← takeDigits? 2 cs
  match cs with
  | [] => none
  | separator :: cs =>
    guard (separator.toNat < 0x80)
    let (hour, cs) ← takeDigits? 2 cs
    let cs ← takeChar? ':' cs
    let (minute, cs) ← takeDigits? 2 cs
    let cs ← takeChar? ':' cs
    let (second, cs) ← takeDigits? 2 cs
    let (nanos, cs) ← takeFraction? cs
    let offset ← offset? cs
    let leap := isLeapYear year
    guard (1 ≤ day ∧ day ≤ daysInMonth leap month ∧ hour ≤ 23 ∧ minute ≤ 59 ∧ second ≤ 60)
    let dayNumber := yearStart year + (ordinalOf leap month day : Nat) - 1
    let (second', nanos) := if second = 60 then (59, 999999999) else (second, nanos)
    let seconds := dayNumber * secondsPerDay + ((hour * 60 + minute) * 60 + second' : Nat)
    let t : Instant := ⟨seconds * nanosPerSecond + nanos, offset⟩
    if second = 60 && !t.precedesLeapSecond then none else some t

/-- The instant of an RFC 3339 text. -/
def ofRfc3339? (s : String) : Option Instant := ofRfc3339Chars? s.toList

end Instant

end TokenAuthority
