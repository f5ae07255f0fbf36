import TokenAuthority.Json.Reader
import TokenAuthority.Record.Uuid
import TokenAuthority.Time.Rfc3339

/-!
# JSON forms of times, dates and identifiers

An instant is an RFC 3339 text, a date is the pair of its year and its day of the year, and an
identifier is a text.
-/

set_option autoImplicit false

namespace TokenAuthority

open Json

/-- Instants as RFC 3339 texts. -/
def Instant.codec : Codec Instant := Codec.text.imap Instant.ofRfc3339? Instant.text

/-- Identifiers as texts. -/
def Uuid.codec : Codec Uuid := Codec.text.imap Uuid.ofText? Uuid.text

/-- Dates as pairs of a year and a day of the year. The pair is judged before anything behind it. -/
def Date.codec : Codec Date where
  read src d := match d with
    | .list items closed => do
      let src ← src.enter
      match items with
      | year :: ordinal :: rest => do
        let y ← Codec.integer.read src year
        let o ← Codec.integer.read src ordinal
        match Date.ofOrdinal? y o with
        | none => throw .mismatch
        | some date =>
          if !rest.isEmpty then throw src.stray
          else if closed then pure date else throw .malformed
      | items => do
        let _ ← Codec.integer.readItems src closed items
        throw .mismatch
    | d => .error d.unexpected
  write date := .list [.int date.year, .int date.ordinal]

end TokenAuthority
