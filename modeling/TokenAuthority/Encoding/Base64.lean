/-!
# Base64

## Main definitions

* `Base64.Alphabet` — the two characters in which the variants differ; `Base64.standard`,
  `Base64.urlSafe`.
* `Base64.encode` — the text of some bytes without padding.
* `Base64.decode?` — the bytes of a text without padding. The bits that fill up the last character
  have to be zero, so every list of bytes has one text.
* `Base64.decodePadded?` — the bytes of a text that is padded to full groups of four characters.
-/

set_option autoImplicit false

namespace TokenAuthority

/-- Bytes. -/
abbrev Bytes := List UInt8

namespace Base64

/-- The characters for 62 and 63. -/
structure Alphabet where
  /-- The character for 62. -/
  plus : Char
  /-- The character for 63. -/
  slash : Char

/-- The alphabet of PEM texts. -/
def standard : Alphabet := ⟨'+', '/'⟩

/-- The alphabet of tokens and published keys. -/
def urlSafe : Alphabet := ⟨'-', '_'⟩

variable (a : Alphabet)

/-- The character for a number below 64. -/
def digit (n : Nat) : Char :=
  if n < 26 then Char.ofNat (0x41 + n)
  else if n < 52 then Char.ofNat (0x61 + (n - 26))
  else if n < 62 then Char.ofNat (0x30 + (n - 52))
  else if n = 62 then a.plus
  else a.slash

/-- The number that a character stands for. -/
def value? (c : Char) : Option Nat :=
  let n := c.toNat
  if 0x41 ≤ n ∧ n ≤ 0x5A then some (n - 0x41)
  else if 0x61 ≤ n ∧ n ≤ 0x7A then some (n - 0x61 + 26)
  else if 0x30 ≤ n ∧ n ≤ 0x39 then some (n - 0x30 + 52)
  else if c = a.plus then some 62
  else if c = a.slash then some 63
  else none

/-- The text of some bytes: four characters for three bytes, and one more character than bytes at
the end. -/
def encode : Bytes → List Char
  | [] => []
  | [x] =>
    let n := x.toNat
    [digit a (n / 4), digit a (n % 4 * 16)]
  | [x, y] =>
    let n := x.toNat * 256 + y.toNat
    [digit a (n / 1024), digit a (n / 16 % 64), digit a (n % 16 * 4)]
  | x :: y :: z :: rest =>
    let n := (x.toNat * 256 + y.toNat) * 256 + z.toNat
    digit a (n / 262144) :: digit a (n / 4096 % 64) :: digit a (n / 64 % 64) :: digit a (n % 64) ::
      encode rest

/-- The bytes of a text. -/
def decode? : List Char → Option Bytes
  | [] => some []
  | [_] => none
  | [p, q] =>
    match value? a p, value? a q with
    | some p, some q => if q % 16 = 0 then some [UInt8.ofNat (p * 4 + q / 16)] else none
    | _, _ => none
  | [p, q, r] =>
    match value? a p, value? a q, value? a r with
    | some p, some q, some r =>
      let n := (p * 64 + q) * 64 + r
      if n % 4 = 0 then some [UInt8.ofNat (n / 1024), UInt8.ofNat (n / 4 % 256)] else none
    | _, _, _ => none
  | p :: q :: r :: s :: rest =>
    match value? a p, value? a q, value? a r, value? a s with
    | some p, some q, some r, some s =>
      let n := ((p * 64 + q) * 64 + r) * 64 + s
      (decode? rest).map fun bytes =>
        UInt8.ofNat (n / 65536) :: UInt8.ofNat (n / 256 % 256) :: UInt8.ofNat (n % 256) :: bytes
    | _, _, _, _ => none

/-- The bytes of a padded text: one or two equals signs fill up the last group. -/
def decodePadded? (cs : List Char) : Option Bytes :=
  let padding := (cs.reverse.takeWhile (· == '=')).length
  if cs.length % 4 = 0 && padding ≤ 2 then decode? a (cs.take (cs.length - padding)) else none

end Base64

end TokenAuthority
