import TokenAuthority.Json.Value
import TokenAuthority.Number.Digits

/-!
# Universally unique identifiers

## Main definitions

* `Uuid` — a number of 128 bits.
* `Uuid.text` — 32 hexadecimal digits in lower case, in groups of 8, 4, 4, 4 and 12.
* `Uuid.ofText?` — reads that form, the one without hyphens, and the first one in braces or behind
  `urn:uuid:`, with digits of either case.
* `Uuid.ofRandom` — an identifier of version 4.
-/

set_option autoImplicit false

namespace TokenAuthority

/-- A number of 128 bits. -/
structure Uuid where
  /-- The number. -/
  value : Nat
  /-- It has 128 bits. -/
  bound : value < Nat.pow 2 128
deriving DecidableEq

/-- The last `width` hexadecimal digits of a number, in lower case. -/
def fixedHex : Nat → Nat → List Char
  | 0, _ => []
  | width + 1, n => fixedHex width (n / 16) ++ [Json.Value.hexDigit (n % 16)]

/-- The value of a string of hexadecimal digits; nothing if another character is among them. -/
def hex? : List Char → Nat → Option Nat
  | [], n => some n
  | c :: rest, n => match hexValue? c with
    | some d => hex? rest (n * 16 + d)
    | none => none

namespace Uuid

/-- The characters of the hyphenated form. -/
def chars (u : Uuid) : List Char :=
  let ds := fixedHex 32 u.value
  ds.take 8 ++ '-' :: ((ds.drop 8).take 4 ++ '-' :: ((ds.drop 12).take 4 ++ '-' ::
    ((ds.drop 16).take 4 ++ '-' :: ds.drop 20)))

/-- The hyphenated form. -/
def text (u : Uuid) : String := String.ofList u.chars

/-- The identifier of 32 hexadecimal digits. -/
def ofDigits? (ds : List Char) : Option Uuid := do
  let n ← hex? ds 0
  if h : n < Nat.pow 2 128 ∧ ds.length = 32 then some ⟨n, h.1⟩ else none

/-- The identifier of a hyphenated form. -/
def ofHyphenated? (cs : List Char) : Option Uuid :=
  let hyphens := [8, 13, 18, 23].all fun i => cs[i]? == some '-'
  if cs.length = 36 && hyphens then
    ofDigits? (cs.take 8 ++ (cs.drop 9).take 4 ++ (cs.drop 14).take 4 ++ (cs.drop 19).take 4 ++
      cs.drop 24)
  else none

/-- What the form with a name space starts with. -/
def urnHeading : List Char := "urn:uuid:".toList

/-- The identifier of a text in one of the four forms, told apart by their lengths. -/
def ofText? (s : String) : Option Uuid :=
  let cs := s.toList
  if cs.length = 32 then ofDigits? cs
  else if cs.length = 36 then ofHyphenated? cs
  else if cs.length = 38 then
    if cs.head? == some '\x7b' && cs.getLast? == some '\x7d' then
      ofHyphenated? ((cs.drop 1).take 36)
    else none
  else if cs.length = 45 && cs.take 9 == urnHeading then ofHyphenated? (cs.drop 9)
  else none

/-- The identifier of random bits, marked by its 49th to 52nd and its 65th and 66th bit as one that
was drawn at random. -/
def ofRandom (n : Nat) : Uuid where
  value :=
    (n / Nat.pow 2 80 % Nat.pow 2 48 * Nat.pow 2 16 + 4 * Nat.pow 2 12 +
      n / Nat.pow 2 64 % Nat.pow 2 12) * Nat.pow 2 64 + (Nat.pow 2 63 + n % Nat.pow 2 62)
  bound := by
    simp only [Nat.pow_eq]
    omega

end Uuid

end TokenAuthority
