import TokenAuthority.Number.Digits
import TokenAuthority.Number.Shortest
import TokenAuthority.Number.Word

/-!
# Decimal numerals

The numerals that people write into variables and arguments: integers with an optional sign, and
doubles, among them the infinities and the value that is no number.

## Main definitions

* `word?` — an integer of 64 bits.
* `Extended` — a double, an infinity, or no number.
* `Extended.ofText?` — reads a double: digits with a point somewhere or nowhere, an optional
  exponent, or one of the words.
* `Extended.round` — the nearest integer of 64 bits.
* `Extended.text` — positional digits, or a word.
-/

set_option autoImplicit false

namespace TokenAuthority

/-- A sign in front of a numeral (true for minus), and what follows it. -/
def takeSign : List Char → Bool × List Char
  | '-' :: rest => (true, rest)
  | '+' :: rest => (false, rest)
  | cs => (false, cs)

/-- Reads an integer of 64 bits: an optional sign and digits. -/
def word? (cs : List Char) : Option Int :=
  let (negative, ds) := takeSign cs
  if ds.isEmpty || !ds.all Char.isDigit then none
  else
    let n := withSign negative (digitsValue ds)
    if inWord n then some n else none

/-- A double with the values that arithmetic adds to the numbers. -/
inductive Extended where
  | finite (x : Binary64)
  | infinite (negative : Bool)
  | nan
deriving DecidableEq

namespace Extended

/-- The double of decimal digits and a power of ten; an infinity beyond the largest one. -/
def ofDecimal (negative : Bool) (digits : Nat) (power : Int) : Extended :=
  match Binary64.ofDecimal negative digits power with
  | some x => .finite x
  | none => .infinite negative

/-- The number that a word in lower case stands for. -/
def ofWord? (negative : Bool) (word : List Char) : Option Extended :=
  let word := String.ofList word
  if word == "inf" || word == "infinity" then some (.infinite negative)
  else if word == "nan" then some .nan
  else none

/-- Reads an exponent after its letter. -/
def exponent? (cs : List Char) : Option Int :=
  let (negative, ds) := takeSign cs
  if ds.isEmpty || !ds.all Char.isDigit then none else some (withSign negative (digitsValue ds))

/-- Reads a double without its sign: digits, a point and digits, of which one kind has to be there,
and an optional exponent. -/
def unsigned? (negative : Bool) (cs : List Char) : Option Extended :=
  let whole := cs.takeWhile Char.isDigit
  let cs := cs.dropWhile Char.isDigit
  let (fraction, cs) := match cs with
    | '.' :: rest => (rest.takeWhile Char.isDigit, rest.dropWhile Char.isDigit)
    | cs => ([], cs)
  if whole.isEmpty && fraction.isEmpty then none
  else
    let digits := digitsValue (whole ++ fraction)
    match cs with
    | [] => some (ofDecimal negative digits (-fraction.length))
    | c :: rest =>
      if c.toLower == 'e' then
        (exponent? rest).map fun e => ofDecimal negative digits (e - fraction.length)
      else none

/-- Reads a double or one of the words for what is none, which may be in any case. -/
def ofText? (cs : List Char) : Option Extended :=
  let (negative, cs) := takeSign cs
  (ofWord? negative (cs.map Char.toLower)).or (unsigned? negative cs)

/-- The nearest integer of 64 bits, halves away from zero; zero for no number. -/
def round : Extended → Int
  | .finite x => clampToWord x.roundHalfAway
  | .infinite negative => clampToWord (withSign negative (Nat.pow 2 64))
  | .nan => 0

/-- A zero of either sign. -/
def isZero : Extended → Bool
  | .finite x => x.isZero
  | _ => false

/-- The positional text of a double, or a word. -/
def text : Extended → String
  | .finite x => x.plainText
  | .infinite negative => if negative then "-inf" else "inf"
  | .nan => "NaN"

end Extended

end TokenAuthority
