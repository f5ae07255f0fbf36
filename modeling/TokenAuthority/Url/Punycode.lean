/-!
# Punycode

The decoding of labels of international domain names. A label holds its ASCII characters in front of
the last hyphen, and behind it the other characters as numbers: each number gives, in one, how far
the code point moves on and where the character is put.

## Main definitions

* `Punycode.decode?` — the characters of an encoded label.
-/

set_option autoImplicit false

namespace TokenAuthority.Punycode

/-- The value of a digit: letters of either case stand for 0 to 25, figures for 26 to 35. -/
def digit? (c : Char) : Option Nat :=
  let n := c.toNat
  if 0x61 ≤ n && n ≤ 0x7A then some (n - 0x61)
  else if 0x41 ≤ n && n ≤ 0x5A then some (n - 0x41)
  else if 0x30 ≤ n && n ≤ 0x39 then some (n - 0x30 + 26)
  else none

/-- The threshold of a digit at a place, given the bias. -/
def threshold (place bias : Nat) : Nat := min 26 (max 1 (place - bias))

/-- Reads a number of variable length: the digits, least significant first, up to the first one
below its threshold. -/
def number? (bias : Nat) : Nat → Nat → Nat → List Char → Option (Nat × List Char)
  | _, _, _, [] => none
  | place, weight, sum, c :: rest => do
    let d ← digit? c
    let sum := sum + d * weight
    let t := threshold place bias
    if d < t then some (sum, rest) else number? bias (place + 36) (weight * (36 - t)) sum rest

/-- Divides a step down until it is small, counting 36 for every division. -/
def settle : Nat → Nat → Nat → Nat
  | 0, delta, k => k + 36 * delta / (delta + 38)
  | fuel + 1, delta, k =>
    if 455 < delta then settle fuel (delta / 35) (k + 36) else k + 36 * delta / (delta + 38)

/-- The bias for the next number, from the step just made and the length of the label. -/
def adapt (delta length : Nat) (first : Bool) : Nat :=
  let delta := if first then delta / 700 else delta / 2
  settle 16 (delta + delta / length) 0

/-- Puts the characters behind the last hyphen into the label. A number is a step over code points
and places, so the code point rises by one at every round over the places. -/
def insertAll : Nat → Nat → Nat → Nat → List Char → List Char → Option (List Char)
  | 0, _, _, _, _, _ => none
  | _ + 1, _, _, _, label, [] => some label
  | fuel + 1, code, place, bias, label, cs => do
    let (step, rest) ← number? bias 36 1 0 cs
    let position := place + step
    let length := label.length + 1
    let code := code + position / length
    let position := position % length
    if 0x10FFFF < code || (0xD800 ≤ code && code ≤ 0xDFFF) then none
    else
      let label := label.take position ++ Char.ofNat code :: label.drop position
      insertAll fuel code (position + 1) (adapt step length (place == 0)) label rest

/-- The characters of an encoded label. Each number uses up a character at least, so the rounds are
bounded by the length of the label. -/
def decode? (cs : List Char) : Option (List Char) :=
  let back := cs.reverse
  let tail := (back.takeWhile (· != '-')).reverse
  let base := ((back.dropWhile (· != '-')).drop 1).reverse
  if base.any (0x80 ≤ ·.toNat) then none
  else insertAll (cs.length + 1) 0x80 0 72 base tail

end TokenAuthority.Punycode
