/-!
# Finite double-precision numbers

A finite double is a sign, a 53-bit mantissa and a power of two. All arithmetic here is exact
arithmetic on natural numbers followed by one rounding.

## Main definitions

* `withSign` — the integer of a sign and a magnitude.
* `Binary64` — the number `±mantissa · 2 ^ exponent`.
* `Binary64.ofRatio` — the double nearest to a quotient, ties to the even mantissa; `none` where the
  quotient lies beyond the largest finite double.
* `Binary64.ofDecimal` — the double nearest to `digits · 10 ^ power`.
* `Binary64.mul`, `Binary64.div` — product and quotient, rounded once.
* `Binary64.truncate`, `Binary64.roundHalfAway` — the two ways to an integer.

## Design

A double has one representation: the mantissa is at least `2 ^ 52` unless the exponent is the least
one, `-1074`. Equality of the structure is therefore equality of doubles, the two zeros apart.
-/

set_option autoImplicit false

namespace TokenAuthority

/-- The integer of a sign (true for minus) and a magnitude. -/
def withSign (negative : Bool) (n : Nat) : Int := if negative then -(n : Int) else n

/-- The finite double `±mantissa · 2 ^ exponent`. -/
structure Binary64 where
  /-- The sign; a zero has one too. -/
  negative : Bool
  /-- The mantissa, below `2 ^ 53`. -/
  mantissa : Nat
  /-- The power of two, between `-1074` and `971`. -/
  exponent : Int
deriving DecidableEq

/-- The quotient of two natural numbers rounded to the nearest one, ties to the even one. -/
def roundDivEven (num den : Nat) : Nat :=
  let q := num / den
  let r := num % den
  if 2 * r < den then q else if den < 2 * r then q + 1 else q + q % 2

/-- The quotient of two natural numbers rounded to the nearest one, ties upwards. -/
def roundDivUp (num den : Nat) : Nat :=
  (2 * num + den) / (2 * den)

namespace Binary64

/-- The exponent of the doubles nearest to zero. -/
def leastExponent : Int := -1074

/-- The exponent of the largest doubles. -/
def greatestExponent : Int := 971

/-- The zero of the given sign. -/
def zero (negative : Bool) : Binary64 := ⟨negative, 0, leastExponent⟩

/-- The mantissa that belongs to `num / den` at the power of two `e`. -/
def mantissaAt (num den : Nat) (e : Int) : Nat :=
  if 0 ≤ e then roundDivEven num (den * Nat.pow 2 e.toNat)
  else roundDivEven (num * Nat.pow 2 (-e).toNat) den

/-- The power of two at which `num / den` has 53 bits before the point, or the least one. -/
def exponentFor (num den : Nat) : Int :=
  let e : Int := (Nat.log2 num : Int) - (Nat.log2 den : Int) - 52
  -- the quotient has 52 or 53 bits before the point at `e`
  let full := if 0 ≤ e then den * Nat.pow 2 e.toNat * Nat.pow 2 52 ≤ num
    else den * Nat.pow 2 52 ≤ num * Nat.pow 2 (-e).toNat
  max leastExponent (if full then e else e - 1)

/-- The double nearest to `num / den`, ties to the even mantissa. -/
def ofRatio (negative : Bool) (num den : Nat) : Option Binary64 :=
  if num == 0 then some (zero negative)
  else
    let e := exponentFor num den
    let m := mantissaAt num den e
    let (m, e) := if m == Nat.pow 2 53 then (Nat.pow 2 52, e + 1) else (m, e)
    if greatestExponent < e then none else some ⟨negative, m, e⟩

/-- The double nearest to a natural number. -/
def ofNat (negative : Bool) (n : Nat) : Option Binary64 := ofRatio negative n 1

/-- The double nearest to `digits · 10 ^ power`; `none` beyond the largest one. -/
def ofDecimal (negative : Bool) (digits : Nat) (power : Int) : Option Binary64 :=
  if digits == 0 then some (zero negative)
  else
    let size : Int := (Nat.log2 digits : Int) / 3 + 1
    if 400 < power then none
    else if power + size < -400 then some (zero negative)
    else if 0 ≤ power then ofRatio negative (digits * Nat.pow 10 power.toNat) 1
    else ofRatio negative digits (Nat.pow 10 (-power).toNat)

/-- The magnitude as a quotient of two natural numbers. -/
def ratio (x : Binary64) : Nat × Nat :=
  if 0 ≤ x.exponent then (x.mantissa * Nat.pow 2 x.exponent.toNat, 1)
  else (x.mantissa, Nat.pow 2 (-x.exponent).toNat)

/-- The product, rounded; `none` where it is too large. -/
def mul (x y : Binary64) : Option Binary64 :=
  ofRatio (x.negative != y.negative) (x.ratio.1 * y.ratio.1) (x.ratio.2 * y.ratio.2)

/-- The quotient by a number other than zero, rounded; `none` where it is too large. -/
def div (x y : Binary64) : Option Binary64 :=
  ofRatio (x.negative != y.negative) (x.ratio.1 * y.ratio.2) (x.ratio.2 * y.ratio.1)

/-- The integer part: rounding toward zero. -/
def truncate (x : Binary64) : Int := withSign x.negative (x.ratio.1 / x.ratio.2)

/-- The nearest integer, halves away from zero. -/
def roundHalfAway (x : Binary64) : Int := withSign x.negative (roundDivUp x.ratio.1 x.ratio.2)

/-- A zero of either sign. -/
def isZero (x : Binary64) : Bool := x.mantissa == 0

end Binary64

end TokenAuthority
