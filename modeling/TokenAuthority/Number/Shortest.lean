import TokenAuthority.Number.Binary64

/-!
# The shortest decimal text of a double

A double is written with the fewest decimal digits that read back as the same double; of two such
numbers the nearer one is taken, and of two equally near ones the one with an even last digit.

## Main definitions

* `Binary64.shortest` — the digits and the power of ten of the last digit.
* `Binary64.scientificText` — positional for moderate sizes, with an exponent elsewhere, and never
  without a fraction or an exponent.
* `Binary64.plainText` — positional always, whole numbers without a fraction.

## Implementation notes

The doubles that round to `m · 2 ^ e` fill an interval around it, whose ends belong to it when `m`
is even. A decimal grid of a given fineness meets the interval exactly if one of the two grid points
next to the value lies in it, so the finest grid needed is found by trying 1 to 17 digits.
-/

set_option autoImplicit false

namespace TokenAuthority.Binary64

/-- The interval of reals that round to a magnitude, in quarters of the last mantissa place:
its lower end, the value, its upper end, and whether the ends belong to it. -/
def roundingInterval (x : Binary64) : Nat × Nat × Nat × Bool :=
  let m := x.mantissa
  let below := if m == Nat.pow 2 52 && leastExponent < x.exponent then 1 else 2
  (4 * m - below, 4 * m, 4 * m + 2, m % 2 == 0)

/-- Compares `a · 2 ^ e` with `b · 10 ^ k`. -/
def compareScaled (a : Nat) (e : Int) (b : Nat) (k : Int) : Ordering :=
  let left := a * (if 0 ≤ e then Nat.pow 2 e.toNat else 1) *
    (if 0 ≤ k then 1 else Nat.pow 10 (-k).toNat)
  let right := b * (if 0 ≤ k then Nat.pow 10 k.toNat else 1) *
    (if 0 ≤ e then 1 else Nat.pow 2 (-e).toNat)
  compare left right

/-- The largest power `k` of ten, from `start` on and at most `fuel` steps up, with
`10 ^ k ≤ m · 2 ^ e`. -/
def decimalExponentFrom (m : Nat) (e : Int) : Nat → Int → Int
  | 0, k => k
  | fuel + 1, k =>
    if compareScaled m e 1 (k + 1) == .lt then k else decimalExponentFrom m e fuel (k + 1)

/-- The power of ten of the leading decimal digit of `m · 2 ^ e`. -/
def decimalExponent (m : Nat) (e : Int) : Int :=
  let bits : Int := (Nat.log2 m : Int) + e
  decimalExponentFrom m e 4 ((bits * 30103).fdiv 100000 - 1)

/-- The candidate with the unit `10 ^ k`: the grid point in the rounding interval that is nearest to
the value, if there is one. -/
def candidate (x : Binary64) (k : Int) : Option Nat :=
  let e := x.exponent - 2
  let (low, mid, high, closed) := x.roundingInterval
  let inside (d : Nat) : Bool :=
    match compareScaled low e d k, compareScaled high e d k with
    | .lt, .gt => true
    | .eq, _ => closed
    | _, .eq => closed
    | _, _ => false
  let num := mid * (if 0 ≤ e then Nat.pow 2 e.toNat else 1) *
    (if 0 ≤ k then 1 else Nat.pow 10 (-k).toNat)
  let den := (if 0 ≤ k then Nat.pow 10 k.toNat else 1) *
    (if 0 ≤ e then 1 else Nat.pow 2 (-e).toNat)
  let near := roundDivEven num den
  let far := if near == num / den then near + 1 else num / den
  if inside near then some near else if inside far then some far else none

/-- The shortest grid point among the grids of `n`, `n + 1`, … digits. -/
def shortestFrom (x : Binary64) (top : Int) : Nat → Nat → Nat × Int
  | 0, n => ((x.candidate (top - n)).getD 0, top - n)
  | fuel + 1, n =>
    match x.candidate (top - n) with
    | some d => if d == 0 then shortestFrom x top fuel (n + 1) else (d, top - n)
    | none => shortestFrom x top fuel (n + 1)

/-- Drops the zeros at the end of a digit string, at most `fuel` of them. -/
def dropZeros : Nat → Nat → Int → Nat × Int
  | 0, d, k => (d, k)
  | fuel + 1, d, k => if d % 10 == 0 && d != 0 then dropZeros fuel (d / 10) (k + 1) else (d, k)

/-- The fewest digits, and the power of ten of the last one, that read back as the magnitude. -/
def shortest (x : Binary64) : Nat × Int :=
  if x.isZero then (0, 0)
  else
    let (d, k) := x.shortestFrom (decimalExponent x.mantissa x.exponent) 17 0
    dropZeros 20 d k

/-- The decimal digits of a number. -/
def digitChars (d : Nat) : List Char := Nat.toDigits 10 d

/-- A digit string with `places` digits after the point and at least one before it. -/
def pointed (ds : List Char) (places : Nat) : String :=
  let ds := List.replicate (places + 1 - ds.length) '0' ++ ds
  let whole := ds.take (ds.length - places)
  String.ofList (whole ++ '.' :: ds.drop (ds.length - places))

/-- The text of a double as a data format writes it: positional while the leading digit stands for
`10 ^ -5` to `10 ^ 15`, with a signed exponent elsewhere, and with a fraction in positional form. -/
def scientificText (x : Binary64) : String :=
  let (d, k) := x.shortest
  let ds := digitChars d
  let top : Int := k + ds.length - 1
  let sign := if x.negative then "-" else ""
  let body :=
    if x.isZero then "0.0"
    else if -5 ≤ top && top ≤ 15 then
      if 0 ≤ k then String.ofList (ds ++ List.replicate k.toNat '0') ++ ".0"
      else pointed ds (-k).toNat
    else
      let digits := match ds with
        | c :: c' :: rest => String.ofList (c :: '.' :: c' :: rest)
        | short => String.ofList short
      digits ++ "e" ++ (if 0 ≤ top then "+" else "-") ++ toString top.natAbs
  sign ++ body

/-- The positional text of a double, a whole number without a fraction. -/
def plainText (x : Binary64) : String :=
  let (d, k) := x.shortest
  let ds := digitChars d
  let sign := if x.negative then "-" else ""
  let body := if x.isZero then "0"
    else if 0 ≤ k then String.ofList (ds ++ List.replicate k.toNat '0') else pointed ds (-k).toNat
  sign ++ body

end TokenAuthority.Binary64
