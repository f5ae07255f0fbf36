/-!
# Digits

## Main definitions

* `hexValue?` — the values of hexadecimal digits.
* `digitsValue` — the number that a string of decimal digits stands for.
* `digits?`, `takeDigits?` — the same for characters that may be no digits.
* `fixedDigits` — the last decimal digits of a number.
-/

set_option autoImplicit false

namespace TokenAuthority

/-- The value of a hexadecimal digit of either case. -/
def hexValue? (c : Char) : Option Nat :=
  let n := c.toNat
  if 0x30 ≤ n && n ≤ 0x39 then some (n - 0x30)
  else if 0x61 ≤ n && n ≤ 0x66 then some (n - 0x57)
  else if 0x41 ≤ n && n ≤ 0x46 then some (n - 0x37)
  else none

/-- The number that a string of digits stands for. -/
def digitsValue (ds : List Char) : Nat := ds.foldl (fun n c => n * 10 + (c.toNat - 0x30)) 0

/-- Reads decimal digits onto a number; nothing if another character is among them. -/
def digits? : List Char → Nat → Option Nat
  | [], n => some n
  | c :: rest, n => if c.isDigit then digits? rest (n * 10 + (c.toNat - 0x30)) else none

/-- Reads exactly `width` decimal digits. -/
def takeDigits? (width : Nat) (cs : List Char) : Option (Nat × List Char) :=
  if cs.length < width then none
  else (digits? (cs.take width) 0).map fun n => (n, cs.drop width)

/-- Reads one given character. -/
def takeChar? (c : Char) : List Char → Option (List Char)
  | [] => none
  | d :: rest => if d = c then some rest else none

/-- The last `width` decimal digits of a number. -/
def fixedDigits : Nat → Nat → List Char
  | 0, _ => []
  | width + 1, n => fixedDigits width (n / 10) ++ [Char.ofNat (0x30 + n % 10)]

end TokenAuthority
