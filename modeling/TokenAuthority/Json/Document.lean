import TokenAuthority.Json.Value
import TokenAuthority.Number.Digits

/-!
# Scanned JSON text

A text is scanned once into a tree that also shows what is wrong with it and where. The readers of
`Json.Reader` walk the tree in document order, so that the first fault of a text is the one they
meet first.

## Main definitions

* `Json.Doc` — a scanned text: a value, or the part of one that precedes a fault.
* `Json.Doc.scan` — the tree of a text, and whether something other than blanks follows the value.
* `Json.Doc.ofValue` — the tree of a value at hand.
* `Json.Doc.wellFormed` — the text of the value keeps to the grammar.

## Implementation notes

Two kinds of text keep to the grammar and yet have no value: a string with half a surrogate pair,
and a numeral beyond the doubles. Both are `Doc.unreadable`: a member that nobody asks for may hold
them, one that is read may not.
-/

set_option autoImplicit false

namespace TokenAuthority.Json

/-- A scanned JSON text. -/
inductive Doc where
  | null
  | bool (value : Bool)
  | num (value : Number)
  | str (value : String)
  /-- A string or numeral of the grammar that stands for no value. -/
  | unreadable
  /-- A list; `closed` is false where the text goes wrong after the items. -/
  | list (items : List Doc) (closed : Bool)
  /-- An object; a name that stands for no text is `none`, and `closed` is false where the text goes
  wrong after the members. -/
  | obj (members : List (Option String × Doc)) (closed : Bool)
  /-- No value can be read here. -/
  | broken

namespace Doc

/-- The blanks of the grammar. -/
def isSpace (c : Char) : Bool := c == ' ' || c == '\n' || c == '\t' || c == '\r'

/-- The text after its leading blanks. -/
def skipSpace (cs : List Char) : List Char := cs.dropWhile isSpace

/-! ## Strings -/

/-- The value of four hexadecimal digits. -/
def hexQuad? (a b c d : Char) : Option Nat := do
  some ((((← hexValue? a) * 16 + (← hexValue? b)) * 16 + (← hexValue? c)) * 16 + (← hexValue? d))

/-- The first half of a surrogate pair. -/
def isHighSurrogate (n : Nat) : Bool := 0xD800 ≤ n && n ≤ 0xDBFF

/-- The second half of a surrogate pair. -/
def isLowSurrogate (n : Nat) : Bool := 0xDC00 ≤ n && n ≤ 0xDFFF

/-- The character that a one-letter escape stands for. -/
def escape? (c : Char) : Option Char :=
  if c == '"' || c == '\\' || c == '/' then some c
  else if c == 'b' then some '\x08'
  else if c == 'f' then some '\x0c'
  else if c == 'n' then some '\n'
  else if c == 'r' then some '\r'
  else if c == 't' then some '\t'
  else none

/-- A scanned string: its text if it has one, and the text after the closing quotation mark. -/
abbrev ScannedString := Option (List Char) × List Char

/-- Puts a character in front of a scanned string. -/
def ScannedString.push (c : Char) (s : ScannedString) : ScannedString := (s.1.map (c :: ·), s.2)

/-- The string without a text that ends where this one does. -/
def ScannedString.spoil (s : ScannedString) : ScannedString := (none, s.2)

/-- Scans a string after its opening quotation mark. -/
def scanString : List Char → Option ScannedString
  | [] => none
  | '"' :: rest => some (some [], rest)
  | '\\' :: 'u' :: a :: b :: c :: d :: '\\' :: 'u' :: e :: f :: g :: h :: rest =>
    match hexQuad? a b c d with
    | none => none
    | some n =>
      if isHighSurrogate n then
        match hexQuad? e f g h with
        | none => none
        | some m =>
          if isLowSurrogate m then
            (scanString rest).map
              (·.push (Char.ofNat (0x10000 + (n - 0xD800) * 0x400 + (m - 0xDC00))))
          else (scanString rest).map (·.spoil)
      else
        let after := scanString ('\\' :: 'u' :: e :: f :: g :: h :: rest)
        if isLowSurrogate n then after.map (·.spoil) else after.map (·.push (Char.ofNat n))
  | '\\' :: 'u' :: a :: b :: c :: d :: rest =>
    match hexQuad? a b c d with
    | none => none
    | some n =>
      if isHighSurrogate n || isLowSurrogate n then (scanString rest).map (·.spoil)
      else (scanString rest).map (·.push (Char.ofNat n))
  | '\\' :: c :: rest =>
    match escape? c with
    | none => none
    | some x => (scanString rest).map (·.push x)
  | c :: rest =>
    if c.toNat < 0x20 || c = '\\' then none else (scanString rest).map (·.push c)

/-! ## Numerals -/

/-- The largest unsigned number of 64 bits. -/
def maxUnsigned : Nat := Nat.pow 2 64 - 1

/-- Reads digits onto a number as long as it fits 64 bits; the digits left over come back. -/
def accumulate (n : Nat) : List Char → Nat × List Char
  | [] => (n, [])
  | c :: rest =>
    let m := n * 10 + (c.toNat - 0x30)
    if maxUnsigned < m then (n, c :: rest) else accumulate m rest

/-- The largest power of ten that a double can hold. -/
def greatestPower : Nat := 308

/-- Divides a double by a power of ten, at most `greatestPower` places at a step. -/
def divideByPower : Nat → Binary64 → Nat → Option Binary64
  | 0, x, _ => some x
  | fuel + 1, x, power =>
    if x.isZero then some x
    else if power ≤ greatestPower then do x.div (← Binary64.ofNat false (Nat.pow 10 power))
    else do
      divideByPower fuel (← x.div (← Binary64.ofNat false (Nat.pow 10 greatestPower)))
        (power - greatestPower)

/-- The double of a significand below `2 ^ 64` and a power of ten: the significand rounded, then
multiplied or divided by the rounded power, with a rounding at every step. -/
def scaled (negative : Bool) (significand : Nat) (power : Int) : Option Binary64 := do
  let x ← Binary64.ofNat negative significand
  if 0 ≤ power then
    if power.toNat ≤ greatestPower then x.mul (← Binary64.ofNat false (Nat.pow 10 power.toNat))
    else if x.isZero then some x else none
  else divideByPower 8 x power.natAbs

/-- The parts of a numeral. -/
structure Numeral where
  /-- A minus sign stands in front. -/
  negative : Bool
  /-- The digits before the point. -/
  whole : List Char
  /-- The digits after the point; none where there is no point. -/
  fraction : List Char
  /-- The sign (true for minus) and the digits of the exponent. -/
  exponent : Option (Bool × List Char)

/-- The value of a numeral with a fraction or an exponent, or beyond 64 bits. -/
def Numeral.float (n : Numeral) : Option Binary64 :=
  let (significand, dropped) := accumulate 0 n.whole
  -- digits after the point still count while they fit
  let (significand, left) := accumulate significand n.fraction
  let kept := n.fraction.length - left.length
  let power : Int := (dropped.length : Int) - kept
  match n.exponent with
  | none => scaled n.negative significand power
  | some (minus, ds) =>
    let e := digitsValue ds
    if Nat.pow 2 31 ≤ e then
      if significand != 0 && !minus then none else some (Binary64.zero n.negative)
    else scaled n.negative significand (if minus then power - e else power + e)

/-- The value of a numeral: an integer where it is written as one and fits, a double elsewhere;
nothing beyond the doubles. -/
def Numeral.value (n : Numeral) : Option Number :=
  let m := digitsValue n.whole
  if n.fraction.isEmpty && n.exponent.isNone && m ≤ maxUnsigned then
    if !n.negative then some (.int m)
    else if m != 0 && m ≤ Nat.pow 2 63 then some (.int (-(m : Int)))
    else n.float.map .float
  else n.float.map .float

/-- Scans the digits of a numeral after its sign. -/
def scanUnsigned (negative : Bool) (cs : List Char) : Option (Numeral × List Char) :=
  let whole := cs.takeWhile Char.isDigit
  let cs := cs.dropWhile Char.isDigit
  if whole.isEmpty || (whole.head? == some '0' && 1 < whole.length) then none
  else
    let point : Option (List Char × List Char) :=
      match cs with
      | '.' :: rest =>
        let fraction := rest.takeWhile Char.isDigit
        if fraction.isEmpty then none else some (fraction, rest.dropWhile Char.isDigit)
      | _ => some ([], cs)
    match point with
    | none => none
    | some (fraction, cs) =>
      match cs with
      | [] => some (⟨negative, whole, fraction, none⟩, [])
      | c :: rest =>
        if c == 'e' || c == 'E' then
          let (minus, rest) := match rest with
            | '+' :: rest => (false, rest)
            | '-' :: rest => (true, rest)
            | rest => (false, rest)
          let ds := rest.takeWhile Char.isDigit
          if ds.isEmpty then none
          else some (⟨negative, whole, fraction, some (minus, ds)⟩, rest.dropWhile Char.isDigit)
        else some (⟨negative, whole, fraction, none⟩, c :: rest)

/-- Scans a numeral. -/
def scanNumeral : List Char → Option (Numeral × List Char)
  | '-' :: rest => scanUnsigned true rest
  | cs => scanUnsigned false cs

/-! ## Values -/

/-- Scans a value that is neither a list nor an object. -/
def scanScalar (cs : List Char) : Doc × Option (List Char) :=
  match cs with
  | 'n' :: 'u' :: 'l' :: 'l' :: rest => (.null, some rest)
  | 't' :: 'r' :: 'u' :: 'e' :: rest => (.bool true, some rest)
  | 'f' :: 'a' :: 'l' :: 's' :: 'e' :: rest => (.bool false, some rest)
  | '"' :: rest =>
    match scanString rest with
    | none => (.broken, none)
    | some (some s, rest) => (.str (String.ofList s), some rest)
    | some (none, rest) => (.unreadable, some rest)
  | cs =>
    match scanNumeral cs with
    | none => (.broken, none)
    | some (n, rest) =>
      match n.value with
      | some v => (.num v, some rest)
      | none => (.unreadable, some rest)

mutual

/-- Scans a value. The rest of the text is missing where the value is not complete. -/
def scanValue : Nat → List Char → Doc × Option (List Char)
  | 0, _ => (.broken, none)
  | fuel + 1, cs =>
    match skipSpace cs with
    | '[' :: rest =>
      match skipSpace rest with
      | ']' :: rest => (.list [] true, some rest)
      | _ =>
        let (items, after) := scanItems fuel rest
        (.list items after.isSome, after)
    | '\x7b' :: rest =>
      match skipSpace rest with
      | '\x7d' :: rest => (.obj [] true, some rest)
      | _ =>
        let (members, after) := scanMembers fuel rest
        (.obj members after.isSome, after)
    | cs => scanScalar cs

/-- Scans the items of a list from one item on, up to the closing bracket. -/
def scanItems : Nat → List Char → List Doc × Option (List Char)
  | 0, _ => ([.broken], none)
  | fuel + 1, cs =>
    match scanValue fuel cs with
    | (v, none) => ([v], none)
    | (v, some rest) =>
      match skipSpace rest with
      | ',' :: rest =>
        let (items, after) := scanItems fuel rest
        (v :: items, after)
      | ']' :: rest => ([v], some rest)
      | _ => ([v], none)

/-- Scans the members of an object from one member on, up to the closing brace. -/
def scanMembers : Nat → List Char → List (Option String × Doc) × Option (List Char)
  | 0, _ => ([], none)
  | fuel + 1, cs =>
    match skipSpace cs with
    | '"' :: rest =>
      match scanString rest with
      | none => ([], none)
      | some (name, rest) =>
        let name := name.map String.ofList
        match skipSpace rest with
        | ':' :: rest =>
          match scanValue fuel rest with
          | (v, none) => ([(name, v)], none)
          | (v, some rest) =>
            match skipSpace rest with
            | ',' :: rest =>
              let (members, after) := scanMembers fuel rest
              ((name, v) :: members, after)
            | '\x7d' :: rest => ([(name, v)], some rest)
            | _ => ([(name, v)], none)
        | _ => ([(name, .broken)], none)
    | _ => ([], none)

end

/-- The tree of a text, and whether the text ends after the value, blanks apart. Every second call
of the scanner takes a character away, which bounds its depth by twice the length of the text. -/
def scan (s : String) : Doc × Bool :=
  let cs := s.toList
  match scanValue (2 * cs.length + 2) cs with
  | (d, some rest) => (d, (skipSpace rest).isEmpty)
  | (d, none) => (d, false)

/-! ## Trees of values -/

mutual

/-- The tree of a value. -/
def ofValue : Value → Doc
  | .null => .null
  | .bool b => .bool b
  | .num n => .num n
  | .str s => .str s
  | .list items => .list (ofItems items) true
  | .obj members => .obj (ofMembers members) true

/-- The trees of some values. -/
def ofItems : List Value → List Doc
  | [] => []
  | v :: rest => ofValue v :: ofItems rest

/-- The members of a tree. -/
def ofMembers : List (String × Value) → List (Option String × Doc)
  | [] => []
  | (k, v) :: rest => (some k, ofValue v) :: ofMembers rest

end

mutual

/-- The text of the tree keeps to the grammar. -/
def wellFormed : Doc → Bool
  | .null | .bool _ | .num _ | .str _ | .unreadable => true
  | .list items closed => closed && wellFormedItems items
  | .obj members closed => closed && wellFormedMembers members
  | .broken => false

/-- All of some trees keep to the grammar. -/
def wellFormedItems : List Doc → Bool
  | [] => true
  | d :: rest => wellFormed d && wellFormedItems rest

/-- The values of all members keep to the grammar. -/
def wellFormedMembers : List (Option String × Doc) → Bool
  | [] => true
  | (_, d) :: rest => wellFormed d && wellFormedMembers rest

end

end Doc

end TokenAuthority.Json
