import TokenAuthority.Config.Value
import TokenAuthority.Text.Ascii
import TokenAuthority.Time.Calendar

/-!
# Numbers, flags and times of TOML

## Main definitions

* `Toml.scalar?` — reads a value that is written without quotation marks and brackets.
* `Toml.grouped?` — digits with underlines between them.
* `Toml.moment?` — a date, a time of the day, or both; its text in the usual form is its value.
-/

set_option autoImplicit false

namespace TokenAuthority.Toml

open Config (Value)

/-! ## Numbers -/

/-- Digits with single underlines between them, without the underlines. The first argument says
whether an underline may come. -/
def groupedFrom? (isDigitOf : Char → Bool) : Bool → List Char → Option (List Char)
  | afterDigit, [] => if afterDigit then some [] else none
  | afterDigit, c :: rest =>
    if isDigitOf c then (groupedFrom? isDigitOf true rest).map (c :: ·)
    else if c == '_' && afterDigit then groupedFrom? isDigitOf false rest
    else none

/-- Digits with underlines between them: at least one digit, and one on either side of every
underline. -/
def grouped? (isDigitOf : Char → Bool) (cs : List Char) : Option (List Char) :=
  groupedFrom? isDigitOf false cs

/-- Decimal digits that do not start with a zero, unless they are a zero. -/
def decimal? (cs : List Char) : Option (List Char) := do
  let ds ← grouped? Char.isDigit cs
  if ds.head? == some '0' && 1 < ds.length then none else some ds

/-- The value of a digit below a base. -/
def isDigitBelow (base : Nat) (c : Char) : Bool := (hexValue? c).any (· < base)

/-- A number in a base other than ten. -/
def based? (base : Nat) (cs : List Char) : Option Int := do
  let ds ← grouped? (isDigitBelow base) cs
  let n := ds.foldl (fun n c => n * base + (hexValue? c).getD 0) 0
  if inWord n then some n else none

/-- An integer of 64 bits. -/
def integer? (cs : List Char) : Option Int :=
  match cs with
  | '0' :: 'x' :: rest => based? 16 rest
  | '0' :: 'o' :: rest => based? 8 rest
  | '0' :: 'b' :: rest => based? 2 rest
  | cs => do
    let (negative, ds) := takeSign cs
    let n := withSign negative (digitsValue (← decimal? ds))
    if inWord n then some n else none

/-- The digits of an optional part of a double behind its mark. -/
def part? (present : Bool) (cs : List Char) : Option (List Char) :=
  if present then grouped? Char.isDigit cs else some []

/-- A double with a fraction or an exponent or both, or one of the words; it has to be within the
range of doubles. -/
def float? (cs : List Char) : Option Extended := do
  let (negative, cs) := takeSign cs
  if cs == "inf".toList then return .infinite negative
  if cs == "nan".toList then return .nan
  let isExponentMark (c : Char) : Bool := c == 'e' || c == 'E'
  let significand := cs.takeWhile fun c => !isExponentMark c
  let exponent := cs.drop significand.length
  let whole := significand.takeWhile (· != '.')
  let fraction := significand.drop whole.length
  if exponent.isEmpty && fraction.isEmpty then none
  let whole ← decimal? whole
  let fraction ← part? (!fraction.isEmpty) fraction.tail
  let (minus, digits) := takeSign exponent.tail
  let digits ← part? (!exponent.isEmpty) digits
  let power := withSign minus (digitsValue digits) - fraction.length
  match Extended.ofDecimal negative (digitsValue (whole ++ fraction)) power with
  | .finite x => some (.finite x)
  | _ => none

/-! ## Times -/

/-- Reads a date: year, month and day of the calendar. -/
def date? (cs : List Char) : Option (List Char × List Char) := do
  let (year, rest) ← takeDigits? 4 cs
  let (month, rest) ← takeDigits? 2 (← takeChar? '-' rest)
  let (day, rest) ← takeDigits? 2 (← takeChar? '-' rest)
  if 1 ≤ day && day ≤ daysInMonth (isLeapYear year) month then
    some (cs.take 10, rest)
  else none

/-- Reads the fraction of a second: nine digits of it count. -/
def fraction? (cs : List Char) : Option (List Char × List Char) :=
  match cs with
  | '.' :: rest =>
    let ds := rest.takeWhile Char.isDigit
    if ds.isEmpty then none
    else
      let kept := ((ds.take 9).reverse.dropWhile (· == '0')).reverse
      some (if kept.isEmpty then [] else '.' :: kept, rest.dropWhile Char.isDigit)
  | cs => some ([], cs)

/-- Reads a time of the day; the seconds may be left out. -/
def clock? (cs : List Char) : Option (List Char × List Char) := do
  let (hour, rest) ← takeDigits? 2 cs
  let (minute, rest) ← takeDigits? 2 (← takeChar? ':' rest)
  if 23 < hour || 59 < minute then none
  match takeChar? ':' rest with
  | none => some (cs.take 5, rest)
  | some rest =>
    let (second, rest) ← takeDigits? 2 rest
    if 60 < second then none
    let (fraction, rest) ← fraction? rest
    some (cs.take 8 ++ fraction, rest)

/-- Reads an offset from UTC; it may be absent. -/
def offset? (cs : List Char) : Option (List Char) :=
  match cs with
  | [] => some []
  | ['Z'] | ['z'] => some ['Z']
  | sign :: rest => do
    if sign != '+' && sign != '-' then none
    let (hour, more) ← takeDigits? 2 rest
    let (minute, more) ← takeDigits? 2 (← takeChar? ':' more)
    if 23 < hour || 59 < minute || !more.isEmpty then none
    some ((if hour == 0 && minute == 0 then '+' else sign) :: rest)

/-- A date, a time of the day, or both with an offset or without one. -/
def moment? (cs : List Char) : Option (List Char) :=
  match date? cs with
  | some (date, []) => some date
  | some (date, c :: rest) => do
    if c != 'T' && c != 't' && c != ' ' then none
    let (clock, rest) ← clock? rest
    some (date ++ 'T' :: clock ++ (← offset? rest))
  | none => do
    let (clock, rest) ← clock? cs
    if rest.isEmpty then some clock else none

/-! ## Values -/

/-- The characters of values without quotation marks and brackets. -/
def isScalarChar (c : Char) : Bool :=
  isNameChar c || ['+', '.', ':'].contains c

/-- The value of a word. -/
def word (cs : List Char) : Option Value :=
  if cs == "true".toList then some (.flag true)
  else if cs == "false".toList then some (.flag false)
  else
    ((integer? cs).map .integer).or <|
    ((float? cs).map .float).or <|
    (moment? cs).map fun s => .text (String.ofList s)

/-- Reads a value that is written as a word; a date may have its time behind a space. -/
def scalar? (cs : List Char) : Option (Value × List Char) := do
  let first := cs.takeWhile isScalarChar
  let rest := cs.dropWhile isScalarChar
  let clock := rest.tail.takeWhile isScalarChar
  if (date? first).any (·.2.isEmpty) && rest.head? == some ' ' && clock.head?.any Char.isDigit then
    some (← word (first ++ ' ' :: clock), rest.tail.dropWhile isScalarChar)
  else some (← word first, rest)

end TokenAuthority.Toml
