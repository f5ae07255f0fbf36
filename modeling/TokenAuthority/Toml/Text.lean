import TokenAuthority.Number.Digits
import TokenAuthority.Text.Ascii

/-!
# Texts and keys of TOML

## Main definitions

* `Toml.text?` — a text in any of the four kinds of quotation marks.
* `Toml.key?` — a key: a bare word, or a text of one line.
* `Toml.keyPath?` — keys with points between them.

## Implementation notes

A reader is given the characters from its item on and returns the item with the characters after it,
or nothing.
-/

set_option autoImplicit false

namespace TokenAuthority.Toml

/-- The characters after the blanks. -/
def skipGaps (cs : List Char) : List Char := cs.dropWhile isGap

/-- The characters that may stand neither in a text nor in a comment. -/
def isForbidden (c : Char) : Bool := (c.toNat < 0x20 && c != '\t') || c.toNat == 0x7F

/-- Puts a character in front of a text that was read. -/
def pushed (c : Char) (r : Option (List Char × List Char)) : Option (List Char × List Char) :=
  r.map fun (s, rest) => (c :: s, rest)

/-! ## Escapes -/

/-- The number of some hexadecimal digits. -/
def hexNumber? (ds : List Char) : Option Nat :=
  ds.foldl (fun n? c => do some ((← n?) * 16 + (← hexValue? c))) (some 0)

/-- The character of a code point that is written in hexadecimal digits. -/
def codePoint? (ds : List Char) : Option Char := do
  let n ← hexNumber? ds
  if n.isValidChar then some (Char.ofNat n) else none

/-- The character that a one-letter escape stands for. -/
def letterEscape? (c : Char) : Option Char :=
  [('b', '\x08'), ('t', '\t'), ('n', '\n'), ('f', '\x0c'), ('r', '\r'), ('e', '\x1b'), ('"', '"'),
    ('\\', '\\')].lookup c

/-- The number of digits of an escape by code point. -/
def escapeWidth? (c : Char) : Option Nat := [('x', 2), ('u', 4), ('U', 8)].lookup c

/-- Reads an escape after the backslash. -/
def escape? : List Char → Option (Char × List Char)
  | [] => none
  | c :: rest =>
    match escapeWidth? c with
    | some width =>
      if rest.length < width then none
      else (codePoint? (rest.take width)).map fun x => (x, rest.drop width)
    | none => (letterEscape? c).map fun x => (x, rest)

/-! ## Texts -/

/-- Reads a text of one line after its opening mark; every step takes a character away. -/
def lineText? : Nat → List Char → Option (List Char × List Char)
  | 0, _ => none
  | _, '"' :: rest => some ([], rest)
  | fuel + 1, '\\' :: rest => do
    let (c, rest) ← escape? rest
    pushed c (lineText? fuel rest)
  | fuel + 1, c :: rest => if isForbidden c then none else pushed c (lineText? fuel rest)
  | _, [] => none

/-- Reads a text of one line without escapes after its opening mark. -/
def rawLineText? : List Char → Option (List Char × List Char)
  | '\x27' :: rest => some ([], rest)
  | c :: rest => if isForbidden c then none else pushed c (rawLineText? rest)
  | [] => none

/-- The characters after a line break. -/
def afterBreak? : List Char → Option (List Char)
  | '\n' :: rest => some rest
  | '\r' :: '\n' :: rest => some rest
  | _ => none

/-- Drops blanks and line breaks. -/
def skipLines : List Char → List Char
  | '\r' :: '\n' :: rest => skipLines rest
  | c :: rest => if isGap c || c == '\n' then skipLines rest else c :: rest
  | [] => []

/-- The end of a text of several lines: three marks, before which one or two more belong to the
text. -/
def closing? (mark : Char) : List Char → Option (List Char × List Char)
  | a :: b :: c :: rest =>
    if a = mark && b = mark && c = mark then
      match rest with
      | d :: e :: rest' =>
        if d = mark && e = mark then some ([mark, mark], rest')
        else if d = mark then some ([mark], e :: rest')
        else some ([], d :: e :: rest')
      | [d] => if d = mark then some ([mark], []) else some ([], [d])
      | [] => some ([], [])
    else none
  | _ => none

/-- Reads a text of several lines after its opening marks; every step takes a character away. A
backslash at the end of a line takes away the line break and the blanks that follow. -/
def blockText? : Nat → List Char → Option (List Char × List Char)
  | 0, _ => none
  | fuel + 1, cs =>
    match closing? '"' cs with
    | some closed => some closed
    | none =>
      match cs with
      | '\\' :: rest =>
        match afterBreak? (skipGaps rest) with
        | some rest => blockText? fuel (skipLines rest)
        | none => do
          let (c, rest) ← escape? rest
          pushed c (blockText? fuel rest)
      | '\r' :: '\n' :: rest => pushed '\r' (pushed '\n' (blockText? fuel rest))
      | c :: rest =>
        if isForbidden c && c != '\n' then none else pushed c (blockText? fuel rest)
      | [] => none

/-- Reads a text of several lines without escapes after its opening marks; every step takes a
character away. -/
def rawBlockText? : Nat → List Char → Option (List Char × List Char)
  | 0, _ => none
  | fuel + 1, cs =>
    match closing? '\x27' cs with
    | some closed => some closed
    | none =>
      match cs with
      | '\r' :: '\n' :: rest => pushed '\r' (pushed '\n' (rawBlockText? fuel rest))
      | c :: rest =>
        if isForbidden c && c != '\n' then none else pushed c (rawBlockText? fuel rest)
      | [] => none

/-- The characters after a line break right behind the opening marks, which is no part of the
text. -/
def afterFirstBreak (cs : List Char) : List Char := (afterBreak? cs).getD cs

/-- Reads a text. -/
def text? (cs : List Char) : Option (List Char × List Char) :=
  match cs with
  | '"' :: '"' :: '"' :: rest => blockText? (cs.length + 1) (afterFirstBreak rest)
  | '\x27' :: '\x27' :: '\x27' :: rest => rawBlockText? (cs.length + 1) (afterFirstBreak rest)
  | '"' :: rest => lineText? (cs.length + 1) rest
  | '\x27' :: rest => rawLineText? rest
  | _ => none

/-! ## Keys -/

/-- Reads a key. -/
def key? (cs : List Char) : Option (String × List Char) :=
  match cs with
  | '"' :: rest => (lineText? (cs.length + 1) rest).map fun (s, rest) => (String.ofList s, rest)
  | '\x27' :: rest => (rawLineText? rest).map fun (s, rest) => (String.ofList s, rest)
  | cs =>
    let bare := cs.takeWhile isNameChar
    if bare.isEmpty then none else some (String.ofList bare, cs.dropWhile isNameChar)

/-- Reads the keys after the first one of a path; every key takes characters away. -/
def moreKeys? : Nat → List Char → Option (List String × List Char)
  | 0, _ => none
  | fuel + 1, cs =>
    match skipGaps cs with
    | '.' :: rest => do
      let (key, rest) ← key? (skipGaps rest)
      let (keys, rest) ← moreKeys? fuel rest
      some (key :: keys, rest)
    | rest => some ([], rest)

/-- Reads keys with points between them, and the blanks around them. -/
def keyPath? (cs : List Char) : Option (List String × List Char) := do
  let (key, rest) ← key? (skipGaps cs)
  let (keys, rest) ← moreKeys? (rest.length + 1) rest
  some (key :: keys, rest)

end TokenAuthority.Toml
