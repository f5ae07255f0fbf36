import TokenAuthority.Encoding.Base64
import TokenAuthority.Text.Blank

/-!
# PEM texts

A PEM text has a label and Base64 content between two boundary lines. It is read in two ways.

## Main definitions

* `Pem.Block` — a label and content.
* `Pem.first?` — the first block of a text, wherever it stands and however its lines are broken.
* `Pem.only?` — the block that a text ends with, in lines of 64 characters, as RFC 7468 has it in
  its strict form; other text may stand in front.
-/

set_option autoImplicit false

namespace TokenAuthority.Pem

/-- A labelled block. -/
structure Block where
  /-- The label of the boundary lines. -/
  label : String
  /-- The decoded content. -/
  content : Bytes

/-- What the first boundary line starts with. -/
def beginMark : List Char := "-----BEGIN ".toList

/-- What the last boundary line starts with. -/
def endMark : List Char := "-----END ".toList

/-- What both boundary lines end with. -/
def closeMark : List Char := "-----".toList

/-- The text before and after the first place where `mark` stands. -/
def cutAt (mark : List Char) : List Char → Option (List Char × List Char)
  | [] => if mark.isEmpty then some ([], []) else none
  | c :: rest =>
    if mark.isPrefixOf (c :: rest) then some ([], (c :: rest).drop mark.length)
    else (cutAt mark rest).map fun (before, after) => (c :: before, after)

/-! ## Any arrangement of lines -/

/-- The lines of a text without their ends. -/
def lines : List Char → List (List Char)
  | [] => [[]]
  | c :: rest =>
    match lines rest with
    | [] => [[c]]
    | line :: others => if c = '\n' then [] :: line :: others else (c :: line) :: others

/-- A line without blanks at its end. -/
def trimEnd (line : List Char) : List Char := (line.reverse.dropWhile isBlank).reverse

/-- A blank that may follow a boundary line. -/
def isBreak (c : Char) : Bool := c == ' ' || c == '\t' || c == '\n' || c == '\r'

/-- Header lines have a colon each, or go on with the line before. -/
def areHeaders (text : List Char) : Bool :=
  text.isEmpty || (lines text).all fun line =>
    line.isEmpty || line.contains ':' || line.head? == some ' ' || line.head? == some '\t'

/-- The headers and the data of a block: an empty line stands between them. -/
def headersAndData (body : List Char) : List Char × List Char :=
  match cutAt ['\n', '\n'] body with
  | some parts => parts
  | none => (cutAt ['\r', '\n', '\r', '\n'] body).getD ([], body)

/-- The first block of a text. -/
def first? (s : String) : Option Block := do
  let (_, rest) ← cutAt beginMark s.toList
  let (label, rest) ← cutAt closeMark rest
  let (body, rest) ← cutAt endMark (rest.dropWhile isBreak)
  let (endLabel, _) ← cutAt closeMark rest
  guard (!label.isEmpty && label == endLabel)
  let (headers, data) := headersAndData body
  guard (areHeaders headers)
  let content ← Base64.decodePadded? Base64.standard ((lines data).flatMap trimEnd)
  some ⟨String.ofList label, content⟩

/-! ## The strict form -/

/-- Takes a line end off the front. -/
def dropLineEnd? : List Char → Option (List Char)
  | '\n' :: rest => some rest
  | '\r' :: '\n' :: rest => some rest
  | '\r' :: rest => some rest
  | _ => none

/-- Takes a line end off the back. -/
def dropLastLineEnd? (cs : List Char) : Option (List Char) :=
  match cs.reverse with
  | '\n' :: '\r' :: rest => some rest.reverse
  | '\n' :: rest => some rest.reverse
  | '\r' :: rest => some rest.reverse
  | _ => none

/-- Takes a given text off the back. -/
def dropLast? (mark cs : List Char) : Option (List Char) :=
  let n := cs.length - mark.length
  if mark.length ≤ cs.length && cs.drop n == mark then some (cs.take n) else none

/-- The text after the first line that starts a block; no zero character may stand before it. -/
def afterPreamble? : List Char → Option (List Char)
  | [] => none
  | c :: rest =>
    if c = '\x00' then none
    else if c = '\n' && beginMark.isPrefixOf rest then some rest
    else afterPreamble? rest

/-- Reads the characters of lines of 64, of which the last may be shorter; `fuel` bounds their
number. -/
def unwrap? : Nat → List Char → Option (List Char)
  | 0, _ => none
  | fuel + 1, cs =>
    if cs.length ≤ 64 then some cs
    else do
      let rest ← dropLineEnd? (cs.drop 64)
      let more ← unwrap? fuel rest
      some (cs.take 64 ++ more)

/-- A label: words of visible characters with single blanks between them, and no hyphen. -/
def isLabel (label : List Char) : Bool :=
  let visible (c : Char) : Bool := 0x21 ≤ c.toNat && c.toNat ≤ 0x7E && c != '-'
  label.all (fun c => visible c || c == ' ') && label.head? != some ' ' &&
    !(label.zip (label.drop 1)).any (fun p => p.1 == ' ' && p.2 == ' ')

/-- The block that a text ends with. -/
def only? (s : String) : Option Block := do
  let cs := s.toList
  let cs ← if beginMark.isPrefixOf cs then some cs else afterPreamble? cs
  let rest := cs.drop beginMark.length
  let label := rest.takeWhile (· != '-')
  guard (isLabel label)
  let rest := rest.drop label.length
  guard (closeMark.isPrefixOf rest)
  let body ← dropLineEnd? (rest.drop closeMark.length)
  let body ← dropLast? closeMark ((dropLastLineEnd? body).getD body)
  let body ← dropLast? label body
  let body ← dropLast? endMark body
  let text ← dropLastLineEnd? body
  let text ← unwrap? (text.length + 1) text
  let content ← Base64.decodePadded? Base64.standard text
  some ⟨String.ofList label, content⟩

end TokenAuthority.Pem
