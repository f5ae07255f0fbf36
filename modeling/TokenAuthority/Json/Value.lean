import TokenAuthority.Number.Shortest

/-!
# JSON values and their text

## Main definitions

* `Json.Value` — a JSON value; an object is the list of its members in order.
* `Json.Value.get?` — the value of the first member of a given name.
* `Json.Value.canonical` — the same value with every object sorted by name, the last of several
  members of one name kept.
* `Json.Value.text` — the compact text of a value.
* `Json.Value.indentedText` — the text with one member or item a line.

## Design

Texts are lists of characters until the last step: the scanner works on such lists, and the two are
compared there.
-/

set_option autoImplicit false

namespace TokenAuthority.Json

/-- A number is an integer where it was written as one and fits 64 bits, and a double elsewhere. -/
inductive Number where
  | int (value : Int)
  | float (value : Binary64)
deriving DecidableEq

/-- A JSON value. -/
inductive Value where
  | null
  | bool (value : Bool)
  | num (value : Number)
  | str (value : String)
  | list (items : List Value)
  | obj (members : List (String × Value))

namespace Value

/-- An integer as a value. -/
abbrev int (n : Int) : Value := .num (.int n)

/-- The value of the first member of the given name. -/
def lookup (name : String) (members : List (String × Value)) : Option Value :=
  (members.find? fun m => m.1 == name).map (·.2)

/-- The value of a member of an object; nothing for any other value. -/
def get? (v : Value) (name : String) : Option Value :=
  match v with
  | .obj members => lookup name members
  | _ => none

/-! ## Canonical form -/

/-- Puts a member into a sorted list of members, in place of the one of that name. -/
def insertMember (name : String) (v : Value) : List (String × Value) → List (String × Value)
  | [] => [(name, v)]
  | (k, w) :: rest =>
    if name = k then (name, v) :: rest
    else if name < k then (name, v) :: (k, w) :: rest
    else (k, w) :: insertMember name v rest

/-- The members sorted by name, code point by code point; the last of one name is kept. -/
def sortMembers (members : List (String × Value)) : List (String × Value) :=
  members.foldl (fun sorted m => insertMember m.1 m.2 sorted) []

mutual

/-- The value with the members of every object sorted by name. -/
def canonical : Value → Value
  | .null => .null
  | .bool b => .bool b
  | .num n => .num n
  | .str s => .str s
  | .list items => .list (canonicalItems items)
  | .obj members => .obj (sortMembers (canonicalMembers members))

/-- The canonical forms of some values. -/
def canonicalItems : List Value → List Value
  | [] => []
  | v :: rest => canonical v :: canonicalItems rest

/-- The members with their values in canonical form. -/
def canonicalMembers : List (String × Value) → List (String × Value)
  | [] => []
  | (k, v) :: rest => (k, canonical v) :: canonicalMembers rest

end

/-! ## Text -/

/-- The hexadecimal digit of a number below 16, in lower case. -/
def hexDigit (n : Nat) : Char :=
  if n < 10 then Char.ofNat (0x30 + n) else Char.ofNat (0x57 + n)

/-- A character within a string: the quotation mark, the backslash and the controls are escaped. -/
def escapedChar (c : Char) : List Char :=
  if c = '"' then ['\\', '"']
  else if c = '\\' then ['\\', '\\']
  else if c.toNat < 0x20 then
    if c = '\n' then ['\\', 'n']
    else if c = '\t' then ['\\', 't']
    else if c = '\r' then ['\\', 'r']
    else if c.toNat = 0x08 then ['\\', 'b']
    else if c.toNat = 0x0C then ['\\', 'f']
    else ['\\', 'u', '0', '0', hexDigit (c.toNat / 16), hexDigit (c.toNat % 16)]
  else [c]

/-- A string in quotation marks. -/
def quoted (s : String) : List Char :=
  '"' :: (s.toList.flatMap escapedChar ++ ['"'])

/-- The text of an integer: its decimal digits after an optional minus sign. -/
def intChars : Int → List Char
  | .ofNat n => Nat.toDigits 10 n
  | .negSucc n => '-' :: Nat.toDigits 10 (n + 1)

/-- The text of a number. -/
def numberChars : Number → List Char
  | .int i => intChars i
  | .float x => x.scientificText.toList

mutual

/-- The compact text of a value. -/
def chars : Value → List Char
  | .null => ['n', 'u', 'l', 'l']
  | .bool true => ['t', 'r', 'u', 'e']
  | .bool false => ['f', 'a', 'l', 's', 'e']
  | .num n => numberChars n
  | .str s => quoted s
  | .list [] => ['[', ']']
  | .list (v :: rest) => '[' :: (chars v ++ itemsChars rest)
  | .obj [] => ['\x7b', '\x7d']
  | .obj ((k, v) :: rest) => '\x7b' :: (quoted k ++ ':' :: (chars v ++ membersChars rest))

/-- The items that follow one, and the closing bracket. -/
def itemsChars : List Value → List Char
  | [] => [']']
  | v :: rest => ',' :: (chars v ++ itemsChars rest)

/-- The members that follow one, and the closing brace. -/
def membersChars : List (String × Value) → List Char
  | [] => ['\x7d']
  | (k, v) :: rest => ',' :: (quoted k ++ ':' :: (chars v ++ membersChars rest))

end

/-- The compact text of a value: no blanks, members in their order. -/
def text (v : Value) : String := String.ofList v.chars

/-- A line break and the indentation of a level. -/
def lineBreak (level : Nat) : List Char := '\n' :: List.replicate (2 * level) ' '

mutual

/-- The text of a value at an indentation level. -/
def indentedChars (level : Nat) : Value → List Char
  | .null => chars .null
  | .bool b => chars (.bool b)
  | .num n => chars (.num n)
  | .str s => quoted s
  | .list [] => ['[', ']']
  | .list (v :: rest) =>
    '[' :: (lineBreak (level + 1) ++ indentedChars (level + 1) v ++ indentedItems level rest)
  | .obj [] => ['\x7b', '\x7d']
  | .obj ((k, v) :: rest) =>
    '\x7b' :: (lineBreak (level + 1) ++ quoted k ++ ':' :: ' ' ::
      (indentedChars (level + 1) v ++ indentedMembers level rest))

/-- The items that follow one, a line each, and the closing bracket. -/
def indentedItems (level : Nat) : List Value → List Char
  | [] => lineBreak level ++ [']']
  | v :: rest =>
    ',' :: (lineBreak (level + 1) ++ indentedChars (level + 1) v ++ indentedItems level rest)

/-- The members that follow one, a line each, and the closing brace. -/
def indentedMembers (level : Nat) : List (String × Value) → List Char
  | [] => lineBreak level ++ ['\x7d']
  | (k, v) :: rest =>
    ',' :: (lineBreak (level + 1) ++ quoted k ++ ':' :: ' ' ::
      (indentedChars (level + 1) v ++ indentedMembers level rest))

end

/-- The text of a value with one member or item a line and two blanks a level. -/
def indentedText (v : Value) : String := String.ofList (v.indentedChars 0)

end Value

end TokenAuthority.Json
