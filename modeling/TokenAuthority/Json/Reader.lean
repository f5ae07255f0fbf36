import TokenAuthority.Json.Document
import TokenAuthority.Number.Word

/-!
# Typed reading and writing of JSON

## Main definitions

* `Json.Fault` — the causes for which a text is not read as a value of a type.
* `Json.Source` — where a tree comes from: a text, with the number of levels that may still be
  entered, or a value at hand.
* `Json.Codec` — a reader and a writer of one type.
* `Json.Codec.decode`, `Json.Codec.encode` — from and to JSON text.
* The codecs of plain types: `Codec.text`, `Codec.integer`, `Codec.flag`, `Codec.nullable`,
  `Codec.listOf`, `Codec.enumeration`, `Codec.value`.

## Design

Readers meet faults in document order and stop at the first. A reader decides by the shape of a
tree before it looks inside, so a list where a text is wanted is a mismatch whatever it holds, while
a malformed literal is a malformed text wherever it stands.
-/

set_option autoImplicit false

namespace TokenAuthority.Json

/-- The first fault of a text that is read as a value of some type. -/
inductive Fault where
  /-- A member without a default is absent. -/
  | missing (name : String)
  /-- A member occurs twice. -/
  | duplicate (name : String)
  /-- The text is no JSON text. -/
  | malformed
  /-- The text is JSON, but not of this type. -/
  | mismatch
deriving DecidableEq

/-- The kind of a fault, as one word; a fault of a member also names it. -/
def Fault.message : Fault → String
  | .missing name => "missing field " ++ name
  | .duplicate name => "duplicate field " ++ name
  | .malformed => "syntax"
  | .mismatch => "data"

/-- Where a tree comes from. -/
inductive Source where
  /-- A text in which this many levels of lists and objects may still be entered. -/
  | text (levels : Nat)
  /-- A value at hand. -/
  | memory
deriving DecidableEq

/-- A text may nest 127 levels of lists and objects. -/
def Source.document : Source := .text 127

/-- Enters a list or an object. -/
def Source.enter : Source → Except Fault Source
  | .text 0 => .error .malformed
  | .text (n + 1) => .ok (.text n)
  | .memory => .ok .memory

/-- The fault of something superfluous or out of place: in a text it breaks the reading of the text,
in a value at hand it is a matter of the type. -/
def Source.stray : Source → Fault
  | .text _ => .malformed
  | .memory => .mismatch

/-- The fault of a tree where something else is wanted. -/
def Doc.unexpected : Doc → Fault
  | .broken | .unreadable => .malformed
  | _ => .mismatch

/-- A reader and a writer of a type. -/
structure Codec (α : Type) where
  /-- Reads a value from a tree. -/
  read : Source → Doc → Except Fault α
  /-- Writes a value. -/
  write : α → Value

namespace Codec

variable {α : Type}

/-- Reads a JSON text as a value of the codec's type; only blanks may follow. -/
def decode (c : Codec α) (s : String) : Except Fault α := do
  let (d, complete) := Doc.scan s
  let x ← c.read .document d
  if complete then pure x else throw .malformed

/-- Reads a value at hand. -/
def ofValue (c : Codec α) (v : Value) : Except Fault α := c.read .memory (Doc.ofValue v)

/-- Writes a value as JSON text. -/
def encode (c : Codec α) (x : α) : String := (c.write x).text

/-! ## Plain types -/

/-- Strings. -/
def text : Codec String where
  read _ d := match d with
    | .str s => .ok s
    | d => .error d.unexpected
  write s := .str s

/-- Integers of 64 bits. -/
def integer : Codec Int where
  read _ d := match d with
    | .num (.int n) => if inWord n then .ok n else .error .mismatch
    | d => .error d.unexpected
  write n := .int n

/-- Truth values. -/
def flag : Codec Bool where
  read _ d := match d with
    | .bool b => .ok b
    | d => .error d.unexpected
  write b := .bool b

/-- The value or null. -/
def nullable (c : Codec α) : Codec (Option α) where
  read src d := match d with
    | .null => .ok none
    | d => (c.read src d).map some
  write x := match x with
    | none => .null
    | some x => c.write x

/-- Reads items in order, up to the place where the list goes wrong. -/
def readItems (c : Codec α) (src : Source) (closed : Bool) : List Doc → Except Fault (List α)
  | [] => if closed then .ok [] else .error .malformed
  | d :: rest => do
    let x ← c.read src d
    let xs ← readItems c src closed rest
    pure (x :: xs)

/-- Lists. -/
def listOf (c : Codec α) : Codec (List α) where
  read src d := match d with
    | .list items closed => do readItems c (← src.enter) closed items
    | d => .error d.unexpected
  write xs := .list (xs.map c.write)

/-- A type that is written through another one; reading may refuse. -/
def imap {β : Type} (c : Codec α) (ofBase : α → Option β) (toBase : β → α) : Codec β where
  read src d := do
    match ofBase (← c.read src d) with
    | some y => pure y
    | none => throw .mismatch
  write y := c.write (toBase y)

/-- The alternative of a given name. -/
def pick (alternatives : List (String × α)) (name : String) : Option α :=
  (alternatives.find? fun a => a.1 == name).map (·.2)

/-- Alternatives written as their names. An alternative without content may also be given as an
object that maps its name to null. -/
def enumeration (alternatives : List (String × α)) (nameOf : α → String) : Codec α where
  read src d := match d with
    | .str s => match pick alternatives s with
      | some x => .ok x
      | none => .error .mismatch
    | .obj members closed => do
      let _ ← src.enter
      match members with
      | [] => throw src.stray
      | (none, _) :: _ => throw .malformed
      | (some name, content) :: rest =>
        match pick alternatives name with
        | none => throw .mismatch
        | some x =>
          match content with
          | .null => if rest.isEmpty && closed then pure x else throw src.stray
          | d => throw d.unexpected
    | .broken | .unreadable => .error .malformed
    | _ => .error src.stray
  write x := .str (nameOf x)

mutual

/-- Reads any value. -/
def readValue : Source → Doc → Except Fault Value
  | _, .null => .ok .null
  | _, .bool b => .ok (.bool b)
  | _, .num n => .ok (.num n)
  | _, .str s => .ok (.str s)
  | _, .unreadable => .error .malformed
  | src, .list items closed => do
    let src ← src.enter
    .list <$> readValues src closed items
  | src, .obj members closed => do
    let src ← src.enter
    .obj <$> readMembers src closed members
  | _, .broken => .error .malformed

/-- Reads the items of a list. -/
def readValues : Source → Bool → List Doc → Except Fault (List Value)
  | _, closed, [] => if closed then .ok [] else .error .malformed
  | src, closed, d :: rest => do
    let v ← readValue src d
    let vs ← readValues src closed rest
    pure (v :: vs)

/-- Reads the members of an object. -/
def readMembers : Source → Bool → List (Option String × Doc) → Except Fault (List (String × Value))
  | _, closed, [] => if closed then .ok [] else .error .malformed
  | _, _, (none, _) :: _ => .error .malformed
  | src, closed, (some name, d) :: rest => do
    let v ← readValue src d
    let vs ← readMembers src closed rest
    pure ((name, v) :: vs)

end

/-- Any value, the members of its objects as they stand. -/
def value : Codec Value where
  read := readValue
  write := id

/-- Any value in canonical form. -/
def canonicalValue : Codec Value where
  read src d := (readValue src d).map Value.canonical
  write := id

/-- Sets the entry of a name: in place if there is one, at the end otherwise. -/
def setEntry (name v : String) (entries : List (String × String)) : List (String × String) :=
  if entries.any (·.1 == name) then entries.map fun m => if m.1 == name then (name, v) else m
  else entries ++ [(name, v)]

/-- Reads the members of an object that maps names to strings. -/
def readEntries (src : Source) (closed : Bool) :
    List (String × String) → List (Option String × Doc) → Except Fault (List (String × String))
  | entries, [] => if closed then .ok entries else .error .malformed
  | _, (none, _) :: _ => .error .malformed
  | entries, (some name, d) :: rest => do
    let v ← text.read src d
    readEntries src closed (setEntry name v entries) rest

/-- An object that maps names to strings. A name that occurs again keeps its place and takes the
later value. -/
def dictionary : Codec (List (String × String)) where
  read src d := match d with
    | .obj members closed => do readEntries (← src.enter) closed [] members
    | d => .error d.unexpected
  write entries := .obj (entries.map fun m => (m.1, .str m.2))

end Codec

end TokenAuthority.Json
