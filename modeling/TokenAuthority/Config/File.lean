import TokenAuthority.Config.Value
import TokenAuthority.Json.Reader
import TokenAuthority.Toml.Document

/-!
# Configuration files

The end of its name says which language a file is written in.

## Main definitions

* `Config.File` — a file with its name.
* `Config.File.extension?` — the part of the name after its last point.
* `Config.ofJson` — a JSON value as a configuration value.
* `Config.File.members?` — the members that a file holds.
-/

set_option autoImplicit false

namespace TokenAuthority.Config

/-- A file. -/
structure File where
  name : String
  content : String

/-- The last part of a path. -/
def baseName (cs : List Char) : List Char := (cs.reverse.takeWhile (· != '/')).reverse

/-- The part of a name after its last point, which must not be its first character. -/
def extensionOf? (name : List Char) : Option (List Char) :=
  let back := name.reverse
  match back.dropWhile (· != '.') with
  | _ :: _ :: _ => some (back.takeWhile (· != '.')).reverse
  | _ => none

/-- The end of the name of a file that tells its language. -/
def File.extension? (file : File) : Option String :=
  (extensionOf? (baseName file.name.toList)).map String.ofList

mutual

/-- A JSON value as a configuration value; integers beyond 64 bits with a sign become doubles. -/
def ofJson : Json.Value → Value
  | .null => .absent
  | .bool b => .flag b
  | .num (.int n) => if inWord n then .integer n else .float (.ofDecimal (n < 0) n.natAbs 0)
  | .num (.float x) => .float (.finite x)
  | .str s => .text s
  | .list items => .list (ofJsonItems items)
  | .obj members => .table (ofJsonMembers members)

/-- JSON values as configuration values. -/
def ofJsonItems : List Json.Value → List Value
  | [] => []
  | v :: rest => ofJson v :: ofJsonItems rest

/-- The members of a JSON object as those of a table. -/
def ofJsonMembers : List (String × Json.Value) → Members
  | [] => []
  | (k, v) :: rest => (k, ofJson v) :: ofJsonMembers rest

end

/-- The members of a JSON text, which has to be an object. -/
def readJson? (text : String) : Option Members :=
  match Json.Codec.canonicalValue.decode text with
  | .ok (.obj members) => some (ofJsonMembers members)
  | _ => none

/-- A text without the byte order mark that it may start with. -/
def withoutMark (text : String) : String :=
  match text.toList with
  | '\ufeff' :: rest => String.ofList rest
  | _ => text

/-- The members that a file holds; nothing if it cannot be read. -/
def File.members? (file : File) : Option Members :=
  let text := withoutMark file.content
  match file.extension? with
  | some "toml" => Toml.read? text
  | some "json" => readJson? text
  | _ => none

end TokenAuthority.Config
