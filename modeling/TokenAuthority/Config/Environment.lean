import TokenAuthority.Config.Path

/-!
# Configuration from environment variables

A variable whose name starts with `AUTHSERVER__` sets the key that the rest of its name spells, in
lower case; two underlines stand for the point of a path.

## Main definitions

* `Config.variableKey?` — the key that a variable sets.
* `Config.variableValue` — the value of a variable: a flag, an integer, a double, a list or a text.
* `Config.environmentLayer` — the keys and values of an environment.
-/

set_option autoImplicit false

namespace TokenAuthority.Config

/-- The letter in lower case. The sign of the kelvin is the one character beyond ASCII with a lower
case in ASCII. -/
def lowerNameChar (c : Char) : Char := if c == '\u212a' then 'k' else c.toLower

/-- How the names of the variables start, in lower case. -/
def variableStart : List Char := "authserver__".toList

/-- Two underlines become a point. -/
def pointUnderlines : List Char → List Char
  | '_' :: '_' :: rest => '.' :: pointUnderlines rest
  | c :: rest => c :: pointUnderlines rest
  | [] => []

/-- The key that a variable sets. -/
def variableKey? (name : String) : Option String :=
  let cs := name.toList.map lowerNameChar
  if variableStart.isPrefixOf cs then
    some (String.ofList (pointUnderlines (cs.drop variableStart.length)))
  else none

/-- The keys whose variables hold lists. -/
def listKeys : List String := ["oidc_scope_extensions"]

/-- The value of a variable; a list is cut at every single space. -/
def variableValue (key value : String) : Value :=
  let cs := value.toList
  let lower := String.ofList (cs.map Char.toLower)
  if lower == "true" then .flag true
  else if lower == "false" then .flag false
  else match word? cs with
    | some n => .integer n
    | none =>
      match Extended.ofText? cs with
      | some x => .float x
      | none =>
        if listKeys.contains key then
          .list ((cs.splitOn ' ').map fun part => .text (String.ofList part))
        else .text value

/-- The keys and values of an environment; of two variables of one key the later one counts. -/
def environmentLayer (env : List (String × String)) : Members :=
  env.foldl (fun layer (name, value) =>
    match variableKey? name with
    | none => layer
    | some key => update key (fun _ => variableValue key value) layer) []

end TokenAuthority.Config
