import TokenAuthority.Config.Value
import TokenAuthority.Text.Ascii

/-!
# Paths into configuration values

A key of a configuration source may be a path: a name, then further names behind points and places
of lists in brackets, as in `servers[0].host`. A key that is no path is a name as a whole.

## Main definitions

* `Config.Path` — a path; `Config.Path.ofKey` — the path of a key.
* `Config.assign` — puts a value at the path of a key.

## Implementation notes

What is on the way and is no table, or no list where a place is asked for, is given up for an empty
one. A list is filled up to the place that is asked for. A negative place counts from the end.
-/

set_option autoImplicit false

namespace TokenAuthority.Config

/-- A step from a value to a part of it. -/
inductive Step where
  | member (name : String)
  | place (index : Int)
deriving DecidableEq

/-- A path from the root table. -/
structure Path where
  root : String
  steps : List Step
deriving DecidableEq

namespace Path

/-- Reads what is in brackets: a place, with gaps around it. -/
def place? (cs : List Char) : Option Int :=
  let cs := ((cs.dropWhile isGap).reverse.dropWhile isGap).reverse
  match cs with
  | '+' :: _ => none
  | cs => word? cs

/-- Reads the steps of a path. Every step takes characters away, so that their number bounds the
steps. -/
def steps? : Nat → List Char → Option (List Step)
  | _, [] => some []
  | 0, _ => none
  | fuel + 1, '.' :: rest =>
    let name := rest.takeWhile isNameChar
    if name.isEmpty then none
    else (steps? fuel (rest.dropWhile isNameChar)).map (.member (String.ofList name) :: ·)
  | fuel + 1, '[' :: rest =>
    match rest.dropWhile (· != ']') with
    | [] => none
    | _ :: after => do
      let index ← place? (rest.takeWhile (· != ']'))
      let steps ← steps? fuel after
      some (.place index :: steps)
  | _, _ => none

/-- Reads a path. -/
def ofKey? (key : String) : Option Path :=
  let cs := key.toList
  let root := cs.takeWhile isNameChar
  if root.isEmpty then none
  else (steps? cs.length (cs.dropWhile isNameChar)).map fun steps => ⟨String.ofList root, steps⟩

/-- The path of a key; the key as a name if it is no path. -/
def ofKey (key : String) : Path := (ofKey? key).getD ⟨key, []⟩

end Path

/-- Replaces the item at a place, which is `absent` if the list is too short. -/
def updatePlace (index : Int) (f : Value → Value) (items : List Value) : List Value :=
  if 0 ≤ index then
    let i := index.toNat
    let items := items ++ List.replicate (i + 1 - items.length) .absent
    items.modify i f
  else
    let back := index.natAbs
    let items := List.replicate (back - items.length) .absent ++ items
    items.modify (items.length - back) f

/-- Replaces the part of a value at the end of some steps. -/
def Value.updateAt : List Step → (Value → Value) → Value → Value
  | [], f, v => f v
  | .member name :: rest, f, v => .table (update name (updateAt rest f) v.members)
  | .place index :: rest, f, v => .list (updatePlace index (updateAt rest f) v.items)

/-- Puts a value at the path of a key. -/
def assign (key : String) (v : Value) (members : Members) : Members :=
  let path := Path.ofKey key
  update path.root (Value.updateAt path.steps v.merge) members

/-- Puts one layer of keys and values over the members, in order. -/
def overlay (members layer : Members) : Members :=
  layer.foldl (fun members m => assign m.1 m.2 members) members

end TokenAuthority.Config
