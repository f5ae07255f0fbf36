import TokenAuthority.Config.Value

/-!
# Tables that a TOML document defines

A table may be spread over a document, and how it came about decides what may still be put into it.

## Main definitions

* `Toml.Node` — a value, a table with its origin, or a list of tables.
* `Toml.putPair` — puts a pair at a path of keys into a table.
* `Toml.enter` — changes the node at the path of a header.
* `Toml.openTable`, `Toml.openItem` — what the two kinds of headers do.
* `Toml.Node.toValue` — the value that a node stands for.
-/

set_option autoImplicit false

namespace TokenAuthority.Toml

open Config (Value)

/-- How a table came about. -/
inductive Origin where
  /-- It is on the way to the table of a header. -/
  | implied
  /-- It has a header. -/
  | header
  /-- It is on the way to a value with a path of keys. -/
  | dotted
deriving DecidableEq

/-- A part of a document. -/
inductive Node where
  | value (value : Value)
  | table (origin : Origin) (members : List (String × Node))
  /-- A list of tables that have headers; it is never empty. -/
  | tables (earlier : List (List (String × Node))) (last : List (String × Node))

/-- The named parts of a table. -/
abbrev Nodes := List (String × Node)

/-- The part of a name. -/
def Nodes.part? (name : String) (nodes : Nodes) : Option Node :=
  (List.find? (fun m => m.1 == name) nodes).map (·.2)

/-- Puts a part in place of the one of its name, or at the end. -/
def Nodes.put (name : String) (node : Node) : Nodes → Nodes
  | [] => [(name, node)]
  | (k, n) :: rest => if k = name then (k, node) :: rest else (k, n) :: put name node rest

/-- Puts a value at a path of keys into a table. A table on the way must not have a header, and the
last one has to be `isOpen`: it is the table of the section or has come from such paths alone. No
value is replaced. -/
def putPair (isOpen : Bool) (path : List String) (v : Value) (nodes : Nodes) : Option Nodes :=
  match path with
  | [] => none
  | [key] =>
    match nodes.part? key with
    | some _ => none
    | none => if isOpen then some (nodes.put key (.value v)) else none
  | key :: rest =>
    match nodes.part? key with
    | none => (putPair true rest v []).map fun ms => nodes.put key (.table .dotted ms)
    | some (.value _) => none
    | some (.tables earlier last) =>
      (putPair false rest v last).map fun ms => nodes.put key (.tables earlier ms)
    | some (.table .header _) => none
    | some (.table origin ms) =>
      (putPair (origin == .dotted) rest v ms).map fun ms => nodes.put key (.table origin ms)

/-- Changes the node at the path of a header. Of a list of tables the last one is entered, and what
is missing on the way is put there. -/
def enter (path : List String) (change : Option Node → Option Node) (nodes : Nodes) :
    Option Nodes :=
  match path with
  | [] => none
  | [key] => (change (nodes.part? key)).map fun node => nodes.put key node
  | key :: rest =>
    match nodes.part? key with
    | none => (enter rest change []).map fun ms => nodes.put key (.table .implied ms)
    | some (.value _) => none
    | some (.tables earlier last) =>
      (enter rest change last).map fun ms => nodes.put key (.tables earlier ms)
    | some (.table origin ms) =>
      (enter rest change ms).map fun ms => nodes.put key (.table origin ms)

/-- The header of a table: it must not have had one, nor have come from paths of keys. -/
def openTable : Option Node → Option Node
  | none => some (.table .header [])
  | some (.table .implied ms) => some (.table .header ms)
  | some _ => none

/-- The header of one more table of a list. -/
def openItem : Option Node → Option Node
  | none => some (.tables [] [])
  | some (.tables earlier last) => some (.tables (earlier ++ [last]) [])
  | some _ => none

/-- Puts a value at a path of keys into the table of a section. -/
def fillSection (path : List String) (v : Value) : Option Node → Option Node
  | some (.table origin ms) => (putPair true path v ms).map (.table origin)
  | some (.tables earlier last) => (putPair true path v last).map (.tables earlier)
  | _ => none

mutual

/-- The value that a node stands for. -/
def Node.toValue : Node → Value
  | .value v => v
  | .table _ ms => .table (membersOf ms)
  | .tables earlier last => .list (itemsOf earlier ++ [.table (membersOf last)])

/-- The members that the parts of a table stand for. -/
def membersOf : List (String × Node) → List (String × Value)
  | [] => []
  | (k, n) :: rest => (k, n.toValue) :: membersOf rest

/-- The items that the tables of a list stand for. -/
def itemsOf : List (List (String × Node)) → List Value
  | [] => []
  | ms :: rest => .table (membersOf ms) :: itemsOf rest

end

end TokenAuthority.Toml
