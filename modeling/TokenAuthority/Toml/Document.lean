import TokenAuthority.Toml.Scalar
import TokenAuthority.Toml.Text
import TokenAuthority.Toml.Tree

/-!
# TOML documents

A document is a sequence of pairs and headers, one a line.

## Main definitions

* `Toml.value?` — reads a value.
* `Toml.Statement` — a pair or a header; `Toml.statements?` reads those of a document.
* `Toml.build?` — the table that some statements define.
* `Toml.read?` — the members of a document.

## Implementation notes

Lists and inline tables may be nested up to a depth of 80, which is what their reader recurs on. All
other loops take a character away with every turn, so that the number of characters bounds them.
-/

set_option autoImplicit false

namespace TokenAuthority.Toml

open Config (Value)

/-- The greatest depth of nested lists and inline tables. -/
def greatestDepth : Nat := 80

/-- The characters after a comment, if there is one. -/
def skipComment? (cs : List Char) : Option (List Char) :=
  match cs with
  | '#' :: rest =>
    let after := rest.dropWhile fun c => !isForbidden c
    match after with
    | [] => some []
    | cs => if (afterBreak? cs).isSome then some cs else none
  | cs => some cs

/-- The characters after blanks, comments and line breaks. -/
def skipSpace? : Nat → List Char → Option (List Char)
  | 0, cs => some cs
  | fuel + 1, cs => do
    let rest ← skipComment? (skipGaps cs)
    match afterBreak? rest with
    | some rest => skipSpace? fuel rest
    | none => some rest

/-! ## Values -/

/-- Reads the items of a list after its opening bracket. -/
def items? (item? : List Char → Option (Value × List Char)) :
    Nat → List Char → Option (List Value × List Char)
  | 0, _ => none
  | fuel + 1, cs => do
    match ← skipSpace? cs.length cs with
    | ']' :: rest => some ([], rest)
    | cs =>
      let (v, rest) ← item? cs
      match ← skipSpace? rest.length rest with
      | ',' :: rest =>
        let (vs, rest) ← items? item? fuel rest
        some (v :: vs, rest)
      | ']' :: rest => some ([v], rest)
      | _ => none

/-- Reads a pair: a path of keys and a value. -/
def pair? (item? : List Char → Option (Value × List Char)) (cs : List Char) :
    Option ((List String × Value) × List Char) := do
  let (path, rest) ← keyPath? cs
  let (v, rest) ← item? (skipGaps (← takeChar? '=' rest))
  some ((path, v), rest)

/-- Reads the pairs of an inline table after its opening brace. -/
def pairs? (item? : List Char → Option (Value × List Char)) :
    Nat → List Char → Option (List (List String × Value) × List Char)
  | 0, _ => none
  | fuel + 1, cs => do
    match ← skipSpace? cs.length cs with
    | '\x7d' :: rest => some ([], rest)
    | cs =>
      let (p, rest) ← pair? item? cs
      match ← skipSpace? rest.length rest with
      | ',' :: rest =>
        let (ps, rest) ← pairs? item? fuel rest
        some (p :: ps, rest)
      | '\x7d' :: rest => some ([p], rest)
      | _ => none

/-- The value of an inline table with some pairs. -/
def inlineTable? (pairs : List (List String × Value)) : Option Value :=
  (pairs.foldlM (fun nodes (path, v) => putPair true path v nodes) []).map fun nodes =>
    .table (membersOf nodes)

/-- Reads a value; the first argument is the depth that is left for lists and inline tables. -/
def value? : Nat → List Char → Option (Value × List Char)
  | 0, '[' :: _ => none
  | 0, '\x7b' :: _ => none
  | depth + 1, '[' :: rest =>
    (items? (value? depth) (rest.length + 1) rest).map fun (vs, rest) => (.list vs, rest)
  | depth + 1, '\x7b' :: rest => do
    let (ps, rest) ← pairs? (value? depth) (rest.length + 1) rest
    some (← inlineTable? ps, rest)
  | _, '"' :: rest => (text? ('"' :: rest)).map fun (s, rest) => (.text (String.ofList s), rest)
  | _, '\x27' :: rest =>
    (text? ('\x27' :: rest)).map fun (s, rest) => (.text (String.ofList s), rest)
  | _, cs => scalar? cs

/-! ## Statements -/

/-- A line of a document. -/
inductive Statement where
  | pair (path : List String) (value : Value)
  /-- The header of a table. -/
  | table (path : List String)
  /-- The header of one more table of a list. -/
  | item (path : List String)

/-- Reads a pair or a header. -/
def statement? (cs : List Char) : Option (Statement × List Char) :=
  match cs with
  | '[' :: '[' :: rest => do
    let (path, rest) ← keyPath? rest
    some (.item path, ← takeChar? ']' (← takeChar? ']' rest))
  | '[' :: rest => do
    let (path, rest) ← keyPath? rest
    some (.table path, ← takeChar? ']' rest)
  | cs => do
    let ((path, v), rest) ← pair? (value? greatestDepth) cs
    some (.pair path v, rest)

/-- Reads statements, each to the end of its line. -/
def statementsFrom? : Nat → List Char → Option (List Statement)
  | 0, _ => none
  | fuel + 1, cs => do
    match ← skipSpace? cs.length cs with
    | [] => some []
    | cs =>
      let (s, rest) ← statement? cs
      match ← skipComment? (skipGaps rest) with
      | [] => some [s]
      | rest => some (s :: (← statementsFrom? fuel (← afterBreak? rest)))

/-- Reads the statements of a document, which may start with a byte order mark. -/
def statements? (cs : List Char) : Option (List Statement) :=
  let cs := if cs.head? == some '\ufeff' then cs.tail else cs
  statementsFrom? (cs.length + 1) cs

/-- The table so far, and the path of the header that was last read. -/
structure Draft where
  nodes : Nodes := []
  path : List String := []

/-- Adds a statement to a draft. -/
def Draft.add? (d : Draft) : Statement → Option Draft
  | .pair path v =>
    if d.path.isEmpty then (putPair true path v d.nodes).map fun nodes => { d with nodes }
    else (enter d.path (fillSection path v) d.nodes).map fun nodes => { d with nodes }
  | .table path => (enter path openTable d.nodes).map fun nodes => ⟨nodes, path⟩
  | .item path => (enter path openItem d.nodes).map fun nodes => ⟨nodes, path⟩

/-- The table that some statements define. -/
def build? (statements : List Statement) : Option Nodes :=
  (statements.foldlM Draft.add? {}).map (·.nodes)

/-- The members of a document. -/
def read? (text : String) : Option Config.Members := do
  some (membersOf (← build? (← statements? text.toList)))

end TokenAuthority.Toml
