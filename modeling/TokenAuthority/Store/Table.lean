/-!
# Tables

A table is a list of records, looked up by a key that every record carries, in the order in which
the keys came in.

## Main definitions

* `Table` — the records.
* `Table.find?` — the record of a key.
* `Table.put` — stores a record in place of the one of its key, or at the end.
* `Table.insertNew?` — stores a record at the end, unless its key is taken.
* `Table.modify` — changes the record of a key.
-/

set_option autoImplicit false

namespace TokenAuthority

/-- Records that are looked up by a key. -/
structure Table {κ α : Type} (key : α → κ) where
  /-- The records, in the order in which their keys came in. -/
  records : List α

namespace Table

variable {κ α : Type} [DecidableEq κ] {key : α → κ}

/-- A table without records. -/
def empty : Table key := ⟨[]⟩

/-- The record of a key. -/
def find? (t : Table key) (k : κ) : Option α := t.records.find? fun x => decide (key x = k)

/-- There is a record of the key. -/
def has (t : Table key) (k : κ) : Bool := (t.find? k).isSome

/-- Puts a record in place of the one of its key, or at the end. -/
def putIn (key : α → κ) (x : α) : List α → List α
  | [] => [x]
  | y :: rest => if key y = key x then x :: rest else y :: putIn key x rest

/-- Stores a record in place of the one of its key, or at the end. -/
def put (t : Table key) (x : α) : Table key := ⟨putIn key x t.records⟩

/-- Stores a record at the end, unless its key is taken. -/
def insertNew? (t : Table key) (x : α) : Option (Table key) :=
  if t.has (key x) then none else some ⟨t.records ++ [x]⟩

/-- Changes the record of a key. -/
def modify (t : Table key) (k : κ) (f : α → α) : Table key :=
  ⟨t.records.map fun x => if key x = k then f x else x⟩

/-- The number of records. -/
def size (t : Table key) : Nat := t.records.length

end Table

end TokenAuthority
