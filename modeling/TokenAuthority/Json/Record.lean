import TokenAuthority.Json.Reader

/-!
# Records as JSON objects

A record is described once, by the table of its members; reading and writing follow from the table.

## Main definitions

* `Json.Field` — a member: its name, its codec, the value of an absent one, and when it is left out.
* `Json.Fields` — a table of members, indexed by the product of their types.
* `Json.Record` — a table together with the two maps between the product and the record type.
* `Json.Record.codec` — reads an object, in any order of members and with unknown ones passed over,
  or a list of the values in the order of the table.
* `Json.Layered` — an object whose members belong to three tables: a leading one, its own, and a
  trailing one.

## Design

Members are read in document order, so the first fault is the one that the text shows first: a
repeated name before the value it repeats, a bad value before anything behind it, and an absent
member only when the object has ended. An unknown member has to keep to the grammar and no more.
-/

set_option autoImplicit false

namespace TokenAuthority.Json

/-- A member of a record. -/
structure Field (α : Type) where
  /-- The name of the member. -/
  name : String
  /-- How its value is read and written. -/
  codec : Codec α
  /-- The value where the member is absent; none if it has to be there. -/
  absent : Option α
  /-- The values that are written by leaving the member out. -/
  omits : α → Bool

namespace Field

variable {α : Type}

/-- A member that has to be there. -/
def required (name : String) (c : Codec α) : Field α := ⟨name, c, none, fun _ => false⟩

/-- A member with a default, always written. -/
def withDefault (name : String) (c : Codec α) (x : α) : Field α := ⟨name, c, some x, fun _ => false⟩

/-- A member that may be null or absent and is left out where there is no value. -/
def optional (name : String) (c : Codec α) : Field (Option α) :=
  ⟨name, c.nullable, some none, Option.isNone⟩

/-- A text that is left out where it is empty. -/
def optionalText (name : String) : Field String :=
  ⟨name, Codec.text, some "", String.isEmpty⟩

end Field

/-- A table of members, indexed by the product of their types. -/
inductive Fields : Type → Type 1 where
  | nil : Fields Unit
  | cons {α β : Type} (field : Field α) (rest : Fields β) : Fields (α × β)

namespace Fields

/-- The members read so far, one place for each. -/
def Slots : {τ : Type} → Fields τ → Type
  | _, .nil => Unit
  | _, @Fields.cons α _ _ rest => Option α × rest.Slots

/-- No member has been read. -/
def emptySlots : {τ : Type} → (fs : Fields τ) → fs.Slots
  | _, .nil => ()
  | _, .cons _ rest => (none, rest.emptySlots)

/-- Reads the value of a member into its place. Nothing comes back for a name that is not in the
table. -/
def put (src : Source) (name : String) (d : Doc) :
    {τ : Type} → (fs : Fields τ) → fs.Slots → Except Fault (Option fs.Slots)
  | _, .nil, _ => .ok none
  | _, @Fields.cons α _ f rest, slots =>
    let slots : Option α × rest.Slots := slots
    if f.name = name then
      if slots.1.isSome then .error (.duplicate name)
      else (f.codec.read src d).map fun x => some (some x, slots.2)
    else (rest.put src name d slots.2).map fun r => r.map fun others => (slots.1, others)

/-- The values of all members; `fault` is the fault of an absent one. -/
def finish (fault : String → Fault) : {τ : Type} → (fs : Fields τ) → fs.Slots → Except Fault τ
  | _, .nil, _ => .ok ()
  | _, @Fields.cons α _ f rest, slots =>
    let slots : Option α × rest.Slots := slots
    match slots.1.or f.absent with
    | none => .error (fault f.name)
    | some x => (rest.finish fault slots.2).map fun r => (x, r)

/-- Reads the members of an object into their places. -/
def readMembers {τ : Type} (fs : Fields τ) (src : Source) (closed : Bool) :
    fs.Slots → List (Option String × Doc) → Except Fault fs.Slots
  | slots, [] => if closed then .ok slots else .error .malformed
  | _, (none, _) :: _ => .error .malformed
  | slots, (some name, d) :: rest => do
    match ← fs.put src name d slots with
    | some slots => readMembers fs src closed slots rest
    | none => if d.wellFormed then readMembers fs src closed slots rest else throw .malformed

/-- Reads the values of the members from a list, in the order of the table. -/
def readItems (src : Source) (closed : Bool) :
    {τ : Type} → (fs : Fields τ) → List Doc → Except Fault τ
  | _, .nil, items =>
    match items with
    | [] => if closed then .ok () else .error .malformed
    | _ :: _ => .error src.stray
  | _, .cons f rest, items =>
    match items with
    | [] =>
      if closed then
        match f.absent with
        | none => .error .mismatch
        | some x => (rest.readItems src closed []).map fun r => (x, r)
      else .error .malformed
    | d :: items => do
      let x ← f.codec.read src d
      let r ← rest.readItems src closed items
      pure (x, r)

/-- The members of an object, in the order of the table, without those that are left out. -/
def members : {τ : Type} → Fields τ → τ → List (String × Value)
  | _, .nil, _ => []
  | _, .cons f rest, (x, r) =>
    if f.omits x then rest.members r else (f.name, f.codec.write x) :: rest.members r

/-- The names of the table. -/
def names : {τ : Type} → Fields τ → List String
  | _, .nil => []
  | _, .cons f rest => f.name :: rest.names

end Fields

/-- A record type with the table of its members. -/
structure Record (σ : Type) where
  /-- The product of the types of the members. -/
  {τ : Type}
  /-- The members. -/
  fields : Fields τ
  /-- The values of the members. -/
  unpack : σ → τ
  /-- The record with these values. -/
  pack : τ → σ

namespace Record

variable {σ : Type}

/-- Reads a record from an object or from the list of its values. -/
def read (r : Record σ) (src : Source) (d : Doc) : Except Fault σ :=
  match d with
  | .obj members closed => do
    let src ← src.enter
    let slots ← r.fields.readMembers src closed r.fields.emptySlots members
    r.pack <$> r.fields.finish .missing slots
  | .list items closed => do
    let src ← src.enter
    r.pack <$> r.fields.readItems src closed items
  | d => .error d.unexpected

/-- The members of a record that are written. -/
def members (r : Record σ) (x : σ) : List (String × Value) := r.fields.members (r.unpack x)

/-- The codec of a record type. -/
def codec (r : Record σ) : Codec σ where
  read := r.read
  write x := .obj (r.members x)

end Record

/-- A record type whose members are those of a leading record, its own, and those of a trailing
record, all in one object. -/
structure Layered (σ : Type) where
  /-- The type of the leading record. -/
  {ρ : Type}
  /-- The product of the types of the own members. -/
  {ω : Type}
  /-- The type of the trailing record. -/
  {υ : Type}
  /-- The leading record. -/
  leading : Record ρ
  /-- The own members. -/
  own : Fields ω
  /-- The trailing record. -/
  trailing : Record υ
  /-- The three parts. -/
  unpack : σ → ρ × ω × υ
  /-- The record of three parts. -/
  pack : ρ × ω × υ → σ

namespace Layered

variable {σ : Type}

/-- Reads the own members into their places and keeps all others as values, in order. -/
def readMembers {ω : Type} (own : Fields ω) (src : Source) (closed : Bool) :
    own.Slots → List (String × Value) → List (Option String × Doc) →
      Except Fault (own.Slots × List (String × Value))
  | slots, others, [] => if closed then .ok (slots, others) else .error .malformed
  | _, _, (none, _) :: _ => .error .malformed
  | slots, others, (some name, d) :: rest => do
    match ← own.put src name d slots with
    | some slots => readMembers own src closed slots others rest
    | none =>
      let v ← Codec.readValue src d
      readMembers own src closed slots (others ++ [(name, v)]) rest

/-- Reads a record from members at hand, with all others passed over. -/
def readPart {ρ : Type} (r : Record ρ) (members : List (String × Value)) : Except Fault ρ := do
  let slots ← r.fields.readMembers .memory true r.fields.emptySlots (Doc.ofMembers members)
  r.pack <$> r.fields.finish .missing slots

/-- The codec of a layered record: an object whose own members are read as they come, while the
other two parts are read when the object has ended. -/
def codec (l : Layered σ) : Codec σ where
  read src d := match d with
    | .obj members closed => do
      let src ← src.enter
      let (slots, others) ← readMembers l.own src closed l.own.emptySlots [] members
      let own ← l.own.finish .missing slots
      let leading ← readPart l.leading others
      let trailing ← readPart l.trailing others
      pure (l.pack (leading, own, trailing))
    | d => .error d.unexpected
  write x :=
    let (leading, own, trailing) := l.unpack x
    .obj (l.leading.members leading ++ l.own.members own ++ l.trailing.members trailing)

end Layered

end TokenAuthority.Json
