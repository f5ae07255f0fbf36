import TokenAuthority.Number.Decimal

/-!
# Configuration values

What a configuration source says is loosely typed: a number may be written as a text, a flag as a
number. A value keeps what was written, and the reader of a setting converts it.

## Main definitions

* `Config.Value` — a value of a configuration source.
* `Config.Value.integer?`, `Config.Value.flag?`, `Config.Value.text?`, `Config.Value.texts?` — the
  conversions.
* `Config.Value.merge` — a value put over another one: tables are merged member by member, and
  anything else replaces what it is put over.

## Main results

* `Config.lookup_update` — what an update does to the members.
-/

set_option autoImplicit false

namespace TokenAuthority.Config

/-- A value of a configuration source. -/
inductive Value where
  /-- The value of a name that is mentioned without one. -/
  | absent
  | flag (value : Bool)
  | integer (value : Int)
  | float (value : Extended)
  | text (value : String)
  | list (items : List Value)
  | table (members : List (String × Value))

/-- The named members of a table. -/
abbrev Members := List (String × Value)

/-- The value of a name. -/
def lookup (name : String) (members : Members) : Option Value :=
  (members.find? fun m => m.1 == name).map (·.2)

/-- Replaces the value of a name, which is `absent` if the name is new. -/
def update (name : String) (f : Value → Value) : Members → Members
  | [] => [(name, f .absent)]
  | (k, v) :: rest => if k = name then (k, f v) :: rest else (k, v) :: update name f rest

/-- An update changes the value of its name and no other one. -/
theorem lookup_update (name other : String) (f : Value → Value) (members : Members) :
    lookup other (update name f members) =
      if name = other then some (f ((lookup name members).getD .absent))
      else lookup other members := by
  induction members with
  | nil => by_cases h : name = other <;> simp [update, lookup, h]
  | cons m rest ih =>
    obtain ⟨k, v⟩ := m
    simp only [lookup] at ih
    by_cases hk : k = name
    · subst hk
      by_cases h : k = other <;> simp [update, lookup, h]
    · by_cases ho : k = other
      · subst ho
        simp [update, lookup, hk, Ne.symm hk]
      · by_cases h : name = other
        · subst h
          simpa [update, lookup, hk] using ih
        · simpa [update, lookup, hk, ho, h] using ih

namespace Value

/-- The members of a table; none of any other value. -/
def members : Value → Members
  | .table members => members
  | _ => []

/-- The items of a list; none of any other value. -/
def items : Value → List Value
  | .list items => items
  | _ => []

/-! ## Merging -/

mutual

/-- A value put over another one. -/
def merge : Value → Value → Value
  | .table members, old => .table (mergeMembers members old.members)
  | .absent, _ => .absent
  | .flag b, _ => .flag b
  | .integer n, _ => .integer n
  | .float x, _ => .float x
  | .text s, _ => .text s
  | .list items, _ => .list items

/-- Members put over those of a table. -/
def mergeMembers : Members → Members → Members
  | [], old => old
  | (k, v) :: rest, old => mergeMembers rest (update k (merge v) old)

end

/-! ## Conversions -/

/-- A text in lower case. -/
def lowered (s : String) : String := String.ofList (s.toList.map Char.toLower)

/-- The words for a set flag. -/
def isYes (s : String) : Bool := ["true", "on", "yes"].contains (lowered s)

/-- The words for a flag that is not set. -/
def isNo (s : String) : Bool := ["false", "off", "no"].contains (lowered s)

/-- An integer: one that is written as such, a rounded double, or a flag as 1 or 0. -/
def integer? : Value → Option Int
  | .integer n => some n
  | .float x => some x.round
  | .flag b => some (if b then 1 else 0)
  | .text s => if isYes s then some 1 else if isNo s then some 0 else word? s.toList
  | _ => none

/-- A flag: one that is written as such or in a word, or a number, which is set unless it is
zero. -/
def flag? : Value → Option Bool
  | .flag b => some b
  | .integer n => some (n != 0)
  | .float x => some (!x.isZero)
  | .text s =>
    if isYes s || s == "1" then some true else if isNo s || s == "0" then some false else none
  | _ => none

/-- A text: one that is written as such, a number, or a flag. -/
def text? : Value → Option String
  | .text s => some s
  | .integer n => some (toString n)
  | .float x => some x.text
  | .flag b => some (if b then "true" else "false")
  | _ => none

/-- A list of texts. -/
def texts? : Value → Option (List String)
  | .list items => items.mapM text?
  | _ => none

end Value

end TokenAuthority.Config
