import Mathlib.Tactic.Lemma
import TokenAuthority.Proofs.JsonWriting

/-!
# Codecs that read back what they write

A value returns if it is read back as it was from the JSON text that it is written to. Whether a
value does is settled member by member, item by item.

## Main definitions

* `TokenAuthority.Json.Codec.Returns`, `TokenAuthority.Json.Field.Returns`,
  `TokenAuthority.Json.Fields.Returns` — what is written is read back as it was.

## Main results

* `TokenAuthority.Json.Codec.Returns.decode_encode` — such a value is read back from its text.
* `TokenAuthority.Json.Codec.returns_listOf`, `TokenAuthority.Json.Codec.returns_imap` and their
  like — the codecs of plain types.
* `TokenAuthority.Json.Record.returns` — a record returns if its members do.
-/

set_option autoImplicit false

namespace TokenAuthority.Json

/-! ## Codecs that read back what they write -/

/-- No change of form. -/
lemma Value.reorders_id : Value.Reorders fun v => v where
  bool _ := rfl
  num _ := rfl
  str _ := rfl
  list items := by rw [List.map_id']
  obj members _ := ⟨members, rfl, by simp⟩
  fits _ _ h := h

variable {α σ : Type} {n : Nat}

/-- What is written of the value has so many levels, and it is read back wherever so many levels may
be entered. -/
def Codec.Returns (n : Nat) (c : Codec α) (x : α) : Prop :=
  ∀ src : Source, src.Allows n → c.Survives src (fun v => v) n x x

/-- The member is read back, whether it is written or left out. -/
def Field.Returns (n : Nat) (f : Field α) (x : α) : Prop :=
  ∀ src : Source, src.Allows n → f.Survives src (fun v => v) n x x

/-- All members of the table are read back. -/
def Fields.Returns (n : Nat) : {τ : Type} → Fields τ → τ → Prop
  | _, .nil, _ => True
  | _, .cons f rest, (x, r) => f.Returns n x ∧ rest.Returns n r

namespace Codec

/-- Texts are read back. -/
@[simp] lemma returns_text (s : String) : text.Returns n s :=
  fun _ _ => survives_text Value.reorders_id s

/-- Truth values are read back. -/
@[simp] lemma returns_flag (b : Bool) : flag.Returns n b :=
  fun _ _ => survives_flag Value.reorders_id b

/-- Integers of 64 bits are read back. -/
@[simp] lemma returns_integer {i : Int} (h : inWord i = true) : integer.Returns n i :=
  fun _ _ => survives_integer Value.reorders_id h

/-- Lists are read back if their items are. -/
@[simp] lemma returns_listOf {c : Codec α} {xs : List α} (h : ∀ x ∈ xs, c.Returns n x) :
    c.listOf.Returns (n + 1) xs := by
  intro src hsrc
  obtain ⟨inner, henter, hinner⟩ := hsrc.enter
  exact survives_listOf Value.reorders_id henter
    (List.forall₂_same.mpr fun x hx => h x hx inner hinner)

/-- Values that are written in another form are read back if the other form leads back to them. -/
lemma returns_imap {β : Type} {c : Codec α} {ofBase : α → Option β} {toBase : β → α} {y : β}
    (h : c.Returns n (toBase y)) (hback : ofBase (toBase y) = some y) :
    (c.imap ofBase toBase).Returns n y := by
  intro src hsrc
  have hread := (h src hsrc).reads
  refine ⟨(h src hsrc).fits, ?_⟩
  change (c.read src (.ofValue (c.write (toBase y))) >>= _) = _
  rw [hread]
  simp only [bind, Except.bind, hback]
  rfl

/-- Values that may be null are read back if they are where they are there. The codec does not take
null for a value. -/
lemma returns_nullable {c : Codec α} {x : Option α} (h : ∀ y ∈ x, c.Returns n y)
    (hnull : ∀ src y, c.read src .null ≠ .ok y) : c.nullable.Returns n x := by
  intro src hsrc
  cases x with
  | none => exact ⟨.null n, rfl⟩
  | some y =>
    have hread := (h y rfl src hsrc).reads
    refine ⟨(h y rfl src hsrc).fits, ?_⟩
    change c.nullable.read src (.ofValue (c.write y)) = .ok (some y)
    generalize Doc.ofValue (c.write y) = d at hread
    cases d with
    | null => exact absurd hread (hnull src y)
    | _ => exact congrArg (Except.map some) hread

/-- Alternatives are read back if their names lead back to them. -/
lemma returns_enumeration {alternatives : List (String × α)} {nameOf : α → String} {x : α}
    (h : pick alternatives (nameOf x) = some x) :
    (enumeration alternatives nameOf).Returns n x := by
  intro src hsrc
  refine ⟨.str n (nameOf x), ?_⟩
  simp only [enumeration, Doc.ofValue, h]

/-- What is read back from a tree is read back from a text of not too many levels. -/
theorem Returns.decode_encode {c : Codec α} {x : α} (h : c.Returns n x) (hn : n ≤ 127) :
    c.decode (c.encode x) = .ok x := by
  have hsurvives := h .document hn
  rw [encode, decode_text c hsurvives.fits]
  exact hsurvives.reads

end Codec

namespace Field

/-- A member that has to be there is read back if its value is. -/
@[simp] lemma returns_required {c : Codec α} {x : α} (name : String) (h : c.Returns n x) :
    (required name c).Returns n x :=
  fun src hsrc => (h src hsrc).required name

/-- A member with a default is read back if its value is. -/
@[simp] lemma returns_withDefault {c : Codec α} {x : α} (name : String) (default : α)
    (h : c.Returns n x) : (withDefault name c default).Returns n x :=
  fun src hsrc => (h src hsrc).withDefault name default

/-- A member that may be left out is read back if its value is where it is there. -/
lemma returns_optional {c : Codec α} {x : Option α} (name : String)
    (h : ∀ y ∈ x, c.Returns n y) (hnull : ∀ src y, c.read src .null ≠ .ok y) :
    (optional name c).Returns n x := by
  intro src hsrc
  cases x with
  | none => exact survives_optional name .none (hnull src)
  | some y => exact survives_optional name (.some (h y rfl src hsrc)) (hnull src)

end Field

namespace Fields

/-- A table without members. -/
@[simp] lemma returns_nil : Fields.nil.Returns n () := trivial

/-- A table is read back if its first member is, and the others are. -/
@[simp] lemma returns_cons {τ : Type} {f : Field α} {rest : Fields τ} {x : α} {r : τ} :
    (Fields.cons f rest).Returns n (x, r) ↔ f.Returns n x ∧ rest.Returns n r := .rfl

/-- The members survive where so many levels may be entered. -/
lemma Returns.survives {τ : Type} {fs : Fields τ} {r : τ} (h : fs.Returns n r) {src : Source}
    (hsrc : src.Allows n) : fs.Survives src (fun v => v) n r r := by
  induction fs with
  | nil => trivial
  | cons f rest ih => exact ⟨h.1 src hsrc, ih h.2⟩

end Fields

/-- A record is read back if its members are. -/
theorem Record.returns {r : Record σ} {x : σ} (hnodup : r.fields.names.Nodup)
    (hpack : r.pack (r.unpack x) = x) (h : r.fields.Returns n (r.unpack x)) :
    r.codec.Returns (n + 1) x := by
  intro src hsrc
  obtain ⟨inner, henter, hinner⟩ := hsrc.enter
  have hsurvives := Record.survives Value.reorders_id henter hnodup (h.survives hinner)
  rwa [hpack] at hsurvives

end TokenAuthority.Json
