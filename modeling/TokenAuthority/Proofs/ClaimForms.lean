import Mathlib.Tactic.Lemma
import TokenAuthority.Claims.Basic
import TokenAuthority.Proofs.JsonWriting

/-!
# Claim sets are read back

A claim set is read back from the object that it was written to, also when the members of the object
have been sorted in between. The members of a token belong to three tables with no name in common, so
no claim is lost or taken for another one; only the attributes of a user come back sorted.

## Main definitions

* `TokenAuthority.UserClaims.SameAs`, `TokenAuthority.IdClaims.SameAs`,
  `TokenAuthority.AccessClaims.SameAs` — the same claims, with the attributes in any order.
* `TokenAuthority.IdClaims.Representable` and its like — the integers of the claims fit 64 bits, and
  no attribute has two values.

## Main results

* `TokenAuthority.IdClaims.survives`, `TokenAuthority.AccessClaims.survives`,
  `TokenAuthority.RefreshClaims.survives` — a claim set is read back.
-/

set_option autoImplicit false

namespace TokenAuthority

open Json Value

variable {form : Value → Value}

/-- What is related to itself is so wherever it is there. -/
lemma Option.rel_self {α : Type} {r : α → α → Prop} {x : Option α} (h : ∀ a ∈ x, r a a) :
    Option.Rel r x x := by
  cases x with
  | none => exact .none
  | some a => exact .some (h a rfl)

/-! ## Single claims -/

/-- An audience survives. -/
lemma Audience.survives (hform : Reorders form) (aud : Audience) :
    Audience.codec.Survives .memory form 1 aud aud := by
  cases aud with
  | single value =>
    refine ⟨.str 1 value, ?_⟩
    change Audience.codec.read .memory (.ofValue (form (.str value))) = _
    rw [hform.str]
    rfl
  | several values =>
    have hfits : (Value.list (values.map .str)).Fits 1 :=
      .list (List.forall_mem_map.mpr fun s _ => .str 0 s)
    have hsame : form (.list (values.map .str)) = .list (values.map .str) := by
      rw [hform.list, List.map_map]
      exact congrArg Value.list (List.map_congr_left fun s _ => hform.str s)
    have hvalues := (Codec.survives_texts (n := 0) hform Source.enter_memory values).reads
    refine ⟨hfits, ?_⟩
    change Audience.codec.read .memory (.ofValue (form (.list (values.map .str)))) = _
    change Codec.text.listOf.read .memory (.ofValue (form (.list (values.map .str)))) = _ at hvalues
    rw [hsame] at hvalues ⊢
    have hread : Codec.readValue .memory (.ofValue (.list (values.map .str))) =
        .ok (.list (values.map .str)) := Codec.readValue_ofValue hfits trivial
    have hno : Codec.text.read .memory (.ofValue (.list (values.map .str))) = .error .mismatch := rfl
    simp only [Audience.codec, hread, Codec.ofValue, bind, Except.bind, hno, hvalues]
    rfl

/-- The kind of a token survives. -/
lemma TokenKind.survives (hform : Reorders form) (kind : TokenKind) :
    TokenKind.codec.Survives .memory form 1 kind kind := by
  refine ⟨.str 1 kind.text, ?_⟩
  change TokenKind.codec.read .memory (.ofValue (form (.str kind.text))) = _
  rw [hform.str]
  cases kind <;> decide

/-! ## Tables of claims -/

/-- The integers of the claims fit 64 bits. -/
def RegisteredClaims.Representable (c : RegisteredClaims) : Prop :=
  inWord c.exp = true ∧ inWord c.iat = true

/-- The claims of every token survive. -/
lemma RegisteredClaims.survives (hform : Reorders form) {c : RegisteredClaims}
    (h : c.Representable) :
    record.fields.Survives .memory form 1 (record.unpack c) (record.unpack c) :=
  ⟨(Codec.survives_text hform _).required _, (Codec.survives_text hform _).required _,
    Field.survives_optional _ (Option.rel_self fun aud _ => aud.survives hform) nofun,
    (Codec.survives_integer hform h.1).required _, (Codec.survives_integer hform h.2).required _,
    (Codec.survives_text hform _).required _, trivial⟩

/-- An address survives. -/
lemma AddressClaim.survives (hform : Reorders form) (a : AddressClaim) :
    record.codec.Survives .memory form 1 a a := by
  have hnodup : record.fields.names.Nodup := by decide
  exact Record.survives (y := record.unpack a) hform Source.enter_memory hnodup
    ⟨Field.survives_optionalText hform _ _, Field.survives_optionalText hform _ _,
      Field.survives_optionalText hform _ _, Field.survives_optionalText hform _ _,
      Field.survives_optionalText hform _ _, Field.survives_optionalText hform _ _, trivial⟩

namespace UserClaims

/-- The integer of the claims fits 64 bits, and no attribute has two values. -/
structure Representable (c : UserClaims) : Prop where
  updatedAt : ∀ seconds ∈ c.updatedAt, inWord seconds = true
  attributes : ∀ entries ∈ c.attributes, (entries.map (·.1)).Nodup

/-- The same claims, with the attributes in any order. -/
def SameAs (c d : UserClaims) : Prop :=
  ∃ attributes, c = { d with attributes := attributes } ∧
    Option.Rel List.Perm attributes d.attributes

/-- A text claim survives, where it is there. -/
lemma survives_text (hform : Reorders form) (name : String) (x : Option String) :
    (Field.optional name Codec.text).Survives .memory form 1 x x :=
  Field.survives_optional name (Option.rel_self fun s _ => Codec.survives_text hform s) nofun

/-- A claim that is true or false survives, where it is there. -/
lemma survives_flag (hform : Reorders form) (name : String) (x : Option Bool) :
    (Field.optional name Codec.flag).Survives .memory form 1 x x :=
  Field.survives_optional name (Option.rel_self fun b _ => Codec.survives_flag hform b) nofun

/-- The attributes survive, but for their order. -/
lemma survives_attributes (hform : Reorders form) {x : Option (List (String × String))}
    (h : ∀ entries ∈ x, (entries.map (·.1)).Nodup) :
    ∃ y, Option.Rel List.Perm y x ∧
      (Field.optional "attributes" Codec.dictionary).Survives .memory form 1 x y := by
  cases x with
  | none => exact ⟨none, .none, Field.survives_optional _ .none nofun⟩
  | some entries =>
    obtain ⟨entries', hperm, hsurvives⟩ := Codec.survives_dictionary (n := 0) hform
      Source.enter_memory (h entries rfl)
    exact ⟨some entries', .some hperm, Field.survives_optional _ (.some hsurvives) nofun⟩

/-- The claims about a user survive, but for the order of the attributes. -/
lemma survives (hform : Reorders form) {c : UserClaims} (h : c.Representable) :
    ∃ d : UserClaims, d.SameAs c ∧
      record.fields.Survives .memory form 1 (record.unpack c) (record.unpack d) := by
  obtain ⟨attributes, hperm, hattributes⟩ := survives_attributes hform h.attributes
  refine ⟨{ c with attributes := attributes }, ⟨attributes, rfl, hperm⟩,
    survives_text hform _ _, survives_text hform _ _, survives_text hform _ _,
    survives_text hform _ _, survives_text hform _ _, survives_text hform _ _,
    survives_text hform _ _, survives_text hform _ _, survives_text hform _ _,
    survives_text hform _ _, survives_text hform _ _, survives_text hform _ _, ?_,
    survives_text hform _ _, survives_flag hform _ _, survives_text hform _ _,
    survives_flag hform _ _, ?_, ?_, hattributes, trivial⟩
  · exact Field.survives_optional _
      (Option.rel_self fun i hi => Codec.survives_integer hform (h.updatedAt i hi)) nofun
  · exact Field.survives_optional _ (Option.rel_self fun a _ => a.survives hform) nofun
  · exact Field.survives_optional _
      (Option.rel_self fun xs _ => Codec.survives_texts hform Source.enter_memory xs) nofun

end UserClaims

/-! ## Claim sets -/

/-- The integers of the claims fit 64 bits, and no attribute has two values. -/
structure IdClaims.Representable (c : IdClaims) : Prop where
  registered : c.registered.Representable
  authTime : inWord c.authTime = true
  user : c.user.Representable

/-- The same claims, with the attributes in any order. -/
def IdClaims.SameAs (c d : IdClaims) : Prop :=
  ∃ user, c = { d with user := user } ∧ user.SameAs d.user

/-- The members of ID claims have different names. -/
lemma IdClaims.distinct : IdClaims.layered.Distinct := by
  unfold Layered.Distinct
  decide

/-- ID claims are read back, but for the order of the attributes. -/
theorem IdClaims.survives (hform : Reorders form) {c : IdClaims} (h : c.Representable) :
    ∃ d : IdClaims, d.SameAs c ∧ layered.codec.Survives .memory form 2 c d := by
  obtain ⟨user, hsame, huser⟩ := UserClaims.survives hform h.user
  exact ⟨{ c with user := user }, ⟨user, rfl, hsame⟩,
    Layered.survives (l := layered) (b := (layered.unpack c).2.1) hform Source.enter_memory
      trivial distinct
      (RegisteredClaims.survives hform h.registered)
      ⟨(TokenKind.survives hform c.typ).required _, Field.survives_optionalText hform _ _,
        Field.survives_optionalText hform _ _, Field.survives_optionalText hform _ _,
        Field.survives_optionalText hform _ _,
        (Codec.survives_integer hform h.authTime).required _, trivial⟩ huser⟩

/-- The integers of the claims fit 64 bits, and no attribute has two values. -/
structure AccessClaims.Representable (c : AccessClaims) : Prop where
  registered : c.registered.Representable
  authTime : ∀ seconds ∈ c.authTime, inWord seconds = true
  user : c.user.Representable

/-- The same claims, with the attributes in any order. -/
def AccessClaims.SameAs (c d : AccessClaims) : Prop :=
  ∃ user, c = { d with user := user } ∧ user.SameAs d.user

/-- The members of access claims have different names. -/
lemma AccessClaims.distinct : AccessClaims.layered.Distinct := by
  unfold Layered.Distinct
  decide

/-- Access claims are read back, but for the order of the attributes. -/
theorem AccessClaims.survives (hform : Reorders form) {c : AccessClaims} (h : c.Representable) :
    ∃ d : AccessClaims, d.SameAs c ∧ layered.codec.Survives .memory form 2 c d := by
  obtain ⟨user, hsame, huser⟩ := UserClaims.survives hform h.user
  exact ⟨{ c with user := user }, ⟨user, rfl, hsame⟩,
    Layered.survives (l := layered) (b := (layered.unpack c).2.1) hform Source.enter_memory
      trivial distinct
      (RegisteredClaims.survives hform h.registered)
      ⟨(TokenKind.survives hform c.typ).required _, (Codec.survives_text hform _).required _,
        Field.survives_optionalText hform _ _, Field.survives_optionalText hform _ _,
        Field.survives_optionalText hform _ _,
        Field.survives_optional _
          (Option.rel_self fun i hi => Codec.survives_integer hform (h.authTime i hi)) nofun,
        trivial⟩ huser⟩

/-- The integers of the claims fit 64 bits. -/
structure RefreshClaims.Representable (c : RefreshClaims) : Prop where
  registered : c.registered.Representable
  offlineMaxLifetime : ∀ seconds ∈ c.offlineMaxLifetime, inWord seconds = true

/-- The members of refresh claims have different names. -/
lemma RefreshClaims.distinct : RefreshClaims.layered.Distinct := by
  unfold Layered.Distinct
  decide

/-- Refresh claims are read back. -/
theorem RefreshClaims.survives (hform : Reorders form) {c : RefreshClaims} (h : c.Representable) :
    layered.codec.Survives .memory form 2 c c :=
  Layered.survives (l := layered) (b := (layered.unpack c).2.1) (c := ()) hform
    Source.enter_memory trivial distinct
    (RegisteredClaims.survives hform h.registered)
    ⟨(TokenKind.survives hform c.typ).required _, Field.survives_optionalText hform _ _,
      (Codec.survives_text hform _).required _,
      Field.survives_optional _
        (Option.rel_self fun i hi => Codec.survives_integer hform (h.offlineMaxLifetime i hi))
        nofun,
      trivial⟩ trivial

end TokenAuthority
