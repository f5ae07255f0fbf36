import Mathlib.Data.List.Forall2
import Mathlib.Data.List.Perm.Basic
import Mathlib.Tactic.Lemma
import TokenAuthority.Proofs.JsonRecords

/-!
# Records are read back

A record is read back from the object that it was written to if each of its values is, and this is
so also after a change of form, such as sorting the members.

## Main definitions

* `TokenAuthority.Json.Codec.Survives`, `TokenAuthority.Json.Field.Survives`,
  `TokenAuthority.Json.Fields.Survives` — what is written is read back after a change of form.
* `TokenAuthority.Json.Fields.Finds` — what is written is found under its name.

## Main results

* `TokenAuthority.Json.Fields.finds_members`, `TokenAuthority.Json.Layered.Distinct.finds` — what was
  written is found under its name.
* `TokenAuthority.Json.Fields.Survives.readsAs` — what survives is read where it is found.
* `TokenAuthority.Json.Record.survives`, `TokenAuthority.Json.Layered.survives` — a record survives
  if its members do.
-/

set_option autoImplicit false

namespace TokenAuthority.Json

open Value

/-! ## What is written -/

section Writing

variable {α : Type} {src inner : Source} {form : Value → Value} {n : Nat}

/-- A written value is one of so many levels, and after a change of form it is read back as `y`. -/
structure Codec.Survives (src : Source) (form : Value → Value) (n : Nat) (c : Codec α) (x y : α) :
    Prop where
  fits : (c.write x).Fits n
  reads : c.read src (.ofValue (form (c.write x))) = .ok y

/-- What a member is written as; nothing if it is left out. -/
def Field.written (f : Field α) (x : α) : Option Value :=
  if f.omits x then none else some (f.codec.write x)

/-- A written member has a value of so many levels, if any, and after a change of form it is read
back as `y`. -/
structure Field.Survives (src : Source) (form : Value → Value) (n : Nat) (f : Field α) (x y : α) :
    Prop where
  fits : ∀ v ∈ f.written x, v.Fits n
  reads : f.ReadsAs src ((f.written x).map form) y

/-- The written values are read back as those of `s` after a change of form. -/
def Fields.Survives (src : Source) (form : Value → Value) (n : Nat) :
    {τ : Type} → Fields τ → τ → τ → Prop
  | _, .nil, _, _ => True
  | _, .cons f rest, (x, r), (y, s) => f.Survives src form n x y ∧ rest.Survives src form n r s

/-! ### Single members -/

/-- A text survives. -/
lemma Codec.survives_text (hform : Reorders form) (s : String) :
    Codec.text.Survives src form n s s where
  fits := .str n s
  reads := by
    change Codec.text.read src (.ofValue (form (.str s))) = _
    rw [hform.str]
    rfl

/-- An integer of 64 bits survives. -/
lemma Codec.survives_integer (hform : Reorders form) {i : Int} (h : inWord i = true) :
    Codec.integer.Survives src form n i i where
  fits := by
    have hword := h
    simp only [inWord, Bool.and_eq_true, decide_eq_true_eq] at hword
    have hmax : (Int.pow 2 63 : Int) ≤ Doc.maxUnsigned := by decide
    exact .int hword.1 (by omega)
  reads := by
    change Codec.integer.read src (.ofValue (form (.int i))) = _
    rw [hform.num]
    exact if_pos h

/-- A truth value survives. -/
lemma Codec.survives_flag (hform : Reorders form) (b : Bool) :
    Codec.flag.Survives src form n b b where
  fits := .bool n b
  reads := by
    change Codec.flag.read src (.ofValue (form (.bool b))) = _
    rw [hform.bool]
    rfl

/-- The items of a list are read back if each one is. -/
lemma Codec.readItems_of_survives {c : Codec α} {xs ys : List α}
    (h : List.Forall₂ (c.Survives src form n) xs ys) :
    c.readItems src true (Doc.ofItems ((xs.map c.write).map form)) = .ok ys := by
  induction h with
  | nil => rfl
  | cons hx _ ih =>
    rw [List.map_cons, List.map_cons, Doc.ofItems, Codec.readItems, hx.reads, ih]
    rfl

/-- A list survives if its items do. -/
lemma Codec.survives_listOf (hform : Reorders form) (henter : src.enter = .ok inner) {c : Codec α}
    {xs ys : List α} (h : List.Forall₂ (c.Survives inner form n) xs ys) :
    c.listOf.Survives src form (n + 1) xs ys where
  fits := by
    refine .list (List.forall_mem_map.mpr ?_)
    induction h with
    | nil => nofun
    | cons hx _ ih => exact List.forall_mem_cons.mpr ⟨hx.fits, ih⟩
  reads := by
    change c.listOf.read src (.ofValue (form (.list (xs.map c.write)))) = _
    rw [hform.list, Doc.ofValue]
    change (src.enter >>= fun src => c.readItems src true _) = _
    rw [henter]
    exact Codec.readItems_of_survives h

/-- A list of texts survives. -/
lemma Codec.survives_texts (hform : Reorders form) (henter : src.enter = .ok inner)
    (xs : List String) : Codec.text.listOf.Survives src form (n + 1) xs xs :=
  Codec.survives_listOf hform henter
    (List.forall₂_same.mpr fun s _ => Codec.survives_text hform s)

/-- Entries of new keys are read one behind the other. -/
lemma Codec.readEntries_ofMembers {entries : List (String × String)}
    (before : List (String × String)) (h : ((before ++ entries).map (·.1)).Nodup) :
    Codec.readEntries src true before
      (Doc.ofMembers (entries.map fun e => (e.1, .str e.2))) = .ok (before ++ entries) := by
  induction entries generalizing before with
  | nil => rw [List.append_nil]; rfl
  | cons e entries ih =>
    have hsplit : before ++ e :: entries = (before ++ [e]) ++ entries := by simp
    have hnew : before.any (·.1 == e.1) = false := by
      rw [List.map_append, List.nodup_append] at h
      simp only [List.any_eq_false, beq_iff_eq]
      exact fun b hb heq => h.2.2 b.1 (List.mem_map_of_mem hb) e.1 (by simp) heq
    have hset : Codec.setEntry e.1 e.2 before = before ++ [e] := by
      rw [Codec.setEntry, hnew]
      rfl
    rw [List.map_cons, Doc.ofMembers, Codec.readEntries]
    change Codec.readEntries src true (Codec.setEntry e.1 e.2 before) _ = _
    rw [hset, hsplit]
    exact ih _ (hsplit ▸ h)

/-- Entries survive if no key is repeated, but for their order. -/
lemma Codec.survives_dictionary (hform : Reorders form) (henter : src.enter = .ok inner)
    {entries : List (String × String)} (h : (entries.map (·.1)).Nodup) :
    ∃ entries', entries'.Perm entries ∧
      Codec.dictionary.Survives src form (n + 1) entries entries' := by
  let asMember : String × String → String × Value := fun e => (e.1, .str e.2)
  have hnames : (namesOf (entries.map asMember)).Nodup := by
    rw [namesOf, List.map_map]
    exact h
  have hsame : (entries.map asMember).map (fun m => (m.1, form m.2)) = entries.map asMember := by
    simp [asMember, hform.str]
  obtain ⟨reordered, hreordered, hperm⟩ := hform.obj _ hnames
  rw [hsame] at hperm
  obtain ⟨entries', rfl, hentries⟩ :=
    (congrFun (congrFun (List.eq_map_comp_perm asMember) reordered) entries).mpr hperm
  refine ⟨entries', hentries, .obj (List.forall_mem_map.mpr fun e _ => .str n e.2), ?_⟩
  change Codec.dictionary.read src (.ofValue (form (.obj (entries.map asMember)))) = _
  rw [hreordered, Doc.ofValue]
  change (src.enter >>= fun src => Codec.readEntries src true [] _) = _
  rw [henter]
  exact Codec.readEntries_ofMembers [] ((hentries.map _).nodup_iff.mpr h)

/-- A member that is always written survives if its value does. -/
lemma Codec.Survives.required {c : Codec α} {x y : α} (h : c.Survives src form n x y)
    (name : String) : (Field.required name c).Survives src form n x y where
  fits v hv := by
    cases hv
    exact h.fits
  reads := h.reads

/-- A member with a default survives if its value does: it is always written. -/
lemma Codec.Survives.withDefault {c : Codec α} {x y : α} (h : c.Survives src form n x y)
    (name : String) (default : α) : (Field.withDefault name c default).Survives src form n x y where
  fits v hv := by
    cases hv
    exact h.fits
  reads := h.reads

/-- A member that may be left out survives if its value does where there is one. The codec does not
take null for a value. -/
lemma Field.survives_optional {c : Codec α} {x y : Option α} (name : String)
    (h : Option.Rel (c.Survives src form n) x y) (hnull : ∀ z, c.read src .null ≠ .ok z) :
    (Field.optional name c).Survives src form n x y := by
  cases h with
  | none => exact ⟨fun v hv => (by cases hv), rfl⟩
  | @some x y h =>
    refine ⟨fun v hv => ?_, ?_⟩
    · cases hv
      exact h.fits
    · have hread := h.reads
      change c.nullable.read src (.ofValue (form (c.write x))) = .ok (some y)
      generalize Doc.ofValue (form (c.write x)) = d at hread
      cases d with
      | null => exact absurd hread (hnull y)
      | _ => exact congrArg (Except.map some) hread

/-- A text that is left out where it is empty survives. -/
lemma Field.survives_optionalText (hform : Reorders form) (name s : String) :
    (Field.optionalText name).Survives src form n s s := by
  cases hempty : s.isEmpty with
  | true =>
    have hnone : (Field.optionalText name).written s = none := if_pos hempty
    refine ⟨fun v hv => (by rw [hnone] at hv; cases hv), ?_⟩
    rw [hnone, String.isEmpty_iff.mp hempty]
    rfl
  | false =>
    have hsome : (Field.optionalText name).written s = some (.str s) :=
      if_neg (Bool.not_eq_true _ ▸ hempty)
    refine ⟨fun v hv => (by rw [hsome] at hv; cases hv; exact .str n s), ?_⟩
    rw [hsome]
    exact (Codec.survives_text (n := n) hform s).reads

/-! ### Tables and records -/

namespace Fields

variable {τ : Type}

/-- The names that are written are names of the table, in order. -/
lemma namesOf_members_sublist (fs : Fields τ) (r : τ) :
    (namesOf (fs.members r)).Sublist fs.names := by
  induction fs with
  | nil => exact .slnil
  | cons f rest ih =>
    rw [members]
    split
    · exact (ih r.2).cons _
    · exact (ih r.2).cons_cons _

/-- A name that is not in the table is not written. -/
lemma lookup_members_of_notMem {fs : Fields τ} {name : String} (h : name ∉ fs.names) (r : τ) :
    lookup name (fs.members r) = none :=
  lookup_eq_none_iff.mpr fun hmem => h ((namesOf_members_sublist fs r).subset hmem)

/-- What is written has no more levels than it may. -/
lemma Survives.fits {fs : Fields τ} {r s : τ} (h : fs.Survives src form n r s) :
    ∀ m ∈ fs.members r, m.2.Fits n := by
  induction fs with
  | nil => nofun
  | cons f rest ih =>
    obtain ⟨x, r⟩ := r
    have hfits := h.1.fits
    rw [Field.written] at hfits
    rw [members]
    split
    · exact ih h.2
    · rename_i hwritten
      rw [if_neg hwritten] at hfits
      exact List.forall_mem_cons.mpr ⟨hfits _ rfl, ih h.2⟩

/-- Under every name of the table, what it has written is found after a change of form. -/
def Finds (form : Value → Value) (find : String → Option Value) :
    {τ : Type} → Fields τ → τ → Prop
  | _, .nil, _ => True
  | _, .cons f rest, (x, r) => find f.name = (f.written x).map form ∧ rest.Finds form find r

/-- What a table of different names has written is found under them. -/
theorem finds_members {fs : Fields τ} {r : τ} {find : String → Option Value}
    (hnodup : fs.names.Nodup)
    (hfind : ∀ name ∈ fs.names, find name = (lookup name (fs.members r)).map form) :
    fs.Finds form find r := by
  induction fs with
  | nil => trivial
  | cons f rest ih =>
    obtain ⟨x, r⟩ := r
    rw [names, List.nodup_cons] at hnodup
    obtain ⟨hf, hrest⟩ := List.forall_mem_cons.mp hfind
    refine ⟨?_, ih hnodup.2 fun name hname => ?_⟩
    · have hwritten : lookup f.name (members (.cons f rest) (x, r)) = f.written x := by
        rw [members, Field.written]
        split
        · exact lookup_members_of_notMem hnodup.1 r
        · rw [lookup_cons, if_pos rfl]
      rw [hf, hwritten]
    · have hne : f.name ≠ name := fun heq => hnodup.1 (heq ▸ hname)
      rw [hrest name hname, members]
      split
      · rfl
      · rw [lookup_cons, if_neg hne]

/-- What survives is read where it is found. -/
theorem Survives.readsAs {fs : Fields τ} {r s : τ} {find : String → Option Value}
    (h : fs.Survives src form n r s) (hfinds : fs.Finds form find r) : fs.ReadsAs src find s := by
  induction fs with
  | nil => trivial
  | cons f rest ih =>
    refine ⟨?_, ih h.2 hfinds.2⟩
    rw [hfinds.1]
    exact h.1.reads

end Fields

/-- A record survives if its members do. -/
theorem Record.survives {σ : Type} {r : Record σ} (hform : Reorders form)
    (henter : src.enter = .ok inner) (hnodup : r.fields.names.Nodup) {x : σ} {y : r.τ}
    (h : r.fields.Survives inner form n (r.unpack x) y) :
    r.codec.Survives src form (n + 1) x (r.pack y) where
  fits := .obj h.fits
  reads := by
    have hmembers : (namesOf (r.members x)).Nodup :=
      hnodup.sublist (Fields.namesOf_members_sublist _ _)
    obtain ⟨reordered, hreordered, hperm⟩ := hform.obj _ hmembers
    obtain ⟨hnames, hlookup⟩ := lookup_reordered hmembers hperm
    change r.codec.read src (.ofValue (form (.obj (r.members x)))) = _
    rw [hreordered]
    exact Record.read_of_readsAs henter
      (h.readsAs (Fields.finds_members hnodup fun name _ => hlookup name)) hnodup hnames

namespace Layered

variable {σ : Type} {l : Layered σ}

/-- The members of a layered record that are written. -/
def members (l : Layered σ) (x : σ) : List (String × Value) :=
  l.leading.members (l.unpack x).1 ++ l.own.members (l.unpack x).2.1 ++
    l.trailing.members (l.unpack x).2.2

/-- A layered record is written as an object of its members. -/
lemma write_eq (l : Layered σ) (x : σ) : l.codec.write x = .obj (l.members x) := rfl

/-- No name is written twice. -/
lemma Distinct.nodup_members (h : l.Distinct) (x : σ) : (namesOf (l.members x)).Nodup := by
  rw [namesOf, members, List.map_append, List.map_append]
  exact h.sublist (((Fields.namesOf_members_sublist _ _).append
    (Fields.namesOf_members_sublist _ _)).append (Fields.namesOf_members_sublist _ _))

/-- What is found under a name is what the table of the name has written. -/
lemma Distinct.lookup_members (h : l.Distinct) (x : σ) :
    (∀ name ∈ l.leading.fields.names,
      lookup name (l.members x) = lookup name (l.leading.members (l.unpack x).1)) ∧
    (∀ name ∈ l.own.names,
      lookup name (l.members x) = lookup name (l.own.members (l.unpack x).2.1)) ∧
    ∀ name ∈ l.trailing.fields.names,
      lookup name (l.members x) = lookup name (l.trailing.members (l.unpack x).2.2) := by
  obtain ⟨hfirst, -, hlast⟩ := List.nodup_append.mp h
  obtain ⟨-, -, hmiddle⟩ := List.nodup_append.mp hfirst
  have hleading : ∀ name ∉ l.leading.fields.names,
      lookup name (l.leading.members (l.unpack x).1) = none := fun name hname =>
    Fields.lookup_members_of_notMem hname _
  have hown : ∀ name ∉ l.own.names, lookup name (l.own.members (l.unpack x).2.1) = none :=
    fun name hname => Fields.lookup_members_of_notMem hname _
  have htrailing : ∀ name ∉ l.trailing.fields.names,
      lookup name (l.trailing.members (l.unpack x).2.2) = none := fun name hname =>
    Fields.lookup_members_of_notMem hname _
  simp only [members, lookup_append]
  refine ⟨fun name ha => ?_, fun name hb => ?_, fun name hc => ?_⟩
  · rw [hown name fun hb => hmiddle name ha name hb rfl,
      htrailing name fun hc => hlast name (List.mem_append_left _ ha) name hc rfl,
      Option.or_none, Option.or_none]
  · rw [hleading name fun ha => hmiddle name ha name hb rfl,
      htrailing name fun hc => hlast name (List.mem_append_right _ hb) name hc rfl,
      Option.or_none, Option.none_or]
  · rw [hleading name fun ha => hlast name (List.mem_append_left _ ha) name hc rfl,
      hown name fun hb => hlast name (List.mem_append_right _ hb) name hc rfl,
      Option.or_none, Option.none_or]

/-- A name of no table is not written. -/
lemma lookup_members_of_notMem {name : String}
    (h : name ∉ l.leading.fields.names ++ l.own.names ++ l.trailing.fields.names) (x : σ) :
    lookup name (l.members x) = none := by
  rw [List.mem_append, List.mem_append, not_or, not_or] at h
  have hleading : lookup name (l.leading.members (l.unpack x).1) = none :=
    Fields.lookup_members_of_notMem h.1.1 _
  have htrailing : lookup name (l.trailing.members (l.unpack x).2.2) = none :=
    Fields.lookup_members_of_notMem h.2 _
  simp only [members, lookup_append, hleading, Fields.lookup_members_of_notMem h.1.2, htrailing,
    Option.or_none]

/-- What the three tables have written is found under their names. -/
theorem Distinct.finds {x : σ} {find : String → Option Value} (h : l.Distinct)
    (hfind : ∀ name, find name = (lookup name (l.members x)).map form) :
    l.leading.fields.Finds form find (l.leading.unpack (l.unpack x).1) ∧
    l.own.Finds form find (l.unpack x).2.1 ∧
    l.trailing.fields.Finds form find (l.trailing.unpack (l.unpack x).2.2) := by
  obtain ⟨hleading, hown, htrailing⟩ := h.lookup_members x
  obtain ⟨hfirst, hnodupC, -⟩ := List.nodup_append.mp h
  obtain ⟨hnodupA, hnodupB, -⟩ := List.nodup_append.mp hfirst
  refine ⟨Fields.finds_members hnodupA fun name hname => ?_,
    Fields.finds_members hnodupB fun name hname => ?_,
    Fields.finds_members hnodupC fun name hname => ?_⟩
  · rw [hfind, hleading name hname]
    rfl
  · rw [hfind, hown name hname]
  · rw [hfind, htrailing name hname]
    rfl

/-- A layered record survives if its members do. -/
theorem survives (hform : Reorders form) (henter : src.enter = .ok inner) (hinner : inner.Allows n)
    (hdistinct : l.Distinct) {x : σ} {a : l.leading.τ} {b : l.ω} {c : l.trailing.τ}
    (ha : l.leading.fields.Survives .memory form n (l.leading.unpack (l.unpack x).1) a)
    (hb : l.own.Survives inner form n (l.unpack x).2.1 b)
    (hc : l.trailing.fields.Survives .memory form n (l.trailing.unpack (l.unpack x).2.2) c) :
    l.codec.Survives src form (n + 1) x (l.pack (l.leading.pack a, b, l.trailing.pack c)) := by
  have hfits : ∀ m ∈ l.members x, m.2.Fits n := by
    intro m hm
    rcases List.mem_append.mp hm with hm | hm
    · rcases List.mem_append.mp hm with hm | hm
      · exact ha.fits m hm
      · exact hb.fits m hm
    · exact hc.fits m hm
  have hmembers := hdistinct.nodup_members x
  obtain ⟨reordered, hreordered, hperm⟩ := hform.obj _ hmembers
  obtain ⟨hnames, hlookup⟩ := lookup_reordered hmembers hperm
  obtain ⟨hleading, hown, htrailing⟩ := hdistinct.finds hlookup
  refine ⟨.obj hfits, ?_⟩
  rw [write_eq, hreordered]
  refine read_of_readsAs hdistinct henter (ha.readsAs hleading) (hb.readsAs hown)
    (hc.readsAs htrailing) hnames fun m hm => ?_
  obtain ⟨k, hk, rfl⟩ := List.mem_map.mp (hperm.subset hm)
  exact Codec.readValue_ofValue (hform.fits n _ (hfits k hk)) hinner

end Layered

end Writing

end TokenAuthority.Json
