import Mathlib.Data.List.Perm.Basic
import Mathlib.Data.String.Basic
import Mathlib.Tactic.Lemma
import TokenAuthority.Proofs.JsonTexts

/-!
# Members of objects

Where no name is repeated, members are found under their names whatever their order, and sorting them
loses none.

## Main definitions

* `TokenAuthority.Json.Value.Reorders` — a change of form that at most reorders the members of
  objects.

## Main results

* `TokenAuthority.Json.Value.lookup_perm` — the order of the members does not matter.
* `TokenAuthority.Json.Value.sortMembers_perm`, `TokenAuthority.Json.Value.nodup_sortMembers` — no
  member is lost, and no name is repeated any more.
* `TokenAuthority.Json.Value.lookup_reordered` — a change of form keeps what is looked up.
* `TokenAuthority.Json.Value.reorders_canonical`, `TokenAuthority.Json.Value.lookup_sortMembers` —
  the canonical form is such a change.
* `TokenAuthority.Json.Codec.nodup_of_decode` — no name is repeated in an object that is read in its
  canonical form.
-/

set_option autoImplicit false

namespace TokenAuthority.Json

/-! ## Looking up members -/

namespace Value

/-- The names of some members. -/
abbrev namesOf (members : List (String × Value)) : List String := members.map (·.1)

/-- A name that no member has is not found. -/
lemma lookup_eq_none_iff {name : String} {members : List (String × Value)} :
    lookup name members = none ↔ name ∉ namesOf members := by
  simp only [lookup, Option.map_eq_none_iff, List.find?_eq_none, beq_iff_eq, List.mem_map]
  exact ⟨fun h ⟨m, hm, heq⟩ => h m hm heq, fun h m hm heq => h ⟨m, hm, heq⟩⟩

/-- The first member comes first. -/
lemma lookup_cons (name k : String) (v : Value) (members : List (String × Value)) :
    lookup name ((k, v) :: members) = if k = name then some v else lookup name members := by
  by_cases h : k = name <;> simp [lookup, h]

/-- A name is looked up in the first list, and then in the second. -/
lemma lookup_append (name : String) (l₁ l₂ : List (String × Value)) :
    lookup name (l₁ ++ l₂) = (lookup name l₁).or (lookup name l₂) := by
  simp [lookup, List.find?_append, Option.map_or]

/-- Where no name is repeated, members are found under their names. -/
lemma lookup_eq_some_iff {members : List (String × Value)} (h : (namesOf members).Nodup)
    {name : String} {v : Value} : lookup name members = some v ↔ (name, v) ∈ members := by
  induction members with
  | nil => simp [lookup]
  | cons m members ih =>
    obtain ⟨k, w⟩ := m
    rw [namesOf, List.map_cons, List.nodup_cons] at h
    rw [lookup_cons]
    split
    · rename_i heq
      subst heq
      have hother : (k, v) ∉ members := fun hmem => h.1 (List.mem_map_of_mem (f := (·.1)) hmem)
      simp [hother, eq_comm]
    · rename_i hne
      have hother : (name, v) ≠ (k, w) := fun heq => hne (congrArg Prod.fst heq).symm
      simp [ih h.2, hother]

/-- Where no name is repeated, the order of the members does not matter. -/
lemma lookup_perm {l₁ l₂ : List (String × Value)} (h : (namesOf l₁).Nodup) (hperm : l₁.Perm l₂)
    (name : String) : lookup name l₁ = lookup name l₂ := by
  have h₂ : (namesOf l₂).Nodup := (hperm.map _).nodup_iff.mp h
  ext v
  rw [lookup_eq_some_iff h, lookup_eq_some_iff h₂, hperm.mem_iff]

/-- A member of a new name is put somewhere into the list. -/
lemma insertMember_perm {name : String} {members : List (String × Value)}
    (h : name ∉ namesOf members) (v : Value) :
    (insertMember name v members).Perm ((name, v) :: members) := by
  induction members with
  | nil => exact .refl _
  | cons m members ih =>
    obtain ⟨k, w⟩ := m
    rw [namesOf, List.map_cons, List.mem_cons, not_or] at h
    rw [insertMember, if_neg h.1]
    split
    · exact .refl _
    · exact ((ih h.2).cons _).trans (.swap _ _ _)

/-- Where no name is repeated, the members are sorted and none is lost. -/
lemma sortMembers_perm {members : List (String × Value)} (h : (namesOf members).Nodup) :
    (sortMembers members).Perm members := by
  have hfold (sorted : List (String × Value)) (hsorted : (namesOf (sorted ++ members)).Nodup) :
      (members.foldl (fun sorted m => insertMember m.1 m.2 sorted) sorted).Perm
        (sorted ++ members) := by
    clear h
    induction members generalizing sorted with
    | nil => simp
    | cons m members ih =>
      have hmiddle : (sorted ++ m :: members).Perm ((m :: sorted) ++ members) :=
        List.perm_middle
      have hnodup := (hmiddle.map (·.1)).nodup_iff.mp hsorted
      rw [List.cons_append, List.map_cons, List.nodup_cons, List.map_append, List.mem_append,
        not_or] at hnodup
      have hinsert := insertMember_perm hnodup.1.1 m.2
      have happend : (insertMember m.1 m.2 sorted ++ members).Perm (sorted ++ m :: members) :=
        (hinsert.append_right members).trans hmiddle.symm
      rw [List.foldl_cons]
      exact (ih _ ((happend.map (·.1)).nodup_iff.mpr hsorted)).trans happend
  exact hfold [] h

/-- The members in canonical form one by one. -/
lemma canonicalMembers_eq_map (members : List (String × Value)) :
    canonicalMembers members = members.map fun m => (m.1, m.2.canonical) := by
  induction members with
  | nil => rfl
  | cons m members ih => rw [canonicalMembers, ih]; rfl

/-- The items in canonical form one by one. -/
lemma canonicalItems_eq_map (items : List Value) : canonicalItems items = items.map canonical := by
  induction items with
  | nil => rfl
  | cons v items ih => rw [canonicalItems, ih]; rfl

end Value

/-! ## Changes of form -/

namespace Value

/-- A change of form that at most reorders the members of objects. -/
structure Reorders (form : Value → Value) : Prop where
  bool : ∀ b, form (.bool b) = .bool b
  num : ∀ x, form (.num x) = .num x
  str : ∀ s, form (.str s) = .str s
  list : ∀ items, form (.list items) = .list (items.map form)
  obj : ∀ members, (namesOf members).Nodup →
    ∃ reordered, form (.obj members) = .obj reordered ∧
      reordered.Perm (members.map fun m => (m.1, form m.2))
  fits : ∀ n v, v.Fits n → (form v).Fits n

/-- Members keep their names when their values change. -/
lemma namesOf_map (form : Value → Value) (members : List (String × Value)) :
    namesOf (members.map fun m => (m.1, form m.2)) = namesOf members := by
  rw [namesOf, List.map_map]
  rfl

/-- No name is repeated, and the members are found under the names that they had. -/
lemma lookup_reordered {form : Value → Value} {members reordered : List (String × Value)}
    (h : (namesOf members).Nodup) (hperm : reordered.Perm (members.map fun m => (m.1, form m.2))) :
    (namesOf reordered).Nodup ∧
      ∀ name, lookup name reordered = (lookup name members).map form := by
  have hnodup : (namesOf reordered).Nodup := by
    rw [(hperm.map _).nodup_iff, ← namesOf, namesOf_map]
    exact h
  refine ⟨hnodup, fun name => ?_⟩
  rw [lookup_perm hnodup hperm, lookup, lookup, List.find?_map, Option.map_map, Option.map_map]
  rfl

/-- A list has no other members after a member was put into it. -/
lemma mem_of_mem_insertMember {name : String} {v : Value} {sorted : List (String × Value)}
    {m : String × Value} (h : m ∈ insertMember name v sorted) : m = (name, v) ∨ m ∈ sorted := by
  induction sorted with
  | nil => exact .inl (List.mem_singleton.mp h)
  | cons k sorted ih =>
    rw [insertMember] at h
    split at h
    · exact (List.mem_cons.mp h).imp_right (List.mem_cons_of_mem _)
    · split at h
      · exact List.mem_cons.mp h
      · rcases List.mem_cons.mp h with rfl | h
        · exact .inr List.mem_cons_self
        · exact (ih h).imp_right (List.mem_cons_of_mem _)

/-- A member of a sorted list is one of those that were sorted. -/
lemma mem_of_mem_sortMembers {members : List (String × Value)} {m : String × Value}
    (h : m ∈ sortMembers members) : m ∈ members := by
  have hfold (sorted : List (String × Value))
      (hm : m ∈ members.foldl (fun sorted m => insertMember m.1 m.2 sorted) sorted) :
      m ∈ sorted ∨ m ∈ members := by
    clear h
    induction members generalizing sorted with
    | nil => exact .inl hm
    | cons k members ih =>
      rcases ih _ hm with hm | hm
      · rcases mem_of_mem_insertMember hm with rfl | hm
        · exact .inr List.mem_cons_self
        · exact .inl hm
      · exact .inr (List.mem_cons_of_mem _ hm)
  exact (hfold [] h).resolve_left List.not_mem_nil

/-- A member is put where its name belongs in a list sorted by name. -/
lemma sorted_insertMember {members : List (String × Value)}
    (h : (namesOf members).Pairwise (· < ·)) (name : String) (v : Value) :
    (namesOf (insertMember name v members)).Pairwise (· < ·) := by
  induction members with
  | nil => simp [insertMember]
  | cons m members ih =>
    obtain ⟨k, w⟩ := m
    obtain ⟨hk, hmembers⟩ := List.pairwise_cons.mp h
    rw [insertMember]
    split
    · rename_i heq
      subst heq
      exact h
    · rename_i hne
      split
      · rename_i hlt
        have hname : ∀ other ∈ namesOf ((k, w) :: members), name < other := by
          refine List.forall_mem_cons.mpr ⟨hlt, fun other hother => ?_⟩
          exact hlt.trans (hk other hother)
        exact .cons hname h
      · rename_i hnot
        have hbefore : k < name := lt_of_le_of_ne (not_lt.mp hnot) (Ne.symm hne)
        refine .cons (fun other hother => ?_) (ih hmembers)
        obtain ⟨m, hm, rfl⟩ := List.mem_map.mp hother
        rcases mem_of_mem_insertMember hm with rfl | hm
        · exact hbefore
        · exact hk m.1 (List.mem_map_of_mem hm)

/-- No name is repeated among sorted members. -/
lemma nodup_sortMembers (members : List (String × Value)) :
    (namesOf (sortMembers members)).Nodup := by
  have hfold (sorted : List (String × Value)) (hsorted : (namesOf sorted).Pairwise (· < ·)) :
      (namesOf (members.foldl (fun sorted m => insertMember m.1 m.2 sorted) sorted)).Pairwise
        (· < ·) := by
    induction members generalizing sorted with
    | nil => exact hsorted
    | cons m members ih => exact ih _ (sorted_insertMember hsorted m.1 m.2)
  exact (hfold [] .nil).imp ne_of_lt

/-- The canonical form of a value has no more levels. -/
lemma Fits.canonical {n : Nat} {v : Value} (h : v.Fits n) : v.canonical.Fits n := by
  induction h with
  | null n => exact .null n
  | bool n b => exact .bool n b
  | int hlow hhigh => exact .int hlow hhigh
  | str n s => exact .str n s
  | list _ ih =>
    rw [Value.canonical, canonicalItems_eq_map]
    exact .list (List.forall_mem_map.mpr ih)
  | obj _ ih =>
    rw [Value.canonical]
    refine .obj fun m hm => ?_
    have hmem := mem_of_mem_sortMembers hm
    rw [canonicalMembers_eq_map] at hmem
    obtain ⟨k, hk, rfl⟩ := List.mem_map.mp hmem
    exact ih k hk

/-- The canonical form is a change of this kind. -/
lemma reorders_canonical : Reorders canonical where
  bool _ := rfl
  num _ := rfl
  str _ := rfl
  list items := by rw [canonical, canonicalItems_eq_map]
  obj members h := ⟨_, rfl, by
    rw [canonicalMembers_eq_map]
    exact sortMembers_perm (by rwa [namesOf_map])⟩
  fits _ _ := Fits.canonical

/-- Sorting does not change what is looked up. -/
theorem lookup_sortMembers {members : List (String × Value)} (h : (namesOf members).Nodup)
    (name : String) :
    lookup name (sortMembers (canonicalMembers members)) = (lookup name members).map canonical := by
  obtain ⟨reordered, hreordered, hperm⟩ := reorders_canonical.obj members h
  cases hreordered
  exact (lookup_reordered h hperm).2 name

end Value

/-- No name is repeated in an object that was read in its canonical form. -/
lemma Codec.nodup_of_decode {text : String} {members : List (String × Value)}
    (h : canonicalValue.decode text = .ok (.obj members)) : (Value.namesOf members).Nodup := by
  have hread : (readValue .document (Doc.scan text).1).map Value.canonical = .ok (.obj members) :=
    read_of_decode h
  obtain ⟨v, hv⟩ : ∃ v : Value, v.canonical = .obj members := by
    cases hvalue : readValue .document (Doc.scan text).1 with
    | error fault =>
      rw [hvalue] at hread
      cases hread
    | ok v =>
      rw [hvalue] at hread
      exact ⟨v, Except.ok.inj hread⟩
  cases v with
  | obj unsorted =>
    rw [Value.canonical] at hv
    cases hv
    exact Value.nodup_sortMembers _
  | _ =>
    rw [Value.canonical] at hv
    cases hv

end TokenAuthority.Json
