import Mathlib.Tactic.Lemma
import TokenAuthority.Json.Record
import TokenAuthority.Proofs.JsonMembers

/-!
# Records are read by names

A record is read from an object by the names of its members: neither their order nor members of other
names matter, as long as no name is repeated.

## Main definitions

* `TokenAuthority.Json.Field.ReadsAs`, `TokenAuthority.Json.Fields.ReadsAs` — what a table of members
  reads from a look-up of names.
* `TokenAuthority.Json.Fields.filled` — the places of a table, filled for the names read so far.
* `TokenAuthority.Json.Layered.Distinct` — no name is in two of three tables.

## Main results

* `TokenAuthority.Json.Fields.read_of_readsAs` — a table reads what is looked up.
* `TokenAuthority.Json.Record.read_of_readsAs`, `TokenAuthority.Json.Layered.read_of_readsAs` — the
  same for records.
-/

set_option autoImplicit false

namespace TokenAuthority.Json

open Value

/-! ## Reading by names -/

/-- A member is read as `x` from the value that is there, or by default from none. -/
def Field.ReadsAs {α : Type} (src : Source) (f : Field α) (v : Option Value) (x : α) : Prop :=
  match v with
  | some v => f.codec.read src (.ofValue v) = .ok x
  | none => f.absent = some x

namespace Fields

/-- The members of the table are read as these values, each from what is found under its name. -/
def ReadsAs (src : Source) (find : String → Option Value) :
    {τ : Type} → Fields τ → τ → Prop
  | _, .nil, _ => True
  | _, .cons f rest, (x, r) => f.ReadsAs src (find f.name) x ∧ rest.ReadsAs src find r

/-- The places of the table, filled with their values for those names that have been read. -/
def filled (seen : String → Bool) : {τ : Type} → (fs : Fields τ) → τ → fs.Slots
  | _, .nil, _ => ()
  | _, .cons f rest, (x, r) => (if seen f.name then some x else none, rest.filled seen r)

variable {τ : Type} {src : Source} {find : String → Option Value}

/-- Before anything is read, no place is filled. -/
lemma filled_none (fs : Fields τ) (r : τ) : fs.filled (fun _ => false) r = fs.emptySlots := by
  induction fs with
  | nil => rfl
  | cons f rest ih => exact congrArg (Prod.mk none) (ih r.2)

/-- Only the names of the table count. -/
lemma filled_congr {fs : Fields τ} {seen seen' : String → Bool}
    (h : ∀ name ∈ fs.names, seen name = seen' name) (r : τ) :
    fs.filled seen r = fs.filled seen' r := by
  induction fs with
  | nil => rfl
  | cons f rest ih =>
    obtain ⟨hf, hrest⟩ := List.forall_mem_cons.mp h
    simp only [filled, hf, ih hrest]
    rfl

/-- Only what is found under the names of the table counts. -/
lemma ReadsAs.congr {fs : Fields τ} {find' : String → Option Value} {r : τ}
    (h : fs.ReadsAs src find r) (hfind : ∀ name ∈ fs.names, find name = find' name) :
    fs.ReadsAs src find' r := by
  induction fs with
  | nil => trivial
  | cons f rest ih =>
    obtain ⟨hf, hrest⟩ := List.forall_mem_cons.mp hfind
    exact ⟨hf ▸ h.1, ih h.2 hrest⟩

/-- A name that is not in the table has no place. -/
lemma put_of_notMem {fs : Fields τ} {name : String} (h : name ∉ fs.names) (d : Doc)
    (slots : fs.Slots) : fs.put src name d slots = .ok none := by
  induction fs with
  | nil => rfl
  | cons f rest ih =>
    rw [names, List.mem_cons, not_or] at h
    rw [put, if_neg (Ne.symm h.1), ih h.2]
    rfl

/-- A value is put into the place of its name, once. -/
lemma put_filled {fs : Fields τ} {name : String} {v : Value} {seen : String → Bool} {r : τ}
    (hreads : fs.ReadsAs src find r) (hnodup : fs.names.Nodup) (hmem : name ∈ fs.names)
    (hfind : find name = some v) (hseen : seen name = false) :
    fs.put src name (.ofValue v) (fs.filled seen r) =
      .ok (some (fs.filled (fun k => seen k || k == name) r)) := by
  induction fs with
  | nil => cases hmem
  | @cons α _ f rest ih =>
    obtain ⟨x, r⟩ := r
    obtain ⟨hx, hrest⟩ := hreads
    rw [names, List.nodup_cons] at hnodup
    rw [put]
    split
    · rename_i hname
      subst hname
      rw [hfind] at hx
      have hread : f.codec.read src (.ofValue v) = .ok x := hx
      have hothers : rest.filled seen r = rest.filled (fun k => seen k || k == f.name) r := by
        refine filled_congr (fun k hk => ?_) r
        have hne : k ≠ f.name := fun heq => hnodup.1 (heq ▸ hk)
        simp [hne]
      simp only [filled, hseen, hread, Bool.false_eq_true, if_false, Option.isSome_none,
        beq_self_eq_true, Bool.or_true, if_true, hothers]
      rfl
    · rename_i hname
      have hmem' : name ∈ rest.names := (List.mem_cons.mp hmem).resolve_left (Ne.symm hname)
      have hf : (f.name == name) = false := beq_eq_false_iff_ne.mpr hname
      simp only [filled, ih hrest hnodup.2 hmem', hf, Bool.or_false]
      rfl

/-- A name that has been seen counts as one of the members. -/
lemma filled_seen (fs : Fields τ) (seen : String → Bool) (name : String) (v : Value)
    (members : List (String × Value)) (r : τ) :
    fs.filled (fun k => seen k || k == name || (lookup k members).isSome) r =
      fs.filled (fun k => seen k || (lookup k ((name, v) :: members)).isSome) r := by
  refine filled_congr (fun k _ => ?_) r
  rw [lookup_cons]
  by_cases hk : k = name
  · simp [hk]
  · simp [beq_eq_false_iff_ne.mpr hk, Ne.symm hk]

/-- A member of another name fills no place. -/
lemma filled_of_notMem {fs : Fields τ} {name : String} (h : name ∉ fs.names) (seen : String → Bool)
    (v : Value) (members : List (String × Value)) (r : τ) :
    fs.filled (fun k => seen k || (lookup k members).isSome) r =
      fs.filled (fun k => seen k || (lookup k ((name, v) :: members)).isSome) r := by
  refine filled_congr (fun k hk => ?_) r
  have hne : name ≠ k := fun heq => h (heq ▸ hk)
  rw [lookup_cons, if_neg hne]

/-- The members that follow are read into the places of their names; members of other names are
passed over. -/
lemma readMembers_filled {fs : Fields τ} {members : List (String × Value)} (seen : String → Bool)
    {r : τ} (hreads : fs.ReadsAs src find r) (hnodup : fs.names.Nodup)
    (hfind : ∀ m ∈ members, find m.1 = some m.2) (hmembers : (namesOf members).Nodup)
    (hseen : ∀ m ∈ members, seen m.1 = false) :
    fs.readMembers src true (fs.filled seen r) (Doc.ofMembers members) =
      .ok (fs.filled (fun k => seen k || (lookup k members).isSome) r) := by
  induction members generalizing seen with
  | nil =>
    simp only [lookup, List.find?_nil, Option.map_none, Option.isSome_none, Bool.or_false]
    rfl
  | cons m members ih =>
    obtain ⟨name, v⟩ := m
    obtain ⟨hv, hfind⟩ := List.forall_mem_cons.mp hfind
    obtain ⟨hname, hseen⟩ := List.forall_mem_cons.mp hseen
    rw [namesOf, List.map_cons, List.nodup_cons] at hmembers
    have hnew : ∀ m ∈ members, m.1 ≠ name := fun m hm heq =>
      hmembers.1 (List.mem_map.mpr ⟨m, hm, heq⟩)
    rw [Doc.ofMembers, readMembers]
    by_cases hmem : name ∈ fs.names
    · rw [put_filled hreads hnodup hmem hv hname]
      have hrest := ih (fun k => seen k || k == name) hfind hmembers.2
        fun m hm => by simp [hseen m hm, hnew m hm]
      rw [← filled_seen]
      exact hrest
    · rw [put_of_notMem hmem, ← filled_of_notMem hmem, ← ih seen hfind hmembers.2 hseen]
      exact if_pos (Doc.wellFormed_ofValue v)

/-- When the members have been read, the values of the table are complete. -/
lemma finish_filled {fs : Fields τ} (seen : String → Bool) {r : τ}
    (hreads : fs.ReadsAs src find r) (hseen : ∀ name ∈ fs.names, seen name = (find name).isSome)
    (fault : String → Fault) : fs.finish fault (fs.filled seen r) = .ok r := by
  induction fs with
  | nil => rfl
  | cons f rest ih =>
    obtain ⟨x, r⟩ := r
    obtain ⟨hx, hrest⟩ := hreads
    obtain ⟨hf, hseen⟩ := List.forall_mem_cons.mp hseen
    have hvalue : ((if seen f.name then some x else none).or f.absent) = some x := by
      rw [hf]
      cases hfind : find f.name with
      | some v => rfl
      | none =>
        rw [hfind] at hx
        exact hx
    simp only [filled, finish, hvalue, ih hrest hseen]
    rfl

/-- A table reads what is found under its names. -/
theorem read_of_readsAs {fs : Fields τ} {members : List (String × Value)} {r : τ}
    (hreads : fs.ReadsAs src (lookup · members) r) (hnodup : fs.names.Nodup)
    (hmembers : (namesOf members).Nodup) :
    ∃ slots, fs.readMembers src true fs.emptySlots (Doc.ofMembers members) = .ok slots ∧
      ∀ fault, fs.finish fault slots = .ok r := by
  have hread := readMembers_filled (fun _ => false) hreads hnodup
    (fun m hm => (lookup_eq_some_iff hmembers).mpr hm) hmembers fun _ _ => rfl
  rw [filled_none] at hread
  exact ⟨_, hread, finish_filled _ hreads fun _ _ => rfl⟩

end Fields

/-! ## Records -/

section Records

variable {σ : Type} {src inner : Source} {members : List (String × Value)}

/-- A record is read from an object by the names of its members. -/
theorem Record.read_of_readsAs {r : Record σ} {x : r.τ} (henter : src.enter = .ok inner)
    (hreads : r.fields.ReadsAs inner (lookup · members) x) (hnodup : r.fields.names.Nodup)
    (hmembers : (namesOf members).Nodup) :
    r.codec.read src (.ofValue (.obj members)) = .ok (r.pack x) := by
  obtain ⟨slots, hread, hfinish⟩ := Fields.read_of_readsAs hreads hnodup hmembers
  simp only [Record.codec, Doc.ofValue, Record.read, henter]
  change (r.fields.readMembers inner true _ _ >>= _) = _
  rw [hread]
  change r.pack <$> r.fields.finish .missing slots = _
  rw [hfinish]
  rfl

namespace Layered

/-- The own members are read into the places of their names, and the others are kept in order. -/
lemma readMembers_filled {ω : Type} {own : Fields ω} {find : String → Option Value}
    (seen : String → Bool) {r : ω} (others : List (String × Value))
    (hreads : own.ReadsAs src find r) (hnodup : own.names.Nodup)
    (hfind : ∀ m ∈ members, find m.1 = some m.2) (hmembers : (namesOf members).Nodup)
    (hseen : ∀ m ∈ members, seen m.1 = false)
    (hvalues : ∀ m ∈ members, Codec.readValue src (.ofValue m.2) = .ok m.2) :
    readMembers own src true (own.filled seen r) others (Doc.ofMembers members) =
      .ok (own.filled (fun k => seen k || (lookup k members).isSome) r,
        others ++ members.filter (·.1 ∉ own.names)) := by
  induction members generalizing seen others with
  | nil =>
    simp only [lookup, List.find?_nil, Option.map_none, Option.isSome_none, Bool.or_false,
      List.filter_nil, List.append_nil]
    rfl
  | cons m members ih =>
    obtain ⟨name, v⟩ := m
    obtain ⟨hv, hfind⟩ := List.forall_mem_cons.mp hfind
    obtain ⟨hname, hseen⟩ := List.forall_mem_cons.mp hseen
    obtain ⟨hvalue, hvalues⟩ := List.forall_mem_cons.mp hvalues
    rw [namesOf, List.map_cons, List.nodup_cons] at hmembers
    have hnew : ∀ m ∈ members, m.1 ≠ name := fun m hm heq =>
      hmembers.1 (List.mem_map.mpr ⟨m, hm, heq⟩)
    rw [Doc.ofMembers, readMembers]
    by_cases hmem : name ∈ own.names
    · rw [Fields.put_filled hreads hnodup hmem hv hname]
      have hrest := ih (fun k => seen k || k == name) others hfind hmembers.2
        (fun m hm => by simp [hseen m hm, hnew m hm]) hvalues
      have hkept : ((name, v) :: members).filter (·.1 ∉ own.names) =
          members.filter (·.1 ∉ own.names) := List.filter_cons_of_neg (by simpa using hmem)
      rw [hkept, ← Fields.filled_seen]
      exact hrest
    · rw [Fields.put_of_notMem hmem]
      have hrest := ih seen (others ++ [(name, v)]) hfind hmembers.2 hseen hvalues
      have hkept : others ++ ((name, v) :: members).filter (·.1 ∉ own.names) =
          others ++ [(name, v)] ++ members.filter (·.1 ∉ own.names) := by
        rw [List.filter_cons_of_pos (by simpa using hmem), List.append_assoc, List.singleton_append]
      rw [hkept, ← Fields.filled_of_notMem hmem, ← hrest]
      change (Codec.readValue src (.ofValue v) >>= _) = _
      rw [hvalue]
      rfl

/-- A part of a layered record is read by the names of its members. -/
lemma readPart_of_readsAs {ρ : Type} {r : Record ρ} {x : r.τ}
    (hreads : r.fields.ReadsAs .memory (lookup · members) x) (hnodup : r.fields.names.Nodup)
    (hmembers : (namesOf members).Nodup) : readPart r members = .ok (r.pack x) := by
  obtain ⟨slots, hread, hfinish⟩ := Fields.read_of_readsAs hreads hnodup hmembers
  rw [readPart, hread]
  change r.pack <$> r.fields.finish .missing slots = _
  rw [hfinish]
  rfl

/-- What is found under a name that is not an own one is found among the other members. -/
lemma lookup_others {own : List String} {name : String} (h : name ∉ own)
    (members : List (String × Value)) :
    lookup name (members.filter (·.1 ∉ own)) = lookup name members := by
  rw [lookup, lookup, List.find?_filter]
  congr 2
  funext m
  by_cases hm : m.1 = name <;> simp [hm, h]

/-- The names of the three tables are all different. -/
def Distinct (l : Layered σ) : Prop :=
  (l.leading.fields.names ++ l.own.names ++ l.trailing.fields.names).Nodup

/-- A layered record is read from an object by the names of its members. -/
theorem read_of_readsAs {l : Layered σ} (hdistinct : l.Distinct) {a : l.leading.τ} {b : l.ω}
    {c : l.trailing.τ} (henter : src.enter = .ok inner)
    (hleading : l.leading.fields.ReadsAs .memory (lookup · members) a)
    (hown : l.own.ReadsAs inner (lookup · members) b)
    (htrailing : l.trailing.fields.ReadsAs .memory (lookup · members) c)
    (hmembers : (namesOf members).Nodup)
    (hvalues : ∀ m ∈ members, Codec.readValue inner (.ofValue m.2) = .ok m.2) :
    l.codec.read src (.ofValue (.obj members)) =
      .ok (l.pack (l.leading.pack a, b, l.trailing.pack c)) := by
  obtain ⟨hfirst, hnodupC, hdisjC⟩ := List.nodup_append.mp hdistinct
  obtain ⟨hnodupA, hnodupB, hdisjA⟩ := List.nodup_append.mp hfirst
  have hotherA : ∀ name ∈ l.leading.fields.names, name ∉ l.own.names :=
    fun name ha hb => hdisjA name ha name hb rfl
  have hotherC : ∀ name ∈ l.trailing.fields.names, name ∉ l.own.names :=
    fun name hc hb => hdisjC name (List.mem_append_right _ hb) name hc rfl
  have hread := readMembers_filled (fun _ => false) [] hown hnodupB
    (fun m hm => (lookup_eq_some_iff hmembers).mpr hm) hmembers (fun _ _ => rfl) hvalues
  rw [Fields.filled_none, List.nil_append] at hread
  have hfinish := Fields.finish_filled (fun k => false || (lookup k members).isSome) hown
    (fun _ _ => rfl) .missing
  have hothers : (namesOf (members.filter (·.1 ∉ l.own.names))).Nodup :=
    hmembers.sublist (List.filter_sublist.map _)
  have hpartA := readPart_of_readsAs (hleading.congr fun name hname =>
    (lookup_others (hotherA name hname) members).symm) hnodupA hothers
  have hpartC := readPart_of_readsAs (htrailing.congr fun name hname =>
    (lookup_others (hotherC name hname) members).symm) hnodupC hothers
  simp only [Layered.codec, Doc.ofValue, henter]
  change (readMembers l.own inner true _ _ _ >>= _) = _
  rw [hread]
  change (l.own.finish .missing _ >>= _) = _
  rw [hfinish]
  change (readPart l.leading _ >>= _) = _
  rw [hpartA]
  change (readPart l.trailing _ >>= _) = _
  rw [hpartC]
  rfl

end Layered

end Records

end TokenAuthority.Json
