import Mathlib.Data.List.Induction
import Mathlib.Data.List.Nodup
import Mathlib.Tactic.Lemma
import TokenAuthority.Config.Environment
import TokenAuthority.Config.File
import TokenAuthority.Proofs.JsonMembers

/-!
# Layers of a configuration

A layer of keys and values is put over what other sources have said. Its keys may be paths, and a
path into a part of a value changes that part alone. Where no key of a layer is such a path, the
layer decides name by name: it puts its own value of a name over the one that was there, and leaves
the names alone that it does not mention. No value of a variable is a table, so that nothing of what
it is put over is left.

## Main definitions

* `TokenAuthority.Config.Unnested` — no key leads into a part of what some names stand for.
* `TokenAuthority.Config.variableKeys` — the keys that the variables of an environment set.
* `TokenAuthority.Config.variableOf?` — the text of the variable that sets a name.

## Main results

* `TokenAuthority.Config.lookup_overlay` — a layer decides name by name.
* `TokenAuthority.Config.lookup_overlay_environmentLayer` — an environment puts the values of its
  variables in place of what was there.
* `TokenAuthority.Config.File.nodup_members` — no file mentions a name twice.
-/

set_option autoImplicit false

namespace TokenAuthority

namespace Config

/-! ## Names -/

section Names

variable {name : String} {members : Members}

/-- The first member comes first. -/
lemma lookup_cons (name k : String) (v : Value) (members : Members) :
    lookup name ((k, v) :: members) = if k = name then some v else lookup name members := by
  by_cases h : k = name <;> simp [lookup, h]

/-- A name that no member has is not found. -/
lemma lookup_eq_none (h : name ∉ members.map (·.1)) : lookup name members = none := by
  rw [lookup, Option.map_eq_none_iff, List.find?_eq_none]
  exact fun m hm heq => h (List.mem_map.mpr ⟨m, hm, beq_iff_eq.mp heq⟩)

/-- An update adds its name at the end if it is new. -/
lemma map_fst_update (name : String) (f : Value → Value) (members : Members) :
    (update name f members).map (·.1) =
      if name ∈ members.map (·.1) then members.map (·.1) else members.map (·.1) ++ [name] := by
  induction members with
  | nil => rfl
  | cons m members ih =>
    obtain ⟨k, v⟩ := m
    by_cases hk : k = name
    · simp [update, hk]
    · rw [update, if_neg hk, List.map_cons, ih]
      by_cases hname : name ∈ members.map (·.1)
      · simp [hname]
      · simp [hname, Ne.symm hk]

/-- An update does not repeat a name. -/
lemma nodup_update (h : (members.map (·.1)).Nodup) (name : String) (f : Value → Value) :
    ((update name f members).map (·.1)).Nodup := by
  rw [map_fst_update]
  split
  · exact h
  · rename_i hnew
    exact h.append (List.nodup_singleton name) (List.disjoint_singleton.mpr hnew)

/-- An update adds no name but its own. -/
lemma mem_of_mem_update {k : String} {f : Value → Value}
    (h : k ∈ (update name f members).map (·.1)) : k ∈ members.map (·.1) ∨ k = name := by
  rw [map_fst_update] at h
  split at h
  · exact .inl h
  · simpa using h

end Names

/-! ## Keys -/

namespace Path

/-- A text from which no steps are read is empty. -/
lemma eq_nil_of_steps? {fuel : Nat} {cs : List Char} (h : steps? fuel cs = some []) : cs = [] := by
  rw [steps?.eq_def] at h
  split at h
  case h_1 => rfl
  case h_2 => cases h
  case h_3 =>
    dsimp only at h
    split at h
    · cases h
    · simp at h
  case h_4 =>
    split at h
    · cases h
    · simp [Option.bind_eq_some_iff] at h
  case h_5 => cases h

/-- A key that leads no further than to its root is a name. -/
lemma root_ofKey {key : String} (h : (ofKey key).steps = []) : (ofKey key).root = key := by
  cases hkey : ofKey? key with
  | none => rw [ofKey, hkey, Option.getD_none]
  | some path =>
    have hpath : ofKey key = path := by rw [ofKey, hkey, Option.getD_some]
    rw [hpath] at h ⊢
    rw [ofKey?] at hkey
    split at hkey
    · cases hkey
    · obtain ⟨steps, hsteps, rfl⟩ := Option.map_eq_some_iff.mp hkey
      have hnil : steps = [] := h
      subst hnil
      have hcut := List.takeWhile_append_dropWhile (p := isNameChar) (l := key.toList)
      rw [eq_nil_of_steps? hsteps, List.append_nil] at hcut
      exact (congrArg String.ofList hcut).trans String.ofList_toList

end Path

/-- No key leads into a part of what one of the names stands for. -/
def Unnested (names keys : List String) : Prop :=
  ∀ key ∈ keys, (Path.ofKey key).root ∈ names → (Path.ofKey key).steps = []

instance (names keys : List String) : Decidable (Unnested names keys) :=
  inferInstanceAs (Decidable (∀ key ∈ keys, _))

/-! ## Layers -/

section Layers

variable {name : String} {names : List String} {base layer : Members}

/-- An assignment changes the member at the root of its key and no other one. -/
lemma lookup_assign (name key : String) (v : Value) (members : Members) :
    lookup name (assign key v members) =
      if (Path.ofKey key).root = name then
        some (Value.updateAt (Path.ofKey key).steps v.merge ((lookup name members).getD .absent))
      else lookup name members := by
  rw [assign, lookup_update]
  split
  · rename_i hroot
    rw [hroot]
  · rfl

/-- Where no key leads into a part of what a name stands for, a layer puts its value of the name
over the one that was there.

**Proof sketch.** Induction on the layer. A key whose root is the name is the name itself, so that
no later key of the layer has this root, and the value is put over that of the members so far. Any
other key leaves the name alone. -/
theorem lookup_overlay (hname : (Path.ofKey name).root = name) (hmem : name ∈ names)
    (hkeys : Unnested names (layer.map (·.1))) (hnodup : (layer.map (·.1)).Nodup) :
    lookup name (overlay base layer) =
      ((lookup name layer).map fun v => v.merge ((lookup name base).getD .absent)).or
        (lookup name base) := by
  induction layer generalizing base with
  | nil => rfl
  | cons m layer ih =>
    obtain ⟨k, v⟩ := m
    obtain ⟨hk, hkeys⟩ := List.forall_mem_cons.mp hkeys
    obtain ⟨hnew, hnodup⟩ := List.nodup_cons.mp hnodup
    have hcons : overlay base ((k, v) :: layer) = overlay (assign k v base) layer := rfl
    rw [hcons, ih hkeys hnodup, lookup_assign, lookup_cons]
    by_cases hroot : (Path.ofKey k).root = name
    · have hsteps := hk (hroot ▸ hmem)
      obtain rfl : k = name := (Path.root_ofKey hsteps).symm.trans hroot
      simp [hroot, hsteps, lookup_eq_none hnew, Value.updateAt]
    · have hne : k ≠ name := fun heq => hroot (heq ▸ hname)
      simp [hroot, hne]

end Layers

/-! ## Environments -/

section Environments

variable {name : String} {names : List String} {env : List (String × String)}

/-- The keys that the variables of an environment set. -/
def variableKeys (env : List (String × String)) : List String :=
  env.filterMap fun v => variableKey? v.1

/-- The text of the variable that sets a name; of several ones the last counts. -/
def variableOf? (name : String) (env : List (String × String)) : Option String :=
  (env.reverse.find? fun v => variableKey? v.1 == some name).map (·.2)

/-- The value of a variable takes the place of anything. -/
lemma merge_variableValue (key s : String) (old : Value) :
    (variableValue key s).merge old = variableValue key s := by
  simp only [variableValue]
  repeat' split
  all_goals rw [Value.merge]

/-- One more variable replaces the value of its key. -/
lemma environmentLayer_concat (env : List (String × String)) (v : String × String) :
    environmentLayer (env ++ [v]) =
      (variableKey? v.1).elim (environmentLayer env) fun key =>
        update key (fun _ => variableValue key v.2) (environmentLayer env) := by
  obtain ⟨name, value⟩ := v
  simp only [environmentLayer, List.foldl_append, List.foldl_cons, List.foldl_nil]
  cases variableKey? name <;> rfl

/-- One more variable counts for its key. -/
lemma variableOf?_concat (name : String) (env : List (String × String)) (v : String × String) :
    variableOf? name (env ++ [v]) =
      if variableKey? v.1 = some name then some v.2 else variableOf? name env := by
  rw [variableOf?, List.reverse_append]
  by_cases hkey : variableKey? v.1 = some name
  · simp [hkey]
  · simp [hkey, variableOf?]

/-- What an environment says about a name is the value of its variable. -/
lemma lookup_environmentLayer (name : String) (env : List (String × String)) :
    lookup name (environmentLayer env) = (variableOf? name env).map (variableValue name) := by
  induction env using List.reverseRecOn with
  | nil => rfl
  | append_singleton env v ih =>
    rw [environmentLayer_concat, variableOf?_concat]
    cases hvar : variableKey? v.1 with
    | none => simp [ih]
    | some key =>
      by_cases hkey : key = name
      · simp [lookup_update, hkey]
      · simp [lookup_update, hkey, ih]

/-- No key is repeated in the layer of an environment. -/
lemma nodup_environmentLayer (env : List (String × String)) :
    ((environmentLayer env).map (·.1)).Nodup := by
  induction env using List.reverseRecOn with
  | nil => exact .nil
  | append_singleton env v ih =>
    rw [environmentLayer_concat]
    cases variableKey? v.1 with
    | none => exact ih
    | some key => exact nodup_update ih _ _

/-- The keys in the layer of an environment are those of its variables. -/
lemma environmentLayer_subset (env : List (String × String)) :
    (environmentLayer env).map (·.1) ⊆ variableKeys env := by
  induction env using List.reverseRecOn with
  | nil => exact List.nil_subset _
  | append_singleton env v ih =>
    rw [environmentLayer_concat, variableKeys, List.filterMap_append]
    cases hvar : variableKey? v.1 with
    | none => exact List.Subset.trans ih (List.subset_append_left _ _)
    | some key =>
      intro k hk
      rcases mem_of_mem_update hk with hk | rfl
      · exact List.mem_append_left _ (ih hk)
      · simp [hvar]

/-- Where no variable sets a part of what a name stands for alone, an environment puts the value of
its variable in place of what was there. -/
theorem lookup_overlay_environmentLayer (hname : (Path.ofKey name).root = name)
    (hmem : name ∈ names) (hkeys : Unnested names (variableKeys env)) (base : Members) :
    lookup name (overlay base (environmentLayer env)) =
      ((variableOf? name env).map (variableValue name)).or (lookup name base) := by
  have hlayer : Unnested names ((environmentLayer env).map (·.1)) := fun key hkey =>
    hkeys key (environmentLayer_subset env hkey)
  rw [lookup_overlay hname hmem hlayer (nodup_environmentLayer env), lookup_environmentLayer,
    Option.map_map]
  simp [Function.comp_def, merge_variableValue]

end Environments

end Config

/-! ## Files -/

namespace Toml

section Tables

variable {nodes nodes' : Nodes}

/-- A part that is put into a table replaces the value of its name. -/
lemma membersOf_put (name : String) (node : Node) (nodes : Nodes) :
    membersOf (nodes.put name node) =
      Config.update name (fun _ => node.toValue) (membersOf nodes) := by
  induction nodes with
  | nil => simp [Nodes.put, membersOf, Config.update]
  | cons m nodes ih =>
    obtain ⟨k, n⟩ := m
    by_cases hk : k = name
    · simp [Nodes.put, membersOf, Config.update, hk]
    · simp [Nodes.put, membersOf, Config.update, hk, ih]

/-- A pair changes one part of a table. -/
lemma put_of_putPair {isOpen : Bool} {path : List String} {v : Config.Value}
    (h : putPair isOpen path v nodes = some nodes') :
    ∃ name node, nodes' = nodes.put name node := by
  -- whatever stands at the first key of the path, it is put back under that key
  rw [putPair.eq_def] at h
  split at h
  · cases h
  · split at h
    · cases h
    · split at h
      · cases h
        exact ⟨_, _, rfl⟩
      · cases h
  · split at h
    any_goals cases h
    all_goals
      obtain ⟨ms, -, rfl⟩ := Option.map_eq_some_iff.mp h
      exact ⟨_, _, rfl⟩

/-- A header changes one part of a table. -/
lemma put_of_enter {path : List String} {change : Option Node → Option Node}
    (h : enter path change nodes = some nodes') : ∃ name node, nodes' = nodes.put name node := by
  rw [enter.eq_def] at h
  split at h
  · cases h
  · obtain ⟨node, -, rfl⟩ := Option.map_eq_some_iff.mp h
    exact ⟨_, _, rfl⟩
  · split at h
    any_goals cases h
    all_goals
      obtain ⟨ms, -, rfl⟩ := Option.map_eq_some_iff.mp h
      exact ⟨_, _, rfl⟩

/-- A statement changes one part of the table of a document. -/
lemma Draft.put_of_add? {d d' : Draft} {s : Statement} (h : d.add? s = some d') :
    ∃ name node, d'.nodes = d.nodes.put name node := by
  cases s with
  | pair path v =>
    rw [Draft.add?] at h
    split at h
    · obtain ⟨nodes, hput, rfl⟩ := Option.map_eq_some_iff.mp h
      exact put_of_putPair hput
    · obtain ⟨nodes, henter, rfl⟩ := Option.map_eq_some_iff.mp h
      exact put_of_enter henter
  | table path =>
    obtain ⟨nodes, henter, rfl⟩ := Option.map_eq_some_iff.mp h
    exact put_of_enter henter
  | item path =>
    obtain ⟨nodes, henter, rfl⟩ := Option.map_eq_some_iff.mp h
    exact put_of_enter henter

/-- No name is repeated in the table that statements define. -/
lemma nodup_build? {statements : List Statement} (h : build? statements = some nodes) :
    ((membersOf nodes).map (·.1)).Nodup := by
  have hfold (d last : Draft) (hd : ((membersOf d.nodes).map (·.1)).Nodup)
      (hlast : statements.foldlM Draft.add? d = some last) :
      ((membersOf last.nodes).map (·.1)).Nodup := by
    clear h
    induction statements generalizing d with
    | nil =>
      cases hlast
      exact hd
    | cons s statements ih =>
      obtain ⟨d', hadd, hrest⟩ := Option.bind_eq_some_iff.mp hlast
      obtain ⟨name, node, hput⟩ := Draft.put_of_add? hadd
      refine ih d' ?_ hrest
      rw [hput, membersOf_put]
      exact Config.nodup_update hd _ _
  obtain ⟨last, hlast, rfl⟩ := Option.map_eq_some_iff.mp h
  exact hfold {} last (by simp [membersOf]) hlast

end Tables

end Toml

namespace Config

/-- The members of a JSON object keep their names. -/
lemma map_fst_ofJsonMembers (members : List (String × Json.Value)) :
    (ofJsonMembers members).map (·.1) = Json.Value.namesOf members := by
  induction members with
  | nil => rfl
  | cons m members ih =>
    rw [ofJsonMembers, List.map_cons, ih]
    rfl

/-- No file mentions a name twice. -/
theorem File.nodup_members {file : File} {members : Members} (h : file.members? = some members) :
    (members.map (·.1)).Nodup := by
  rw [File.members?] at h
  split at h
  · obtain ⟨statements, -, hbuild⟩ := Option.bind_eq_some_iff.mp h
    obtain ⟨nodes, hnodes, hmembers⟩ := Option.bind_eq_some_iff.mp hbuild
    cases hmembers
    exact Toml.nodup_build? hnodes
  · rw [readJson?] at h
    split at h
    · rename_i hdecode
      cases h
      rw [map_fst_ofJsonMembers]
      exact Json.Codec.nodup_of_decode hdecode
    · cases h
  · cases h

end Config

end TokenAuthority
