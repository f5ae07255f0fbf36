import Mathlib.Tactic.Lemma
import TokenAuthority.Proofs.ConfigLayers
import TokenAuthority.Proofs.Numerals
import TokenAuthority.Proofs.ScopeExtensions
import TokenAuthority.Settings.Load

/-!
# Extensions from the environment

One variable of the environment holds the extensions that settings list, with single spaces between
them. A variable is first tried as a flag and as a number though, and cut at its spaces only if it
is neither. What has a space in it is neither, so that two extensions or more are read back; a
single one is lost exactly if it looks like a flag or a number.

## Main definitions

* `TokenAuthority.Config.IsScalar` — a text that is read as a flag or a number.
* `TokenAuthority.Config.extensionVariable` — the name of the variable.

## Main results

* `TokenAuthority.Config.variableValue_of_not_isScalar`, `TokenAuthority.Config.texts?_of_isScalar`
  — the value of a variable.
* `TokenAuthority.Config.splitOn_intercalate` — texts that are joined by spaces are read again.
* `TokenAuthority.Settings.load_extensions` — extensions that are read back.
-/

set_option autoImplicit false

namespace TokenAuthority

namespace Config

/-! ## Values of variables -/

/-- A text that is read as a flag or as a number. -/
def IsScalar (s : String) : Prop := Value.lowered s ∈ ["true", "false"] ∨ IsNumeral s.toList

/-- The variable that holds extensions. -/
def extensionVariable : String := "AUTHSERVER__OIDC_SCOPE_EXTENSIONS"

/-- A text with a space in it is neither a flag nor a number. -/
lemma not_isScalar_of_space {s : String} (h : ' ' ∈ s.toList) : ¬ IsScalar s := by
  rintro (hflag | hnumeral)
  · have hwords : ∀ word ∈ ["true", "false"], ' ' ∉ word.toList := by decide
    exact hwords _ hflag (space_mem_lower h)
  · exact hnumeral.space_notMem h

/-- A variable whose text is neither a flag nor a number is cut at its spaces if its key holds a
list. -/
lemma variableValue_of_not_isScalar {key s : String} (h : ¬ IsScalar s) :
    variableValue key s =
      if listKeys.contains key then
        .list ((s.toList.splitOn ' ').map fun part => .text (String.ofList part))
      else .text s := by
  obtain ⟨hflag, hnumeral⟩ := not_or.mp h
  obtain ⟨htrue, hfalse⟩ : Value.lowered s ≠ "true" ∧ Value.lowered s ≠ "false" := by
    simpa using hflag
  have hword : word? s.toList = none := by
    rw [← Option.not_isSome_iff_eq_none]
    exact fun hsome => hnumeral (isNumeral_of_word? hsome)
  have hdouble : Extended.ofText? s.toList = none := by
    rw [← Option.not_isSome_iff_eq_none, Extended.ofText?_isSome_iff]
    exact hnumeral
  rw [Value.lowered] at htrue hfalse
  simp only [variableValue, hword, hdouble, beq_eq_false_iff_ne.mpr htrue,
    beq_eq_false_iff_ne.mpr hfalse, Bool.false_eq_true, if_false]

/-- A variable whose text is a flag or a number holds no list. -/
lemma texts?_of_isScalar {key s : String} (h : IsScalar s) :
    (variableValue key s).texts? = none := by
  simp only [variableValue]
  split
  · rfl
  · rename_i htrue
    split
    · rfl
    · rename_i hfalse
      have hnumeral : IsNumeral s.toList := by
        refine h.resolve_left fun hflag => ?_
        obtain hflag | hflag : Value.lowered s = "true" ∨ Value.lowered s = "false" := by
          simpa using hflag
        · exact htrue (beq_iff_eq.mpr hflag)
        · exact hfalse (beq_iff_eq.mpr hflag)
      obtain ⟨x, hx⟩ := Option.isSome_iff_exists.mp (Extended.ofText?_isSome_iff.mpr hnumeral)
      cases word? s.toList with
      | some n => rfl
      | none => rw [hx]; rfl

/-- A list of texts is converted to these texts. -/
lemma texts?_list (parts : List (List Char)) :
    (Value.list (parts.map fun part => .text (String.ofList part))).texts? =
      some (parts.map String.ofList) := by
  rw [Value.texts?, List.mapM_map]
  exact List.mapM_pure

/-! ## Cutting at spaces -/

/-- Texts without spaces that are joined by spaces are read again. -/
theorem splitOn_intercalate {ts : List String} (hts : ∀ t ∈ ts, ' ' ∉ t.toList) (hne : ts ≠ []) :
    ((" ".intercalate ts).toList.splitOn ' ').map String.ofList = ts := by
  have hsplit : ([' '].intercalate (ts.map String.toList)).splitOn ' ' = ts.map String.toList :=
    List.splitOn_intercalate ' ' (by simpa using hts) (by simpa using hne)
  have hspace : " ".toList = [' '] := rfl
  rw [String.toList_intercalate, hspace, hsplit]
  simp

/-! ## Environments -/

/-- Variables of other programs do not matter. -/
lemma environmentLayer_filter (env : List (String × String)) :
    environmentLayer (env.filter fun v => (variableKey? v.1).isSome) = environmentLayer env := by
  induction env using List.reverseRecOn with
  | nil => rfl
  | append_singleton env v ih =>
    rw [List.filter_append, environmentLayer_concat]
    cases hvar : variableKey? v.1 with
    | none => simp [hvar, ih]
    | some key => simp [hvar, environmentLayer_concat, ih]

/-- The members that an environment sets in which there is no variable but that of extensions. -/
lemma overlay_of_only {env : List (String × String)} {s : String}
    (honly : env.filter (fun v => (variableKey? v.1).isSome) = [(extensionVariable, s)]) :
    overlay [] (environmentLayer env) =
      [("oidc_scope_extensions", variableValue "oidc_scope_extensions" s)] := by
  have hkey : variableKey? extensionVariable = some "oidc_scope_extensions" := by decide
  have hpath : Path.ofKey "oidc_scope_extensions" = ⟨"oidc_scope_extensions", []⟩ := by decide
  have hlayer : environmentLayer env =
      [("oidc_scope_extensions", variableValue "oidc_scope_extensions" s)] := by
    rw [← environmentLayer_filter, honly]
    simp [environmentLayer, hkey, update]
  rw [hlayer]
  simp [overlay, assign, hpath, update, Value.updateAt, merge_variableValue]

end Config

namespace Settings

open Config (extensionVariable IsScalar variableKey? variableValue)

variable {extensions : List String} {env : List (String × String)}

/-- Settings of which only the extensions are mentioned. -/
lemma ofMembers?_extensions (v : Config.Value) :
    ofMembers? [("oidc_scope_extensions", v)] =
      v.texts?.map fun extensions => { scopeExtensions := extensions } := by
  cases htexts : v.texts? with
  | none => simp [ofMembers?, setting, Config.lookup, htexts]
  | some extensions => simp [ofMembers?, setting, Config.lookup, htexts]

/-- Settings without a file. -/
lemma load_none (env : List (String × String)) :
    load none env =
      match ofMembers? (Config.overlay [] (Config.environmentLayer env)) with
      | none => .error .mistyped
      | some settings =>
        match settings.fault? with
        | none => .ok settings
        | some fault => .error (.invalid fault) := rfl

/-- A flag or a number is refused as a list of extensions. -/
lemma load_of_isScalar {s : String} (h : IsScalar s)
    (honly : env.filter (fun v => (variableKey? v.1).isSome) = [(extensionVariable, s)]) :
    load none env = .error .mistyped := by
  rw [load_none, Config.overlay_of_only honly, ofMembers?_extensions, Config.texts?_of_isScalar h]
  rfl

/-- Words without a colon that are joined by single spaces are read back unless the whole text is a
flag or a number. -/
lemma load_of_not_isScalar (hne : extensions ≠ [])
    (hextensions : ∀ e ∈ extensions, IsWord e ∧ ':' ∉ e.toList)
    (h : ¬ IsScalar (" ".intercalate extensions))
    (honly : env.filter (fun v => (variableKey? v.1).isSome) =
      [(extensionVariable, " ".intercalate extensions)]) :
    load none env = .ok { scopeExtensions := extensions } := by
  have hspace : ∀ e ∈ extensions, ' ' ∉ e.toList := fun e he hmem =>
    absurd ((hextensions e he).1.2 ' ' hmem) (by decide)
  have hread : (variableValue "oidc_scope_extensions" (" ".intercalate extensions)).texts? =
      some extensions := by
    have hlist : Config.listKeys.contains "oidc_scope_extensions" = true := by decide
    rw [Config.variableValue_of_not_isScalar h, if_pos hlist, Config.texts?_list,
      Config.splitOn_intercalate hspace hne]
  have hvalid := fault?_extensions fun e he => ⟨(hextensions e he).1.1, (hextensions e he).2⟩
  rw [load_none, Config.overlay_of_only honly, ofMembers?_extensions, hread, Option.map_some]
  simp only [hvalid]

/-- Words without a colon that are joined by single spaces are the extensions of the settings that
the variable yields, if there are two words or more, or one that is neither a flag nor a number. All
else is left at its default then. One word that is a flag or a number is refused as a list. -/
theorem load_extensions (hne : extensions ≠ [])
    (hextensions : ∀ e ∈ extensions, IsWord e ∧ ':' ∉ e.toList)
    (honly : env.filter (fun v => (variableKey? v.1).isSome) =
      [(extensionVariable, " ".intercalate extensions)]) :
    (load none env = .ok { scopeExtensions := extensions } ↔
      ∀ e, extensions = [e] → ¬ IsScalar e) ∧
    ∀ e, extensions = [e] → IsScalar e → load none env = .error .mistyped := by
  have hrefused (e : String) (hsingle : extensions = [e]) (hscalar : IsScalar e) :
      load none env = .error .mistyped := by
    subst hsingle
    exact load_of_isScalar hscalar (by rwa [String.intercalate_singleton] at honly)
  refine ⟨⟨fun h e hsingle hscalar => ?_, fun h => ?_⟩, hrefused⟩
  · cases h.symm.trans (hrefused e hsingle hscalar)
  · refine load_of_not_isScalar hne hextensions ?_ honly
    match extensions, hne with
    | [e], _ =>
      rw [String.intercalate_singleton]
      exact h e rfl
    | e :: e' :: rest, _ =>
      refine Config.not_isScalar_of_space ?_
      rw [String.intercalate_cons_cons]
      simp

/-- Two extensions are read back, and one that looks like a number is not. -/
theorem load_extensions_numbers :
    load none [("PATH", "/usr/bin"), (extensionVariable, "roles 42")] =
      .ok { scopeExtensions := ["roles", "42"] } ∧
    load none [(extensionVariable, "42")] = .error .mistyped := by
  have htwo : ∀ e ∈ ["roles", "42"], IsWord e ∧ ':' ∉ e.toList := by simp [IsWord, isBlank]
  have hone : ∀ e ∈ ["42"], IsWord e ∧ ':' ∉ e.toList := by simp [IsWord, isBlank]
  have hnumber : IsScalar "42" := .inr (isNumeral_of_word? (by decide))
  exact ⟨(load_extensions (by simp) htwo rfl).1.mpr (by simp),
    (load_extensions (by simp) hone rfl).2 "42" rfl hnumber⟩

/-- It is not so that words without a colon are read back whatever they are. -/
theorem not_forall_load_extensions :
    ¬ ∀ extensions : List String, extensions ≠ [] →
      (∀ e ∈ extensions, IsWord e ∧ ':' ∉ e.toList) →
      load none [(extensionVariable, " ".intercalate extensions)] =
        .ok { scopeExtensions := extensions } := by
  intro hall
  have hnumber : IsScalar "42" := .inr (isNumeral_of_word? (by decide))
  have hloaded := hall ["42"] (by simp) (by simp [IsWord, isBlank])
  cases hloaded.symm.trans (load_of_isScalar hnumber rfl)

end Settings

end TokenAuthority
