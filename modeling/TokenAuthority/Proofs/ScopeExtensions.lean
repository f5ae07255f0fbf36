import Mathlib.Tactic.Lemma
import TokenAuthority.Proofs.ScopeGrammar
import TokenAuthority.Proofs.ScopeParts
import TokenAuthority.Settings.Validation

/-!
# Extensions of the vocabulary

Settings list words beside the vocabulary that a user may ask for. Valid settings do not list the
empty text or a text with a colon, since neither could be such a word. They may list a text with
white space in it though, which is cut into several words wherever it is asked for, so that no scope
ever has it.

## Main definitions

* `TokenAuthority.Settings.Tolerates` — every scope that a user may ask for can be asked for
  together with the extension.

## Main results

* `TokenAuthority.Settings.extension_spec`, `TokenAuthority.Settings.fault?_extensions` — what the
  extensions of valid settings look like.
* `TokenAuthority.ResolvedScope.not_blank_of_mem_text` — a scope has no white space within its
  tokens.
* `TokenAuthority.Settings.tolerates_iff_not_blank` — an extension can be asked for exactly if there
  is no white space in it.
-/

set_option autoImplicit false

namespace TokenAuthority

open ResolvedScope (resolve)

namespace Settings

variable {settings : Settings} {extension : String} {extensions : List String}

/-- Every scope string that is accepted in a grant for a user is accepted as well with the extension
behind it, and the extension is then one of the tokens of the scope. -/
def Tolerates (settings : Settings) (extension : String) : Prop :=
  ∀ flow ≠ GrantFlow.clientCredentials, ∀ s scope, resolve s flow settings = .ok scope →
    ∃ more, resolve (s ++ " " ++ extension) flow settings = .ok more ∧ extension ∈ words more.text

/-- An extension of valid settings is not empty, has no colon, and is found in them. -/
lemma extension_spec (hvalid : settings.isValid = true)
    (hlisted : extension ∈ settings.scopeExtensions) :
    extension ≠ "" ∧ ':' ∉ extension.toList ∧ settings.isScopeExtension extension = true := by
  have hnone : extensionFault? extension = none := (isValid_iff.mp hvalid).2.2 extension hlisted
  obtain ⟨hempty, hcolon⟩ : extension ≠ "" ∧ ':' ∉ extension.toList := by
    simpa [extensionFault?] using hnone
  exact ⟨hempty, hcolon, by simp [isScopeExtension, hcolon, hlisted]⟩

/-- Settings that have their defaults but for such extensions are valid. -/
lemma fault?_extensions (h : ∀ e ∈ extensions, e ≠ "" ∧ ':' ∉ e.toList) :
    ({ scopeExtensions := extensions } : Settings).fault? = none := by
  have hdefault : ({} : Settings).fault? = none := by decide +kernel
  have hextensions : extensions.findSome? extensionFault? = none :=
    List.findSome?_eq_none_iff.mpr fun e he => by simp [extensionFault?, h e he]
  rw [fault?, Option.or_eq_none_iff] at hdefault
  rw [fault?, Option.or_eq_none_iff]
  exact ⟨hdefault.1, hextensions⟩

end Settings

namespace ResolvedScope

variable {s t : String} {flow : GrantFlow} {settings : Settings} {scope : ResolvedScope}

/-- A scope has no white space within its tokens. -/
lemma not_blank_of_mem_text {w : String} (hw : w ∈ words scope.text) :
    ∀ c ∈ w.toList, isBlank c = false := (isWord_of_mem_words hw).2

/-- What is accepted behind an accepted scope string is accepted together with it. -/
lemma exists_resolve_append (h : resolve s flow settings = .ok scope)
    (ht : ∀ w ∈ words t, IsScopeWord flow settings w) :
    ∃ more, resolve (s ++ " " ++ t) flow settings = .ok more ∧ words t ⊆ words more.text := by
  have haccepted : ∃ more, resolve (s ++ " " ++ t) flow settings = .ok more := by
    rw [exists_resolve_iff, words_append_space]
    refine List.forall_mem_append.mpr ⟨exists_resolve_iff.mp ⟨scope, h⟩, fun w hw => ?_⟩
    exact ScopeToken.ofText?_isSome_iff.mpr (ht w hw)
  obtain ⟨more, hmore⟩ := haccepted
  refine ⟨more, hmore, fun w hw => (mem_words_text hmore).mpr (.inl ?_)⟩
  exact words_append_space s t ▸ List.mem_append_right _ hw

end ResolvedScope

namespace Settings

variable {settings : Settings} {extension : String}

/-- An extension that valid settings list is found in them. It can be asked for together with every
scope that a user may ask for exactly if there is no white space in it; otherwise no scope ever has
it. -/
theorem tolerates_iff_not_blank (hvalid : settings.isValid = true)
    (hlisted : extension ∈ settings.scopeExtensions) :
    settings.isScopeExtension extension = true ∧
    (settings.Tolerates extension ↔ ∀ c ∈ extension.toList, isBlank c = false) ∧
    ((∃ c ∈ extension.toList, isBlank c = true) →
      ∀ s flow scope, resolve s flow settings = .ok scope → extension ∉ words scope.text) := by
  obtain ⟨hempty, hcolon, hfound⟩ := extension_spec hvalid hlisted
  refine ⟨hfound, ⟨fun htolerates => ?_, fun hblank flow hflow s scope h => ?_⟩, ?_⟩
  · -- The empty scope string is accepted, and so is the extension behind it.
    obtain ⟨more, -, hmem⟩ := htolerates .authorizationCode (by decide) "" _ rfl
    exact ResolvedScope.not_blank_of_mem_text hmem
  · have hwords : words extension = [extension] := words_of_isWord ⟨hempty, hblank⟩
    have haccepted : ∀ w ∈ words extension, IsScopeWord flow settings w := by
      rw [hwords, List.forall_mem_singleton]
      exact .inr (.inr ⟨hflow, hcolon, hlisted⟩)
    obtain ⟨more, hmore, hsub⟩ := ResolvedScope.exists_resolve_append h haccepted
    exact ⟨more, hmore, hsub (hwords ▸ List.mem_singleton_self _)⟩
  · rintro ⟨c, hc, hblank⟩ s flow scope - hmem
    rw [ResolvedScope.not_blank_of_mem_text hmem c hc] at hblank
    cases hblank

end Settings

namespace Sample

/-- Settings that list an extension, and a text that is none. -/
def extended : Settings := { scopeExtensions := ["roles", "roles audit"] }

/-- The settings of the sample are valid. -/
lemma isValid_extended : extended.isValid = true :=
  Option.isNone_iff_eq_none.mpr (Settings.fault?_extensions (by simp))

/-- The extension of the sample can be asked for; the text with a space in it cannot. -/
theorem tolerates_extended :
    extended.Tolerates "roles" ∧ ¬ extended.Tolerates "roles audit" := by
  have hword : "roles" ∈ extended.scopeExtensions := by decide
  have hspaced : "roles audit" ∈ extended.scopeExtensions := by decide
  have hroles : ∀ c ∈ "roles".toList, isBlank c = false := by simp [isBlank]
  refine ⟨(Settings.tolerates_iff_not_blank isValid_extended hword).2.1.mpr hroles, fun h => ?_⟩
  have hblank := (Settings.tolerates_iff_not_blank isValid_extended hspaced).2.1.mp h
  exact absurd (hblank ' ' (by decide)) (by decide)

/-- It is not so that every extension of valid settings can be asked for. -/
theorem not_forall_tolerated :
    ¬ ∀ (settings : Settings) (extension : String), settings.isValid = true →
      extension ∈ settings.scopeExtensions →
        settings.isScopeExtension extension = true ∧ settings.Tolerates extension := by
  intro hall
  obtain ⟨-, htolerates⟩ := hall extended "roles audit" isValid_extended (by decide)
  obtain ⟨more, -, hmem⟩ := htolerates .authorizationCode (by decide) "openid" _ rfl
  exact absurd (ResolvedScope.not_blank_of_mem_text hmem ' ' (by decide)) (by decide)

end Sample

end TokenAuthority
