import Mathlib.Data.List.Basic
import Mathlib.Tactic.Lemma
import TokenAuthority.Proofs.ScopeResolution

/-!
# Parts of scopes

Every part of a scope string that is accepted is accepted as well, and grants a part of what the
whole string grants. The permission to call the userinfo endpoint makes no exception: where an
OpenID Connect scope in the part implies it, the same scope implies it in the whole.

## Main results

* `TokenAuthority.ResolvedScope.exists_resolve_of_subset` — a part of an accepted string is
  accepted.
* `TokenAuthority.ResolvedScope.tokens_subset` — what a part grants.
* `TokenAuthority.ResolvedScope.mem_audiences` — the audiences of a scope.
* `TokenAuthority.ResolvedScope.idempotent_monotone` — resolution is idempotent and monotone.
-/

set_option autoImplicit false

namespace TokenAuthority.ResolvedScope

variable {s part : String} {flow : GrantFlow} {settings : Settings} {scope small : ResolvedScope}

/-- A part of an accepted scope string is accepted. -/
theorem exists_resolve_of_subset (h : resolve s flow settings = .ok scope)
    (hpart : words part ⊆ words s) : ∃ small, resolve part flow settings = .ok small :=
  exists_resolve_iff.mpr fun w hw => exists_resolve_iff.mp ⟨scope, h⟩ w (hpart hw)

/-- A part of a scope string grants a part of its words. -/
lemma words_text_mono (h : resolve s flow settings = .ok scope)
    (hsmall : resolve part flow settings = .ok small) (hpart : words part ⊆ words s) :
    words small.text ⊆ words scope.text := by
  intro w hw
  rw [mem_words_text h]
  rcases (mem_words_text hsmall).mp hw with hw | ⟨rfl, hflow, v, hv, hoidc⟩
  · exact .inl (hpart hw)
  · exact .inr ⟨rfl, hflow, v, hpart hv, hoidc⟩

/-- A part of a scope string grants a part of its tokens.

**Proof sketch.** Tokens are read from their texts, so that a token is there where its word is. -/
theorem tokens_subset (h : resolve s flow settings = .ok scope)
    (hsmall : resolve part flow settings = .ok small) (hpart : words part ⊆ words s) :
    small.tokens ⊆ scope.tokens := by
  intro t ht
  have hword : t.text ∈ words scope.text := by
    refine words_text_mono h hsmall hpart ?_
    rw [words_text hsmall]
    exact List.mem_map_of_mem ht
  rw [words_text h] at hword
  obtain ⟨u, hu, htext⟩ := List.mem_map.mp hword
  have hread := ofText?_of_mem hsmall t ht
  rw [← htext, ofText?_of_mem h u hu] at hread
  exact Option.some.inj hread ▸ hu

/-- The audiences of a scope are its resources, and the server where an OpenID Connect scope implies
it. -/
theorem mem_audiences {a : String} :
    a ∈ scope.audiences ↔ a ∈ scope.resources ∨
      (a = serverResource ∧ impliesUserinfo scope.flow scope.tokens = true) := by
  rw [audiences]
  split
  · simp [*, List.mem_eraseDups, or_comm]
  · simp [*]

/-- More tokens imply more. -/
lemma impliesUserinfo_mono {ts us : List ScopeToken} (hsub : ts ⊆ us)
    (h : impliesUserinfo flow ts = true) : impliesUserinfo flow us = true := by
  rw [impliesUserinfo, Bool.and_eq_true, List.any_eq_true] at h ⊢
  obtain ⟨hflow, t, ht, hoidc⟩ := h
  exact ⟨hflow, t, hsub ht, hoidc⟩

/-- More tokens in the same grant have more audiences. -/
lemma audiences_subset (hflow : small.flow = scope.flow) (hsub : small.tokens ⊆ scope.tokens) :
    small.audiences ⊆ scope.audiences := by
  have hresources : small.resources ⊆ scope.resources := by
    intro a ha
    rw [resources, List.mem_eraseDups] at ha ⊢
    exact List.map_subset _ (List.filterMap_subset _ hsub) ha
  intro a ha
  rw [mem_audiences] at ha ⊢
  refine ha.imp (fun ha => hresources ha) fun ⟨hserver, himplies⟩ => ⟨hserver, ?_⟩
  rw [hflow] at himplies
  exact impliesUserinfo_mono hsub himplies

/-- A scope is resolved for the grant that was asked for. -/
lemma flow_of_resolve (h : resolve s flow settings = .ok scope) : scope.flow = flow := by
  obtain ⟨ts, -, h⟩ := bind_ok h
  cases h
  rfl

/-- Resolution is idempotent and monotone. A scope that was resolved, written as a string, is
resolved to itself, and in the other grant for a user to the same string, OpenID Connect scopes,
permissions and audiences. And every string all of whose words are in the one that was resolved is
resolved as well, to a part of its words, OpenID Connect scopes, permissions and audiences. -/
theorem idempotent_monotone (h : resolve s flow settings = .ok scope) :
    resolve scope.text flow settings = .ok scope ∧
    (∀ other, flow ≠ .clientCredentials → other ≠ .clientCredentials →
      ∃ again, resolve scope.text other settings = .ok again ∧ again.text = scope.text ∧
        again.oidcScopes = scope.oidcScopes ∧ again.permissions = scope.permissions ∧
        again.audiences = scope.audiences) ∧
    ∀ part, words part ⊆ words s →
      ∃ small, resolve part flow settings = .ok small ∧
        words small.text ⊆ words scope.text ∧ small.oidcScopes ⊆ scope.oidcScopes ∧
        small.permissions ⊆ scope.permissions ∧ small.audiences ⊆ scope.audiences := by
  have hscope := flow_of_resolve h
  refine ⟨?_, fun other hflow hother => ?_, fun part hpart => ?_⟩
  · rw [resolve_text h Iff.rfl, ← hscope]
  · have himplies :
        impliesUserinfo other scope.tokens = impliesUserinfo scope.flow scope.tokens := by
      rw [impliesUserinfo, impliesUserinfo, hscope, bne_iff_ne.mpr hflow, bne_iff_ne.mpr hother]
    refine ⟨_, resolve_text h (iff_of_false hflow hother), rfl, rfl, rfl, ?_⟩
    simp only [audiences, himplies]
    rfl
  · obtain ⟨small, hsmall⟩ := exists_resolve_of_subset h hpart
    have hsub := tokens_subset h hsmall hpart
    exact ⟨small, hsmall, words_text_mono h hsmall hpart, List.filterMap_subset _ hsub,
      List.filterMap_subset _ hsub,
      audiences_subset ((flow_of_resolve hsmall).trans hscope.symm) hsub⟩

/-- A string with a repetition in it, and a part of it that implies the permission by itself. -/
theorem idempotent_monotone_email : ∃ scope small,
    resolve "orders:read openid email openid" .authorizationCode {} = .ok scope ∧
    scope.text = "orders:read openid email authserver:userinfo" ∧
    resolve scope.text .authorizationCode {} = .ok scope ∧
    (∃ again, resolve scope.text .refresh {} = .ok again ∧ again.audiences = scope.audiences) ∧
    resolve "email" .authorizationCode {} = .ok small ∧ small.text = "email authserver:userinfo" ∧
    small.audiences = ["authserver"] ∧ scope.audiences = ["authserver", "orders"] ∧
    small.audiences ⊆ scope.audiences := by
  have hwords : words "email" ⊆ words "orders:read openid email openid" := by decide
  have hresolve : resolve "orders:read openid email openid" .authorizationCode {} =
    .ok ⟨.authorizationCode, [.permission ⟨"orders", "read"⟩, .oidc .openid, .oidc .email,
      .permission userinfoPermission]⟩ := by rfl
  obtain ⟨hself, hother, hparts⟩ := idempotent_monotone hresolve
  obtain ⟨again, hagain, -, -, -, haudiences⟩ := hother .refresh (by decide) (by decide)
  obtain ⟨small, hsmall, -, -, -, hsubset⟩ := hparts "email" hwords
  refine ⟨_, small, hresolve, by rfl, hself, ⟨again, hagain, haudiences⟩, hsmall, ?_, ?_, by rfl,
    hsubset⟩
  all_goals cases hsmall
  · rfl
  · rfl

end TokenAuthority.ResolvedScope
