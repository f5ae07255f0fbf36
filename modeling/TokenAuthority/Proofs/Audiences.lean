import Mathlib.Data.List.Nodup
import Mathlib.Data.List.Perm.Basic
import Mathlib.Tactic.Lemma
import TokenAuthority.Proofs.ScopeGrammar
import TokenAuthority.Proofs.ScopeParts

/-!
# Audiences, resources and permissions

The resources of a scope, the audiences of its access tokens and the groups of its permissions are
three readings of the same words, those with a colon in them. What stands before the colon is a
resource; the audiences are the resources, with the server brought to the front where an OpenID
Connect scope is granted; and every resource has a group of permissions.

## Main definitions

* `TokenAuthority.colonWords` — the words of a scope string that have a colon.
* `TokenAuthority.resourceOf` — the part of a word before its first colon.

## Main results

* `TokenAuthority.perm_flatMap_filter` — a list is made up of its parts of every key.
* `TokenAuthority.ResolvedScope.texts_permissions` — the permissions are the words with a colon.
* `TokenAuthority.ResolvedScope.audiences_eq` — the server comes first where it is implied.
* `TokenAuthority.ResolvedScope.group_eq` — the group of a resource.
* `TokenAuthority.ResolvedScope.audiences_agree` — all of this for resolved scopes.
-/

set_option autoImplicit false

namespace TokenAuthority

/-- The words of a scope string that have a colon, in order. -/
def colonWords (s : String) : List String := (words s).filter fun w => ':' ∈ w.toList

/-- The part of a word before its first colon. -/
def resourceOf (w : String) : String := String.ofList (w.toList.takeWhile (· != ':'))

/-- A permission stands on what its word has before the colon. -/
lemma Permission.WrittenAs.resourceOf {p : Permission} {w : String} (h : p.WrittenAs w) :
    TokenAuthority.resourceOf w = p.resource := by
  obtain ⟨-, -, hcolon, -, rfl⟩ := h
  have htoList : (p.resource ++ ":" ++ p.permission).toList =
      p.resource.toList ++ ':' :: p.permission.toList := by simp
  rw [TokenAuthority.resourceOf, htoList, (takeWhile_colon hcolon _).1, String.ofList_toList]

/-! ## Lists in groups -/

/-- The parts of a list of some keys, put one after the other, are the part of all these keys. -/
theorem perm_flatMap_filter {α κ : Type} [DecidableEq κ] (key : α → κ) (xs : List α) {keys : List κ}
    (hkeys : keys.Nodup) :
    (keys.flatMap fun k => xs.filter (key · = k)).Perm (xs.filter (key · ∈ keys)) := by
  induction keys with
  | nil => simp
  | cons k keys ih =>
    obtain ⟨hk, hkeys⟩ := List.nodup_cons.mp hkeys
    have hfirst : (xs.filter (key · ∈ k :: keys)).filter (key · = k) = xs.filter (key · = k) := by
      rw [List.filter_filter]
      refine List.filter_congr fun x _ => ?_
      by_cases hx : key x = k <;> simp [hx]
    have hothers : (xs.filter (key · ∈ k :: keys)).filter (fun x => !decide (key x = k)) =
        xs.filter (key · ∈ keys) := by
      rw [List.filter_filter]
      refine List.filter_congr fun x _ => ?_
      by_cases hx : key x = k
      · simp [hx, hk]
      · simp [hx]
    have hsplit := List.filter_append_perm (fun x => decide (key x = k))
      (xs.filter (key · ∈ k :: keys))
    rw [hfirst, hothers] at hsplit
    exact (List.Perm.append_left _ (ih hkeys)).trans hsplit

namespace ResolvedScope

variable {s : String} {flow : GrantFlow} {settings : Settings} {scope : ResolvedScope}

/-! ## Words with a colon -/

/-- The permissions of a resolved scope are written as its words with a colon. -/
theorem texts_permissions (h : resolve s flow settings = .ok scope) :
    scope.permissions.map Permission.text = colonWords scope.text := by
  rw [map_permissions h, colonWords]
  refine List.filter_congr fun w hw => ?_
  rw [decide_eq_decide]
  constructor
  · rintro ⟨p, -, -, -, -, rfl⟩
    simp
  · intro hcolon
    rw [words_text h] at hw
    obtain ⟨t, ht, rfl⟩ := List.mem_map.mp hw
    rcases ScopeToken.ofText?_isSome_iff.mp (Option.isSome_of_eq_some (ofText?_of_mem h t ht)) with
      hoidc | hpermission | ⟨-, hnone, -⟩
    · obtain ⟨o, ho⟩ := Option.isSome_iff_exists.mp (mem_oidcWords_iff.mp hoidc)
      exact absurd (OidcScope.text_of_ofText? ho ▸ hcolon) o.colon_notMem_text
    · exact hpermission
    · exact absurd hcolon hnone

/-- A permission of a resolved scope is written in its form. -/
lemma writtenAs_of_mem (h : resolve s flow settings = .ok scope) {p : Permission}
    (hp : p ∈ scope.permissions) : p.WrittenAs p.text := by
  obtain ⟨t, ht, htp⟩ := List.mem_filterMap.mp hp
  rw [permission?_of_mem h ht] at htp
  rw [Permission.text_of_ofText? htp]
  exact Permission.ofText?_eq_some_iff.mp htp

/-- The resources of the permissions are what the words with a colon have before it. -/
lemma map_resource (h : resolve s flow settings = .ok scope) :
    scope.permissions.map (·.resource) = (colonWords scope.text).map resourceOf := by
  rw [← texts_permissions h, List.map_map]
  exact List.map_congr_left fun p hp => (writtenAs_of_mem h hp).resourceOf.symm

/-- No permission is granted twice. -/
lemma nodup_permissions (h : resolve s flow settings = .ok scope) : scope.permissions.Nodup :=
  ((map_permissions h).symm ▸ (nodup_words_text h).filter _ :
    (scope.permissions.map Permission.text).Nodup).of_map _

/-! ## Resources and audiences -/

/-- The resources are those of the words with a colon, each at its first place only. -/
theorem resources_eq (h : resolve s flow settings = .ok scope) :
    scope.resources = ((colonWords scope.text).map resourceOf).eraseDups := by
  rw [resources, map_resource h]

/-- No resource is there twice. -/
lemma nodup_resources (scope : ResolvedScope) : scope.resources.Nodup := nodup_eraseDups _

/-- The server is implied as an audience in a grant for a user where some word is an OpenID Connect
scope. -/
lemma impliesUserinfo_iff (h : resolve s flow settings = .ok scope) :
    impliesUserinfo scope.flow scope.tokens = true ↔
      flow ≠ .clientCredentials ∧ ∃ w ∈ words scope.text, w ∈ oidcWords := by
  rw [impliesUserinfo, Bool.and_eq_true, bne_iff_ne, flow_of_resolve h, words_text h,
    List.any_eq_true]
  simp only [List.mem_map, exists_exists_and_eq_and, mem_oidcWords_iff]
  refine and_congr_right fun _ => exists_congr fun t => and_congr_right fun ht => ?_
  rw [oidc?_of_mem h ht]

/-- Where the server is implied as an audience, it is a resource. -/
lemma server_mem_resources (h : resolve s flow settings = .ok scope)
    (hflow : flow ≠ .clientCredentials) (hoidc : ∃ w ∈ words scope.text, w ∈ oidcWords) :
    "authserver" ∈ scope.resources := by
  obtain ⟨w, hw, hoidc⟩ := hoidc
  have huserinfo := scopeClosed_text h hflow ⟨w, hw, mem_oidcWords_iff.mp hoidc⟩
  rw [resources_eq h, List.mem_eraseDups]
  exact List.mem_map_of_mem (f := resourceOf) (List.mem_filter.mpr ⟨huserinfo, rfl⟩)

/-- The audiences are the resources, of which the server comes first where it is implied. -/
theorem audiences_eq (h : resolve s flow settings = .ok scope) :
    scope.audiences =
      if flow ≠ .clientCredentials ∧ ∃ w ∈ words scope.text, w ∈ oidcWords then
        "authserver" :: scope.resources.erase "authserver"
      else scope.resources := by
  have hnodup := scope.nodup_resources
  rw [audiences]
  by_cases himplies : flow ≠ .clientCredentials ∧ ∃ w ∈ words scope.text, w ∈ oidcWords
  · rw [if_pos ((impliesUserinfo_iff h).mpr himplies), if_pos himplies,
      List.eraseDups_cons, hnodup.erase_eq_filter, eraseDups_of_nodup (hnodup.filter _)]
    rfl
  · rw [if_neg (fun hyes => himplies ((impliesUserinfo_iff h).mp hyes)), if_neg himplies]

/-- The audiences are the resources in another order. -/
theorem audiences_perm (h : resolve s flow settings = .ok scope) :
    scope.audiences.Perm scope.resources := by
  rw [audiences_eq h]
  split
  · rename_i himplies
    exact (List.perm_cons_erase (server_mem_resources h himplies.1 himplies.2)).symm
  · exact .refl _

/-! ## Groups of permissions -/

/-- The permissions of a resource, in the order of the scope, none of them twice. -/
theorem group_eq (h : resolve s flow settings = .ok scope) (resource : String) :
    ((scope.permissions.filter (·.resource == resource)).map (·.permission)).eraseDups =
      (scope.permissions.filter (·.resource == resource)).map (·.permission) := by
  refine eraseDups_of_nodup (((nodup_permissions h).filter _).map_on ?_)
  intro p hp q hq heq
  have hp := beq_iff_eq.mp (List.mem_filter.mp hp).2
  have hq := beq_iff_eq.mp (List.mem_filter.mp hq).2
  cases p
  cases q
  simp_all

/-- The group of a resource, written out, is the part of the words with a colon that stand on it. -/
lemma map_group (h : resolve s flow settings = .ok scope) (resource : String) :
    ((scope.permissions.filter (·.resource == resource)).map (·.permission)).map
        (resource ++ ":" ++ ·) =
      (colonWords scope.text).filter (resourceOf · = resource) := by
  rw [← texts_permissions h, List.filter_map, List.map_map]
  have hfilter : scope.permissions.filter (·.resource == resource) =
      scope.permissions.filter ((fun w => decide (resourceOf w = resource)) ∘ Permission.text) := by
    refine List.filter_congr fun p hp => ?_
    rw [Function.comp_apply, (writtenAs_of_mem h hp).resourceOf]
    rfl
  rw [← hfilter]
  refine List.map_congr_left fun p hp => ?_
  have hresource := beq_iff_eq.mp (List.mem_filter.mp hp).2
  rw [Function.comp_apply, ← hresource]
  rfl

/-- A group of permissions belongs to a resource, and it is as many words of the scope. -/
lemma mem_permissionsByAudience (h : resolve s flow settings = .ok scope)
    {group : String × List String} (hgroup : group ∈ scope.permissionsByAudience) :
    group.1 ∈ scope.resources ∧
      group.2.map (group.1 ++ ":" ++ ·) =
        (colonWords scope.text).filter (resourceOf · = group.1) := by
  obtain ⟨resource, hresource, rfl⟩ := List.mem_map.mp hgroup
  exact ⟨hresource, by rw [group_eq h, map_group h]⟩

/-- Every resource has a permission. -/
lemma group_ne_nil (h : resolve s flow settings = .ok scope) {group : String × List String}
    (hgroup : group ∈ scope.permissionsByAudience) : group.2 ≠ [] := by
  obtain ⟨hresource, htexts⟩ := mem_permissionsByAudience h hgroup
  rw [resources_eq h, List.mem_eraseDups, List.mem_map] at hresource
  obtain ⟨w, hw, hof⟩ := hresource
  have hmem : w ∈ (colonWords scope.text).filter (resourceOf · = group.1) :=
    List.mem_filter.mpr ⟨hw, decide_eq_true hof⟩
  intro hempty
  rw [← htexts, hempty] at hmem
  cases hmem

/-- The groups, written out, are the words with a colon. -/
theorem groups_perm (h : resolve s flow settings = .ok scope) :
    (scope.permissionsByAudience.flatMap fun group => group.2.map (group.1 ++ ":" ++ ·)).Perm
      (colonWords scope.text) := by
  have hgroups : (scope.permissionsByAudience.flatMap fun group =>
      group.2.map (group.1 ++ ":" ++ ·)) =
        scope.resources.flatMap fun r => (colonWords scope.text).filter (resourceOf · = r) := by
    rw [permissionsByAudience, List.flatMap_map]
    exact List.flatMap_congr fun r _ => by rw [group_eq h, map_group h]
  have hall : (colonWords scope.text).filter (resourceOf · ∈ scope.resources) =
      colonWords scope.text := by
    refine List.filter_eq_self.mpr fun w hw => decide_eq_true ?_
    rw [resources_eq h, List.mem_eraseDups]
    exact List.mem_map_of_mem hw
  have hpermutes := perm_flatMap_filter resourceOf (colonWords scope.text)
    scope.nodup_resources
  rwa [hall, ← hgroups] at hpermutes

end ResolvedScope

/-! ## The claim -/

namespace Audience

variable {values : List String}

/-- The claim is left out where there is no audience. -/
lemma ofValues?_eq_none_iff : ofValues? values = none ↔ values.length = 0 := by
  rcases values with _ | ⟨a, _ | ⟨b, values⟩⟩ <;> simp [ofValues?]

/-- The claim is a text where there is one audience. -/
lemma ofValues?_eq_single_iff :
    (∃ a, ofValues? values = some (.single a)) ↔ values.length = 1 := by
  rcases values with _ | ⟨a, _ | ⟨b, values⟩⟩ <;> simp [ofValues?]

/-- The claim is a list where there are several audiences. -/
lemma ofValues?_eq_several_iff :
    (∃ as, ofValues? values = some (.several as)) ↔ 2 ≤ values.length := by
  rcases values with _ | ⟨a, _ | ⟨b, values⟩⟩ <;> simp [ofValues?]

/-- The claim names the audiences in their order. -/
lemma values_of_mem_ofValues? {aud : Audience} (h : aud ∈ ofValues? values) :
    aud.values = values := by
  rcases values with _ | ⟨a, _ | ⟨b, values⟩⟩ <;> cases h <;> rfl

end Audience

namespace ResolvedScope

variable {s : String} {flow : GrantFlow} {settings : Settings} {scope : ResolvedScope}

/-- The resources, the audiences and the groups of permissions of a resolved scope describe the same
words, those with a colon.

The resources are what these words have before the colon, each at its first place only. The
audiences are the resources, each once; in a grant for a user where some OpenID Connect scope is
granted, the server is brought to the front. The groups have the resources as their keys, in order;
none of them is empty, none has a permission twice, and each keeps the order of the scope; written
out, they are the words with a colon, each once. And the `aud` claim is left out, a text or a list
where there are no resources, one or several, and names the audiences in their order. -/
theorem audiences_agree (h : resolve s flow settings = .ok scope) :
    (scope.resources = ((colonWords scope.text).map resourceOf).eraseDups ∧
      scope.resources.Nodup) ∧
    (scope.audiences.Perm scope.resources ∧ scope.audiences.Nodup ∧
      scope.audiences =
        if flow ≠ .clientCredentials ∧ ∃ w ∈ words scope.text, w ∈ oidcWords then
          "authserver" :: scope.resources.erase "authserver"
        else scope.resources) ∧
    (scope.permissionsByAudience.map Prod.fst = scope.resources ∧
      (∀ group ∈ scope.permissionsByAudience, group.2 ≠ [] ∧ group.2.Nodup ∧
        group.2.map (group.1 ++ ":" ++ ·) =
          (colonWords scope.text).filter (resourceOf · = group.1)) ∧
      (scope.permissionsByAudience.flatMap fun group => group.2.map (group.1 ++ ":" ++ ·)).Perm
        (colonWords scope.text) ∧
      (colonWords scope.text).Nodup) ∧
    (scope.audience? = none ↔ scope.resources.length = 0) ∧
    ((∃ a, scope.audience? = some (.single a)) ↔ scope.resources.length = 1) ∧
    ((∃ as, scope.audience? = some (.several as)) ↔ 2 ≤ scope.resources.length) ∧
    ∀ aud ∈ scope.audience?, aud.values = scope.audiences := by
  have hperm := audiences_perm h
  have hnodup := scope.nodup_resources
  have hwords : (colonWords scope.text).Nodup := (nodup_words_text h).filter _
  have hlength := hperm.length_eq
  refine ⟨⟨resources_eq h, hnodup⟩, ⟨hperm, hperm.nodup_iff.mpr hnodup, audiences_eq h⟩,
    ⟨?_, fun group hgroup => ?_, groups_perm h, hwords⟩, ?_, ?_, ?_,
    fun aud => Audience.values_of_mem_ofValues?⟩
  · rw [permissionsByAudience, List.map_map]
    exact List.map_id _
  · obtain ⟨-, htexts⟩ := mem_permissionsByAudience h hgroup
    refine ⟨group_ne_nil h hgroup, ?_, htexts⟩
    exact (htexts ▸ hwords.filter _ : (group.2.map (group.1 ++ ":" ++ ·)).Nodup).of_map _
  · rw [audience?, Audience.ofValues?_eq_none_iff, hlength]
  · rw [audience?, Audience.ofValues?_eq_single_iff, hlength]
  · rw [audience?, Audience.ofValues?_eq_several_iff, hlength]

/-- The server is asked for by name, behind another resource, and implied by `email` as well. -/
theorem audiences_agree_server : ∃ scope,
    resolve "orders:read authserver:admin orders:write email" .refresh {} = .ok scope ∧
    colonWords scope.text =
      ["orders:read", "authserver:admin", "orders:write", "authserver:userinfo"] ∧
    scope.resources = ["orders", "authserver"] ∧ scope.audiences = ["authserver", "orders"] ∧
    scope.audiences.Perm scope.resources ∧
    scope.permissionsByAudience =
      [("orders", ["read", "write"]), ("authserver", ["admin", "userinfo"])] ∧
    (scope.permissionsByAudience.flatMap fun group => group.2.map (group.1 ++ ":" ++ ·)).Perm
      (colonWords scope.text) ∧
    ∃ aud ∈ scope.audience?, aud.values = ["authserver", "orders"] := by
  have hresolve : resolve "orders:read authserver:admin orders:write email" .refresh {} =
      .ok ⟨.refresh, [.permission ⟨"orders", "read"⟩, .permission ⟨"authserver", "admin"⟩,
        .permission ⟨"orders", "write"⟩, .oidc .email, .permission userinfoPermission]⟩ := by
    decide +kernel
  obtain ⟨-, ⟨hperm, -⟩, ⟨-, -, hgroups, -⟩, -, -, -, hvalues⟩ := audiences_agree hresolve
  refine ⟨_, hresolve, by decide +kernel, by decide, by decide, hperm, by decide, hgroups,
    .several ["authserver", "orders"], rfl, hvalues _ rfl⟩

end ResolvedScope

end TokenAuthority
