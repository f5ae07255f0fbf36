import Mathlib.Data.List.Nodup
import Mathlib.Tactic.Lemma
import TokenAuthority.Proofs.ScopeResolution

/-!
# The grammar of scope strings

Which scope strings are accepted, which word a refused one is refused for, and what an accepted one
grants, said in terms of its words alone: the vocabulary is a list of eight words, a permission is a
word with one colon in it, and an extension is a word that the settings list.

## Main definitions

* `TokenAuthority.oidcWords` — the words of the OpenID Connect scopes.
* `TokenAuthority.IsPermissionWord` — a word with one colon, and something on both sides of it.
* `TokenAuthority.IsScopeWord` — a word that is accepted under a flow and settings.
* `TokenAuthority.grantedWords` — the words that a string grants: its own, each at its first place,
  and the permission to call the userinfo endpoint where it is implied and absent.

## Main results

* `TokenAuthority.ScopeToken.ofText?_isSome_iff` — the words that are tokens are those of the
  grammar.
* `TokenAuthority.ResolvedScope.texts_of_resolve` — the tokens of a resolved scope, as words.
* `TokenAuthority.ResolvedScope.resolve_grammar` — all of this for scope strings.
-/

set_option autoImplicit false

namespace TokenAuthority

/-! ## Kinds of words -/

/-- The words of the OpenID Connect scopes. -/
def oidcWords : List String :=
  ["openid", "profile", "email", "address", "phone", "groups", "attributes", "offline_access"]

/-- The permission is written as the word: its two sides are not empty, and the only colon of the
word stands between them. -/
def Permission.WrittenAs (p : Permission) (w : String) : Prop :=
  p.resource ≠ "" ∧ p.permission ≠ "" ∧ ':' ∉ p.resource.toList ∧ ':' ∉ p.permission.toList ∧
    w = p.resource ++ ":" ++ p.permission

/-- A word with exactly one colon, and something on both sides of it. -/
def IsPermissionWord (w : String) : Prop := ∃ p : Permission, p.WrittenAs w

/-- A word that is accepted: an OpenID Connect scope, a permission, or, in a grant for a user, a
word without a colon that the settings list. -/
def IsScopeWord (flow : GrantFlow) (settings : Settings) (w : String) : Prop :=
  w ∈ oidcWords ∨ IsPermissionWord w ∨
    (flow ≠ .clientCredentials ∧ ':' ∉ w.toList ∧ w ∈ settings.scopeExtensions)

/-- The vocabulary is that of the OpenID Connect scopes. -/
lemma mem_oidcWords_iff {w : String} : w ∈ oidcWords ↔ (OidcScope.ofText? w).isSome = true := by
  have htexts : oidcWords = OidcScope.all.map OidcScope.text := rfl
  rw [htexts, List.mem_map, OidcScope.ofText?, List.find?_isSome]
  simp only [beq_iff_eq]

/-- The part before the first colon of a text that has no colon up to there. -/
lemma takeWhile_colon {before : List Char} (h : ':' ∉ before) (after : List Char) :
    (before ++ ':' :: after).takeWhile (· != ':') = before ∧
      (before ++ ':' :: after).dropWhile (· != ':') = ':' :: after := by
  have hbefore : ∀ c ∈ before, (c != ':') = true := fun c hc =>
    bne_iff_ne.mpr fun heq => h (heq ▸ hc)
  rw [List.takeWhile_append_of_pos hbefore, List.dropWhile_append_of_pos hbefore]
  simp

namespace Permission

variable {w : String} {p : Permission}

/-- A permission is read from the words that it is written as, and from no others. -/
theorem ofText?_eq_some_iff : Permission.ofText? w = some p ↔ p.WrittenAs w := by
  constructor
  · intro h
    have htext := Permission.text_of_ofText? h
    rw [Permission.ofText?] at h
    cases hrest : w.toList.dropWhile (· != ':') with
    | nil => simp [hrest] at h
    | cons c rest =>
      simp only [hrest] at h
      split at h
      · cases h
      · rename_i hsides
        cases h
        simp only [Bool.or_eq_true, List.isEmpty_iff, List.contains_iff_mem, not_or] at hsides
        obtain ⟨⟨hresource, hpermission⟩, hcolon⟩ := hsides
        refine ⟨by simpa using hresource, by simpa using hpermission, ?_, by simpa using hcolon,
          htext.symm⟩
        rw [String.toList_ofList]
        intro hmem
        simpa using List.all_eq_true.mp List.all_takeWhile _ hmem
  · rintro ⟨hresource, hpermission, hbefore, hafter, rfl⟩
    have htoList : (p.resource ++ ":" ++ p.permission).toList =
        p.resource.toList ++ ':' :: p.permission.toList := by simp
    obtain ⟨htake, hdrop⟩ := takeWhile_colon hbefore p.permission.toList
    simp [Permission.ofText?, htoList, htake, hdrop, hresource, hpermission, hafter]

/-- The words of permissions are those that a permission is read from. -/
lemma ofText?_isSome_iff : (Permission.ofText? w).isSome = true ↔ IsPermissionWord w := by
  rw [Option.isSome_iff_exists]
  exact exists_congr fun _ => ofText?_eq_some_iff

end Permission

/-- Whether a word is that of a permission can be tested. -/
instance (w : String) : Decidable (IsPermissionWord w) :=
  decidable_of_iff _ Permission.ofText?_isSome_iff

/-- The word of an OpenID Connect scope has no colon. -/
lemma OidcScope.colon_notMem_text (o : OidcScope) : ':' ∉ o.text.toList := by
  cases o <;> decide

/-- No word is both an OpenID Connect scope and a permission. -/
lemma Permission.ofText?_of_oidc {w : String} {o : OidcScope} (h : OidcScope.ofText? w = some o) :
    Permission.ofText? w = none := by
  cases hp : Permission.ofText? w with
  | none => rfl
  | some p =>
    obtain ⟨-, -, -, -, hw⟩ := Permission.ofText?_eq_some_iff.mp hp
    have hcolon := o.colon_notMem_text
    rw [OidcScope.text_of_ofText? h, hw] at hcolon
    simp at hcolon

namespace ScopeToken

variable {flow : GrantFlow} {settings : Settings} {w : String} {t : ScopeToken}

/-- A word is a token exactly if it is one of the grammar. -/
theorem ofText?_isSome_iff :
    (ScopeToken.ofText? flow settings w).isSome = true ↔ IsScopeWord flow settings w := by
  rw [IsScopeWord, mem_oidcWords_iff, ← Permission.ofText?_isSome_iff, ScopeToken.ofText?]
  cases OidcScope.ofText? w with
  | some o => simp
  | none =>
    cases Permission.ofText? w with
    | some p => simp
    | none =>
      simp [Settings.isScopeExtension]

/-- A token is a permission exactly if its word is one. -/
lemma permission?_of_ofText? (h : ScopeToken.ofText? flow settings w = some t) :
    t.permission? = Permission.ofText? w := by
  rw [ScopeToken.ofText?] at h
  cases hoidc : OidcScope.ofText? w with
  | some o =>
    rw [hoidc] at h
    cases h
    exact (Permission.ofText?_of_oidc hoidc).symm
  | none =>
    cases hpermission : Permission.ofText? w with
    | some p =>
      simp only [hoidc, hpermission] at h
      cases h
      rfl
    | none =>
      simp only [hoidc, hpermission] at h
      split at h
      · cases h
        rfl
      · cases h

end ScopeToken

/-! ## Repetitions -/

/-- Where different elements have different images, repetitions of images are repetitions. -/
lemma map_eraseDups {α β : Type} [BEq α] [LawfulBEq α] [BEq β] [LawfulBEq β] {f : α → β}
    {xs : List α} (h : ∀ x ∈ xs, ∀ y ∈ xs, f x = f y → x = y) :
    xs.eraseDups.map f = (xs.map f).eraseDups := by
  induction xs using List.reverseRecOn with
  | nil => rfl
  | append_singleton xs x ih =>
    have hseen : (xs.map f).contains (f x) = xs.contains x := by
      rw [Bool.eq_iff_iff, List.contains_iff_mem, List.contains_iff_mem, List.mem_map]
      constructor
      · rintro ⟨y, hy, heq⟩
        exact h y (List.mem_append_left _ hy) x (by simp) heq ▸ hy
      · exact fun hx => ⟨x, hx, rfl⟩
    have hih := ih fun y hy z hz =>
      h y (List.mem_append_left _ hy) z (List.mem_append_left _ hz)
    rw [List.map_append, List.map_singleton, eraseDups_concat, eraseDups_concat, hseen]
    split
    · exact hih
    · rw [List.map_append, hih, List.map_singleton]

/-! ## What is granted -/

/-- The words that a scope string grants: its own words, each at its first place only, and behind
them the permission to call the userinfo endpoint, in a grant for a user where some OpenID Connect
scope is there and the permission is not. -/
def grantedWords (flow : GrantFlow) (s : String) : List String :=
  let own := (words s).eraseDups
  if flow ≠ .clientCredentials ∧ (∃ w ∈ own, w ∈ oidcWords) ∧ "authserver:userinfo" ∉ own then
    own ++ ["authserver:userinfo"]
  else own

namespace ResolvedScope

variable {s : String} {flow : GrantFlow} {settings : Settings} {scope : ResolvedScope}
  {ws : List String} {ts : List ScopeToken}

/-- Some token is an OpenID Connect scope exactly if some word is. -/
lemma any_oidc_iff (h : classify flow settings ws = .ok ts) :
    (ts.any fun t => t.oidc?.isSome) = true ↔ ∃ w ∈ ws, w ∈ oidcWords := by
  have htexts : ts.map ScopeToken.oidc? = ws.map OidcScope.ofText? := (classify_ok h).2
  have hany : (∃ o ∈ ts.map ScopeToken.oidc?, o.isSome = true) ↔
      ∃ o ∈ ws.map OidcScope.ofText?, o.isSome = true := by rw [htexts]
  simpa [mem_oidcWords_iff] using hany

/-- The tokens of a resolved scope, as words. -/
theorem texts_of_resolve (h : resolve s flow settings = .ok scope) :
    scope.tokens.map ScopeToken.text = grantedWords flow s := by
  obtain ⟨ts, hts, h⟩ := bind_ok h
  cases h
  have hread := ofText?_of_classify hts
  have htexts : ts.eraseDups.map ScopeToken.text = (words s).eraseDups := by
    rw [map_eraseDups, (classify_ok hts).1]
    intro t ht u hu heq
    have := (hread t ht).symm.trans (heq ▸ hread u hu)
    exact Option.some.inj this
  have hoidc : impliesUserinfo flow ts.eraseDups = true ↔
      flow ≠ .clientCredentials ∧ ∃ w ∈ (words s).eraseDups, w ∈ oidcWords := by
    have hany := any_oidc_iff hts
    simp only [List.any_eq_true] at hany
    simp [impliesUserinfo, List.mem_eraseDups, hany]
  have hthere : ts.eraseDups.contains (.permission userinfoPermission) = true ↔
      "authserver:userinfo" ∈ (words s).eraseDups := by
    rw [List.contains_iff_mem, ← htexts, List.mem_map]
    constructor
    · exact fun hmem => ⟨_, hmem, rfl⟩
    · rintro ⟨t, ht, htext⟩
      have hfrom := hread t (List.mem_eraseDups.mp ht)
      have huserinfo : ScopeToken.ofText? flow settings "authserver:userinfo" =
          some (.permission userinfoPermission) := rfl
      rw [htext, huserinfo] at hfrom
      cases hfrom
      exact ht
  simp only [addUserinfo, grantedWords, Bool.and_eq_true, Bool.not_eq_true', ← Bool.not_eq_true,
    hoidc, hthere, and_assoc]
  split
  · rw [List.map_append, htexts]
    rfl
  · exact htexts

/-- The tokens of a resolved scope are the permissions that their texts are. -/
lemma permission?_of_mem (h : resolve s flow settings = .ok scope) {t : ScopeToken}
    (ht : t ∈ scope.tokens) : t.permission? = Permission.ofText? t.text := by
  obtain ⟨ts, hts, h⟩ := bind_ok h
  cases h
  rcases mem_of_mem_addUserinfo ht with ht | rfl
  · exact ScopeToken.permission?_of_ofText? (ofText?_of_classify hts t (List.mem_eraseDups.mp ht))
  · rfl

/-- The tokens of one kind are written as the words of that kind, in order. -/
lemma map_filterMap_tokens {κ : Type} {kind : ScopeToken → Option κ} {write : κ → String}
    {isKind : String → Bool} (hkind : ∀ t ∈ ts, (kind t).isSome = isKind t.text)
    (hwrite : ∀ t ∈ ts, ∀ k, kind t = some k → write k = t.text) :
    (ts.filterMap kind).map write = (ts.map ScopeToken.text).filter isKind := by
  induction ts with
  | nil => rfl
  | cons t ts ih =>
    rw [List.forall_mem_cons] at hkind hwrite
    have ih := ih hkind.2 hwrite.2
    cases hk : kind t with
    | none =>
      have hno : ¬ isKind t.text = true := by rw [← hkind.1, hk]; nofun
      rw [List.filterMap_cons_none hk, List.map_cons, List.filter_cons_of_neg hno, ih]
    | some k =>
      have hyes : isKind t.text = true := by rw [← hkind.1, hk]; rfl
      rw [List.filterMap_cons_some hk, List.map_cons, List.map_cons, List.filter_cons_of_pos hyes,
        ih, hwrite.1 k hk]

/-- The OpenID Connect scopes of a resolved scope, as words. -/
lemma map_oidcScopes (h : resolve s flow settings = .ok scope) :
    scope.oidcScopes.map OidcScope.text = (words scope.text).filter (· ∈ oidcWords) := by
  rw [words_text h]
  refine map_filterMap_tokens (fun t ht => ?_) fun t ht o ho => ?_
  · rw [oidc?_of_mem h ht, Bool.eq_iff_iff, ← mem_oidcWords_iff, decide_eq_true_eq]
  · exact OidcScope.text_of_ofText? ((oidc?_of_mem h ht).symm.trans ho)

/-- The permissions of a resolved scope, as words. -/
lemma map_permissions (h : resolve s flow settings = .ok scope) :
    scope.permissions.map Permission.text =
      (words scope.text).filter fun w => IsPermissionWord w := by
  rw [words_text h]
  refine map_filterMap_tokens (fun t ht => ?_) fun t ht p hp => ?_
  · rw [permission?_of_mem h ht, Bool.eq_iff_iff, Permission.ofText?_isSome_iff, decide_eq_true_eq]
  · exact Permission.text_of_ofText? ((permission?_of_mem h ht).symm.trans hp)

/-- No word is granted twice. -/
lemma nodup_words_text (h : resolve s flow settings = .ok scope) : (words scope.text).Nodup := by
  rw [words_text h, texts_of_resolve h]
  have hown : (words s).eraseDups.Nodup := nodup_eraseDups _
  rw [grantedWords]
  split
  · rename_i himplied
    exact hown.append (List.nodup_singleton _) (by simpa using himplied.2.2)
  · exact hown

/-- Whether a scope string is accepted, and what it grants, is a matter of its words. It is accepted
exactly if each of them is an OpenID Connect scope, a permission, or, in a grant for a user, an
extension that the settings list. Otherwise it is refused for the first word, in the order of the
string, that is none of these. If it is accepted, then its words, each at its first place only, are
granted in their order, and behind them the permission to call the userinfo endpoint, in a grant for
a user where some OpenID Connect scope is there and the permission is not. The OpenID Connect scopes
and the permissions are the words of the granted string of the one and of the other kind, in order,
and none of them is there twice. -/
theorem resolve_grammar (s : String) (flow : GrantFlow) (settings : Settings) :
    ((∃ scope, resolve s flow settings = .ok scope) ↔
      ∀ w ∈ words s, IsScopeWord flow settings w) ∧
    (∀ e, resolve s flow settings = .error e ↔
      ∃ before w after, words s = before ++ w :: after ∧
        (∀ v ∈ before, IsScopeWord flow settings v) ∧ ¬ IsScopeWord flow settings w ∧
        e = .invalidScope w) ∧
    ∀ scope, resolve s flow settings = .ok scope →
      scope.text = " ".intercalate (grantedWords flow s) ∧
      words scope.text = grantedWords flow s ∧
      (scope.oidcScopes.map OidcScope.text = (words scope.text).filter (· ∈ oidcWords) ∧
        scope.oidcScopes.Nodup) ∧
      scope.permissions.map Permission.text =
          (words scope.text).filter (fun w => IsPermissionWord w) ∧
        scope.permissions.Nodup := by
  refine ⟨?_, fun e => ?_, fun scope h => ?_⟩
  · simp only [exists_resolve_iff, ScopeToken.ofText?_isSome_iff]
  · simp only [← ScopeToken.ofText?_isSome_iff, Option.not_isSome_iff_eq_none,
      ← classify_eq_error_iff, resolve]
    cases classify flow settings (words s) <;> simp [bind, Except.bind, pure, Except.pure]
  · have htexts := texts_of_resolve h
    have hoidc := map_oidcScopes h
    have hpermissions := map_permissions h
    have hnodup := nodup_words_text h
    exact ⟨by rw [text, htexts], (words_text h).trans htexts,
      ⟨hoidc, (hoidc ▸ hnodup.filter _).of_map _⟩,
      hpermissions, (hpermissions ▸ hnodup.filter _).of_map _⟩

end ResolvedScope

end TokenAuthority
