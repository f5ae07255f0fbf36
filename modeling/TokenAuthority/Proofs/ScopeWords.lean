import Mathlib.Data.List.Basic
import Mathlib.Data.List.Forall2
import Mathlib.Tactic.Lemma
import TokenAuthority.Grant.Issue
import TokenAuthority.Proofs.GrantPlan
import TokenAuthority.Proofs.Words

/-!
# Words of resolved scopes

A resolved scope, written as a string, has the words of the string that it was resolved from, and
beside them the permission to call the userinfo endpoint, where an OpenID Connect scope implies it.
Such a string can be resolved again without growing, and so can every part of it.

## Main definitions

* `TokenAuthority.NamesOidc` — a scope string with an OpenID Connect scope in it.
* `TokenAuthority.ScopeClosed` — a scope string that has the permission if it has such a scope.

## Main results

* `TokenAuthority.ScopeToken.of_ofText?` — a token is written as it was read.
* `TokenAuthority.ResolvedScope.classify_eq_ok_iff`,
  `TokenAuthority.ResolvedScope.classify_eq_error_iff` — the tokens that words are classified as,
  and the word that they are refused for.
* `TokenAuthority.ResolvedScope.words_text`, `TokenAuthority.ResolvedScope.mem_words_text` — the
  words of a resolved scope.
* `TokenAuthority.ResolvedScope.has_iff` — its OpenID Connect scopes.
* `TokenAuthority.ResolvedScope.scopeClosed_text` — a scope that is resolved for a user is closed.
* `TokenAuthority.ResolvedScope.words_text_subset` — resolving a part of a closed string does not
  add to it.
-/

set_option autoImplicit false

namespace TokenAuthority

/-! ## Tokens -/

/-- An OpenID Connect scope is written as it was read. -/
lemma OidcScope.text_of_ofText? {w : String} {s : OidcScope} (h : OidcScope.ofText? w = some s) :
    s.text = w := by
  have := List.find?_some h
  exact beq_iff_eq.mp this

/-- A word is an OpenID Connect scope exactly if it is the token of one. -/
lemma OidcScope.ofText?_eq_some_iff {w : String} {s : OidcScope} :
    OidcScope.ofText? w = some s ↔ s.text = w := by
  constructor
  · exact OidcScope.text_of_ofText?
  · rintro rfl
    cases s <;> decide

/-- A permission is written as it was read. -/
lemma Permission.text_of_ofText? {w : String} {p : Permission}
    (h : Permission.ofText? w = some p) : p.text = w := by
  simp only [Permission.ofText?] at h
  cases hrest : w.toList.dropWhile (· != ':') with
  | nil => simp [hrest] at h
  | cons c rest =>
    have hne : w.toList.dropWhile (· != ':') ≠ [] := by simp [hrest]
    have hc : c = ':' := by simpa [hrest] using List.head_dropWhile_not _ hne
    have hsplit : w.toList.takeWhile (· != ':') ++ ':' :: rest = w.toList := by
      have := List.takeWhile_append_dropWhile (p := (· != ':')) (l := w.toList)
      rwa [hrest, hc] at this
    simp only [hrest] at h
    split at h
    · cases h
    · cases h
      rw [← String.toList_inj]
      refine Eq.trans ?_ hsplit
      simp [Permission.text]

namespace ScopeToken

variable {flow : GrantFlow} {settings : Settings} {w : String} {t : ScopeToken}

/-- A token is written as it was read, and it is an OpenID Connect scope exactly if its word is
one. -/
theorem of_ofText? (h : ScopeToken.ofText? flow settings w = some t) :
    t.text = w ∧ t.oidc? = OidcScope.ofText? w := by
  rw [ScopeToken.ofText?] at h
  cases hoidc : OidcScope.ofText? w with
  | some s =>
    rw [hoidc] at h
    cases h
    exact ⟨OidcScope.text_of_ofText? hoidc, rfl⟩
  | none =>
    cases hpermission : Permission.ofText? w with
    | some p =>
      simp only [hoidc, hpermission] at h
      cases h
      exact ⟨Permission.text_of_ofText? hpermission, rfl⟩
    | none =>
      simp only [hoidc, hpermission] at h
      split at h
      · cases h
        exact ⟨rfl, rfl⟩
      · cases h

end ScopeToken

/-! ## Resolution -/

/-- A scope string with an OpenID Connect scope in it. -/
def NamesOidc (s : String) : Prop := ∃ w ∈ words s, (OidcScope.ofText? w).isSome = true

/-- A scope string that has the permission to call the userinfo endpoint if it has an OpenID Connect
scope. -/
def ScopeClosed (s : String) : Prop := NamesOidc s → userinfoPermission.text ∈ words s

namespace ResolvedScope

variable {s : String} {flow : GrantFlow} {settings : Settings} {scope : ResolvedScope}
  {ws : List String} {ts : List ScopeToken}

/-- Words are classified as tokens exactly if each of them is read as the token in its place. -/
theorem classify_eq_ok_iff :
    classify flow settings ws = .ok ts ↔
      List.Forall₂ (fun w t => ScopeToken.ofText? flow settings w = some t) ws ts := by
  induction ws generalizing ts with
  | nil => simp [classify, eq_comm]
  | cons w ws ih =>
    rw [classify, List.forall₂_cons_left_iff]
    simp only [← ih]
    cases ScopeToken.ofText? flow settings w with
    | none => simp
    | some t => cases classify flow settings ws <;> simp [Except.map, eq_comm]

/-- Words are refused for the first one that is no token. -/
theorem classify_eq_error_iff {e : AuthError} :
    classify flow settings ws = .error e ↔
      ∃ before w after, ws = before ++ w :: after ∧
        (∀ v ∈ before, (ScopeToken.ofText? flow settings v).isSome = true) ∧
        ScopeToken.ofText? flow settings w = none ∧ e = .invalidScope w := by
  induction ws with
  | nil => simp [classify]
  | cons w ws ih =>
    rw [classify]
    cases ht : ScopeToken.ofText? flow settings w with
    | none =>
      -- The first word is no token, so nothing stands before the word that is refused.
      constructor
      · intro he
        cases he
        exact ⟨[], w, ws, rfl, List.forall_mem_nil _, ht, rfl⟩
      · rintro ⟨before, v, after, hsplit, hbefore, -, rfl⟩
        cases before with
        | nil => cases hsplit; rfl
        | cons u before =>
          cases hsplit
          simp [ht] at hbefore
    | some t =>
      have hrest : (classify flow settings ws).map (t :: ·) = .error e ↔
          classify flow settings ws = .error e := by
        cases classify flow settings ws <;> simp [Except.map]
      rw [hrest, ih]
      constructor
      · rintro ⟨before, v, after, rfl, hbefore, hv⟩
        exact ⟨w :: before, v, after, rfl, List.forall_mem_cons.mpr ⟨Option.isSome_of_eq_some ht, hbefore⟩,
          hv⟩
      · rintro ⟨before, v, after, hsplit, hbefore, hv, he⟩
        cases before with
        | nil => cases hsplit; simp [ht] at hv
        | cons u before =>
          cases hsplit
          exact ⟨before, v, after, rfl, (List.forall_mem_cons.mp hbefore).2, hv, he⟩

/-- Words are classified exactly if each of them is a token. -/
lemma exists_classify_iff :
    (∃ ts, classify flow settings ws = .ok ts) ↔
      ∀ w ∈ ws, (ScopeToken.ofText? flow settings w).isSome = true := by
  constructor
  · rintro ⟨ts, h⟩
    have hread : List.Forall₂ (fun w t => (ScopeToken.ofText? flow settings w).isSome = true ∧
        ScopeToken.ofText? flow settings w = some t) ws ts :=
      (classify_eq_ok_iff.mp h).imp fun _ _ ht => ⟨Option.isSome_of_eq_some ht, ht⟩
    exact ((List.forall₂_and_left _ _).mp hread).1
  · intro hall
    cases h : classify flow settings ws with
    | ok ts => exact ⟨ts, rfl⟩
    | error e =>
      obtain ⟨before, w, after, rfl, -, hw, -⟩ := classify_eq_error_iff.mp h
      have hknown := hall w (List.mem_append_right _ List.mem_cons_self)
      simp [hw] at hknown

/-- A scope string is accepted exactly if each of its words is a token. -/
lemma exists_resolve_iff :
    (∃ scope, resolve s flow settings = .ok scope) ↔
      ∀ w ∈ words s, (ScopeToken.ofText? flow settings w).isSome = true := by
  rw [← exists_classify_iff]
  constructor
  · rintro ⟨scope, h⟩
    obtain ⟨ts, hts, -⟩ := bind_ok h
    exact ⟨ts, hts⟩
  · rintro ⟨ts, hts⟩
    exact ⟨⟨flow, addUserinfo flow ts.eraseDups⟩, by rw [resolve, hts]; rfl⟩

/-- The tokens of words are written as the words, and they are the same OpenID Connect scopes. -/
lemma classify_ok (h : classify flow settings ws = .ok ts) :
    ts.map ScopeToken.text = ws ∧ ts.map ScopeToken.oidc? = ws.map OidcScope.ofText? := by
  have hread := classify_eq_ok_iff.mp h
  simp only [← List.forall₂_eq_eq_eq, List.forall₂_map_left_iff, List.forall₂_map_right_iff]
  exact ⟨(hread.imp fun _ _ ht => (ScopeToken.of_ofText? ht).1).flip,
    (hread.imp fun _ _ ht => (ScopeToken.of_ofText? ht).2).flip⟩

/-- A token that is there after the permission has been added was there before, or it is the
permission. -/
lemma mem_of_mem_addUserinfo {t : ScopeToken}
    (ht : t ∈ addUserinfo flow ts) : t ∈ ts ∨ t = .permission userinfoPermission := by
  simp only [addUserinfo] at ht
  split at ht
  · simpa using ht
  · exact .inl ht

/-- The tokens with the permission that they imply. -/
lemma mem_addUserinfo {w : String} :
    w ∈ (addUserinfo flow ts).map ScopeToken.text ↔
      w ∈ ts.map ScopeToken.text ∨
        (w = userinfoPermission.text ∧ impliesUserinfo flow ts = true) := by
  rw [addUserinfo]
  cases himplies : impliesUserinfo flow ts with
  | false => simp
  | true =>
    cases hthere : ts.contains (.permission userinfoPermission) with
    | true =>
      have hmem : userinfoPermission.text ∈ ts.map ScopeToken.text :=
        List.mem_map.mpr ⟨_, List.contains_iff_mem.mp hthere, rfl⟩
      simp only [Bool.not_true, Bool.and_false, and_true]
      constructor
      · exact .inl
      · rintro (h | rfl)
        · exact h
        · exact hmem
    | false => simp [ScopeToken.text]

/-- The tokens of a scope are those of the words of the string, and the permission to call the
userinfo endpoint where it is implied. -/
lemma mem_texts (h : resolve s flow settings = .ok scope) {w : String} :
    w ∈ scope.tokens.map ScopeToken.text ↔ w ∈ words s ∨
      (w = userinfoPermission.text ∧ flow ≠ .clientCredentials ∧ NamesOidc s) := by
  obtain ⟨ts, hts, h⟩ := bind_ok h
  cases h
  obtain ⟨htext, hoidc⟩ := classify_ok hts
  have himplies : impliesUserinfo flow ts.eraseDups = true ↔
      flow ≠ .clientCredentials ∧ NamesOidc s := by
    have hany : (∃ t ∈ ts, t.oidc?.isSome = true) ↔ NamesOidc s := by
      have : (∃ o ∈ ts.map ScopeToken.oidc?, o.isSome = true) ↔
          ∃ o ∈ (words s).map OidcScope.ofText?, o.isSome = true := by rw [hoidc]
      simpa [NamesOidc] using this
    simp [impliesUserinfo, List.mem_eraseDups, ← hany]
  rw [mem_addUserinfo, himplies]
  refine or_congr_left ?_
  rw [← htext]
  simp [List.mem_eraseDups]

/-- The tokens of a scope are the OpenID Connect scopes that their texts are. -/
lemma oidc?_of_mem (h : resolve s flow settings = .ok scope) {t : ScopeToken}
    (ht : t ∈ scope.tokens) : t.oidc? = OidcScope.ofText? t.text := by
  obtain ⟨ts, hts, h⟩ := bind_ok h
  cases h
  have hread : ∀ t ∈ ts, t.oidc? = OidcScope.ofText? t.text := by
    obtain ⟨htext, hoidc⟩ := classify_ok hts
    rw [← htext, List.map_map] at hoidc
    exact List.map_inj_left.mp hoidc
  rcases mem_of_mem_addUserinfo ht with ht | rfl
  · exact hread t (List.mem_eraseDups.mp ht)
  · decide

/-- A scope has an OpenID Connect scope exactly if the string that it was resolved from does. -/
theorem has_iff (h : resolve s flow settings = .ok scope) {o : OidcScope} :
    scope.has o = true ↔ o.text ∈ words s := by
  have hother : o.text ≠ userinfoPermission.text := by cases o <;> decide
  have htoken : scope.has o = true ↔ o.text ∈ scope.tokens.map ScopeToken.text := by
    simp only [has, oidcScopes, List.contains_iff_mem, List.mem_filterMap, List.mem_map]
    refine exists_congr fun t => and_congr_right fun ht => ?_
    rw [oidc?_of_mem h ht, OidcScope.ofText?_eq_some_iff]
    exact eq_comm
  rw [htoken, mem_texts h]
  simp [hother]

/-- The permission to call the userinfo endpoint is written as one word. -/
lemma isWord_userinfo : IsWord userinfoPermission.text := by
  have hall : userinfoPermission.text.toList.all (fun c => !isBlank c) = true := by decide
  refine ⟨by decide, fun c hc => ?_⟩
  simpa using List.all_eq_true.mp hall c hc

/-- The words of a resolved scope are its tokens. -/
theorem words_text (h : resolve s flow settings = .ok scope) :
    words scope.text = scope.tokens.map ScopeToken.text := by
  refine words_intercalate fun v hv => ?_
  rcases (mem_texts h).mp hv with hv | ⟨rfl, -, -⟩
  · exact isWord_of_mem_words hv
  · exact isWord_userinfo

/-- The words of a resolved scope are those of the string, and the permission to call the userinfo
endpoint where it is implied. -/
theorem mem_words_text (h : resolve s flow settings = .ok scope) {w : String} :
    w ∈ words scope.text ↔ w ∈ words s ∨
      (w = userinfoPermission.text ∧ flow ≠ .clientCredentials ∧ NamesOidc s) := by
  rw [words_text h, mem_texts h]

/-- A scope has an OpenID Connect scope exactly if its string does. -/
theorem has_iff_mem_words_text (h : resolve s flow settings = .ok scope) {o : OidcScope} :
    scope.has o = true ↔ o.text ∈ words scope.text := by
  have hother : o.text ≠ userinfoPermission.text := by cases o <;> decide
  rw [has_iff h, mem_words_text h]
  simp [hother]

/-- A scope that is resolved for a user is closed. -/
theorem scopeClosed_text (h : resolve s flow settings = .ok scope)
    (hflow : flow ≠ .clientCredentials) : ScopeClosed scope.text := by
  rintro ⟨w, hw, hoidc⟩
  rw [mem_words_text h]
  rcases (mem_words_text h).mp hw with hw | ⟨-, -, hnames⟩
  · exact .inr ⟨rfl, hflow, w, hw, hoidc⟩
  · exact .inr ⟨rfl, hflow, hnames⟩

/-- Resolving a part of a closed string does not add to it. -/
theorem words_text_subset (h : resolve s flow settings = .ok scope) {stored : String}
    (hpart : words s ⊆ words stored) (hclosed : ScopeClosed stored) :
    words scope.text ⊆ words stored := by
  intro w hw
  rcases (mem_words_text h).mp hw with hw | ⟨rfl, -, v, hv, hoidc⟩
  · exact hpart hw
  · exact hclosed ⟨v, hpart hv, hoidc⟩

end ResolvedScope

/-- The scope string of a refresh is a part of that of the row. -/
theorem words_requestedScope_subset {requested stored s : String}
    (h : requestedScope requested stored = .ok s) : words s ⊆ words stored := by
  rw [requestedScope] at h
  split at h
  · cases h
    exact fun _ hw => hw
  · split at h
    · cases h
    · rename_i hall
      cases h
      intro w hw
      have hsub := List.find?_eq_none.mp hall w hw
      simpa [isSubset, words_of_isWord (isWord_of_mem_words hw)] using hsub

end TokenAuthority
