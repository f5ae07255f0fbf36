import Mathlib.Data.List.Nodup
import Mathlib.Tactic.Lemma
import TokenAuthority.Proofs.ClaimRelease
import TokenAuthority.Proofs.GrantSuccess
import TokenAuthority.Proofs.ScopeGrammar
import TokenAuthority.Proofs.Table

/-!
# Attributes in tokens

The attributes in a token are those that are flagged for it, first those of the user and then those
of the groups in order, merged by key: of several attributes with one key, the first one counts.

## Main results

* `TokenAuthority.map_firstEntries`, `TokenAuthority.mem_firstEntries_iff` — merging keeps the keys
  in their order, and the first entry of every key.
* `TokenAuthority.attributes_userClaims` — the attributes in a token.
* `TokenAuthority.User.attributes_merged` — which attributes of a user and of the groups they are.
-/

set_option autoImplicit false

namespace TokenAuthority

/-! ## Merging entries -/

section Entries

variable {entries : List (String × String)}

/-- Merging keeps the keys, each at its first place. -/
theorem map_firstEntries (entries : List (String × String)) :
    (firstEntries entries).map Prod.fst = (entries.map Prod.fst).eraseDups := by
  have hgo (seen : List (String × String)) :
      (entries.foldl (fun seen e => if seen.any (·.1 == e.1) then seen else seen ++ [e]) seen).map
          Prod.fst =
        (entries.map Prod.fst).foldl (fun seen k => if seen.contains k then seen else seen ++ [k])
          (seen.map Prod.fst) := by
    induction entries generalizing seen with
    | nil => rfl
    | cons e entries ih =>
      have hseen : (seen.map Prod.fst).contains e.1 = seen.any (·.1 == e.1) := by
        rw [Bool.eq_iff_iff]
        simp
      rw [List.foldl_cons, List.map_cons, List.foldl_cons, hseen, ih]
      split <;> simp
  rw [← foldl_eq_eraseDups]
  exact hgo []

/-- No key is there twice after merging. -/
lemma nodup_firstEntries (entries : List (String × String)) :
    ((firstEntries entries).map Prod.fst).Nodup := by
  rw [map_firstEntries]
  exact nodup_eraseDups _

/-- Merging removes no key altogether. -/
lemma firstEntries_eq_nil_iff : firstEntries entries = [] ↔ entries = [] := by
  rw [← List.map_eq_nil_iff (f := Prod.fst), map_firstEntries, List.eq_nil_iff_forall_not_mem]
  simp only [List.mem_eraseDups]
  rw [← List.eq_nil_iff_forall_not_mem, List.map_eq_nil_iff]

/-- Under every key, merging keeps what comes first. -/
theorem find?_firstEntries (entries : List (String × String)) (key : String) :
    (firstEntries entries).find? (fun e => e.1 = key) = entries.find? fun e => e.1 = key := by
  have hgo (seen : List (String × String)) :
      (entries.foldl (fun seen e => if seen.any (·.1 == e.1) then seen else seen ++ [e]) seen).find?
          (fun e => e.1 = key) =
        (seen.find? fun e => e.1 = key).or (entries.find? fun e => e.1 = key) := by
    induction entries generalizing seen with
    | nil => simp
    | cons e entries ih =>
      rw [List.foldl_cons, ih]
      by_cases hkey : e.1 = key
      · subst hkey
        cases hseen : seen.any (·.1 == e.1) with
        | true =>
          have hfound : (seen.find? fun a => a.1 = e.1).isSome = true := by simpa using hseen
          obtain ⟨a, ha⟩ := Option.isSome_iff_exists.mp hfound
          simp [ha]
        | false =>
          have hnone : (seen.find? fun a => a.1 = e.1) = none := by simpa using hseen
          simp [hnone]
      · have hskip : ((e :: entries).find? fun a => a.1 = key) = entries.find? fun a => a.1 = key :=
          List.find?_cons_of_neg (by simpa using hkey)
        rw [hskip]
        split
        · rfl
        · simp [List.find?_append, hkey]
  simpa [firstEntries] using hgo []

/-- The entries that are kept are those before which their key has not come up. -/
theorem mem_firstEntries_iff {key value : String} :
    (key, value) ∈ firstEntries entries ↔
      ∃ before after, entries = before ++ (key, value) :: after ∧ key ∉ before.map Prod.fst := by
  have hkept : (key, value) ∈ firstEntries entries ↔
      (firstEntries entries).find? (fun e => e.1 = key) = some (key, value) := by
    constructor
    · intro hmem
      have hdistinct : ((⟨firstEntries entries⟩ : Table Prod.fst).records.map Prod.fst).Nodup :=
        nodup_firstEntries entries
      exact Table.find?_of_mem hdistinct hmem
    · exact List.mem_of_find?_eq_some
  rw [hkept, find?_firstEntries, List.find?_eq_some_iff_append]
  simp only [decide_true, true_and]
  refine exists_congr fun before => exists_congr fun after => and_congr_right fun _ => ?_
  simp only [List.mem_map, not_exists, not_and, Bool.not_eq_true', decide_eq_false_iff_not]

end Entries

/-! ## Attributes of users -/

section Attributes

variable {scope : ResolvedScope}

/-- The attributes in a token are those that it may show, merged. -/
theorem attributes_userClaims (h : scope.has .attributes = true) (settings : Settings)
    (target : ClaimTarget) (u : User) :
    (userClaims settings u scope target).attributes =
      nonEmptyList? (firstEntries (u.shownAttributes target)) := by
  rw [← releasedAttributes_eq]
  exact if_pos h

/-- Attributes that a token does not show may as well not be there. -/
lemma Attribute.shown_filter (target : ClaimTarget) (attributes : List Attribute) :
    Attribute.shown target
        (attributes.filter fun a => target.includes a.inIdToken a.inAccessToken) =
      Attribute.shown target attributes := by
  rw [shown, shown, List.filter_filter]
  simp only [Bool.and_self]

/-- What a token shows of the attributes of a user is what is flagged for it. -/
lemma User.shownAttributes_filter (target : ClaimTarget) (u : User) :
    User.shownAttributes target
        { u with
          attributes := u.attributes.filter fun a =>
            target.includes a.inIdToken a.inAccessToken
          groups := u.groups.map fun g =>
            { g with attributes := g.attributes.filter fun a =>
                target.includes a.inIdToken a.inAccessToken } } =
      u.shownAttributes target := by
  simp only [shownAttributes, List.flatMap_map, Attribute.shown_filter]

/-- The first one of the attributes of a user that are flagged for a token and have some key comes
first under this key, before those of the groups. -/
lemma User.shownAttributes_of_first {target : ClaimTarget} {u : User}
    {before after : List Attribute} {a : Attribute} (hsplit : u.attributes = before ++ a :: after)
    (ha : target.includes a.inIdToken a.inAccessToken = true)
    (hbefore : ∀ b ∈ before, target.includes b.inIdToken b.inAccessToken = true →
      b.key ≠ a.key) :
    ∃ rest, u.shownAttributes target = Attribute.shown target before ++ (a.key, a.value) :: rest ∧
      a.key ∉ (Attribute.shown target before).map Prod.fst := by
  refine ⟨Attribute.shown target after ++
    u.groups.flatMap fun g => Attribute.shown target g.attributes, ?_, ?_⟩
  · simp [shownAttributes, Attribute.shown, hsplit, ha]
  · simp only [Attribute.shown, List.map_map, List.mem_map, List.mem_filter, not_exists, not_and,
      and_imp]
    exact fun b hb hshown => hbefore b hb hshown

/-- Under a scope with attributes, a token shows those that are flagged for it, of the user and then
of the groups in order. If there are none, the claim is absent; otherwise its keys are theirs, each
at its first place, and every key has the value that it has there. So an attribute of the user that
is flagged counts for more than those of groups, an attribute that is not flagged hides none, and it
does not matter whether the groups are flagged. -/
theorem User.attributes_merged (h : scope.has .attributes = true) (settings : Settings)
    (target : ClaimTarget) (u : User) :
    let shown := u.shownAttributes target
    let claim (v : User) := (userClaims settings v scope target).attributes
    (claim u = none ↔ shown = []) ∧
    (∀ entries, claim u = some entries →
      entries.map Prod.fst = (shown.map Prod.fst).eraseDups ∧
      ∀ key value, (key, value) ∈ entries ↔
        ∃ before after, shown = before ++ (key, value) :: after ∧ key ∉ before.map Prod.fst) ∧
    (∀ before a after, u.attributes = before ++ a :: after →
      target.includes a.inIdToken a.inAccessToken = true →
      (∀ b ∈ before, target.includes b.inIdToken b.inAccessToken = true → b.key ≠ a.key) →
      ∃ entries, claim u = some entries ∧ (a.key, a.value) ∈ entries) ∧
    claim { u with
      attributes := u.attributes.filter fun a => target.includes a.inIdToken a.inAccessToken
      groups := u.groups.map fun g =>
        { g with attributes := g.attributes.filter fun a =>
            target.includes a.inIdToken a.inAccessToken } } = claim u ∧
    ∀ flags : Group → Bool × Bool, claim { u with
      groups := u.groups.map fun g =>
        { g with inIdToken := (flags g).1, inAccessToken := (flags g).2 } } = claim u := by
  intro shown claim
  have hclaim (v : User) : claim v = nonEmptyList? (firstEntries (v.shownAttributes target)) :=
    attributes_userClaims h settings target v
  have hentries {entries : List (String × String)} (he : claim u = some entries) :
      entries = firstEntries shown := by
    rw [hclaim, nonEmptyList?] at he
    split at he <;> cases he
    rfl
  refine ⟨?absent, fun entries he => ?present, fun before a after hsplit ha hbefore => ?user,
    ?hidden, fun flags => ?groups⟩
  case absent =>
    rw [hclaim, nonEmptyList?]
    simp [firstEntries_eq_nil_iff, shown]
  case present =>
    rw [hentries he]
    exact ⟨map_firstEntries shown, fun key value => mem_firstEntries_iff⟩
  case user =>
    obtain ⟨rest, hshown, hnew⟩ := shownAttributes_of_first hsplit ha hbefore
    have hmem : (a.key, a.value) ∈ firstEntries shown :=
      mem_firstEntries_iff.mpr ⟨_, rest, hshown, hnew⟩
    have hne : (firstEntries shown).isEmpty = false :=
      List.isEmpty_eq_false_iff_exists_mem.mpr ⟨_, hmem⟩
    exact ⟨firstEntries shown, by rw [hclaim, nonEmptyList?, hne]; rfl, hmem⟩
  case hidden => rw [hclaim, hclaim, shownAttributes_filter]
  case groups =>
    rw [hclaim, hclaim]
    simp only [shownAttributes, List.flatMap_map]

end Attributes

namespace Sample

/-- A user with two attributes of one key, the first of which is not for ID tokens. The group, which
is for no token itself, has an attribute with the same key. -/
def holder : User :=
  { user with
    groups := [⟨2, "staff", false, false, [{ key := "dept", value := "hr" },
      { key := "badge", value := "7" }]⟩]
    attributes := [⟨"dept", "it", false, true⟩, { key := "dept", value := "ops" },
      { key := "floor", value := "3" }] }

/-- The ID token has the second attribute of the user under the key, and what the group adds. -/
theorem attributes_merged_holder : ∃ entries,
    (userClaims {} holder ⟨.authorizationCode, [.oidc .attributes]⟩ .idToken).attributes =
      some entries ∧
    entries.map Prod.fst = ["dept", "floor", "badge"] ∧ ("dept", "ops") ∈ entries := by
  have hscope : ResolvedScope.has ⟨.authorizationCode, [.oidc .attributes]⟩ .attributes = true := by
    decide
  obtain ⟨-, hpresent, huser, -, -⟩ := User.attributes_merged hscope {} .idToken holder
  obtain ⟨entries, hentries, hmem⟩ := huser [⟨"dept", "it", false, true⟩]
    { key := "dept", value := "ops" } [{ key := "floor", value := "3" }] rfl rfl (by decide)
  exact ⟨entries, hentries, (hpresent entries hentries).1.trans (by decide), hmem⟩

end Sample

end TokenAuthority
