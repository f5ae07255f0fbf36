import Mathlib.Data.List.Induction
import Mathlib.Data.List.Nodup
import Mathlib.Tactic.Lemma
import TokenAuthority.Proofs.ScopeWords

/-!
# Resolving a scope again

A resolved scope, written as a string, is resolved to the same tokens in the same order, in the same
grant and, for a user, in the other one too: its tokens are read as they were written, none of them
is there twice, and the permission to call the userinfo endpoint is there already where it is
implied.

## Main results

* `TokenAuthority.eraseDups_of_nodup` — where nothing is repeated, nothing is dropped.
* `TokenAuthority.ResolvedScope.addUserinfo_addUserinfo` — the permission is added once.
* `TokenAuthority.ResolvedScope.resolve_text` — a resolved scope is resolved to itself.
-/

set_option autoImplicit false

namespace TokenAuthority

/-! ## Repetitions -/

section Repetitions

variable {α : Type} [BEq α] [LawfulBEq α]

/-- The last element of a list is dropped if it is there before. -/
lemma eraseDups_concat (xs : List α) (x : α) :
    (xs ++ [x]).eraseDups = if xs.contains x then xs.eraseDups else xs.eraseDups ++ [x] := by
  rw [List.eraseDups_append, List.removeAll]
  by_cases hx : x ∈ xs <;> simp [hx, List.eraseDups_cons]

/-- No element is left there twice. -/
lemma nodup_eraseDups (xs : List α) : xs.eraseDups.Nodup := by
  induction xs using List.reverseRecOn with
  | nil => exact .nil
  | append_singleton xs x ih =>
    rw [eraseDups_concat]
    split
    · exact ih
    · rename_i hnew
      exact ih.append (List.nodup_singleton x) (by simpa using hnew)

/-- Where nothing is repeated, nothing is dropped. -/
lemma eraseDups_of_nodup {xs : List α} (h : xs.Nodup) : xs.eraseDups = xs := by
  induction xs using List.reverseRecOn with
  | nil => rfl
  | append_singleton xs x ih =>
    obtain ⟨hxs, -, hnew⟩ := List.nodup_append.mp h
    have hfresh : ¬ xs.contains x = true := by
      rw [List.contains_iff_mem]
      exact fun hx => hnew x hx x (List.mem_singleton_self x) rfl
    rw [eraseDups_concat, if_neg hfresh, ih hxs]

/-- Elements that are added one after the other, those that are there already being left out, are
all elements without their repetitions. -/
lemma foldl_eq_eraseDups (xs : List α) :
    xs.foldl (fun seen x => if seen.contains x then seen else seen ++ [x]) [] = xs.eraseDups := by
  induction xs using List.reverseRecOn with
  | nil => rfl
  | append_singleton xs x ih =>
    have hseen : xs.eraseDups.contains x = xs.contains x := by
      rw [Bool.eq_iff_iff]
      simp
    rw [List.foldl_concat, ih, eraseDups_concat, hseen]

end Repetitions

/-- Two grants are alike if both are for a user or neither is. -/
lemma GrantFlow.bne_clientCredentials_congr {flow flow' : GrantFlow}
    (hflow : flow = .clientCredentials ↔ flow' = .clientCredentials) :
    (flow != .clientCredentials) = (flow' != .clientCredentials) := by
  rw [Bool.eq_iff_iff, bne_iff_ne, bne_iff_ne, Ne, Ne, hflow]

namespace ScopeToken

variable {flow flow' : GrantFlow} {settings : Settings} {w : String}

/-- Two grants know the same tokens if both are for a user or neither is. -/
lemma ofText?_congr (hflow : flow = .clientCredentials ↔ flow' = .clientCredentials) :
    ScopeToken.ofText? flow settings w = ScopeToken.ofText? flow' settings w := by
  rw [ScopeToken.ofText?, ScopeToken.ofText?, GrantFlow.bne_clientCredentials_congr hflow]

end ScopeToken

namespace ResolvedScope

variable {s : String} {flow flow' : GrantFlow} {settings : Settings} {scope : ResolvedScope}
  {ts : List ScopeToken}

/-- The tokens of words are read from their texts. -/
lemma ofText?_of_classify {ws : List String} (h : classify flow settings ws = .ok ts) :
    ∀ t ∈ ts, ScopeToken.ofText? flow settings t.text = some t := by
  have hread := classify_eq_ok_iff.mp h
  rw [← (classify_ok h).1, List.forall₂_map_left_iff, List.forall₂_same] at hread
  exact hread

/-- Tokens that are read from their texts are classified as themselves. -/
lemma classify_texts (h : ∀ t ∈ ts, ScopeToken.ofText? flow settings t.text = some t) :
    classify flow settings (ts.map ScopeToken.text) = .ok ts := by
  rw [classify_eq_ok_iff, List.forall₂_map_left_iff, List.forall₂_same]
  exact h

/-- The permission is not there twice after it has been added. -/
lemma nodup_addUserinfo (h : ts.Nodup) : (addUserinfo flow ts).Nodup := by
  dsimp only [addUserinfo]
  split
  · rename_i hadd
    have hnew := (Bool.and_eq_true_iff.mp hadd).2
    exact h.append (List.nodup_singleton _) (by simpa using hnew)
  · exact h

/-- The permission is added once. -/
lemma addUserinfo_addUserinfo (hflow : flow = .clientCredentials ↔ flow' = .clientCredentials) :
    addUserinfo flow' (addUserinfo flow ts) = addUserinfo flow ts := by
  by_cases hadd : (impliesUserinfo flow ts &&
      !ts.contains (.permission userinfoPermission)) = true
  · have hadded : addUserinfo flow ts = ts ++ [.permission userinfoPermission] := if_pos hadd
    rw [hadded]
    exact if_neg (by simp)
  · have hsame : addUserinfo flow ts = ts := if_neg hadd
    have himplies : impliesUserinfo flow ts = impliesUserinfo flow' ts := by
      rw [impliesUserinfo, impliesUserinfo, GrantFlow.bne_clientCredentials_congr hflow]
    rw [hsame]
    exact if_neg (by rwa [← himplies])

/-- The tokens of a resolved scope are read from their texts. -/
lemma ofText?_of_mem (h : resolve s flow settings = .ok scope) :
    ∀ t ∈ scope.tokens, ScopeToken.ofText? flow settings t.text = some t := by
  obtain ⟨ts, hts, h⟩ := bind_ok h
  cases h
  intro t ht
  rcases mem_of_mem_addUserinfo ht with ht | rfl
  · exact ofText?_of_classify hts t (List.mem_eraseDups.mp ht)
  · rfl

/-- A resolved scope is resolved to itself. -/
theorem resolve_text (h : resolve s flow settings = .ok scope)
    (hflow : flow = .clientCredentials ↔ flow' = .clientCredentials) :
    resolve scope.text flow' settings = .ok ⟨flow', scope.tokens⟩ := by
  have hclassify : classify flow' settings (words scope.text) = .ok scope.tokens := by
    rw [words_text h]
    refine classify_texts fun t ht => ?_
    rw [← ScopeToken.ofText?_congr hflow]
    exact ofText?_of_mem h t ht
  have htokens : addUserinfo flow' scope.tokens.eraseDups = scope.tokens := by
    obtain ⟨ts, -, hscope⟩ := bind_ok h
    cases hscope
    rw [eraseDups_of_nodup (nodup_addUserinfo (nodup_eraseDups ts)),
      addUserinfo_addUserinfo hflow]
  rw [resolve, hclassify]
  change Except.ok (⟨flow', addUserinfo flow' scope.tokens.eraseDups⟩ : ResolvedScope) = _
  rw [htokens]

end ResolvedScope

end TokenAuthority
