import Mathlib.Tactic.Lemma
import TokenAuthority.Proofs.JsonTexts

/-!
# Values that are nested too deeply

A text is read back as its value exactly if the reader may enter as many levels as the value has.
The text of a deeper value is written all the same, and is then no JSON text for the reader.

## Main definitions

* `TokenAuthority.Json.Value.nested` — a value of a given number of levels.

## Main results

* `TokenAuthority.Json.Codec.readValue_of_not_fits` — a tree is refused where it is too deep.
* `TokenAuthority.Json.Value.fits_nested_iff` — the levels of a nested value are all that counts.
-/

set_option autoImplicit false

namespace TokenAuthority.Json

namespace Codec

open Doc

variable {src : Source} {levels : Nat}

/-- A list of items is refused for the first one that is. -/
lemma readValues_of_not_fits {items : List Value}
    (hread : ∀ v ∈ items, v.Fits levels → readValue src (Doc.ofValue v) = .ok v)
    (hrefused : ∀ v ∈ items, ¬ v.Fits levels → readValue src (Doc.ofValue v) = .error .malformed)
    (h : ∃ v ∈ items, ¬ v.Fits levels) :
    readValues src true (ofItems items) = .error .malformed := by
  induction items with
  | nil => simp at h
  | cons v items ih =>
    rw [List.forall_mem_cons] at hread hrefused
    rw [ofItems, readValues]
    by_cases hv : v.Fits levels
    -- the first item is read back, so that another one is too deep
    · obtain ⟨w, hw, hdeep⟩ := h
      have hitems : ∃ w ∈ items, ¬ w.Fits levels :=
        ⟨w, List.mem_of_ne_of_mem (fun heq => hdeep (heq ▸ hv)) hw, hdeep⟩
      rw [hread.1 hv, ih hread.2 hrefused.2 hitems]
      rfl
    · rw [hrefused.1 hv]
      rfl

/-- A list of members is refused for the first one whose value is. -/
lemma readMembers_of_not_fits {members : List (String × Value)}
    (hread : ∀ m ∈ members, m.2.Fits levels → readValue src (Doc.ofValue m.2) = .ok m.2)
    (hrefused : ∀ m ∈ members, ¬ m.2.Fits levels →
      readValue src (Doc.ofValue m.2) = .error .malformed)
    (h : ∃ m ∈ members, ¬ m.2.Fits levels) :
    readMembers src true (ofMembers members) = .error .malformed := by
  induction members with
  | nil => simp at h
  | cons m members ih =>
    obtain ⟨name, v⟩ := m
    rw [List.forall_mem_cons] at hread hrefused
    rw [ofMembers, readMembers]
    by_cases hv : v.Fits levels
    · obtain ⟨w, hw, hdeep⟩ := h
      have hmembers : ∃ w ∈ members, ¬ w.2.Fits levels :=
        ⟨w, List.mem_of_ne_of_mem (fun heq => hdeep (heq ▸ hv)) hw, hdeep⟩
      rw [hread.1 hv, ih hread.2 hrefused.2 hmembers]
      rfl
    · rw [hrefused.1 hv]
      rfl

/-- A tree is refused where it has more levels than may be entered.

**Proof sketch.** By induction on the levels of the value. A list or an object is refused at once
where no level is left, and otherwise for the first part of it that is too deep; all parts before
that one are read back. -/
theorem readValue_of_not_fits {n : Nat} {v : Value} (h : v.Fits n) (hdeep : ¬ v.Fits levels) :
    readValue (.text levels) (Doc.ofValue v) = .error .malformed := by
  induction h generalizing levels with
  | null => exact absurd (.null _) hdeep
  | bool => exact absurd (.bool _ _) hdeep
  | int hlow hhigh => exact absurd (.int hlow hhigh) hdeep
  | str => exact absurd (.str _ _) hdeep
  | @list _ items _ ih =>
    cases levels with
    | zero => rfl
    | succ levels =>
      have hsome : ∃ v ∈ items, ¬ v.Fits levels := by simpa using mt Value.Fits.list hdeep
      rw [Doc.ofValue, readValue]
      change Value.list <$> readValues (.text levels) true _ = _
      rw [readValues_of_not_fits (fun v _ hv => readValue_ofValue hv (Nat.le_refl _))
        (fun v hv => ih v hv) hsome]
      rfl
  | @obj _ members _ ih =>
    cases levels with
    | zero => rfl
    | succ levels =>
      have hsome : ∃ m ∈ members, ¬ m.2.Fits levels := by simpa using mt Value.Fits.obj hdeep
      rw [Doc.ofValue, readValue]
      change Value.obj <$> readMembers (.text levels) true _ = _
      rw [readMembers_of_not_fits (fun m _ hm => readValue_ofValue hm (Nat.le_refl _))
        (fun m hm => ih m hm) hsome]
      rfl

end Codec

namespace Value

/-- Empty but for lists in lists: a value of so many levels. -/
def nested : Nat → Value
  | 0 => .null
  | levels + 1 => .list [nested levels]

/-- A nested value fits as many levels as it has, and more. -/
lemma fits_nested_iff {n levels : Nat} : (nested levels).Fits n ↔ levels ≤ n := by
  induction levels generalizing n with
  | zero => simp [nested, Fits.null]
  | succ levels ih =>
    constructor
    · rintro (_ | _ | _ | _ | hitems)
      exact Nat.succ_le_succ (ih.mp (hitems _ List.mem_cons_self))
    · intro h
      obtain ⟨n, rfl⟩ : ∃ k, n = k + 1 := ⟨n - 1, by omega⟩
      exact .list fun v hv => List.mem_singleton.mp hv ▸ ih.mpr (Nat.le_of_succ_le_succ h)

end Value

end TokenAuthority.Json
