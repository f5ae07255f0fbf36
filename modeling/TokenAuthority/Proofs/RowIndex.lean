import Mathlib.Data.List.Basic
import Mathlib.Tactic.Lemma
import TokenAuthority.Proofs.RowHistory

/-!
# The index of successors

Which row replaced a row is kept in an index beside the rows. Whatever rows are stored, and however
badly they are formed, a look-up in the index finds what a scan of the rows would find, since a row
is only stored if neither its token nor the predecessor that it names has been taken.

## Main definitions

* `TokenAuthority.Store.Indexed` — tokens have one row each, and the index agrees with the rows.
* `TokenAuthority.Store.Clashes` — a row repeats the token or the predecessor of another one.

## Main results

* `TokenAuthority.Store.Indexed.successor?_eq_some_iff` — a look-up in the index is a scan.
* `TokenAuthority.Store.Indexed.createRow_cases` — a row is stored exactly if it does not clash.
* `TokenAuthority.Store.Indexed.of_revokesTo`, `TokenAuthority.Store.Indexed.withRow` —
  revocations and new rows keep the index in agreement.
-/

set_option autoImplicit false

namespace TokenAuthority.Store

variable {s t : Store}

/-- Tokens have one row each, and the index of successors agrees with the rows. -/
structure Indexed (s : Store) : Prop where
  distinct : (s.rows.records.map RefreshToken.jti).Nodup
  noted : ∀ r ∈ s.rows.records, r.previousJti ≠ "" →
    s.successions.find? r.previousJti = some ⟨r.previousJti, r.jti⟩
  indexed : ∀ x ∈ s.successions.records, ∃ r ∈ s.rows.records,
    r.jti = x.jti ∧ r.previousJti = x.previous ∧ x.previous ≠ ""

/-- A row cannot be stored: its token has a row already, or another row names its predecessor. -/
def Clashes (s : Store) (row : RefreshToken) : Prop :=
  (∃ r ∈ s.rows.records, r.jti = row.jti) ∨
    (row.previousJti ≠ "" ∧ ∃ r ∈ s.rows.records, r.previousJti = row.previousJti)

namespace Indexed

/-! ## Look-ups -/

/-- A store without rows. -/
lemma empty : Indexed {} where
  distinct := by simp [Table.empty]
  noted := by simp [Table.empty]
  indexed := by simp [Table.empty]

/-- The row of a token is found under it. -/
lemma row?_of_mem (h : s.Indexed) {r : RefreshToken} (hr : r ∈ s.rows.records) :
    s.row? r.jti = some r := Table.find?_of_mem h.distinct hr

/-- The look-up of a token finds the row that has it. -/
lemma row?_eq_some_iff (h : s.Indexed) {jti : String} {r : RefreshToken} :
    s.row? jti = some r ↔ r ∈ s.rows.records ∧ r.jti = jti := by
  constructor
  · exact Table.of_find?
  · rintro ⟨hr, rfl⟩
    exact h.row?_of_mem hr

/-- A token has one row. -/
lemma eq_of_jti (h : s.Indexed) {r r' : RefreshToken} (hr : r ∈ s.rows.records)
    (hr' : r' ∈ s.rows.records) (hjti : r.jti = r'.jti) : r = r' := by
  have hfound := h.row?_of_mem hr
  rw [hjti, h.row?_of_mem hr'] at hfound
  exact (Option.some.inj hfound).symm

/-- A token is named by one row as its predecessor. -/
lemma eq_of_previousJti (h : s.Indexed) {r r' : RefreshToken} (hr : r ∈ s.rows.records)
    (hr' : r' ∈ s.rows.records) (hne : r.previousJti ≠ "")
    (hprevious : r.previousJti = r'.previousJti) : r = r' := by
  have hnoted := h.noted r hr hne
  rw [hprevious, h.noted r' hr' (hprevious ▸ hne)] at hnoted
  exact h.eq_of_jti hr hr' (congrArg Succession.jti (Option.some.inj hnoted)).symm

/-- The index has an entry exactly for the tokens that some row names as its predecessor. -/
lemma has_iff (h : s.Indexed) {p : String} :
    s.successions.has p = true ↔ p ≠ "" ∧ ∃ r ∈ s.rows.records, r.previousJti = p := by
  constructor
  · intro hp
    obtain ⟨x, hx, rfl⟩ := Table.has_iff.mp hp
    obtain ⟨r, hr, -, hprevious, hne⟩ := h.indexed x hx
    exact ⟨hne, r, hr, hprevious⟩
  · rintro ⟨hne, r, hr, rfl⟩
    rw [Table.has, h.noted r hr hne]
    rfl

/-- The look-up of a predecessor finds the row that names it. -/
theorem successor?_eq_some_iff (h : s.Indexed) {p : String} {r : RefreshToken} :
    s.successor? p = some r ↔ p ≠ "" ∧ r ∈ s.rows.records ∧ r.previousJti = p := by
  constructor
  · intro hsome
    obtain ⟨x, hx, hrow⟩ := Option.bind_eq_some_iff.mp hsome
    obtain ⟨hmem, rfl⟩ := Table.of_find? hx
    obtain ⟨r', hr', hjti, hprevious, hne⟩ := h.indexed x hmem
    rw [← hjti, h.row?_of_mem hr'] at hrow
    obtain rfl := Option.some.inj hrow
    exact ⟨hne, hr', hprevious⟩
  · rintro ⟨hne, hr, rfl⟩
    rw [successor?, h.noted r hr hne]
    exact h.row?_of_mem hr

/-- A token has a successor exactly when some row names it as its predecessor. -/
lemma successor?_isSome_iff (h : s.Indexed) {p : String} :
    (s.successor? p).isSome = true ↔ p ≠ "" ∧ ∃ r ∈ s.rows.records, r.previousJti = p := by
  simp only [Option.isSome_iff_exists, h.successor?_eq_some_iff, exists_and_left]

/-- A token has a successor exactly when the index has an entry for it. -/
lemma successor?_isSome_eq (h : s.Indexed) (p : String) :
    (s.successor? p).isSome = s.successions.has p := by
  rw [Bool.eq_iff_iff, h.successor?_isSome_iff, h.has_iff]

/-- Where there is no successor, the predecessor can be noted. -/
lemma has_eq_false (h : s.Indexed) {p : String} (hp : s.successor? p = none) :
    s.successions.has p = false := by
  rw [← h.successor?_isSome_eq, hp]
  rfl

/-! ## Revocations -/

/-- Revocations keep the index in agreement. -/
theorem of_revokesTo (h : s.Indexed) (hst : s.RevokesTo t) : t.Indexed := by
  obtain ⟨g, hg, hrows⟩ := hst.rows
  constructor
  case distinct =>
    rw [hrows, hg.map_map RefreshToken.jti fun _ => rfl]
    exact h.distinct
  case noted =>
    intro r hr hne
    obtain ⟨r', hr', hbecome⟩ := hst.exists_row hr
    rw [hbecome.previousJti] at hne ⊢
    rw [hst.successions, hbecome.jti]
    exact h.noted r' hr' hne
  case indexed =>
    intro x hx
    rw [hst.successions] at hx
    obtain ⟨r, hr, hjti, hprevious, hne⟩ := h.indexed x hx
    obtain ⟨r', hr', hbecome⟩ := hst.growsTo.exists_row hr
    exact ⟨r', hr', hbecome.jti.trans hjti, hbecome.previousJti.trans hprevious, hne⟩

/-! ## New rows -/

variable {row : RefreshToken}

/-- The index after a new row: its own entry, if it names a predecessor, and the older ones. -/
lemma successions_withRow
    (hprevious : row.previousJti = "" ∨ s.successions.has row.previousJti = false) :
    (s.withRow row).successions.records =
      s.successions.records ++
        if row.previousJti = "" then [] else [⟨row.previousJti, row.jti⟩] := by
  by_cases hempty : row.previousJti = ""
  · simp [Store.withRow, hempty]
  · have hput := Table.records_put (x := (⟨row.previousJti, row.jti⟩ : Succession))
      (hprevious.resolve_left hempty)
    simp [Store.withRow, hempty, hput]

/-- The index has an entry for every row that names a predecessor, also after a new row.

**Proof sketch.** The new row names a predecessor that has not been noted, so its entry does not
stand in for one of an older row. -/
lemma noted_withRow (h : s.Indexed)
    (hprevious : row.previousJti = "" ∨ s.successions.has row.previousJti = false)
    {r : RefreshToken} (hr : r ∈ (s.withRow row).rows.records) (hne : r.previousJti ≠ "") :
    (s.withRow row).successions.find? r.previousJti = some ⟨r.previousJti, r.jti⟩ := by
  by_cases hempty : row.previousJti = ""
  · have hsucc : (s.withRow row).successions = s.successions := by simp [Store.withRow, hempty]
    rcases mem_withRow.mp hr with hr | rfl
    · rw [hsucc, h.noted r hr hne]
    · exact absurd hempty hne
  · have hsucc : (s.withRow row).successions =
        s.successions.put ⟨row.previousJti, row.jti⟩ := by simp [Store.withRow, hempty]
    rw [hsucc, Table.find?_put]
    rcases mem_withRow.mp hr with hr | rfl
    · have hnamed : s.successions.has r.previousJti = true := h.has_iff.mpr ⟨hne, r, hr, rfl⟩
      have hother : row.previousJti ≠ r.previousJti := by
        intro heq
        rw [← heq, hprevious.resolve_left hempty] at hnamed
        cases hnamed
      rw [if_neg hother, h.noted r hr hne]
    · exact if_pos rfl

/-- Neither the token nor the predecessor of a row that does not clash has been taken. -/
lemma free_of_not_clashes (h : s.Indexed) (hfree : ¬s.Clashes row) :
    s.rows.has row.jti = false ∧
      (row.previousJti = "" ∨ s.successions.has row.previousJti = false) := by
  rw [Clashes, not_or] at hfree
  refine ⟨Table.has_eq_false_iff.mpr fun r hr hjti => hfree.1 ⟨r, hr, hjti⟩, ?_⟩
  by_cases hempty : row.previousJti = ""
  · exact .inl hempty
  · right
    rw [Bool.eq_false_iff, ne_eq, h.has_iff]
    exact hfree.2

/-- A new row keeps the index in agreement. -/
theorem withRow (h : s.Indexed) (hjti : s.rows.has row.jti = false)
    (hprevious : row.previousJti = "" ∨ s.successions.has row.previousJti = false) :
    (s.withRow row).Indexed := by
  have hrows : (s.withRow row).rows.records =
      s.rows.records ++ [{ row with id := s.nextId }] := rfl
  constructor
  case distinct =>
    rw [hrows, List.map_append, List.nodup_append]
    refine ⟨h.distinct, by simp, ?_⟩
    intro a haj b hbj
    obtain ⟨r, hr, rfl⟩ := List.mem_map.mp haj
    rw [List.map_singleton, List.mem_singleton] at hbj
    rw [hbj]
    exact Table.has_eq_false_iff.mp hjti r hr
  case noted =>
    intro r hr hne
    exact h.noted_withRow hprevious hr hne
  case indexed =>
    intro x hx
    rw [successions_withRow hprevious, List.mem_append] at hx
    rcases hx with hx | hx
    · obtain ⟨r, hr, hx⟩ := h.indexed x hx
      exact ⟨r, List.mem_append_left _ hr, hx⟩
    · by_cases hempty : row.previousJti = ""
      · simp [hempty] at hx
      · rw [if_neg hempty, List.mem_singleton] at hx
        subst hx
        exact ⟨{ row with id := s.nextId }, by simp [hrows], rfl, rfl, hempty⟩

/-- Storing a row: one that clashes is turned away, and changes at most the number for the next one;
any other row is stored. -/
theorem createRow_cases (h : s.Indexed) (row : RefreshToken) :
    (s.Clashes row ∧ ∃ e n, s.createRow row = (.error e, { s with nextId := n }) ∧
        s.nextId ≤ n) ∨
      (¬s.Clashes row ∧ s.createRow row = (.ok { row with id := s.nextId }, s.withRow row) ∧
        (s.withRow row).Indexed) := by
  by_cases hclash : s.Clashes row
  · refine .inl ⟨hclash, ?_⟩
    by_cases hnamed : (!row.previousJti.isEmpty && s.successions.has row.previousJti) = true
    · exact ⟨.alreadyRotated row.previousJti, s.nextId, by simp only [createRow, hnamed]; rfl,
        Int.le_refl _⟩
    · -- The predecessor is free, so it is the token that has a row.
      have hunnamed : ¬(row.previousJti ≠ "" ∧
          ∃ r ∈ s.rows.records, r.previousJti = row.previousJti) := by
        intro hprevious
        exact hnamed (by simp [hprevious.1, h.has_iff.mpr hprevious])
      have htaken : s.rows.has row.jti = true :=
        Table.has_iff.mpr (hclash.resolve_right hunnamed)
      have hinsert : s.rows.insertNew? { row with id := s.nextId } = none := by
        simp [Table.insertNew?, htaken]
      refine ⟨.tokenExists row.jti, s.nextId + 1, ?_, by omega⟩
      simp only [createRow, Bool.not_eq_true _ ▸ hnamed, hinsert]
      rfl
  · obtain ⟨hjti, hprevious⟩ := h.free_of_not_clashes hclash
    exact .inr ⟨hclash, createRow_of_free hprevious hjti, h.withRow hjti hprevious⟩

end Indexed

end TokenAuthority.Store
