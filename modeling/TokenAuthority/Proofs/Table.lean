import Mathlib.Data.List.Basic
import Mathlib.Tactic.Lemma
import TokenAuthority.Store.Table

/-!
# Laws of tables

What the operations of `TokenAuthority.Table` do to look-ups and to the records.

## Main results

* `TokenAuthority.Table.has_iff` — a key is taken exactly when a record carries it.
* `TokenAuthority.Table.find?_of_mem` — where no two records share a key, every record is found
  under its own.
* `TokenAuthority.Table.find?_perm` — where no two records share a key, order does not matter.
* `TokenAuthority.Table.find?_put`, `TokenAuthority.Table.records_put` — storing a record.
* `TokenAuthority.Table.insertNew?_of_free`, `TokenAuthority.Table.of_insertNew?` — storing a record
  under a key that is free.
* `TokenAuthority.Table.find?_modify` — changing a record.
-/

set_option autoImplicit false

namespace TokenAuthority.Table

variable {κ α : Type} [DecidableEq κ] {key : α → κ}

/-- The record that is found is in the table and carries the key. -/
lemma of_find? {t : Table key} {k : κ} {x : α} (h : t.find? k = some x) :
    x ∈ t.records ∧ key x = k :=
  ⟨List.mem_of_find?_eq_some h, by simpa using List.find?_some h⟩

/-- A key is taken exactly when a record carries it. -/
lemma has_iff {t : Table key} {k : κ} : t.has k = true ↔ ∃ x ∈ t.records, key x = k := by
  simp [has, find?]

/-- A key is free exactly when no record carries it. -/
lemma has_eq_false_iff {t : Table key} {k : κ} :
    t.has k = false ↔ ∀ x ∈ t.records, key x ≠ k := by
  simp [has, find?]

/-- Where no two records share a key, every record is found under its own.

**Proof sketch.** Induction on the records. If the first one carries the key sought, it is the
record itself, since keys are not repeated; otherwise the search goes on in the rest. -/
lemma find?_of_mem {t : Table key} (hd : (t.records.map key).Nodup) {x : α}
    (hx : x ∈ t.records) : t.find? (key x) = some x := by
  obtain ⟨records⟩ := t
  simp only [find?] at hd hx ⊢
  induction records with
  | nil => simp at hx
  | cons y rest ih =>
    rw [List.map_cons, List.nodup_cons] at hd
    rcases List.mem_cons.mp hx with rfl | hx
    · simp
    · have hne : key y ≠ key x := fun h => hd.1 (h ▸ List.mem_map_of_mem hx)
      rw [List.find?_cons_of_neg (by simpa using hne)]
      exact ih hd.2 hx

/-- Where no two records share a key, their order does not matter. -/
lemma find?_perm {t u : Table key} (hd : (t.records.map key).Nodup)
    (h : t.records.Perm u.records) (k : κ) : t.find? k = u.find? k := by
  cases ht : t.find? k with
  | none =>
    have hfree : t.has k = false := by rw [has, ht]; rfl
    have hfree' : u.has k = false :=
      has_eq_false_iff.mpr fun x hx => has_eq_false_iff.mp hfree x (h.mem_iff.mpr hx)
    have hnone : u.find? k = none := by simpa [has] using hfree'
    exact hnone.symm
  | some x =>
    obtain ⟨hx, rfl⟩ := of_find? ht
    exact (find?_of_mem ((h.map key).nodup_iff.mp hd) (h.mem_iff.mp hx)).symm

/-- A record that is stored is found under its key; the other keys keep their records. -/
lemma find?_put (t : Table key) (x : α) (k : κ) :
    (t.put x).find? k = if key x = k then some x else t.find? k := by
  obtain ⟨records⟩ := t
  simp only [put, find?]
  induction records with
  | nil => by_cases h : key x = k <;> simp [putIn, h]
  | cons y rest ih =>
    by_cases hy : key y = key x
    · by_cases h : key x = k <;> simp [putIn, hy, h]
    · by_cases hk : key y = k
      · have h : key x ≠ k := fun h => hy (hk.trans h.symm)
        rw [putIn, if_neg hy, if_neg h, List.find?_cons_of_pos (by simpa using hk),
          List.find?_cons_of_pos (by simpa using hk)]
      · rw [putIn, if_neg hy, List.find?_cons_of_neg (by simpa using hk),
          List.find?_cons_of_neg (by simpa using hk), ih]

/-- A record whose key is free is stored at the end. -/
lemma records_put {t : Table key} {x : α} (h : t.has (key x) = false) :
    (t.put x).records = t.records ++ [x] := by
  obtain ⟨records⟩ := t
  rw [has_eq_false_iff] at h
  simp only [put] at h ⊢
  induction records with
  | nil => rfl
  | cons y rest ih =>
    rw [putIn, if_neg (h y List.mem_cons_self), List.cons_append,
      ih fun z hz => h z (List.mem_cons_of_mem _ hz)]

/-- A record whose key is free can be stored as a new one, and stands at the end. -/
lemma insertNew?_of_free {t : Table key} {x : α} (h : t.has (key x) = false) :
    t.insertNew? x = some ⟨t.records ++ [x]⟩ := by
  simp [insertNew?, h]

/-- A record at the end is found if none is found before it. -/
lemma find?_append_singleton (t : Table key) (x : α) (k : κ) :
    (⟨t.records ++ [x]⟩ : Table key).find? k =
      (t.find? k).or (if key x = k then some x else none) := by
  by_cases h : key x = k <;> simp [find?, List.find?_append, h]

/-- A record that was stored as a new one has a key that was free, and is found under it. -/
lemma of_insertNew? {t u : Table key} {x : α} (h : t.insertNew? x = some u) :
    t.find? (key x) = none ∧ u.find? (key x) = some x := by
  rw [insertNew?] at h
  split at h
  · cases h
  · rename_i hfree
    have hnone : t.records.find? (fun y => decide (key y = key x)) = none := by
      simpa [has, find?] using hfree
    cases h
    refine ⟨hnone, ?_⟩
    rw [find?, List.find?_append, hnone]
    simp

/-- A change that leaves the keys alone changes what is found. -/
lemma find?_modify (t : Table key) {f : α → α} (hf : ∀ x, key (f x) = key x) (k k' : κ) :
    (t.modify k f).find? k' = (t.find? k').map fun x => if key x = k then f x else x := by
  simp only [find?, modify, List.find?_map]
  congr 2
  funext x
  by_cases h : key x = k <;> simp [h, hf]

end TokenAuthority.Table
