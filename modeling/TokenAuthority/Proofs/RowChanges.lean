import Mathlib.Data.List.Basic
import Mathlib.Tactic.Lemma
import TokenAuthority.Proofs.RowIndex

/-!
# Changes of the rows

What a grant for a user may do to the rows, as data: nothing, the revocation of a chain, a new chain,
or a row in place of another one. Two changes that touch different chains can be made in either
order: the rows that they add are numbered differently then, and nothing else differs.

## Main definitions

* `TokenAuthority.RowChange`, `TokenAuthority.RowChange.apply` — a change, and the store after it.
* `TokenAuthority.RowChange.Independent` — two changes that do not touch each other's rows.
* `TokenAuthority.Store.SameUpToNewIds` — two stores that differ in the numbers of new rows only.

## Main results

* `TokenAuthority.RowChange.rows_apply`, `TokenAuthority.RowChange.find?_successions_apply` — rows
  and index after a change.
* `TokenAuthority.RowChange.comm` — independent changes can be made in either order.
-/

set_option autoImplicit false

namespace TokenAuthority

/-- What a grant for a user does to the rows. -/
inductive RowChange where
  /-- The grant is refused. -/
  | keep
  /-- A chain is revoked, since one of its tokens was used twice. -/
  | revokeChain (firstJti : String)
  /-- A row starts a chain. -/
  | start (row : RefreshToken)
  /-- A row replaces the one that it names. -/
  | rotate (row : RefreshToken)

/-- A row without its number. -/
def RefreshToken.withoutId (r : RefreshToken) : RefreshToken := { r with id := 0 }

/-- Two stores that have come from a third one and differ at most in the numbers, and with them in
the order, of the rows that they have more than that one: they are alike in all other records, in the
rows that are not new, in every chain, in what is found under a token, and in the index. -/
structure Store.SameUpToNewIds (s t u : Store) : Prop where
  others : u = { t with rows := u.rows, successions := u.successions }
  rows : ∃ old newT newU, t.rows.records = old ++ newT ∧ u.rows.records = old ++ newU ∧
    old.map RefreshToken.jti = s.rows.records.map RefreshToken.jti ∧
    (newT.map RefreshToken.withoutId).Perm (newU.map RefreshToken.withoutId)
  chain : ∀ f, (t.chain f).map RefreshToken.withoutId = (u.chain f).map RefreshToken.withoutId
  row? : ∀ jti, (t.row? jti).map RefreshToken.withoutId = (u.row? jti).map RefreshToken.withoutId
  succession : ∀ p, t.successions.find? p = u.successions.find? p

namespace RowChange

/-- The store after a change. -/
def apply (s : Store) : RowChange → Store
  | keep => s
  | revokeChain firstJti => (s.revokeChain firstJti).2
  | start row => s.withRow row
  | rotate row => (s.revoke row.previousJti).withRow row

/-- The rows that a change revokes. -/
def revokes : RowChange → RefreshToken → Bool
  | keep, _ | start _, _ => false
  | revokeChain firstJti, r => r.firstJti == firstJti
  | rotate row, r => decide (r.jti = row.previousJti)

/-- The row that a change adds, if there is one. -/
def added : RowChange → List RefreshToken
  | keep | revokeChain _ => []
  | start row | rotate row => [row]

/-- What a change enters into the index. -/
def noted (c : RowChange) (p : String) : Option Succession :=
  (c.added.find? fun row => row.previousJti ≠ "" ∧ row.previousJti = p).map fun row => ⟨p, row.jti⟩

variable {c d : RowChange} {s : Store}

/-! ## After one change -/

/-- No row is revoked where nothing is. -/
lemma revokeWhere_false (rows : List RefreshToken) :
    rows.map (revokeWhere fun _ => false) = rows :=
  (List.map_congr_left fun _ _ => rfl).trans (List.map_id' rows)

/-- The rows after a change: the old ones, some of them revoked, and the new one. -/
lemma rows_apply (c : RowChange) (s : Store) :
    (c.apply s).rows.records = s.rows.records.map (revokeWhere c.revokes) ++
      c.added.map fun row => { row with id := s.nextId } := by
  cases c with
  | keep => exact ((List.append_nil _).trans (revokeWhere_false _)).symm
  | revokeChain firstJti => exact (s.revokeChain_records firstJti).trans (List.append_nil _).symm
  | start row => exact congrArg (· ++ _) (revokeWhere_false _).symm
  | rotate row => exact congrArg (· ++ _) (s.revoke_records row.previousJti)

/-- A change draws a number for the row that it adds. -/
lemma nextId_apply (c : RowChange) (s : Store) :
    (c.apply s).nextId = s.nextId + c.added.length := by
  cases c <;> first | rfl | exact (Int.add_zero _).symm

/-- A change touches the rows, the index and the number for the next row. -/
lemma apply_eq (c : RowChange) (s : Store) :
    c.apply s = { s with
      rows := (c.apply s).rows
      successions := (c.apply s).successions
      nextId := (c.apply s).nextId } := by
  cases c <;> rfl

/-- What is found in the index after a new row. -/
lemma find?_successions_withRow (s : Store) (row : RefreshToken) (p : String) :
    (s.withRow row).successions.find? p =
      (if row.previousJti ≠ "" ∧ row.previousJti = p then some ⟨p, row.jti⟩ else none).or
        (s.successions.find? p) := by
  by_cases hempty : row.previousJti = ""
  · simp [Store.withRow, hempty]
  · have hsucc : (s.withRow row).successions = s.successions.put ⟨row.previousJti, row.jti⟩ := by
      simp [Store.withRow, hempty]
    rw [hsucc, Table.find?_put]
    by_cases hp : row.previousJti = p
    · subst hp
      simp [hempty]
    · simp [hp]

/-- What is found in the index after a change: what was noted, or else what was found before. -/
lemma find?_successions_apply (c : RowChange) (s : Store) (p : String) :
    (c.apply s).successions.find? p = (c.noted p).or (s.successions.find? p) := by
  have hnoted (row : RefreshToken) : (if row.previousJti ≠ "" ∧ row.previousJti = p then
      some (⟨p, row.jti⟩ : Succession) else none) =
        ([row].find? fun row => row.previousJti ≠ "" ∧ row.previousJti = p).map
          fun row => ⟨p, row.jti⟩ := by
    by_cases h : row.previousJti ≠ "" ∧ row.previousJti = p
    · rw [if_pos h, List.find?_cons_of_pos (by simpa using h)]
      rfl
    · rw [if_neg h, List.find?_cons_of_neg (by simpa using h)]
      rfl
  cases c with
  | keep => rfl
  | revokeChain firstJti => rfl
  | start row => rw [apply, find?_successions_withRow, hnoted]; rfl
  | rotate row => rw [apply, find?_successions_withRow, hnoted]; rfl

/-! ## Two changes -/

/-- Neither change revokes the row that the other one adds, and the rows that they add are in
different chains and replace different rows. -/
structure Independent (c d : RowChange) : Prop where
  left : ∀ row ∈ c.added, d.revokes row = false
  right : ∀ row ∈ d.added, c.revokes row = false
  chains : ∀ row ∈ c.added, ∀ row' ∈ d.added, row.firstJti ≠ row'.firstJti
  previous : ∀ row ∈ c.added, ∀ row' ∈ d.added,
    row.previousJti = "" ∨ row.previousJti ≠ row'.previousJti

/-- Two changes touch the rows, the index and the number for the next row. -/
lemma apply_apply_eq (c d : RowChange) (s : Store) :
    c.apply (d.apply s) = { s with
      rows := (c.apply (d.apply s)).rows
      successions := (c.apply (d.apply s)).successions
      nextId := (c.apply (d.apply s)).nextId } := by
  cases c <;> cases d <;> rfl

/-- Two changes are independent in whatever order they come. -/
lemma Independent.symm (h : c.Independent d) : d.Independent c where
  left := h.right
  right := h.left
  chains row hrow row' hrow' := (h.chains row' hrow' row hrow).symm
  previous row hrow row' hrow' := by
    rcases h.previous row' hrow' row hrow with hempty | hne
    · by_cases heq : row.previousJti = row'.previousJti
      · exact .inl (heq.trans hempty)
      · exact .inr heq
    · exact .inr hne.symm

/-- Rows are revoked in either order. -/
lemma revokeWhere_comm (c d : RowChange) (r : RefreshToken) :
    revokeWhere c.revokes (revokeWhere d.revokes r) =
      revokeWhere d.revokes (revokeWhere c.revokes r) := by
  have hrevoked (c : RowChange) : c.revokes { r with revoked := true } = c.revokes r := by
    cases c <;> rfl
  by_cases hc : c.revokes r = true <;> by_cases hd : d.revokes r = true <;>
    simp [revokeWhere, hc, hd, hrevoked]

/-- Revocations can be made in either order. -/
lemma revokeWhere_comp_comm (c d : RowChange) :
    revokeWhere c.revokes ∘ revokeWhere d.revokes =
      revokeWhere d.revokes ∘ revokeWhere c.revokes :=
  funext (revokeWhere_comm c d)

/-- The rows after two changes. -/
lemma rows_apply_apply (h : c.Independent d) (s : Store) :
    (d.apply (c.apply s)).rows.records =
      s.rows.records.map (revokeWhere c.revokes ∘ revokeWhere d.revokes) ++
        ((c.added.map fun row => { row with id := s.nextId }) ++
          d.added.map fun row => { row with id := s.nextId + c.added.length }) := by
  have hid (row : RefreshToken) (id : Int) : d.revokes { row with id := id } = d.revokes row := by
    cases d <;> rfl
  have hfixed : (c.added.map fun row => ({ row with id := s.nextId } : RefreshToken)).map
      (revokeWhere d.revokes) = c.added.map fun row => { row with id := s.nextId } := by
    rw [List.map_map]
    refine List.map_congr_left fun row hrow => ?_
    exact if_neg (by rw [hid, h.left row hrow]; decide)
  rw [rows_apply, rows_apply, nextId_apply, List.map_append, List.map_map, hfixed,
    revokeWhere_comp_comm d c, List.append_assoc]

/-- New rows without their numbers do not depend on the numbers. -/
lemma map_withoutId_withId (rows : List RefreshToken) (id : Int) :
    (rows.map fun row => ({ row with id := id } : RefreshToken)).map RefreshToken.withoutId =
      rows.map RefreshToken.withoutId := by
  rw [List.map_map]
  rfl

/-- The rows after two changes, without their numbers. -/
lemma withoutId_apply_apply (h : c.Independent d) (s : Store) :
    (d.apply (c.apply s)).rows.records.map RefreshToken.withoutId =
      (s.rows.records.map (revokeWhere c.revokes ∘ revokeWhere d.revokes)).map
        RefreshToken.withoutId ++ (c.added ++ d.added).map RefreshToken.withoutId := by
  rw [rows_apply_apply h, List.map_append, List.map_append, map_withoutId_withId,
    map_withoutId_withId, List.map_append]

/-- What is entered into the index is the predecessor of the new row. -/
lemma previous_of_noted {p : String} {x : Succession} (h : c.noted p = some x) :
    ∃ row ∈ c.added, row.previousJti ≠ "" ∧ row.previousJti = p := by
  obtain ⟨row, hrow, -⟩ := Option.map_eq_some_iff.mp h
  exact ⟨row, List.mem_of_find?_eq_some hrow, by simpa using List.find?_some hrow⟩

/-- Independent changes enter different tokens into the index. -/
lemma Independent.noted (h : c.Independent d) (p : String) :
    (c.noted p).or (d.noted p) = (d.noted p).or (c.noted p) := by
  cases hc : c.noted p with
  | none => simp
  | some x =>
    cases hd : d.noted p with
    | none => simp
    | some y =>
      obtain ⟨row, hrow, hne, hp⟩ := previous_of_noted hc
      obtain ⟨row', hrow', -, hp'⟩ := previous_of_noted hd
      exact absurd (hp.trans hp'.symm) ((h.previous row hrow row' hrow').resolve_left hne)

/-- Of two rows in different chains only one is in a given chain. -/
lemma Independent.filter_append (h : c.Independent d) (f : String) :
    (c.added ++ d.added).filter (fun r => r.firstJti == f) =
      (d.added ++ c.added).filter fun r => r.firstJti == f := by
  rw [List.filter_append, List.filter_append]
  by_cases hc : ∃ row ∈ c.added, row.firstJti = f
  · obtain ⟨row, hrow, rfl⟩ := hc
    have hnil : d.added.filter (fun r => r.firstJti == row.firstJti) = [] :=
      List.filter_eq_nil_iff.mpr fun row' hrow' => by simpa using (h.chains row hrow row' hrow').symm
    rw [hnil, List.append_nil, List.nil_append]
  · have hnil : c.added.filter (fun r => r.firstJti == f) = [] :=
      List.filter_eq_nil_iff.mpr fun row hrow => by simpa using fun heq => hc ⟨row, hrow, heq⟩
    rw [hnil, List.append_nil, List.nil_append]

/-- A chain without the numbers of its rows. -/
lemma chain_withoutId (s : Store) (f : String) :
    (s.chain f).map RefreshToken.withoutId =
      (s.rows.records.map RefreshToken.withoutId).filter fun r => r.firstJti == f := by
  rw [List.filter_map]
  rfl

/-- What is found under a token, without its number. -/
lemma row?_withoutId (s : Store) (jti : String) :
    (s.row? jti).map RefreshToken.withoutId =
      (⟨s.rows.records.map RefreshToken.withoutId⟩ : Table RefreshToken.jti).find? jti := by
  rw [Table.find?, List.find?_map]
  rfl

/-- Independent changes can be made in either order.

**Proof sketch.** The revocations commute, and neither change revokes what the other one adds. So the
two stores have the old rows with the same revocations, and behind them the two new ones, once in
this order and once in that. In a chain there is at most one of them. -/
theorem comm (h : c.Independent d) (hunique : (d.apply (c.apply s)).Indexed) :
    s.SameUpToNewIds (d.apply (c.apply s)) (c.apply (d.apply s)) := by
  have ht := rows_apply_apply h s
  have hu := rows_apply_apply h.symm s
  have ht' := withoutId_apply_apply h s
  have hu' := withoutId_apply_apply h.symm s
  rw [revokeWhere_comp_comm d c] at hu hu'
  constructor
  case others =>
    have hid : (c.apply (d.apply s)).nextId = (d.apply (c.apply s)).nextId := by
      rw [nextId_apply, nextId_apply, nextId_apply, nextId_apply]
      omega
    have huntouched := apply_apply_eq c d s
    rw [hid] at huntouched
    refine huntouched.trans ?_
    rw [apply_apply_eq d c s]
  case rows =>
    refine ⟨_, _, _, ht, hu, ?_, ?_⟩
    · rw [List.map_map]
      refine List.map_congr_left fun r _ => ?_
      exact ((onlyRevokes_revokeWhere _).comp (onlyRevokes_revokeWhere _) r).jti
    · simp only [List.map_append, map_withoutId_withId]
      exact List.perm_append_comm
  case chain =>
    intro f
    have hadded : ((c.added ++ d.added).map RefreshToken.withoutId).filter
        (fun r => r.firstJti == f) = ((d.added ++ c.added).map RefreshToken.withoutId).filter
          fun r => r.firstJti == f := by
      rw [List.filter_map, List.filter_map]
      exact congrArg _ (h.filter_append f)
    rw [chain_withoutId, chain_withoutId, ht', hu', List.filter_append, List.filter_append, hadded]
  case row? =>
    intro jti
    rw [row?_withoutId, row?_withoutId]
    refine Table.find?_perm ?_ ?_ jti
    · rw [List.map_map]
      exact hunique.distinct
    · rw [ht', hu']
      exact (List.perm_append_comm.map _).append_left _
  case succession =>
    intro p
    rw [find?_successions_apply, find?_successions_apply, find?_successions_apply,
      find?_successions_apply, ← Option.or_assoc, ← Option.or_assoc, h.noted p]

end RowChange

end TokenAuthority
