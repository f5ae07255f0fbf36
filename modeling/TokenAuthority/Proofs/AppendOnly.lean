import Mathlib.Data.List.Forall2
import Mathlib.Tactic.Lemma
import TokenAuthority.Proofs.RowIndex

/-!
# The table of rows is append-only

The operations on rows, called directly and with rows of any form, in any order. The table only
grows at its end, what it holds changes only by revocation, and the index of successors always
agrees with a scan.

## Main definitions

* `TokenAuthority.RowOperation` — the operations on rows.
* `TokenAuthority.RowOperation.after` — the store after a list of them.
* `TokenAuthority.RefreshToken.RevokedIn` — what becomes of a row when a chain is revoked.

## Main results

* `TokenAuthority.RowOperation.appendOnly_table` — how the table stands after any operations.
-/

set_option autoImplicit false

namespace TokenAuthority

/-- An operation on the rows. -/
inductive RowOperation where
  | create (row : RefreshToken)
  | find (jti : String)
  | findSuccessor (previousJti : String)
  | revoke (jti : String)
  | revokeChain (firstJti : String)

/-- What an operation on the rows answers. -/
inductive RowReply where
  | stored (answer : Except AuthError RefreshToken)
  | found (row : Option RefreshToken)
  | done
  | revoked (count : Nat)

/-- A row before and after the revocation of a chain: it is the same, but for its revocation, and it
is revoked now exactly if it is a live row of the chain. -/
def RefreshToken.RevokedIn (firstJti : String) (r r' : RefreshToken) : Prop :=
  r.MayBecome r' ∧ (r' ≠ r ↔ r.firstJti = firstJti ∧ r.revoked = false)

namespace RowOperation

/-- The answer of an operation, and the store after it. -/
def run (s : Store) : RowOperation → RowReply × Store
  | create row => (.stored (s.createRow row).1, (s.createRow row).2)
  | find jti => (.found (s.row? jti), s)
  | findSuccessor previousJti => (.found (s.successor? previousJti), s)
  | revoke jti => (.done, s.revoke jti)
  | revokeChain firstJti => (.revoked (s.revokeChain firstJti).1, (s.revokeChain firstJti).2)

/-- The store after operations, one after the other. -/
def after (s : Store) (ops : List RowOperation) : Store :=
  ops.foldl (fun t op => (op.run t).2) s

end RowOperation

namespace Store

variable {s t : Store}

/-! ## What an operation does -/

/-- Whether a row clashes is a matter of the rows. -/
lemma Clashes.congr (h : t.rows = s.rows) {row : RefreshToken} :
    t.Clashes row ↔ s.Clashes row := by
  rw [Clashes, Clashes, h]

/-- Whatever number is given next, the index agrees with the rows. -/
lemma Indexed.of_nextId (h : s.Indexed) (n : Int) : ({ s with nextId := n } : Store).Indexed :=
  ⟨h.distinct, h.noted, h.indexed⟩

/-- An operation keeps the index in agreement, and only adds and revokes rows. -/
lemma Indexed.run (h : s.Indexed) (op : RowOperation) :
    (op.run s).2.Indexed ∧ s.GrowsTo (op.run s).2 := by
  cases op with
  | create row =>
    rcases h.createRow_cases row with ⟨-, e, n, hrun, -⟩ | ⟨-, hrun, hrow⟩
    · simp only [RowOperation.run, hrun]
      exact ⟨h.of_nextId n, .refl s⟩
    · simp only [RowOperation.run, hrun]
      exact ⟨hrow, s.growsTo_withRow row⟩
  | find jti => exact ⟨h, .refl s⟩
  | findSuccessor previousJti => exact ⟨h, .refl s⟩
  | revoke jti =>
    have hrevokes := s.revokesTo_revoke jti
    exact ⟨h.of_revokesTo hrevokes, hrevokes.growsTo⟩
  | revokeChain firstJti =>
    have hrevokes := s.revokesTo_revokeChain firstJti
    exact ⟨h.of_revokesTo hrevokes, hrevokes.growsTo⟩

/-- Any number of operations keep the index in agreement, and only add and revoke rows. -/
lemma Indexed.after (h : s.Indexed) (ops : List RowOperation) :
    (RowOperation.after s ops).Indexed ∧ s.GrowsTo (RowOperation.after s ops) := by
  induction ops generalizing s with
  | nil => exact ⟨h, .refl s⟩
  | cons op ops ih =>
    obtain ⟨hop, hgrows⟩ := h.run op
    obtain ⟨hall, hgrows'⟩ := ih hop
    exact ⟨hall, hgrows.trans hgrows'⟩

/-- No two rows have the same token, or name the same predecessor. -/
lemma Indexed.pairwise (h : s.Indexed) :
    s.rows.records.Pairwise fun a b =>
      a.jti ≠ b.jti ∧ (a.previousJti = "" ∨ a.previousJti ≠ b.previousJti) := by
  have hjti : s.rows.records.Pairwise fun a b => a.jti ≠ b.jti := List.pairwise_map.mp h.distinct
  refine hjti.imp_of_mem fun {a b} ha hb hne => ⟨hne, ?_⟩
  by_cases hempty : a.previousJti = ""
  · exact .inl hempty
  · exact .inr fun heq => hne (congrArg RefreshToken.jti (h.eq_of_previousJti ha hb hempty heq))

/-- A row that clashes is turned away, and whatever could be stored before, still can. -/
lemma Indexed.createRow_clashes (h : s.Indexed) {row : RefreshToken} (hclash : s.Clashes row) :
    (∃ e, (s.createRow row).1 = .error e) ∧ (s.createRow row).2.rows = s.rows ∧
      (s.createRow row).2.successions = s.successions ∧
      ∀ next, ¬s.Clashes next → ∃ stored, ((s.createRow row).2.createRow next).1 = .ok stored := by
  rcases h.createRow_cases row with ⟨-, e, n, hrun, -⟩ | ⟨hfree, -⟩
  · rw [hrun]
    refine ⟨⟨e, rfl⟩, rfl, rfl, fun next hnext => ?_⟩
    have hnext' : ¬({ s with nextId := n } : Store).Clashes next := hnext
    rcases (h.of_nextId n).createRow_cases next with ⟨hclash', -⟩ | ⟨-, hrun', -⟩
    · exact absurd hclash' hnext'
    · exact ⟨_, congrArg Prod.fst hrun'⟩
  · exact absurd hclash hfree

/-- A row that does not clash is stored at the end of the table under a new number. -/
lemma Indexed.createRow_free (h : s.Indexed) {row : RefreshToken} (hfree : ¬s.Clashes row) :
    ∃ id, (s.createRow row).1 = .ok { row with id := id } ∧
      (s.createRow row).2.rows.records = s.rows.records ++ [{ row with id := id }] := by
  rcases h.createRow_cases row with ⟨hclash, -⟩ | ⟨-, hrun, -⟩
  · exact absurd hclash hfree
  · exact ⟨s.nextId, by rw [hrun], by rw [hrun]; rfl⟩

/-- The revocation of a chain revokes its live rows, and does nothing else. -/
lemma revokeChain_revokedIn (s : Store) (f : String) :
    List.Forall₂ (RefreshToken.RevokedIn f) s.rows.records (s.revokeChain f).2.rows.records := by
  rw [revokeChain_records, List.forall₂_map_right_iff, List.forall₂_same]
  intro r _
  refine ⟨onlyRevokes_revokeWhere _ r, ?_⟩
  obtain ⟨⟩ := r
  simp [revokeWhere]

end Store

/-! ## What any operations do -/

open Store

/-- However the operations on rows follow each other, and whatever rows they are given: no two rows
have the same token, or name the same predecessor; a look-up of a token or of a predecessor finds
what a scan of the rows would find; a row is turned away exactly if it clashes with one that is
stored, and then rows and index stay as they are, so that whatever could be stored still can; the
rows never change, except that they are revoked, and further ones are added behind them; and the
revocation of a chain revokes its live rows, and counts them. -/
theorem RowOperation.appendOnly_table (ops later : List RowOperation) :
    let s := after {} ops
    (s.rows.records.Pairwise fun a b =>
      a.jti ≠ b.jti ∧ (a.previousJti = "" ∨ a.previousJti ≠ b.previousJti)) ∧
    (∀ jti r, s.row? jti = some r ↔ r ∈ s.rows.records ∧ r.jti = jti) ∧
    (∀ p r, s.successor? p = some r ↔ p ≠ "" ∧ r ∈ s.rows.records ∧ r.previousJti = p) ∧
    (∀ row, s.Clashes row →
      (∃ e, (s.createRow row).1 = .error e) ∧ (s.createRow row).2.rows = s.rows ∧
        (s.createRow row).2.successions = s.successions ∧
        ∀ next, ¬s.Clashes next →
          ∃ stored, ((s.createRow row).2.createRow next).1 = .ok stored) ∧
    (∀ row, ¬s.Clashes row → ∃ id, (s.createRow row).1 = .ok { row with id := id } ∧
      (s.createRow row).2.rows.records = s.rows.records ++ [{ row with id := id }]) ∧
    (∃ g added, OnlyRevokes g ∧
      (after s later).rows.records = s.rows.records.map g ++ added) ∧
    ∀ f, List.Forall₂ (RefreshToken.RevokedIn f) s.rows.records
        (s.revokeChain f).2.rows.records ∧
      (s.revokeChain f).2 = { s with rows := (s.revokeChain f).2.rows } ∧
      (s.revokeChain f).1 =
        s.rows.records.countP fun r => r.firstJti = f ∧ r.revoked = false := by
  intro s
  have hs : s.Indexed := (Indexed.empty.after ops).1
  refine ⟨hs.pairwise, fun jti r => hs.row?_eq_some_iff, fun p r => hs.successor?_eq_some_iff,
    fun row => hs.createRow_clashes, fun row => hs.createRow_free, (hs.after later).2,
    fun f => ⟨s.revokeChain_revokedIn f, rfl, ?_⟩⟩
  rw [List.countP_eq_length_filter]
  refine congrArg List.length (List.filter_congr fun r _ => ?_)
  simp [isLiveIn, beq_eq_decide]

end TokenAuthority
