import Mathlib.Data.List.Chain
import Mathlib.Tactic.Lemma
import TokenAuthority.Proofs.GrantPlan
import TokenAuthority.Proofs.RowHistory
import TokenAuthority.Proofs.RowIndex

/-!
# Chains of rows are lines

The rows of a store fall into chains, and each chain is a line: it starts with a head, every further
row names the one before it, and only the last row may be live. The index of successors agrees with
what the rows say.

## Main definitions

* `TokenAuthority.LinearChain` — a list of rows is a line.
* `TokenAuthority.Store.Linked` — the invariant of a store.

## Main results

* `TokenAuthority.Store.Linked.successor?_isSome_iff` — a row has a successor exactly when some row
  names it as predecessor.
* `TokenAuthority.Store.Linked.of_revokesTo`, `TokenAuthority.Store.Linked.withRow` — revocations
  and new rows preserve the invariant.
-/

set_option autoImplicit false

namespace TokenAuthority

/-- The rows form a line that starts with the token `f`: a head, then rows that name the one before
them, of one code, with rising numbers; all of them but the last one are revoked. -/
structure LinearChain (f : String) (rows : List RefreshToken) : Prop where
  head : ∃ r, rows.head? = some r ∧ r.isChainHead = true ∧ r.jti = f
  linked : rows.IsChain fun a b => b.previousJti = a.jti
  sameCode : ∀ a ∈ rows, ∀ b ∈ rows, a.codeId = b.codeId
  ascending : rows.Pairwise fun a b => a.id < b.id
  spent : ∀ r ∈ rows.dropLast, r.revoked = true

namespace LinearChain

variable {f : String} {rows : List RefreshToken}

/-- A head alone is a line. -/
lemma singleton {r : RefreshToken} (hr : r.isChainHead = true) (hf : r.jti = f) :
    LinearChain f [r] where
  head := ⟨r, rfl, hr, hf⟩
  linked := List.isChain_singleton r
  sameCode := by simp
  ascending := List.pairwise_singleton _ r
  spent := by simp

/-- A line remains one when rows of it are revoked. -/
lemma map (h : LinearChain f rows) {g : RefreshToken → RefreshToken} (hg : OnlyRevokes g) :
    LinearChain f (rows.map g) where
  head := by
    obtain ⟨r, hr, hhead, hf⟩ := h.head
    refine ⟨g r, by rw [List.head?_map, hr]; rfl, ?_, (hg r).jti.trans hf⟩
    rw [(hg r).congr RefreshToken.isChainHead fun _ => rfl, hhead]
  linked := by
    rw [List.isChain_map]
    exact h.linked.imp fun a b hab => by rw [(hg a).jti, (hg b).previousJti, hab]
  sameCode := by
    intro a ha b hb
    obtain ⟨a', ha', rfl⟩ := List.mem_map.mp ha
    obtain ⟨b', hb', rfl⟩ := List.mem_map.mp hb
    rw [(hg a').codeId, (hg b').codeId, h.sameCode a' ha' b' hb']
  ascending := by
    rw [List.pairwise_map]
    refine h.ascending.imp fun {a b} hab => ?_
    rw [(hg a).id, (hg b).id]
    exact hab
  spent := by
    intro r hr
    rw [← List.map_dropLast] at hr
    obtain ⟨r', hr', rfl⟩ := List.mem_map.mp hr
    exact (hg r').revoked (h.spent r' hr')

/-- A row of a line that names a predecessor has it in the line. -/
lemma exists_previous (h : LinearChain f rows) {r : RefreshToken} (hr : r ∈ rows)
    (hne : r.previousJti ≠ "") : ∃ p ∈ rows, r.previousJti = p.jti := by
  obtain ⟨before, after, rfl⟩ := List.append_of_mem hr
  cases before using List.reverseRecOn with
  | nil =>
    obtain ⟨r₀, hr₀, hhead, -⟩ := h.head
    cases hr₀
    simp [RefreshToken.isChainHead, hne] at hhead
  | append_singleton before p =>
    refine ⟨p, by simp, ?_⟩
    have hlinked := h.linked
    rw [List.append_assoc, List.singleton_append] at hlinked
    exact (List.isChain_append_cons_cons.mp hlinked).2.1

/-- A row that no row of the line names is the last one. -/
lemma getLast?_of_unnamed (h : LinearChain f rows) {p : RefreshToken} (hp : p ∈ rows)
    (hunnamed : ∀ r ∈ rows, r.previousJti ≠ p.jti) : rows.getLast? = some p := by
  obtain ⟨before, after, rfl⟩ := List.append_of_mem hp
  cases after with
  | nil => simp
  | cons q after =>
    have hlink := (List.isChain_append_cons_cons.mp h.linked).2.1
    exact absurd hlink (hunnamed q (by simp))

/-- A row that is not revoked is the last one. -/
lemma getLast?_of_live (h : LinearChain f rows) {p : RefreshToken} (hp : p ∈ rows)
    (hlive : p.revoked = false) : rows.getLast? = some p := by
  obtain ⟨before, after, rfl⟩ := List.append_of_mem hp
  cases after with
  | nil => simp
  | cons q after =>
    have hspent := h.spent p (by simp [List.dropLast_append_of_ne_nil])
    simp [hlive] at hspent

/-- No two rows of a line are live. -/
lemma eq_of_live (h : LinearChain f rows) {p q : RefreshToken} (hp : p ∈ rows) (hq : q ∈ rows)
    (hplive : p.revoked = false) (hqlive : q.revoked = false) : p = q :=
  Option.some.inj ((h.getLast?_of_live hp hplive).symm.trans (h.getLast?_of_live hq hqlive))

/-- A line whose last row is revoked can be continued by a row that names it. -/
lemma snoc (h : LinearChain f rows) {p r : RefreshToken} (hlast : rows.getLast? = some p)
    (hp : p.revoked = true) (hprevious : r.previousJti = p.jti) (hcode : r.codeId = p.codeId)
    (hid : ∀ a ∈ rows, a.id < r.id) : LinearChain f (rows ++ [r]) where
  head := by
    obtain ⟨r₀, hr₀, hhead⟩ := h.head
    exact ⟨r₀, by rw [List.head?_append, hr₀]; rfl, hhead⟩
  linked := by
    refine List.isChain_append.mpr ⟨h.linked, List.isChain_singleton r, ?_⟩
    intro a ha b hb
    rw [hlast] at ha
    cases ha
    cases hb
    exact hprevious
  sameCode := by
    have hmem : p ∈ rows := List.mem_of_getLast? hlast
    have hall : ∀ a ∈ rows ++ [r], a.codeId = p.codeId := by
      intro a ha
      rcases List.mem_append.mp ha with ha | ha
      · exact h.sameCode a ha p hmem
      · rw [List.mem_singleton.mp ha, hcode]
    intro a ha b hb
    rw [hall a ha, hall b hb]
  ascending := by
    refine List.pairwise_append.mpr ⟨h.ascending, List.pairwise_singleton _ r, ?_⟩
    intro a ha b hb
    rw [List.mem_singleton.mp hb]
    exact hid a ha
  spent := by
    intro a ha
    rw [List.dropLast_concat] at ha
    rw [← List.dropLast_append_getLast? p hlast] at ha
    rcases List.mem_append.mp ha with ha | ha
    · exact h.spent a ha
    · rw [List.mem_singleton.mp ha, hp]

end LinearChain

namespace Store

/-- The invariant of a store: tokens are not empty and have one row each, numbers rise, every chain
is a line, and the index of successors agrees with the rows. -/
structure Linked (s : Store) : Prop where
  named : ∀ r ∈ s.rows.records, r.jti ≠ ""
  distinct : (s.rows.records.map RefreshToken.jti).Nodup
  ascending : s.rows.records.Pairwise fun a b => a.id < b.id
  numbered : ∀ r ∈ s.rows.records, r.id < s.nextId
  linear : ∀ r ∈ s.rows.records, LinearChain r.firstJti (s.chain r.firstJti)
  noted : ∀ r ∈ s.rows.records, r.previousJti ≠ "" →
    s.successions.find? r.previousJti = some ⟨r.previousJti, r.jti⟩
  indexed : ∀ x ∈ s.successions.records, ∃ r ∈ s.rows.records,
    r.jti = x.jti ∧ r.previousJti = x.previous ∧ x.previous ≠ ""

/-- A store without rows. -/
lemma Linked.empty : Linked {} where
  named := by simp [Table.empty]
  distinct := by simp [Table.empty]
  ascending := by simp [Table.empty]
  numbered := by simp [Table.empty]
  linear := by simp [Table.empty]
  noted := by simp [Table.empty]
  indexed := by simp [Table.empty]

/-- A row is in the chain that it names. -/
lemma mem_chain {s : Store} {f : String} {r : RefreshToken} :
    r ∈ s.chain f ↔ r ∈ s.rows.records ∧ r.firstJti = f := by
  simp [chain]

/-- A chain has rows if some row names it. -/
lemma chain_ne_nil_iff {s : Store} {f : String} :
    s.chain f ≠ [] ↔ ∃ r ∈ s.rows.records, r.firstJti = f := by
  simp [chain]

namespace Linked

variable {s t : Store}

/-- The index agrees with the rows. -/
lemma toIndexed (h : s.Linked) : s.Indexed := ⟨h.distinct, h.noted, h.indexed⟩

/-- The row of a token is found under it. -/
lemma row?_of_mem (h : s.Linked) {r : RefreshToken} (hr : r ∈ s.rows.records) :
    s.row? r.jti = some r := h.toIndexed.row?_of_mem hr

/-- A token has one row. -/
lemma eq_of_jti (h : s.Linked) {r r' : RefreshToken} (hr : r ∈ s.rows.records)
    (hr' : r' ∈ s.rows.records) (hjti : r.jti = r'.jti) : r = r' :=
  h.toIndexed.eq_of_jti hr hr' hjti

/-- A token has a successor exactly when some row names it as its predecessor. -/
lemma successor?_isSome_iff (h : s.Linked) {p : String} :
    (s.successor? p).isSome = true ↔ p ≠ "" ∧ ∃ r ∈ s.rows.records, r.previousJti = p :=
  h.toIndexed.successor?_isSome_iff

/-- A token that no row names as its predecessor has no successor. -/
lemma successor?_eq_none (h : s.Linked) {p : String}
    (hp : ∀ r ∈ s.rows.records, r.previousJti ≠ p) : s.successor? p = none := by
  rw [← Option.not_isSome_iff_eq_none, h.successor?_isSome_iff]
  rintro ⟨-, r, hr, hname⟩
  exact hp r hr hname

/-- A chain that has rows is a line. -/
lemma linear_chain (h : s.Linked) {f : String} (hf : ∃ r ∈ s.rows.records, r.firstJti = f) :
    LinearChain f (s.chain f) := by
  obtain ⟨r, hr, rfl⟩ := hf
  exact h.linear r hr

/-- A row that names a predecessor has it in the store. -/
lemma exists_previous (h : s.Linked) {r : RefreshToken} (hr : r ∈ s.rows.records)
    (hne : r.previousJti ≠ "") : ∃ p ∈ s.rows.records, r.previousJti = p.jti := by
  obtain ⟨p, hp, hprevious⟩ := (h.linear r hr).exists_previous (mem_chain.mpr ⟨hr, rfl⟩) hne
  exact ⟨p, (mem_chain.mp hp).1, hprevious⟩

/-- The first token of a chain has a row. -/
lemma exists_head (h : s.Linked) {r : RefreshToken} (hr : r ∈ s.rows.records) :
    ∃ r₀ ∈ s.rows.records, r₀.jti = r.firstJti ∧ r₀.isChainHead = true := by
  obtain ⟨r₀, hr₀, hhead, hf⟩ := (h.linear r hr).head
  have hmem : r₀ ∈ s.chain r.firstJti := List.mem_of_mem_head? hr₀
  exact ⟨r₀, (mem_chain.mp hmem).1, hf, hhead⟩

/-- Revocations preserve the invariant. -/
theorem of_revokesTo (h : s.Linked) (hst : s.RevokesTo t) : t.Linked := by
  obtain ⟨g, hg, hrows⟩ := hst.rows
  have hindexed : t.Indexed := h.toIndexed.of_revokesTo hst
  refine { hindexed with
    named := ?named, ascending := ?ascending, numbered := ?numbered, linear := ?linear }
  case named =>
    intro r hr
    obtain ⟨r', hr', hbecome⟩ := hst.exists_row hr
    rw [hbecome.jti]
    exact h.named r' hr'
  case ascending =>
    rw [hrows, List.pairwise_map]
    refine h.ascending.imp fun {a b} hab => ?_
    rw [(hg a).id, (hg b).id]
    exact hab
  case numbered =>
    intro r hr
    obtain ⟨r', hr', hbecome⟩ := hst.exists_row hr
    rw [hbecome.id]
    exact Int.lt_of_lt_of_le (h.numbered r' hr') hst.nextId
  case linear =>
    intro r hr
    obtain ⟨r', hr', hbecome⟩ := hst.exists_row hr
    rw [hbecome.firstJti, chain_of_records hg hrows]
    exact (h.linear r' hr').map hg

/-- A row that may be added: its token is fresh, and either it starts a chain, or it names a revoked
row without successor and goes on with the chain of that row. -/
structure Addable (s : Store) (row : RefreshToken) : Prop where
  named : row.jti ≠ ""
  free : s.rows.has row.jti = false
  place : (row.previousJti = "" ∧ row.firstJti = row.jti) ∨
    (s.successor? row.previousJti = none ∧ ∃ p ∈ s.rows.records,
      row.previousJti = p.jti ∧ p.revoked = true ∧ row.firstJti = p.firstJti ∧
        row.codeId = p.codeId)

namespace Addable

variable {row : RefreshToken}

/-- The predecessor of a row that may be added, if there is one, has not been replaced. -/
lemma previous_free (h : s.Linked) (ha : Addable s row) :
    row.previousJti = "" ∨ s.successions.has row.previousJti = false :=
  ha.place.imp And.left fun hp => h.toIndexed.has_eq_false hp.1

/-- No other row has the token. -/
lemma jti_ne (ha : Addable s row) {r : RefreshToken} (hr : r ∈ s.rows.records) :
    r.jti ≠ row.jti := Table.has_eq_false_iff.mp ha.free r hr

/-- A chain of which the new row becomes the last one is a line.

**Proof sketch.** A row that starts a chain is alone in it: the head of an older row of the chain
would have the same token. A row that replaces another one is behind it, since no row names that
one. -/
lemma linear_snoc (h : s.Linked) (ha : Addable s row) :
    LinearChain row.firstJti (s.chain row.firstJti ++ [{ row with id := s.nextId }]) := by
  rcases ha.place with ⟨hprevious, hfirst⟩ | ⟨hnone, p, hp, hprevious, hrevoked, hfirst, hcode⟩
  · have hnil : s.chain row.firstJti = [] := by
      refine List.eq_nil_iff_forall_not_mem.mpr fun r hr => ?_
      obtain ⟨hr, hrf⟩ := mem_chain.mp hr
      obtain ⟨r₀, hr₀, hjti, -⟩ := h.exists_head hr
      exact ha.jti_ne hr₀ (hjti.trans (hrf.trans hfirst))
    rw [hnil]
    exact .singleton (by simp [RefreshToken.isChainHead, hprevious, hfirst]) hfirst.symm
  · have hmem : p ∈ s.chain row.firstJti := mem_chain.mpr ⟨hp, hfirst.symm⟩
    have hlinear : LinearChain row.firstJti (s.chain row.firstJti) := hfirst ▸ h.linear p hp
    have hlast : (s.chain row.firstJti).getLast? = some p := by
      refine hlinear.getLast?_of_unnamed hmem fun r hr hname => ?_
      have hsome := h.successor?_isSome_iff.mpr
        ⟨h.named p hp, r, (mem_chain.mp hr).1, hname⟩
      rw [← hprevious, hnone] at hsome
      cases hsome
    exact hlinear.snoc hlast hrevoked hprevious hcode fun a ha => h.numbered a (mem_chain.mp ha).1

end Addable

/-- A new row preserves the invariant. -/
theorem withRow (h : s.Linked) {row : RefreshToken} (ha : Addable s row) :
    (s.withRow row).Linked := by
  have hrows : (s.withRow row).rows.records =
      s.rows.records ++ [{ row with id := s.nextId }] := rfl
  have hindexed : (s.withRow row).Indexed := h.toIndexed.withRow ha.free (ha.previous_free h)
  refine { hindexed with
    named := ?named, ascending := ?ascending, numbered := ?numbered, linear := ?linear }
  case named =>
    intro r hr
    rcases mem_withRow.mp hr with hr | rfl
    · exact h.named r hr
    · exact ha.named
  case ascending =>
    rw [hrows]
    refine List.pairwise_append.mpr ⟨h.ascending, List.pairwise_singleton _ _, ?_⟩
    intro a haj b hbj
    rw [List.mem_singleton.mp hbj]
    exact h.numbered a haj
  case numbered =>
    intro r hr
    change r.id < s.nextId + 1
    rcases mem_withRow.mp hr with hr | rfl
    · have := h.numbered r hr
      omega
    · change s.nextId < s.nextId + 1
      omega
  case linear =>
    intro r hr
    by_cases hf : row.firstJti = r.firstJti
    · rw [chain_withRow, if_pos hf, ← hf]
      exact ha.linear_snoc h
    · rw [chain_withRow, if_neg hf, List.append_nil]
      rcases mem_withRow.mp hr with hr | rfl
      · exact h.linear r hr
      · exact absurd rfl hf

end Linked

end Store

end TokenAuthority
