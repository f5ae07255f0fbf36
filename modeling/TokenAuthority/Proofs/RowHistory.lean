import Mathlib.Data.List.Basic
import Mathlib.Tactic.Lemma
import TokenAuthority.Proofs.Server
import TokenAuthority.Proofs.Table

/-!
# How rows change

Rows of refresh tokens are added and revoked, and nothing else is ever done to them: between two
times of a run every row stays what it was, except that it may have been revoked, and the new rows
stand behind the old ones.

## Main definitions

* `TokenAuthority.RefreshToken.MayBecome` — a row as it may stand later.
* `TokenAuthority.OnlyRevokes` — a change of rows that revokes some of them.
* `TokenAuthority.Store.RevokesTo` — a store in which some rows have been revoked.
* `TokenAuthority.Store.GrowsTo` — a store in which moreover rows have been added.
* `TokenAuthority.Store.withRow` — a store with one row more.

## Main results

* `TokenAuthority.Store.createRow_of_free` — when a row is stored.
* `TokenAuthority.RecordUpdate.revokesTo_run` — the other records change without the rows.
-/

set_option autoImplicit false

namespace TokenAuthority

/-! ## Rows over time -/

/-- A row as it may stand later: as it was, or revoked. -/
def RefreshToken.MayBecome (c r : RefreshToken) : Prop := r = c ∨ r = { c with revoked := true }

namespace RefreshToken.MayBecome

variable {c r t : RefreshToken}

/-- A row may stay as it was. -/
lemma refl (r : RefreshToken) : r.MayBecome r := .inl rfl

/-- What a row may become in two steps, it may become in one. -/
lemma trans (h : c.MayBecome r) (h' : r.MayBecome t) : c.MayBecome t := by
  rcases h with rfl | rfl
  · exact h'
  · rcases h' with rfl | rfl <;> exact .inr rfl

/-- Whatever does not look at the revocation of a row does not change. -/
lemma congr {β : Type} (f : RefreshToken → β) (hf : ∀ r, f { r with revoked := true } = f r)
    (h : c.MayBecome r) : f r = f c := by
  rcases h with rfl | rfl
  · rfl
  · exact hf c

/-- The token of a row does not change. -/
lemma jti (h : c.MayBecome r) : r.jti = c.jti := h.congr RefreshToken.jti fun _ => rfl

/-- The number of a row does not change. -/
lemma id (h : c.MayBecome r) : r.id = c.id := h.congr RefreshToken.id fun _ => rfl

/-- A row stays with its code. -/
lemma codeId (h : c.MayBecome r) : r.codeId = c.codeId := h.congr RefreshToken.codeId fun _ => rfl

/-- A row keeps its kind. -/
lemma type (h : c.MayBecome r) : r.type = c.type := h.congr RefreshToken.type fun _ => rfl

/-- A row keeps its cutoff. -/
lemma maxLifetime (h : c.MayBecome r) : r.maxLifetime = c.maxLifetime :=
  h.congr RefreshToken.maxLifetime fun _ => rfl

/-- A row keeps its scope. -/
lemma scope (h : c.MayBecome r) : r.scope = c.scope := h.congr RefreshToken.scope fun _ => rfl

/-- A row stays in its chain. -/
lemma firstJti (h : c.MayBecome r) : r.firstJti = c.firstJti :=
  h.congr RefreshToken.firstJti fun _ => rfl

/-- A row goes on naming its predecessor. -/
lemma previousJti (h : c.MayBecome r) : r.previousJti = c.previousJti :=
  h.congr RefreshToken.previousJti fun _ => rfl

/-- A row that is revoked remains so. -/
lemma revoked (h : c.MayBecome r) (hc : c.revoked = true) : r.revoked = true := by
  rcases h with rfl | rfl
  · exact hc
  · rfl

/-- A row that is revoked does not change any more. -/
lemma eq_of_revoked (h : c.MayBecome r) (hc : c.revoked = true) : r = c := by
  rcases h with rfl | rfl
  · rfl
  · cases c; simp_all

end RefreshToken.MayBecome

/-- A change of rows that revokes some of them. -/
def OnlyRevokes (g : RefreshToken → RefreshToken) : Prop :=
  ∀ r : RefreshToken, r.MayBecome (g r)

/-- Revokes the rows that have a property. -/
def revokeWhere (p : RefreshToken → Bool) (row : RefreshToken) : RefreshToken :=
  if p row then { row with revoked := true } else row

/-- Revoking the rows that have a property only revokes. -/
lemma onlyRevokes_revokeWhere (p : RefreshToken → Bool) : OnlyRevokes (revokeWhere p) := by
  intro r
  by_cases h : p r = true
  · exact .inr (if_pos h)
  · exact .inl (if_neg h)

namespace OnlyRevokes

variable {g g' : RefreshToken → RefreshToken}

/-- No row need be revoked. -/
lemma id : OnlyRevokes fun r => r := RefreshToken.MayBecome.refl

/-- Rows may be revoked twice. -/
lemma comp (h' : OnlyRevokes g') (h : OnlyRevokes g) : OnlyRevokes (g' ∘ g) := fun r =>
  (h r).trans (h' (g r))

/-- A list of values that do not look at revocations is the same for the changed rows. -/
lemma map_map {β : Type} (h : OnlyRevokes g) (f : RefreshToken → β)
    (hf : ∀ r, f { r with revoked := true } = f r) (rows : List RefreshToken) :
    (rows.map g).map f = rows.map f := by
  rw [List.map_map]
  exact List.map_congr_left fun r _ => (h r).congr f hf

/-- Changed rows are in the chain in which they were. -/
lemma filter_chain (h : OnlyRevokes g) (f : String) (rows : List RefreshToken) :
    (rows.map g).filter (fun r => r.firstJti == f) =
      (rows.filter fun r => r.firstJti == f).map g := by
  rw [List.filter_map]
  congr 1
  exact List.filter_congr fun r _ => by simp [(h r).firstJti]

end OnlyRevokes

namespace Store

variable {s t u : Store}

/-! ## Revocations -/

/-- Some rows are revoked; the index is the same, and no number is given back. -/
structure RevokesTo (s t : Store) : Prop where
  rows : ∃ g, OnlyRevokes g ∧ t.rows.records = s.rows.records.map g
  successions : t.successions = s.successions
  nextId : s.nextId ≤ t.nextId

/-- Stores with the same rows. -/
lemma RevokesTo.of_eq (hrows : t.rows = s.rows) (hsucc : t.successions = s.successions)
    (hid : s.nextId ≤ t.nextId) : s.RevokesTo t :=
  ⟨⟨fun r => r, .id, by simp [hrows]⟩, hsucc, hid⟩

/-- Nothing need be revoked. -/
lemma RevokesTo.refl (s : Store) : s.RevokesTo s := .of_eq rfl rfl (Int.le_refl _)

/-- Rows are revoked chain by chain. -/
lemma chain_of_records {g : RefreshToken → RefreshToken} (hg : OnlyRevokes g)
    (hrows : t.rows.records = s.rows.records.map g) (f : String) :
    t.chain f = (s.chain f).map g := by
  rw [chain, hrows, hg.filter_chain]
  rfl

/-- Every row was there before. -/
lemma RevokesTo.exists_row (h : s.RevokesTo t) {r : RefreshToken} (hr : r ∈ t.rows.records) :
    ∃ r₀ ∈ s.rows.records, r₀.MayBecome r := by
  obtain ⟨g, hg, hrows⟩ := h.rows
  rw [hrows] at hr
  obtain ⟨r₀, hr₀, rfl⟩ := List.mem_map.mp hr
  exact ⟨r₀, hr₀, hg r₀⟩

/-- A chain that is revoked does not change by revocations. -/
lemma RevokesTo.chain_of_revoked (h : s.RevokesTo t) {f : String}
    (hrevoked : ∀ r ∈ s.chain f, r.revoked = true) : t.chain f = s.chain f := by
  obtain ⟨g, hg, hrows⟩ := h.rows
  rw [chain_of_records hg hrows]
  exact (List.map_congr_left fun r hr => (hg r).eq_of_revoked (hrevoked r hr)).trans
    (List.map_id' _)

/-- Revoking one row. -/
lemma revoke_records (s : Store) (jti : String) :
    (s.revoke jti).rows.records =
      s.rows.records.map (revokeWhere fun r => decide (r.jti = jti)) := by
  refine List.map_congr_left fun r _ => ?_
  by_cases h : r.jti = jti <;> simp [revokeWhere, h]

/-- Revoking a chain. -/
lemma revokeChain_records (s : Store) (firstJti : String) :
    (s.revokeChain firstJti).2.rows.records =
      s.rows.records.map (revokeWhere fun r => r.firstJti == firstJti) := rfl

/-- Revoking one row revokes rows. -/
lemma revokesTo_revoke (s : Store) (jti : String) : s.RevokesTo (s.revoke jti) :=
  ⟨⟨_, onlyRevokes_revokeWhere _, s.revoke_records jti⟩, rfl, (Int.le_refl _)⟩

/-- Revoking a chain revokes rows. -/
lemma revokesTo_revokeChain (s : Store) (firstJti : String) :
    s.RevokesTo (s.revokeChain firstJti).2 :=
  ⟨⟨_, onlyRevokes_revokeWhere _, s.revokeChain_records firstJti⟩, rfl, (Int.le_refl _)⟩

/-! ## New rows -/

/-- The store with a new row, which is given the next number and noted as the successor of the row
that it names. -/
def withRow (s : Store) (row : RefreshToken) : Store :=
  { s with
    rows := ⟨s.rows.records ++ [{ row with id := s.nextId }]⟩
    successions :=
      if row.previousJti.isEmpty then s.successions
      else s.successions.put ⟨row.previousJti, row.jti⟩
    nextId := s.nextId + 1 }

/-- The rows are the old ones and the new one. -/
lemma mem_withRow {row r : RefreshToken} :
    r ∈ (s.withRow row).rows.records ↔
      r ∈ s.rows.records ∨ r = { row with id := s.nextId } := by
  simp [withRow]

/-- A new row stands at the end of its chain. -/
lemma chain_withRow (s : Store) (row : RefreshToken) (f : String) :
    (s.withRow row).chain f =
      s.chain f ++ if row.firstJti = f then [{ row with id := s.nextId }] else [] := by
  by_cases hf : row.firstJti = f <;> simp [chain, withRow, hf]

/-- A row is stored if its predecessor has not been replaced and its token has no row. -/
lemma createRow_of_free {row : RefreshToken}
    (hprevious : row.previousJti = "" ∨ s.successions.has row.previousJti = false)
    (hjti : s.rows.has row.jti = false) :
    s.createRow row = (.ok { row with id := s.nextId }, s.withRow row) := by
  have hfree : (!row.previousJti.isEmpty && s.successions.has row.previousJti) = false := by
    rcases hprevious with h | h <;> simp [h]
  have hinsert : s.rows.insertNew? { row with id := s.nextId } =
      some ⟨s.rows.records ++ [{ row with id := s.nextId }]⟩ := Table.insertNew?_of_free hjti
  simp only [createRow, hfree, hinsert, withRow]
  rfl

/-! ## Growth -/

/-- Some rows may have been revoked, and rows may have been added behind them. -/
def GrowsTo (s t : Store) : Prop :=
  ∃ g added, OnlyRevokes g ∧ t.rows.records = s.rows.records.map g ++ added

/-- A store need not grow. -/
lemma GrowsTo.refl (s : Store) : s.GrowsTo s := ⟨fun r => r, [], .id, by simp⟩

/-- Growth goes on. -/
lemma GrowsTo.trans (h : s.GrowsTo t) (h' : t.GrowsTo u) : s.GrowsTo u := by
  obtain ⟨g, added, hg, hrows⟩ := h
  obtain ⟨g', added', hg', hrows'⟩ := h'
  refine ⟨g' ∘ g, added.map g' ++ added', hg'.comp hg, ?_⟩
  rw [hrows', hrows, List.map_append, List.map_map, List.append_assoc]

/-- Revocations are growth. -/
lemma RevokesTo.growsTo (h : s.RevokesTo t) : s.GrowsTo t := by
  obtain ⟨g, hg, hrows⟩ := h.rows
  exact ⟨g, [], hg, by rw [hrows, List.append_nil]⟩

/-- A new row is growth. -/
lemma growsTo_withRow (s : Store) (row : RefreshToken) : s.GrowsTo (s.withRow row) :=
  ⟨fun r => r, [{ row with id := s.nextId }], .id, by simp [withRow]⟩

/-- A row does not get lost. -/
lemma GrowsTo.exists_row (h : s.GrowsTo t) {r : RefreshToken} (hr : r ∈ s.rows.records) :
    ∃ r' ∈ t.rows.records, r.MayBecome r' := by
  obtain ⟨g, added, hg, hrows⟩ := h
  exact ⟨g r, by rw [hrows]; exact List.mem_append_left _ (List.mem_map_of_mem hr), hg r⟩

end Store

/-! ## The other records -/

/-- The operations on the other records leave the rows and the index alone; only the number for the
next row may have been given to a code. -/
lemma RecordUpdate.revokesTo_run (s : Store) (u : RecordUpdate) : s.RevokesTo (u.run s).2 := by
  cases u with
  | addUserToGroup user group =>
    simp only [run, Store.addUserToGroup]
    split_ifs
    · exact .refl s
    · exact .refl s
    · exact .of_eq rfl rfl (Int.le_refl _)
    · exact .of_eq rfl rfl (Int.le_refl _)
  | createCode code =>
    have hid : s.nextId ≤ s.nextId + 1 := by omega
    simp only [run, Store.createCode]
    split
    · exact .of_eq rfl rfl hid
    · exact .of_eq rfl rfl hid
  | markCodeUsed value =>
    simp only [run]
    cases ht : s.markCodeUsed value with
    | error e => exact .refl s
    | ok t =>
      simp only [Store.markCodeUsed] at ht
      split at ht
      · cases ht
      · split at ht <;> cases ht
        exact .of_eq rfl rfl (Int.le_refl _)
  | touchSession identifier now =>
    simp only [run, Store.touchSession?]
    cases s.sessions.has identifier with
    | true => exact .of_eq rfl rfl (Int.le_refl _)
    | false => exact .refl s
  | _ => exact .of_eq rfl rfl (Int.le_refl _)

end TokenAuthority
