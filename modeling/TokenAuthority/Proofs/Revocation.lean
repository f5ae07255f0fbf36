import Mathlib.Tactic.Lemma
import TokenAuthority.Proofs.GrantEffect
import TokenAuthority.Proofs.GrantSuccess

/-!
# Refreshes after a revocation

Whether a row is revoked is read from the copy that comes with a refresh, and whether it has been
replaced from the store. A refresh that presents a revoked token therefore succeeds if its copy was
made before the revocation, no row has replaced the token, and nothing else is wrong with the
request; it fails in all other cases.

## Main definitions

* `TokenAuthority.Server.Overlooks` — these conditions.

## Main results

* `TokenAuthority.Server.Sound.exists_tokens_iff`, `TokenAuthority.Server.Sound.rowCount_lt_iff` —
  a refresh returns tokens, or adds a row, exactly when it replaces the last row of a chain.
* `TokenAuthority.Run.refresh_revoked_iff` — the refreshes of a revoked token that succeed.
* `TokenAuthority.Run.not_tokens_of_revoked` — there are none if the row is read at the time.
-/

set_option autoImplicit false

namespace TokenAuthority

namespace Store

variable {s t : Store}

/-- Revocations leave the number of rows as it is. -/
lemma RevokesTo.rowCount (h : s.RevokesTo t) : t.rowCount = s.rowCount := by
  obtain ⟨g, -, hrows⟩ := h.rows
  simp [Store.rowCount, Table.size, hrows]

/-- A new row is one more. -/
lemma rowCount_withRow (s : Store) (row : RefreshToken) :
    (s.withRow row).rowCount = s.rowCount + 1 := by
  simp [Store.rowCount, Table.size, withRow]

/-- What a refresh plans does not depend on revocations. -/
lemma planRefresh_revoke (s : Store) (jti : String) (settings : Settings) (now : Instant)
    (ids : TokenIds) (request : RefreshRequest) :
    planRefresh (s.revoke jti) settings now ids request = planRefresh s settings now ids request :=
  rfl

end Store

namespace Server

variable {w : Server} {settings : Settings} {ids : TokenIds} {request : RefreshRequest}

namespace Sound

/-- A refresh replaces the last row of a chain exactly if it comes with a live copy of it and it has
a plan. -/
theorem exists_rotates_iff (h : w.Sound) (hop : w.Admits (.refresh settings ids request)) :
    (∃ plan, w.Rotates settings ids request plan) ↔
      request.stored.jti = request.presented ∧ w.store.successor? request.stored.jti = none ∧
      request.stored.revoked = false ∧
      ∃ plan, planRefresh w.store settings w.now ids request = .ok plan := by
  constructor
  · rintro ⟨plan, hr⟩
    exact ⟨hr.presented, hr.last, hr.live, plan, hr.planned⟩
  · rintro ⟨hjti, hnone, hlive, plan, hplan⟩
    obtain ⟨⟨hne, hfree⟩, hstored⟩ := hop
    obtain ⟨r, hr, hcopy⟩ := h.held _ hstored
    obtain ⟨ha, hrefresh⟩ := h.linked.refresh_of_plan hne hfree hr hcopy hjti hnone hlive hplan
    exact ⟨plan, hjti, hnone, hlive, hplan, ha, step_of_run (Operation.run_refresh hrefresh)⟩

/-- A refresh returns tokens exactly if it replaces the last row of a chain. -/
theorem exists_tokens_iff (h : w.Sound) (hop : w.Admits (.refresh settings ids request)) :
    (∃ response, (w.step (.refresh settings ids request)).1 = .ok (.tokens response)) ↔
      ∃ plan, w.Rotates settings ids request plan := by
  constructor
  · rintro ⟨response, hok⟩
    obtain ⟨plan, hr, -⟩ := h.of_refresh hop hok
    exact ⟨plan, hr⟩
  · rintro ⟨plan, hr⟩
    exact ⟨plan.response, by rw [hr.step_eq]⟩

/-- A refresh adds a row exactly if it replaces the last row of a chain. -/
theorem rowCount_lt_iff (h : w.Sound) (hop : w.Admits (.refresh settings ids request)) :
    w.store.rowCount < (w.step (.refresh settings ids request)).2.store.rowCount ↔
      ∃ plan, w.Rotates settings ids request plan := by
  constructor
  · intro hlt
    rcases h.step_cases hop with hrevokes | ⟨_, _, _, _, he, -⟩ | ⟨_, _, _, plan, he, hr⟩
    · rw [hrevokes.rowCount] at hlt
      omega
    · cases he
    · cases he
      exact ⟨plan, hr⟩
  · rintro ⟨plan, hr⟩
    rw [hr.step_eq, Store.rowCount_withRow, (w.store.revokesTo_revoke _).rowCount]
    omega

end Sound

/-- The request comes with a copy of the row from before its revocation, no row has replaced it, and
the other checks of a refresh pass. -/
structure Overlooks (w : Server) (settings : Settings) (ids : TokenIds) (request : RefreshRequest)
    (row : RefreshToken) : Prop where
  stale : request.stored = { row with revoked := false }
  last : w.store.successor? row.jti = none
  planned : ∃ plan, planRefresh w.store settings w.now ids request = .ok plan

/-- A refresh that presents the token of a revoked row replaces it exactly if it overlooks the
revocation. -/
theorem Sound.exists_rotates_iff_overlooks (h : w.Sound)
    (hop : w.Admits (.refresh settings ids request)) {row : RefreshToken}
    (hrow : row ∈ w.store.rows.records) (hrevoked : row.revoked = true)
    (hpresented : request.presented = row.jti) :
    (∃ plan, w.Rotates settings ids request plan) ↔ w.Overlooks settings ids request row := by
  rw [h.exists_rotates_iff hop, hpresented]
  constructor
  · rintro ⟨hjti, hnone, hlive, hplan⟩
    obtain ⟨r, hr, hcopy⟩ := h.held _ hop.2
    rw [h.linked.eq_of_jti hr hrow (hcopy.jti.trans hjti)] at hcopy
    refine ⟨?_, hjti ▸ hnone, hplan⟩
    rcases hcopy with rfl | rfl
    · rw [hrevoked] at hlive
      cases hlive
    · rw [← hlive]
  · rintro ⟨hstale, hnone, hplan⟩
    have hjti : request.stored.jti = row.jti := by rw [hstale]
    exact ⟨hjti, hjti ▸ hnone, by rw [hstale], hplan⟩

end Server

namespace Run

variable {now : Instant} {events events' : List Event} {w w' : Server} {row : RefreshToken}
  {settings : Settings} {ids : TokenIds} {request : RefreshRequest}

/-- A revoked row stays in the store as it is. -/
lemma mem_of_revoked (h : Run Server.Admits w events w') (hw : w.Sound)
    (hrow : row ∈ w.store.rows.records) (hrevoked : row.revoked = true) :
    row ∈ w'.store.rows.records := by
  obtain ⟨r, hr, hbecome⟩ := (h.growsTo hw).exists_row hrow
  exact hbecome.eq_of_revoked hrevoked ▸ hr

/-- Once the row of a token is revoked, a later refresh that presents the token returns tokens, and
adds a row, exactly if it comes with a copy of the row from before the revocation, no row has
replaced the token, and the other checks pass. -/
theorem refresh_revoked_iff (h : Run Server.Admits (.start now) events w)
    (hrow : row ∈ w.store.rows.records) (hrevoked : row.revoked = true)
    (h' : Run Server.Admits w events' w') (hop : w'.Admits (.refresh settings ids request))
    (hpresented : request.presented = row.jti) :
    ((∃ response, (w'.step (.refresh settings ids request)).1 = .ok (.tokens response)) ↔
      w'.Overlooks settings ids request row) ∧
    (w'.store.rowCount < (w'.step (.refresh settings ids request)).2.store.rowCount ↔
      w'.Overlooks settings ids request row) := by
  have hw := h.sound (.start now)
  have hw' := h'.sound hw
  have hrow' := h'.mem_of_revoked hw hrow hrevoked
  have hiff := hw'.exists_rotates_iff_overlooks hop hrow' hrevoked hpresented
  exact ⟨(hw'.exists_tokens_iff hop).trans hiff, (hw'.rowCount_lt_iff hop).trans hiff⟩

/-- Once the row of a token is revoked, no refresh that presents the token and comes with the row as
it is stored at that time returns tokens or adds a row. -/
theorem not_tokens_of_revoked (h : Run Server.Admits (.start now) events w)
    (hrow : row ∈ w.store.rows.records) (hrevoked : row.revoked = true)
    (h' : Run Server.Admits w events' w') (hop : w'.AdmitsCurrent (.refresh settings ids request))
    (hpresented : request.presented = row.jti) :
    (∀ response, (w'.step (.refresh settings ids request)).1 ≠ .ok (.tokens response)) ∧
    (w'.step (.refresh settings ids request)).2.store.rowCount ≤ w'.store.rowCount := by
  have hw := h.sound (.start now)
  have hw' := h'.sound hw
  have hrow' := h'.mem_of_revoked hw hrow hrevoked
  have hnone : ¬ ∃ plan, w'.Rotates settings ids request plan := by
    rw [hw'.exists_rotates_iff_overlooks hop.admits hrow' hrevoked hpresented]
    intro ho
    have hsame := hw'.linked.eq_of_jti hop.2 hrow' (by rw [ho.stale])
    rw [← hsame, ho.stale] at hrevoked
    cases hrevoked
  refine ⟨fun response hok => hnone ((hw'.exists_tokens_iff hop.admits).mp ⟨response, hok⟩), ?_⟩
  exact Nat.le_of_not_lt fun hlt => hnone ((hw'.rowCount_lt_iff hop.admits).mp hlt)

end Run

namespace Sample

/-- The server after the exchange and the revocation of its row. -/
def revoked : Server := ⟨exchanged.store.revoke "R1", now, [firstRow]⟩

/-- The row of the exchange after its revocation. -/
def revokedRow : RefreshToken := { firstRow with revoked := true }

/-- The revocation is the end of a run. -/
lemma run_revoked : ∃ events, Run Server.Admits (.start now) events revoked := by
  obtain ⟨events, hrun⟩ := run_exchanged
  exact ⟨_, hrun.snoc (.revoke "R1") trivial rfl⟩

/-- The refresh of the sample may come after the revocation. -/
lemma admits_request : revoked.Admits (.refresh {} secondIds request) :=
  ⟨⟨by decide, rfl⟩, by decide⟩

/-- The refresh of the sample, which comes with a copy of the row from before the revocation,
overlooks it. -/
lemma overlooks_revoked : revoked.Overlooks {} secondIds request revokedRow := by
  obtain ⟨response, hplan⟩ := exists_secondPlan
  refine ⟨rfl, rfl, ⟨response, secondRow⟩, ?_⟩
  rw [← hplan]
  exact exchanged.store.planRefresh_revoke "R1" {} now secondIds request

/-- The refresh of the sample returns tokens and adds a row after the revocation. -/
theorem refresh_revoked_sample :
    revokedRow ∈ revoked.store.rows.records ∧ revokedRow.revoked = true ∧
    (∃ response, (revoked.step (.refresh {} secondIds request)).1 = .ok (.tokens response)) ∧
    revoked.store.rowCount < (revoked.step (.refresh {} secondIds request)).2.store.rowCount := by
  obtain ⟨events, hrun⟩ := run_revoked
  have hrow : revokedRow ∈ revoked.store.rows.records := by decide
  obtain ⟨htokens, hadded⟩ := hrun.refresh_revoked_iff hrow rfl .nil
    admits_request rfl
  exact ⟨hrow, rfl, htokens.mpr overlooks_revoked, hadded.mpr overlooks_revoked⟩

/-- It is not so that a token is never redeemed after the revocation of its row. -/
theorem not_forall_revoked_unredeemed :
    ¬ ∀ (start : Instant) (events events' : List Event) (w w' : Server) (row : RefreshToken)
      (settings : Settings) (ids : TokenIds) (next : RefreshRequest),
      Run Server.Admits (.start start) events w → row ∈ w.store.rows.records →
      row.revoked = true → Run Server.Admits w events' w' →
      w'.Admits (.refresh settings ids next) → next.presented = row.jti →
      ∀ response, (w'.step (.refresh settings ids next)).1 ≠ .ok (.tokens response) := by
  intro hnever
  obtain ⟨events, hrun⟩ := run_revoked
  have hsound := hrun.sound (.start now)
  have hrow : revokedRow ∈ revoked.store.rows.records := by decide
  obtain ⟨response, hok⟩ := (hsound.exists_tokens_iff admits_request).mpr
    ((hsound.exists_rotates_iff_overlooks admits_request hrow rfl rfl).mpr overlooks_revoked)
  exact hnever now events [] revoked revoked revokedRow {} secondIds request hrun hrow rfl .nil
    admits_request rfl response hok

end Sample

end TokenAuthority
