import Mathlib.Tactic.Lemma
import TokenAuthority.Proofs.Decisions

/-!
# Grants are all or nothing

A grant for a user that is refused leaves the store as it was, unless it was detected as reuse. One
that succeeds adds a row under the next number; a refresh moreover revokes the row that it replaces
and notes which one has replaced it. Nothing else changes, and no write of a grant ever fails.

## Main definitions

* `TokenAuthority.Operation.isUserGrant` — an exchange or a refresh.
* `TokenAuthority.Store.afterExchange`, `TokenAuthority.Store.afterRefresh` — the stores that the
  two grants leave behind.

## Main results

* `TokenAuthority.Server.Sound.not_isWriteFault` — no operation fails to store a row.
* `TokenAuthority.Run.atomicity` — grants in a run.
-/

set_option autoImplicit false

namespace TokenAuthority

/-- The operation is a grant for a user. -/
def Operation.isUserGrant : Operation → Bool
  | .exchange .. | .refresh .. => true
  | _ => false

namespace Store

variable {s : Store} {row : RefreshToken}

/-- A new row stands behind the others, and its number is drawn. -/
def afterExchange (s : Store) (row : RefreshToken) : Store :=
  { s with
    rows := ⟨s.rows.records ++ [row]⟩
    nextId := s.nextId + 1 }

/-- The row of a token is revoked, a new row stands behind the others, and it is noted that it has
replaced that one; its number is drawn. -/
def afterRefresh (s : Store) (replaced : String) (row : RefreshToken) : Store :=
  { s with
    rows := ⟨(s.rows.records.map fun r =>
      if r.jti = replaced then { r with revoked := true } else r) ++ [row]⟩
    successions := ⟨s.successions.records ++ [⟨replaced, row.jti⟩]⟩
    nextId := s.nextId + 1 }

/-- A row that starts a chain is just added. -/
lemma withRow_of_head (h : row.previousJti = "") :
    s.withRow row = s.afterExchange { row with id := s.nextId } := by
  simp [withRow, afterExchange, h]

/-- A row that replaces another one is added and noted. -/
lemma withRow_of_previous (h : row.previousJti ≠ "")
    (hfree : s.successions.has row.previousJti = false) :
    (s.revoke row.previousJti).withRow row =
      s.afterRefresh row.previousJti { row with id := s.nextId } := by
  have hput : s.successions.put ⟨row.previousJti, row.jti⟩ =
      ⟨s.successions.records ++ [⟨row.previousJti, row.jti⟩]⟩ := by
    rw [← Table.records_put (x := (⟨row.previousJti, row.jti⟩ : Succession)) hfree]
  simp [withRow, revoke, Table.modify, afterRefresh, h, hput]

end Store

/-- The operations on the other records never fail to store a row. -/
lemma RecordUpdate.not_isWriteFault {s : Store} {u : RecordUpdate} {e : AuthError}
    (he : (u.run s).1 = .error e) : e.isWriteFault = false := by
  cases u with
  | addUserToGroup user group =>
    simp only [run, Store.addUserToGroup] at he
    split at he
    · rename_i hfault
      cases he
      split at hfault
      · cases hfault
        rfl
      · split at hfault <;> cases hfault
        rfl
    · cases he
  | createCode code =>
    simp only [run, Store.createCode] at he
    split at he <;> cases he
    rfl
  | markCodeUsed value =>
    simp only [run, Store.markCodeUsed] at he
    split at he
    · rename_i hfault
      cases he
      split at hfault
      · cases hfault
        rfl
      · split at hfault <;> cases hfault
        rfl
    · cases he
  | touchSession identifier now =>
    simp only [run] at he
    split at he <;> cases he
  | _ => cases he

namespace Server

variable {w : Server} {op : Operation} {settings : Settings} {ids : TokenIds}

namespace Sound

/-- No operation fails to store a row: the two grants that store one find its token free, and the
row that it replaces has not been replaced. -/
theorem not_isWriteFault (h : w.Sound) (hop : w.Admits op) {e : AuthError}
    (he : (w.step op).1 = .error e) : e.isWriteFault = false := by
  cases op with
  | exchange settings ids code => exact (h.decidedBy_exchange hop).not_isWriteFault he
  | refresh settings ids request => exact (h.decidedBy_refresh hop).not_isWriteFault he
  | clientCredentials settings jti client scope =>
    have hdecided := (decidedBy_clientCredentials w.store settings w.now jti client scope).map
      (f := Reply.tokens)
    exact hdecided.not_isWriteFault he
  | update u => exact RecordUpdate.not_isWriteFault he
  | _ => cases he

/-- A grant that is refused leaves the store as it was, unless it was detected as reuse. -/
theorem store_eq_of_error (h : w.Sound) (hop : w.Admits op) (hgrant : op.isUserGrant = true)
    {e : AuthError} (he : (w.step op).1 = .error e) (hkind : e.kind ≠ .refreshTokenReused) :
    (w.step op).2.store = w.store := by
  cases op with
  | exchange settings ids code =>
    rcases h.exchange_cases hop with ⟨_, hstep⟩ | ⟨plan, hexchanges⟩
    · rw [hstep]
    · rw [hexchanges.step_eq] at he
      cases he
  | refresh settings ids request =>
    obtain ⟨r, hr, hcopy⟩ := h.held _ hop.2
    rcases h.linked.refresh_cases settings w.now hop.1.1 hop.1.2 hr hcopy with
      ⟨_, hrefresh⟩ | ⟨-, -, hrefresh⟩ | ⟨plan, -, -, -, -, -, hrefresh⟩
    · rw [step_of_run (Operation.run_refresh hrefresh)]
    · rw [step_of_run (Operation.run_refresh hrefresh)] at he
      cases he
      exact absurd rfl hkind
    · rw [step_of_run (Operation.run_refresh hrefresh)] at he
      cases he
  | _ => cases hgrant

/-- An exchange that succeeds adds one row. -/
theorem store_eq_of_exchange (h : w.Sound) {code : Code} {response : TokenResponse}
    (hop : w.Admits (.exchange settings ids code))
    (hok : (w.step (.exchange settings ids code)).1 = .ok (.tokens response)) :
    ∃ row : RefreshToken, row.id = w.store.nextId ∧ row.jti = ids.refresh ∧
      (w.step (.exchange settings ids code)).2.store = w.store.afterExchange row := by
  obtain ⟨plan, he, -⟩ := h.of_exchange hop hok
  obtain ⟨hjti, -, hprevious⟩ := row_of_planExchange he.planned
  refine ⟨{ plan.row with id := w.store.nextId }, rfl, hjti, ?_⟩
  rw [he.step_eq]
  exact Store.withRow_of_head hprevious

/-- A refresh that succeeds adds one row and revokes the one that it replaces. -/
theorem store_eq_of_refresh (h : w.Sound) {request : RefreshRequest} {response : TokenResponse}
    (hop : w.Admits (.refresh settings ids request))
    (hok : (w.step (.refresh settings ids request)).1 = .ok (.tokens response)) :
    (∃ r ∈ w.store.rows.records, r.jti = request.presented) ∧
    ∃ row : RefreshToken, row.id = w.store.nextId ∧ row.jti = ids.refresh ∧
      row.previousJti = request.presented ∧ (w.step (.refresh settings ids request)).2.store =
        w.store.afterRefresh request.presented row := by
  obtain ⟨plan, he, -⟩ := h.of_refresh hop hok
  obtain ⟨hjti, -, hprevious, -⟩ := row_of_planRefresh he.planned
  obtain ⟨r, hr, hcopy⟩ := h.held _ hop.2
  have hreplaced : r.jti = request.presented := hcopy.jti.trans he.presented
  have hname : plan.row.previousJti = request.presented := hprevious.trans he.presented
  refine ⟨⟨r, hr, hreplaced⟩, { plan.row with id := w.store.nextId }, rfl, hjti, hname, ?_⟩
  have hne : plan.row.previousJti ≠ "" := by
    rw [hname, ← hreplaced]
    exact h.linked.named r hr
  have hfree : w.store.successions.has plan.row.previousJti = false := by
    rw [hprevious]
    exact h.linked.toIndexed.has_eq_false he.last
  rw [he.step_eq, he.presented, ← hname]
  exact Store.withRow_of_previous hne hfree

end Sound

end Server

namespace Run

variable {now : Instant} {v w : Server} {events : List Event}

/-- No operation of a run has failed to store a row. -/
theorem not_isWriteFault (h : Run Server.Admits v events w) (hv : v.Sound) :
    ∀ event ∈ events, ∀ e, event.answer = .error e → e.isWriteFault = false := by
  induction h with
  | nil => simp
  | @step events u op hrun hop ih =>
    intro event hevent e he
    rcases List.mem_append.mp hevent with hevent | hevent
    · exact ih event hevent e he
    · rw [List.mem_singleton.mp hevent] at he
      exact (hrun.sound hv).not_isWriteFault hop he

/-- Grants are all or nothing. After every run from an empty store, an exchange or a refresh that is
refused leaves the store as it is, unless it is detected as reuse; an exchange that succeeds adds
one row under the next number; and a refresh that succeeds adds one row, revokes the row that it
replaces and notes the succession. No operation of the run has failed to store a row. -/
theorem atomicity (h : Run Server.Admits (.start now) events w) :
    (∀ op e, op.isUserGrant = true → w.Admits op → (w.step op).1 = .error e →
      e.kind ≠ .refreshTokenReused → (w.step op).2.store = w.store) ∧
    (∀ settings ids code response, w.Admits (.exchange settings ids code) →
      (w.step (.exchange settings ids code)).1 = .ok (.tokens response) →
      ∃ row : RefreshToken, row.id = w.store.nextId ∧ row.jti = ids.refresh ∧
        (w.step (.exchange settings ids code)).2.store = w.store.afterExchange row) ∧
    (∀ settings ids request response, w.Admits (.refresh settings ids request) →
      (w.step (.refresh settings ids request)).1 = .ok (.tokens response) →
      (∃ r ∈ w.store.rows.records, r.jti = request.presented) ∧
      ∃ row : RefreshToken, row.id = w.store.nextId ∧ row.jti = ids.refresh ∧
        row.previousJti = request.presented ∧
        (w.step (.refresh settings ids request)).2.store =
          w.store.afterRefresh request.presented row) ∧
    ∀ event ∈ events, ∀ e, event.answer = .error e → e.isWriteFault = false := by
  have hw := h.sound (.start now)
  refine ⟨?_, ?_, ?_, h.not_isWriteFault (.start now)⟩
  · intro op e hgrant hop he hkind
    exact hw.store_eq_of_error hop hgrant he hkind
  · intro settings ids code response hop hok
    exact hw.store_eq_of_exchange hop hok
  · intro settings ids request response hop hok
    exact hw.store_eq_of_refresh hop hok

end Run

/-- In the sample the refresh adds the row of number 2 and notes the succession. The same request
with another token is refused and changes nothing. -/
theorem Sample.atomicity_exchanged : ∃ events,
    Run Server.Admits (.start now) events exchanged ∧
    (∃ row : RefreshToken, row.id = 2 ∧ row.jti = "R2" ∧ row.previousJti = "R1" ∧
      (exchanged.step (.refresh {} secondIds request)).2.store =
        exchanged.store.afterRefresh "R1" row) ∧
    (exchanged.step (.refresh {} secondIds { request with presented := "R2" })).2.store =
      exchanged.store ∧
    ∀ event ∈ events, ∀ e, event.answer = .error e → e.isWriteFault = false := by
  obtain ⟨events, hrun⟩ := run_exchanged
  obtain ⟨hrefused, -, hrefreshed, hfaults⟩ := hrun.atomicity
  obtain ⟨response, hstep⟩ := step_refresh
  have hother : exchanged.Admits (.refresh {} secondIds { request with presented := "R2" }) :=
    ⟨admits_refresh.1, by decide⟩
  have hmismatch : (exchanged.step
      (.refresh {} secondIds { request with presented := "R2" })).1 = .error .tokenMismatch := by
    rfl
  refine ⟨events, hrun, ?_, hrefused _ _ rfl hother hmismatch (by decide), hfaults⟩
  exact (hrefreshed {} secondIds request response admits_refresh (congrArg Prod.fst hstep)).2

end TokenAuthority
