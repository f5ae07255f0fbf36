import Mathlib.Tactic.Lemma
import TokenAuthority.Proofs.GrantEffect
import TokenAuthority.Proofs.GrantSuccess

/-!
# Replay of a refresh token

A refresh that presents a token which has been replaced is answered with the error of reuse,
whatever else the request holds, and it revokes the chain of the token and nothing else. As long as
every later request comes with the row as it is stored at that time, this is the end of the chain.

## Main definitions

* `TokenAuthority.Store.IsDead` — a chain all of whose rows are revoked.

## Main results

* `TokenAuthority.Run.chain_of_dead` — a dead chain stays as it is, and none of its tokens is
  redeemed.
* `TokenAuthority.Run.replay` — replays are detected, and what follows from them.

## Design

The last part needs that rows are read at the time of the request. With an older copy, made while
the row was live, the last token of a revoked chain can be redeemed still.
-/

set_option autoImplicit false

namespace TokenAuthority

namespace Store

/-- The chain has rows, and all of them are revoked. -/
def IsDead (s : Store) (f : String) : Prop :=
  s.chain f ≠ [] ∧ ∀ r ∈ s.chain f, r.revoked = true

/-- Revoking a chain revokes its rows. -/
lemma chain_revokeChain (s : Store) (f : String) :
    (s.revokeChain f).2.chain f = (s.chain f).map fun r => { r with revoked := true } := by
  rw [chain_of_records (onlyRevokes_revokeWhere _) (s.revokeChain_records f)]
  exact List.map_congr_left fun r hr => if_pos (beq_iff_eq.mpr (mem_chain.mp hr).2)

/-- Revoking a chain leaves the other ones alone. -/
lemma chain_revokeChain_of_ne (s : Store) {f g : String} (hg : g ≠ f) :
    (s.revokeChain f).2.chain g = s.chain g := by
  rw [chain_of_records (onlyRevokes_revokeWhere _) (s.revokeChain_records f)]
  refine (List.map_congr_left fun r hr => if_neg ?_).trans (List.map_id' _)
  rw [beq_iff_eq, (mem_chain.mp hr).2]
  exact hg

/-- A chain that has rows is dead once it has been revoked. -/
lemma isDead_revokeChain {s : Store} {f : String}
    (hf : ∃ r ∈ s.rows.records, r.firstJti = f) : (s.revokeChain f).2.IsDead f := by
  have hrows : s.chain f ≠ [] := chain_ne_nil_iff.mpr hf
  rw [IsDead, chain_revokeChain]
  refine ⟨by simpa using hrows, fun r hr => ?_⟩
  obtain ⟨r', -, rfl⟩ := List.mem_map.mp hr
  rfl

end Store

namespace Server.Sound

variable {w : Server} {op : Operation} {f : String}

/-- A row that is stored and redeemed is not in a dead chain. -/
lemma firstJti_ne_of_rotates {settings : Settings} {ids : TokenIds} {request : RefreshRequest}
    {plan : GrantPlan} (hr : w.Rotates settings ids request plan)
    (hstored : request.stored ∈ w.store.rows.records) (hdead : w.store.IsDead f) :
    request.stored.firstJti ≠ f := by
  intro hf
  have hrevoked := hdead.2 _ (Store.mem_chain.mpr ⟨hstored, hf⟩)
  rw [hr.live] at hrevoked
  cases hrevoked

/-- An operation leaves a dead chain as it is. -/
theorem chain_of_dead (h : w.Sound) (hop : w.AdmitsCurrent op) (hdead : w.store.IsDead f) :
    (w.step op).2.store.chain f = w.store.chain f := by
  rcases h.step_cases hop.admits with
    hrevokes | ⟨settings, ids, code, plan, rfl, he⟩ | ⟨settings, ids, request, plan, rfl, hr⟩
  · exact hrevokes.chain_of_revoked hdead.2
  · rw [he.step_eq, Store.chain_withRow, if_neg (h.firstJti_ne_of_exchanges he hdead.1),
      List.append_nil]
  · obtain ⟨-, hfirst, -, -⟩ := row_of_planRefresh hr.planned
    rw [hr.step_eq, Store.chain_withRow,
      if_neg (hfirst ▸ firstJti_ne_of_rotates hr hop.2 hdead), List.append_nil]
    exact (w.store.revokesTo_revoke _).chain_of_revoked hdead.2

/-- No operation redeems a token of a dead chain. -/
theorem not_isRefresh_of_dead (h : w.Sound) (hop : w.AdmitsCurrent op) (hdead : w.store.IsDead f)
    {request : RefreshRequest} {response : TokenResponse}
    (he : Event.IsRefresh ⟨op, (w.step op).1⟩ request response) :
    request.stored.firstJti ≠ f ∧ ∀ r ∈ w.store.chain f, request.presented ≠ r.jti := by
  obtain ⟨settings, ids, he⟩ := he
  obtain ⟨rfl, hok⟩ := Event.mk.inj he
  obtain ⟨plan, hr, -⟩ := h.of_refresh hop.admits hok
  have hne := firstJti_ne_of_rotates hr hop.2 hdead
  refine ⟨hne, fun r hrow hpresented => ?_⟩
  obtain ⟨hrow, hrf⟩ := Store.mem_chain.mp hrow
  have heq := h.linked.eq_of_jti hop.2 hrow (hr.presented.trans hpresented)
  exact hne (heq ▸ hrf)

end Server.Sound

namespace Run

variable {v w : Server} {events : List Event}

/-- A dead chain stays as it is in a run in which rows are read at the time of each request, and
none of its tokens is redeemed. -/
theorem chain_of_dead (h : Run Server.AdmitsCurrent v events w) (hv : v.Sound) {f : String}
    (hdead : v.store.IsDead f) :
    w.store.chain f = v.store.chain f ∧
    ∀ e ∈ events, ∀ request response, e.IsRefresh request response →
      request.stored.firstJti ≠ f ∧ ∀ r ∈ v.store.chain f, request.presented ≠ r.jti := by
  induction h with
  | nil => simp
  | @step events u op hrun hop ih =>
    obtain ⟨hchain, hnone⟩ := ih
    have hu : u.Sound := (hrun.mono fun _ _ => Server.AdmitsCurrent.admits).sound hv
    have hudead : u.store.IsDead f := by rwa [Store.IsDead, hchain]
    refine ⟨(hu.chain_of_dead hop hudead).trans hchain, ?_⟩
    intro e he request response hrefresh
    rcases List.mem_append.mp he with he | he
    · exact hnone e he request response hrefresh
    · rw [List.mem_singleton.mp he] at hrefresh
      rw [← hchain]
      exact hu.not_isRefresh_of_dead hop hudead hrefresh

/-- A refresh with a copy, of any age, of a row that has a successor fails with the error of reuse.
It revokes the rows of the chain and changes nothing else, and in every run that goes on from there
with rows read at the time of each request the chain stays as it is and none of its tokens is
redeemed. -/
theorem replay {now : Instant} (h : Run Server.Admits (.start now) events w) (settings : Settings)
    (ids : TokenIds) (request : RefreshRequest) (hstored : request.stored ∈ w.copies)
    (hpresented : request.stored.jti = request.presented)
    (hsucc : (w.store.successor? request.presented).isSome = true) :
    let f := request.stored.firstJti
    let after := (w.step (.refresh settings ids request)).2
    (w.step (.refresh settings ids request)).1 = .error (.tokenReused request.presented) ∧
    after.store.chain f = (w.store.chain f).map (fun r => { r with revoked := true }) ∧
    (∀ g, g ≠ f → after.store.chain g = w.store.chain g) ∧
    after.store = { w.store with rows := after.store.rows } ∧
    ∀ events' w', Run Server.AdmitsCurrent after events' w' →
      w'.store.chain f = after.store.chain f ∧
      ∀ e ∈ events', ∀ request' response, e.IsRefresh request' response →
        request'.stored.firstJti ≠ f ∧ ∀ r ∈ after.store.chain f, request'.presented ≠ r.jti := by
  intro f after
  have hw := h.sound (.start now)
  have hstep := Server.step_of_run (w := w) (Operation.run_refresh
    (hw.linked.refresh_of_successor settings w.now ids hpresented hsucc))
  have hstore : after.store = (w.store.revokeChain f).2 := by
    simp only [after, hstep]
    rfl
  refine ⟨by rw [hstep]; rfl, ?_, ?_, by rw [hstore]; rfl, ?_⟩
  · rw [hstore]
    exact w.store.chain_revokeChain f
  · intro g hg
    rw [hstore]
    exact w.store.chain_revokeChain_of_ne hg
  · intro events' w' hrun
    obtain ⟨r, hr, hcopy⟩ := hw.held _ hstored
    have hafter : after.Sound := by
      apply hw.of_changesTo
      rw [hstep]
      exact .inl (w.store.revokesTo_revokeChain f)
    have hdead : after.store.IsDead f := by
      rw [hstore]
      exact Store.isDead_revokeChain ⟨r, hr, hcopy.firstJti⟩
    exact hrun.chain_of_dead hafter hdead

end Run

/-- After the refresh of the sample, the row of the exchange has a successor. When it is presented
again, with a copy of its row from before, the whole chain is revoked, and no refresh succeeds on it
afterwards. -/
theorem Sample.replay_refreshed :
    let after := (refreshed.step (.refresh {} firstIds request)).2
    request.stored ∈ refreshed.copies ∧
    (refreshed.store.successor? "R1").isSome = true ∧
    (refreshed.step (.refresh {} firstIds request)).1 = .error (.tokenReused "R1") ∧
    (refreshed.store.chain "R1").map RefreshToken.revoked = [true, false] ∧
    after.store.chain "R1" =
      (refreshed.store.chain "R1").map (fun r => { r with revoked := true }) ∧
    ∀ events w, Run Server.AdmitsCurrent after events w →
      w.store.chain "R1" = after.store.chain "R1" := by
  obtain ⟨events, hrun⟩ := run_exchanged
  obtain ⟨_, hrun'⟩ := run_refreshed
  have hstored : request.stored ∈ refreshed.copies := by decide
  have hsucc : (refreshed.store.successor? "R1").isSome = true := by decide
  obtain ⟨hanswer, hrevoked, -, -, hend⟩ :=
    (hrun.trans hrun').replay {} firstIds request hstored rfl hsucc
  exact ⟨hstored, hsucc, hanswer, by decide, hrevoked, fun events w h => (hend events w h).1⟩

end TokenAuthority
