import Mathlib.Tactic.Lemma
import TokenAuthority.Proofs.GrantEffect

/-!
# Where rows come from

Every row was added by a grant of the run, and it is still as that grant has planned it, apart from
its number and its revocation. A row that names a predecessor was added by a refresh that came with
a copy of this predecessor.

## Main definitions

* `TokenAuthority.Operation.GrantsFor` — an operation is a grant for a code.
* `TokenAuthority.Server.Grants` — a grant that succeeds, with its plan.
* `TokenAuthority.Run.Origin` — the grant of a run that has added a row.

## Main results

* `TokenAuthority.Server.Sound.previous_cases` — where a row and the row that it replaces come from.
* `TokenAuthority.Run.exists_origin` — every row has an origin.
-/

set_option autoImplicit false

namespace TokenAuthority

/-- The operation is an exchange of the code or a refresh for it. -/
def Operation.GrantsFor (op : Operation) (settings : Settings) (ids : TokenIds) (code : Code) :
    Prop :=
  op = .exchange settings ids code ∨
    ∃ request, op = .refresh settings ids request ∧ request.code = code

namespace Server

/-- The operation is a grant that succeeds and stores the row of a plan. -/
def Grants (w : Server) (op : Operation) (plan : GrantPlan) : Prop :=
  (∃ settings ids code, op = .exchange settings ids code ∧ w.Exchanges settings ids code plan) ∨
  ∃ settings ids request, op = .refresh settings ids request ∧ w.Rotates settings ids request plan

variable {w : Server} {op : Operation}

/-- A grant that succeeds answers with the tokens of its plan. -/
lemma Grants.answer {plan : GrantPlan} (h : w.Grants op plan) :
    (w.step op).1 = .ok (.tokens plan.response) := by
  rcases h with ⟨_, _, _, rfl, he⟩ | ⟨_, _, _, rfl, he⟩ <;> rw [he.step_eq]

/-- A grant that succeeds stores the row of its plan under a number. -/
lemma Grants.exists_row {plan : GrantPlan} (h : w.Grants op plan) :
    ∃ id, { plan.row with id := id } ∈ (w.step op).2.store.rows.records := by
  rcases h with ⟨_, _, _, rfl, he⟩ | ⟨_, _, _, rfl, he⟩
  · exact ⟨_, by rw [he.step_eq, Store.mem_withRow]; exact .inr rfl⟩
  · exact ⟨_, by rw [he.step_eq, Store.mem_withRow]; exact .inr rfl⟩

/-- A grant that succeeds is one for some code. -/
lemma Grants.exists_grantsFor {plan : GrantPlan} (h : w.Grants op plan) :
    ∃ settings ids code, op.GrantsFor settings ids code := by
  rcases h with ⟨settings, ids, code, rfl, -⟩ | ⟨settings, ids, request, rfl, -⟩
  · exact ⟨settings, ids, code, .inl rfl⟩
  · exact ⟨settings, ids, request.code, .inr ⟨request, rfl, rfl⟩⟩

/-- What a grant that succeeds rests on: the records of the code, a scope that was resolved for a
user, and a plan. -/
lemma Grants.exists_planUserTokens {plan : GrantPlan} {settings : Settings} {ids : TokenIds}
    {code : Code} (h : w.Grants op plan) (hfor : op.GrantsFor settings ids code) :
    ∃ client user requested flow scope previous, w.store.loadCode code = .ok (client, user) ∧
      client.enabled = true ∧ flow ≠ .clientCredentials ∧
      ResolvedScope.resolve requested flow settings = .ok scope ∧
      planUserTokens w.store settings w.now ids code client user scope previous = .ok plan := by
  rcases hfor with rfl | ⟨request, rfl, rfl⟩
  · rcases h with ⟨_, _, _, hop, he⟩ | ⟨_, _, _, hop, -⟩
    · cases hop
      obtain ⟨client, user, scope, hload, henabled, hscope, hplan⟩ := planExchange_ok he.planned
      exact ⟨client, user, _, _, scope, none, hload, henabled, by decide, hscope, hplan⟩
    · cases hop
  · rcases h with ⟨_, _, _, hop, -⟩ | ⟨_, _, _, hop, he⟩
    · cases hop
    · cases hop
      obtain ⟨client, user, requested, scope, hload, henabled, -, -, hscope, hplan⟩ :=
        planRefresh_ok he.planned
      exact ⟨client, user, requested, _, scope, _, hload, henabled, by decide, hscope, hplan⟩

namespace Sound

/-- A grant that has handed out tokens has a plan with this response. -/
lemma exists_grants (h : w.Sound) (hop : w.Admits op) {settings : Settings} {ids : TokenIds}
    {code : Code} (hfor : op.GrantsFor settings ids code) {response : TokenResponse}
    (hok : (w.step op).1 = .ok (.tokens response)) :
    ∃ plan, w.Grants op plan ∧ plan.response = response := by
  rcases hfor with rfl | ⟨request, rfl, -⟩
  · obtain ⟨plan, he, hresponse⟩ := h.of_exchange hop hok
    exact ⟨plan, .inl ⟨_, _, _, rfl, he⟩, hresponse⟩
  · obtain ⟨plan, he, hresponse⟩ := h.of_refresh hop hok
    exact ⟨plan, .inr ⟨_, _, _, rfl, he⟩, hresponse⟩

/-- Where a row comes from: it was there before, or a grant has added it. -/
lemma row_of_grants (h : w.Sound) (hop : w.Admits op) {r : RefreshToken}
    (hr : r ∈ (w.step op).2.store.rows.records) :
    (∃ r₀ ∈ w.store.rows.records, r₀.MayBecome r) ∨
    ∃ plan id, w.Grants op plan ∧ r = { plan.row with id := id } := by
  rcases h.row_cases hop hr with
    hold | ⟨settings, ids, code, plan, id, rfl, he, hrow⟩ |
      ⟨settings, ids, request, plan, id, rfl, he, hrow⟩
  · exact .inl hold
  · exact .inr ⟨plan, id, .inl ⟨settings, ids, code, rfl, he⟩, hrow⟩
  · exact .inr ⟨plan, id, .inr ⟨settings, ids, request, rfl, he⟩, hrow⟩

/-- Where a row and the row that it replaces come from: both were there before, or a refresh that
came with a copy of the latter has added the former.

**Proof sketch.** An older row names one that was there before, and after the operation it is still
the only one with its token. A new row names the token of the copy that the request came with. -/
theorem previous_cases (h : w.Sound) (hop : w.Admits op) {r p : RefreshToken}
    (hr : r ∈ (w.step op).2.store.rows.records) (hp : p ∈ (w.step op).2.store.rows.records)
    (hname : r.previousJti = p.jti) :
    (∃ r₀ ∈ w.store.rows.records, ∃ p₀ ∈ w.store.rows.records,
      r₀.MayBecome r ∧ p₀.MayBecome p ∧ r₀.previousJti = p₀.jti) ∨
    ∃ settings ids request plan id, op = .refresh settings ids request ∧
      w.Rotates settings ids request plan ∧ r = { plan.row with id := id } ∧
      request.stored.MayBecome p := by
  have hlinked := (h.step hop).linked
  have hgrows := (h.changesTo_step hop).growsTo
  have hnamed : r.previousJti ≠ "" := hname ▸ hlinked.named p hp
  rcases h.row_cases hop hr with
    ⟨r₀, hr₀, hbecome⟩ | ⟨_, _, _, plan, _, -, he, rfl⟩ |
      ⟨settings, ids, request, plan, id, rfl, he, rfl⟩
  · rw [hbecome.previousJti] at hname hnamed
    obtain ⟨p₀, hp₀, hprevious⟩ := h.linked.exists_previous hr₀ hnamed
    obtain ⟨p', hp', hpp'⟩ := hgrows.exists_row hp₀
    have hsame : p' = p := hlinked.eq_of_jti hp' hp (by rw [hpp'.jti, ← hprevious, hname])
    exact .inl ⟨r₀, hr₀, p₀, hp₀, hbecome, hsame ▸ hpp', hprevious⟩
  · exact absurd (row_of_planExchange he.planned).2.2 hnamed
  · obtain ⟨-, -, hprevious, -⟩ := row_of_planRefresh he.planned
    obtain ⟨p₀, hp₀, hcopy⟩ := h.held _ hop.2
    obtain ⟨p', hp', hpp'⟩ := hgrows.exists_row hp₀
    have hsame : p' = p :=
      hlinked.eq_of_jti hp' hp (by rw [hpp'.jti, hcopy.jti, ← hprevious, ← hname])
    exact .inr ⟨settings, ids, request, plan, id, rfl, he, rfl, hsame ▸ hcopy.trans hpp'⟩

end Sound

end Server

namespace Run

/-- The grant of a run that has added a row: the server before it, its operation and its plan. Apart
from its number and its revocation, the row is as it was planned. -/
structure Origin (start : Server) (events : List Event) (w : Server) (r : RefreshToken)
    (u : Server) (op : Operation) (plan : GrantPlan) : Prop where
  run : ∃ before after, events = before ++ ⟨op, .ok (.tokens plan.response)⟩ :: after ∧
    Run Server.Admits start before u ∧ Run Server.Admits (u.step op).2 after w
  admitted : u.Admits op
  grants : u.Grants op plan
  row : ∃ id, { plan.row with id := id }.MayBecome r

variable {v w : Server} {events : List Event}

/-- Every row that comes in during a run was added by a grant of the run.

**Proof sketch.** Induction on the run: a row that is there after the last operation was there
before it, and then its grant is in the run so far, or the last operation is its grant. -/
theorem exists_origin (h : Run Server.Admits v events w) (hv : v.Sound)
    (hempty : v.store.rows.records = []) {r : RefreshToken} (hr : r ∈ w.store.rows.records) :
    ∃ u op plan, Origin v events w r u op plan := by
  induction h generalizing r with
  | nil => simp [hempty] at hr
  | @step events w op hrun hop ih =>
    rcases (hrun.sound hv).row_of_grants hop hr with ⟨r₀, hr₀, hbecome⟩ | ⟨plan, id, hgrants, rfl⟩
    · obtain ⟨u, op', plan, ⟨before, after, rfl, hbefore, hafter⟩, hadmitted, hgrants, id, hrow⟩ :=
        ih hr₀
      refine ⟨u, op', plan, ⟨before, after ++ [⟨op, (w.step op).1⟩], by simp, hbefore, ?_⟩,
        hadmitted, hgrants, id, hrow.trans hbecome⟩
      exact hafter.step hop
    · refine ⟨w, op, plan, ⟨events, [], by rw [hgrants.answer], hrun, .nil⟩, hop, hgrants, id, ?_⟩
      exact .refl _

end Run

end TokenAuthority
