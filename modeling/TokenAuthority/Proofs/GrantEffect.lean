import Mathlib.Tactic.Lemma
import TokenAuthority.Proofs.ChainLinks

/-!
# What grants do to the rows

An exchange is refused or starts a chain. A refresh is refused, or it is detected as reuse and the
chain is revoked, or it revokes the row that it presents and adds one behind it. Nothing else
happens to the rows in a run, so that its store stays linked.

## Main definitions

* `TokenAuthority.Store.ChangesTo` — what an operation may do to the rows.
* `TokenAuthority.Server.Exchanges`, `TokenAuthority.Server.Rotates` — a grant that succeeds.
* `TokenAuthority.Server.Sound` — the store is linked, and every copy of a row is one of a row that
  the store holds.

## Main results

* `TokenAuthority.Store.Linked.exchangeCode_cases`, `TokenAuthority.Store.Linked.refresh_cases` —
  what an exchange and a refresh come to.
* `TokenAuthority.Server.Sound.step_cases`, `TokenAuthority.Server.Sound.row_cases` — what an
  admitted operation does to the rows, and where a row comes from.
* `TokenAuthority.Run.sound` — every run from an empty store is sound.
* `TokenAuthority.Run.growsTo` — rows are never taken away nor changed but for their revocation.
-/

set_option autoImplicit false

namespace TokenAuthority

/-! ## Plans of the two grants -/

/-- A code is loaded if its client and its user are stored. -/
lemma Store.loadCode_eq_ok_iff {s : Store} {code : Code} {client : Client} {user : User} :
    s.loadCode code = .ok (client, user) ↔
      s.client? code.clientId = some client ∧
      ∃ stored, s.user? code.userId = some stored ∧ user = s.loadRelations stored := by
  simp only [loadCode, codeClient, codeUser]
  cases s.client? code.clientId with
  | none => simp [bind, Except.bind]
  | some c =>
    cases s.user? code.userId with
    | none => simp [bind, Except.bind]
    | some u => simp [bind, Except.bind, pure, Except.pure, eq_comm]

/-- A client that may be used is enabled. -/
lemma enabled_of_ensureEnabled {client : Client} (h : ensureEnabled client = .ok ()) :
    client.enabled = true := by
  rw [ensureEnabled] at h
  split at h
  · assumption
  · cases h

/-- What the plan of an exchange rests on. -/
lemma planExchange_ok {s : Store} {settings : Settings} {now : Instant} {ids : TokenIds}
    {code : Code} {plan : GrantPlan} (h : planExchange s settings now ids code = .ok plan) :
    ∃ client user scope, s.loadCode code = .ok (client, user) ∧ client.enabled = true ∧
      ResolvedScope.resolve code.scope .authorizationCode settings = .ok scope ∧
      planUserTokens s settings now ids code client user scope none = .ok plan := by
  obtain ⟨⟨client, user⟩, hload, h⟩ := bind_ok h
  obtain ⟨_, henabled, h⟩ := bind_ok h
  dsimp only at h
  split at h
  · cases h
  · obtain ⟨scope, hscope, h⟩ := bind_ok h
    exact ⟨client, user, scope, hload, enabled_of_ensureEnabled henabled, hscope, h⟩

/-- What the plan of a refresh rests on. -/
lemma planRefresh_ok {s : Store} {settings : Settings} {now : Instant} {ids : TokenIds}
    {request : RefreshRequest} {plan : GrantPlan}
    (h : planRefresh s settings now ids request = .ok plan) :
    ∃ client user requested scope, s.loadCode request.code = .ok (client, user) ∧
      client.enabled = true ∧ ensureRedeemable request.stored client settings now = .ok () ∧
      requestedScope request.scope request.stored.scope = .ok requested ∧
      ResolvedScope.resolve requested .refresh settings = .ok scope ∧
      planUserTokens s settings now ids request.code client user scope (some request.stored) =
        .ok plan := by
  obtain ⟨⟨client, user⟩, hload, h⟩ := bind_ok h
  obtain ⟨_, henabled, h⟩ := bind_ok h
  obtain ⟨_, hredeemable, h⟩ := bind_ok h
  obtain ⟨requested, hrequested, h⟩ := bind_ok h
  obtain ⟨scope, hscope, h⟩ := bind_ok h
  exact ⟨client, user, requested, scope, hload, enabled_of_ensureEnabled henabled, hredeemable,
    hrequested, hscope, h⟩

/-- The row of an exchange is the head of a chain of its own. -/
lemma row_of_planExchange {s : Store} {settings : Settings} {now : Instant} {ids : TokenIds}
    {code : Code} {plan : GrantPlan} (h : planExchange s settings now ids code = .ok plan) :
    plan.row.jti = ids.refresh ∧ plan.row.firstJti = ids.refresh ∧ plan.row.previousJti = "" := by
  obtain ⟨client, user, scope, -, -, -, h⟩ := planExchange_ok h
  obtain ⟨⟨lifetime, -, hrow⟩, -⟩ := planUserTokens_ok h
  rw [hrow]
  exact ⟨rfl, rfl, rfl⟩

/-- The row of a refresh goes on with the chain of the row that it replaces. -/
lemma row_of_planRefresh {s : Store} {settings : Settings} {now : Instant} {ids : TokenIds}
    {request : RefreshRequest} {plan : GrantPlan}
    (h : planRefresh s settings now ids request = .ok plan) :
    plan.row.jti = ids.refresh ∧ plan.row.firstJti = request.stored.firstJti ∧
      plan.row.previousJti = request.stored.jti ∧ plan.row.codeId = request.stored.codeId := by
  obtain ⟨client, user, requested, scope, -, -, -, -, -, h⟩ := planRefresh_ok h
  obtain ⟨⟨lifetime, -, hrow⟩, -⟩ := planUserTokens_ok h
  rw [hrow]
  exact ⟨rfl, rfl, rfl, rfl⟩

namespace Store

variable {s t : Store} {settings : Settings} {now : Instant} {ids : TokenIds}

/-- A new row can be stored before another one is revoked as well as after it. -/
lemma revoke_withRow {row : RefreshToken} {jti : String} (hne : row.jti ≠ jti) :
    (s.withRow row).revoke jti = (s.revoke jti).withRow row := by
  simp [withRow, revoke, Table.modify, hne]

/-- A refresh of a row that may be redeemed, with a row that is free to be stored, replaces the one
by the other. -/
lemma refresh_eq_of_free {request : RefreshRequest} {plan : GrantPlan}
    (htip : s.verifyTip request.stored request.presented = (.ok (), s))
    (hplan : planRefresh s settings now ids request = .ok plan)
    (hprevious : s.successions.has plan.row.previousJti = false)
    (hfree : s.rows.has plan.row.jti = false) (hother : plan.row.jti ≠ request.stored.jti) :
    refresh s settings now ids request =
      (.ok plan.response, (s.revoke request.stored.jti).withRow plan.row) := by
  simp only [refresh, htip, hplan, GrantPlan.commit, createRow_of_free (.inr hprevious) hfree,
    revoke_withRow hother]

/-- Some rows are revoked, and then a row may be added. -/
def ChangesTo (s t : Store) : Prop :=
  s.RevokesTo t ∨ ∃ s' row, s.RevokesTo s' ∧ Linked.Addable s' row ∧ t = s'.withRow row

/-- A change keeps the store linked. -/
lemma ChangesTo.linked (hst : s.ChangesTo t) (h : s.Linked) : t.Linked := by
  rcases hst with hst | ⟨s', row, hs', ha, rfl⟩
  · exact h.of_revokesTo hst
  · exact (h.of_revokesTo hs').withRow ha

/-- A change is growth. -/
lemma ChangesTo.growsTo (hst : s.ChangesTo t) : s.GrowsTo t := by
  rcases hst with hst | ⟨s', row, hs', -, rfl⟩
  · exact hst.growsTo
  · exact hs'.growsTo.trans (s'.growsTo_withRow row)

namespace Linked

/-- Revocations leave the index of successors as it is. -/
lemma successor?_of_revokesTo (h : s.Linked) (hst : s.RevokesTo t) (p : String) :
    (t.successor? p).isSome = (s.successor? p).isSome := by
  rw [(h.of_revokesTo hst).toIndexed.successor?_isSome_eq, h.toIndexed.successor?_isSome_eq,
    hst.successions]

/-- A token that has a successor keeps one. -/
lemma successor?_of_growsTo (h : s.Linked) (ht : t.Linked) (hst : s.GrowsTo t) {p : String}
    (hp : (s.successor? p).isSome = true) : (t.successor? p).isSome = true := by
  obtain ⟨hne, r, hr, hprevious⟩ := h.successor?_isSome_iff.mp hp
  obtain ⟨r', hr', hrr'⟩ := hst.exists_row hr
  exact ht.successor?_isSome_iff.mpr ⟨hne, r', hr', hrr'.previousJti.trans hprevious⟩

/-- An exchange that has a plan succeeds, and it starts a chain. -/
lemma exchangeCode_of_plan (h : s.Linked) {code : Code} {plan : GrantPlan}
    (hne : ids.refresh ≠ "") (hfree : s.rows.has ids.refresh = false)
    (hplan : planExchange s settings now ids code = .ok plan) :
    Addable s plan.row ∧
      exchangeCode s settings now ids code = (.ok plan.response, s.withRow plan.row) := by
  obtain ⟨hjti, hfirst, hprevious⟩ := row_of_planExchange hplan
  have ha : Addable s plan.row :=
    ⟨hjti ▸ hne, hjti ▸ hfree, .inl ⟨hprevious, hfirst.trans hjti.symm⟩⟩
  refine ⟨ha, ?_⟩
  simp only [exchangeCode, hplan, GrantPlan.commit, createRow_of_free (ha.previous_free h) ha.free]

/-- What an exchange comes to: it is refused, or it starts a chain. -/
theorem exchangeCode_cases (h : s.Linked) (settings : Settings) (now : Instant) (code : Code)
    (hne : ids.refresh ≠ "") (hfree : s.rows.has ids.refresh = false) :
    (∃ e, exchangeCode s settings now ids code = (.error e, s)) ∨
    ∃ plan, planExchange s settings now ids code = .ok plan ∧ Addable s plan.row ∧
      exchangeCode s settings now ids code = (.ok plan.response, s.withRow plan.row) := by
  cases hplan : planExchange s settings now ids code with
  | error e => exact .inl ⟨e, by simp only [exchangeCode, hplan]⟩
  | ok plan => exact .inr ⟨plan, rfl, h.exchangeCode_of_plan hne hfree hplan⟩

/-- A token that has a successor gives its chain away, whatever else the request holds. -/
lemma refresh_of_successor (h : s.Linked) (settings : Settings) (now : Instant) (ids : TokenIds)
    {request : RefreshRequest} (hjti : request.stored.jti = request.presented)
    (hsucc : (s.successor? request.presented).isSome = true) :
    refresh s settings now ids request = (.error (.tokenReused request.presented),
      (s.revokeChain request.stored.firstJti).2) := by
  have hnamed : request.presented ≠ "" := (h.successor?_isSome_iff.mp hsucc).1
  simp [refresh, verifyTip, hnamed, hjti, hsucc]

/-- The row of a refresh may be added once the row that it replaces has been revoked. -/
lemma addable_of_planRefresh (h : s.Linked) {request : RefreshRequest} {plan : GrantPlan}
    (hne : ids.refresh ≠ "") (hfree : s.rows.has ids.refresh = false) {r : RefreshToken}
    (hr : r ∈ s.rows.records) (hcopy : request.stored.MayBecome r)
    (hnone : s.successor? request.stored.jti = none)
    (hplan : planRefresh s settings now ids request = .ok plan) :
    Addable (s.revoke request.stored.jti) plan.row := by
  obtain ⟨hjti, hfirst, hprevious, hcode⟩ := row_of_planRefresh hplan
  have hrevoke := s.revokesTo_revoke request.stored.jti
  have hnone' : (s.revoke request.stored.jti).successor? plan.row.previousJti = none := by
    rw [← Option.not_isSome_iff_eq_none, hprevious, h.successor?_of_revokesTo hrevoke, hnone]
    simp
  refine ⟨hjti ▸ hne, ?_, .inr ⟨hnone', { r with revoked := true }, ?_, ?_, rfl, ?_, ?_⟩⟩
  · rw [Table.has_eq_false_iff] at hfree ⊢
    rw [revoke_records]
    intro a ha
    obtain ⟨a', ha', rfl⟩ := List.mem_map.mp ha
    rw [(onlyRevokes_revokeWhere _ a').jti, hjti]
    exact hfree a' ha'
  · rw [revoke_records]
    exact List.mem_map.mpr ⟨r, hr, by simp [revokeWhere, hcopy.jti]⟩
  · rw [hprevious, ← hcopy.jti]
  · rw [hfirst, ← hcopy.firstJti]
  · rw [hcode, ← hcopy.codeId]

/-- A refresh of a row without successor that has a plan succeeds, unless the copy is revoked. -/
lemma refresh_of_plan (h : s.Linked) {request : RefreshRequest} {plan : GrantPlan}
    (hne : ids.refresh ≠ "") (hfree : s.rows.has ids.refresh = false) {r : RefreshToken}
    (hr : r ∈ s.rows.records) (hcopy : request.stored.MayBecome r)
    (hjti : request.stored.jti = request.presented)
    (hnone : s.successor? request.stored.jti = none) (hlive : request.stored.revoked = false)
    (hplan : planRefresh s settings now ids request = .ok plan) :
    Addable (s.revoke request.stored.jti) plan.row ∧
      refresh s settings now ids request =
        (.ok plan.response, (s.revoke request.stored.jti).withRow plan.row) := by
  obtain ⟨hrowJti, -, hprevious, -⟩ := row_of_planRefresh hplan
  have hnamed : request.presented ≠ "" := by
    rw [← hjti, ← hcopy.jti]
    exact h.named r hr
  have htip : s.verifyTip request.stored request.presented = (.ok (), s) := by
    have hnext : s.successor? request.presented = none := hjti ▸ hnone
    simp [verifyTip, hnamed, hjti, hnext, hlive]
  have hother : plan.row.jti ≠ request.stored.jti := by
    rw [hrowJti, ← hcopy.jti]
    exact (Table.has_eq_false_iff.mp hfree r hr).symm
  have hunreplaced : s.successions.has plan.row.previousJti = false := by
    rw [hprevious]
    exact h.toIndexed.has_eq_false hnone
  exact ⟨h.addable_of_planRefresh hne hfree hr hcopy hnone hplan,
    refresh_eq_of_free htip hplan hunreplaced (hrowJti ▸ hfree) hother⟩

/-- What a refresh with a copy of a stored row comes to: it is refused, or the token has a successor
and the chain is revoked, or the row is revoked and replaced. -/
theorem refresh_cases (h : s.Linked) (settings : Settings) (now : Instant)
    {request : RefreshRequest} (hne : ids.refresh ≠ "") (hfree : s.rows.has ids.refresh = false)
    {r : RefreshToken} (hr : r ∈ s.rows.records) (hcopy : request.stored.MayBecome r) :
    (∃ e, refresh s settings now ids request = (.error e, s)) ∨
    (request.stored.jti = request.presented ∧ (s.successor? request.presented).isSome = true ∧
      refresh s settings now ids request = (.error (.tokenReused request.presented),
        (s.revokeChain request.stored.firstJti).2)) ∨
    ∃ plan, request.stored.jti = request.presented ∧ s.successor? request.stored.jti = none ∧
      request.stored.revoked = false ∧ planRefresh s settings now ids request = .ok plan ∧
      Addable (s.revoke request.stored.jti) plan.row ∧
      refresh s settings now ids request =
        (.ok plan.response, (s.revoke request.stored.jti).withRow plan.row) := by
  by_cases hmatch : (request.presented.isEmpty || request.stored.jti != request.presented) = true
  · exact .inl ⟨.tokenMismatch, by simp only [refresh, verifyTip, if_pos hmatch]⟩
  have hjti : request.stored.jti = request.presented := by
    simp only [Bool.or_eq_true, bne_iff_ne, not_or, ne_eq, Decidable.not_not] at hmatch
    exact hmatch.2
  cases hnext : s.successor? request.presented with
  | some next =>
    exact .inr (.inl ⟨hjti, rfl, h.refresh_of_successor settings now ids hjti (by rw [hnext]; rfl)⟩)
  | none =>
    cases hlive : request.stored.revoked with
    | true => exact .inl ⟨.tokenRevoked, by simp [refresh, verifyTip, hmatch, hnext, hlive]⟩
    | false =>
      cases hplan : planRefresh s settings now ids request with
      | error e => exact .inl ⟨e, by simp [refresh, verifyTip, hmatch, hnext, hlive, hplan]⟩
      | ok plan =>
        have hnone : s.successor? request.stored.jti = none := by rw [hjti, hnext]
        exact .inr (.inr ⟨plan, hjti, hnone, rfl, rfl,
          h.refresh_of_plan hne hfree hr hcopy hjti hnone hlive hplan⟩)

end Linked

end Store

/-! ## Runs -/

namespace Server

/-- The store is linked, and every copy of a row is one of a row that the store holds. -/
structure Sound (w : Server) : Prop where
  linked : w.store.Linked
  held : ∀ c ∈ w.copies, ∃ r ∈ w.store.rows.records, c.MayBecome r

/-- An exchange starts a chain with the row of a plan. -/
structure Exchanges (w : Server) (settings : Settings) (ids : TokenIds) (code : Code)
    (plan : GrantPlan) : Prop where
  planned : planExchange w.store settings w.now ids code = .ok plan
  addable : Store.Linked.Addable w.store plan.row
  step_eq : w.step (.exchange settings ids code) =
    (.ok (.tokens plan.response), ⟨w.store.withRow plan.row, w.now, w.copies⟩)

/-- A refresh comes with a copy of the last row of a chain that is not revoked, and it replaces that
row by the row of a plan. -/
structure Rotates (w : Server) (settings : Settings) (ids : TokenIds) (request : RefreshRequest)
    (plan : GrantPlan) : Prop where
  presented : request.stored.jti = request.presented
  last : w.store.successor? request.stored.jti = none
  live : request.stored.revoked = false
  planned : planRefresh w.store settings w.now ids request = .ok plan
  addable : Store.Linked.Addable (w.store.revoke request.stored.jti) plan.row
  step_eq : w.step (.refresh settings ids request) = (.ok (.tokens plan.response),
    ⟨(w.store.revoke request.stored.jti).withRow plan.row, w.now, w.copies⟩)

namespace Sound

variable {w : Server} {op : Operation}

/-- A server with an empty store is sound. -/
lemma start (now : Instant) : (Server.start now).Sound where
  linked := .empty
  held := by simp [copies, Server.start, Table.empty]

/-- An exchange is refused, or it starts a chain. -/
lemma exchange_cases {settings : Settings} {ids : TokenIds} {code : Code} (h : w.Sound)
    (hop : w.Admits (.exchange settings ids code)) :
    (∃ e, w.step (.exchange settings ids code) = (.error e, ⟨w.store, w.now, w.copies⟩)) ∨
    ∃ plan, w.Exchanges settings ids code plan := by
  obtain ⟨hne, hfree⟩ := hop
  rcases h.linked.exchangeCode_cases settings w.now code hne hfree with
    ⟨e, he⟩ | ⟨plan, hplan, ha, he⟩
  · exact .inl ⟨e, step_of_run (Operation.run_exchange he)⟩
  · exact .inr ⟨plan, hplan, ha, step_of_run (Operation.run_exchange he)⟩

/-- A refresh is refused, with the chain revoked or without, or it replaces the last row of a
chain. -/
lemma refresh_cases {settings : Settings} {ids : TokenIds} {request : RefreshRequest} (h : w.Sound)
    (hop : w.Admits (.refresh settings ids request)) :
    (∃ e t, w.step (.refresh settings ids request) = (.error e, ⟨t, w.now, w.copies⟩) ∧
      w.store.RevokesTo t) ∨
    ∃ plan, w.Rotates settings ids request plan := by
  obtain ⟨⟨hne, hfree⟩, hstored⟩ := hop
  obtain ⟨r, hr, hcopy⟩ := h.held _ hstored
  rcases h.linked.refresh_cases settings w.now hne hfree hr hcopy with
    ⟨e, he⟩ | ⟨-, -, he⟩ | ⟨plan, hjti, hnone, hlive, hplan, ha, he⟩
  · exact .inl ⟨e, _, step_of_run (Operation.run_refresh he), .refl _⟩
  · exact .inl ⟨_, _, step_of_run (Operation.run_refresh he), w.store.revokesTo_revokeChain _⟩
  · exact .inr ⟨plan, hjti, hnone, hlive, hplan, ha, step_of_run (Operation.run_refresh he)⟩

/-- What an admitted operation does to the rows: it revokes some, or it is a grant that succeeds. -/
theorem step_cases (h : w.Sound) (hop : w.Admits op) :
    w.store.RevokesTo (w.step op).2.store ∨
    (∃ settings ids code plan, op = .exchange settings ids code ∧
      w.Exchanges settings ids code plan) ∨
    ∃ settings ids request plan, op = .refresh settings ids request ∧
      w.Rotates settings ids request plan := by
  cases op with
  | exchange settings ids code =>
    rcases h.exchange_cases hop with ⟨e, he⟩ | ⟨plan, he⟩
    · rw [he]
      exact .inl (.refl _)
    · exact .inr (.inl ⟨settings, ids, code, plan, rfl, he⟩)
  | refresh settings ids request =>
    rcases h.refresh_cases hop with ⟨e, t, he, hrevokes⟩ | ⟨plan, he⟩
    · rw [he]
      exact .inl hrevokes
    · exact .inr (.inr ⟨settings, ids, request, plan, rfl, he⟩)
  | clientCredentials settings jti client scope => exact .inl (.refl _)
  | revoke jti => exact .inl (w.store.revokesTo_revoke jti)
  | revokeChain firstJti => exact .inl (w.store.revokesTo_revokeChain firstJti)
  | setClock now => exact .inl (.refl _)
  | update u => exact .inl (u.revokesTo_run w.store)

/-- An exchange that has handed out tokens has started a chain. -/
theorem of_exchange {settings : Settings} {ids : TokenIds} {code : Code}
    {response : TokenResponse} (h : w.Sound) (hop : w.Admits (.exchange settings ids code))
    (hok : (w.step (.exchange settings ids code)).1 = .ok (.tokens response)) :
    ∃ plan, w.Exchanges settings ids code plan ∧ plan.response = response := by
  rcases h.exchange_cases hop with ⟨e, he⟩ | ⟨plan, he⟩
  · rw [he] at hok
    cases hok
  · rw [he.step_eq] at hok
    cases hok
    exact ⟨plan, he, rfl⟩

/-- A refresh that has handed out tokens has replaced the last row of a chain. -/
theorem of_refresh {settings : Settings} {ids : TokenIds} {request : RefreshRequest}
    {response : TokenResponse} (h : w.Sound) (hop : w.Admits (.refresh settings ids request))
    (hok : (w.step (.refresh settings ids request)).1 = .ok (.tokens response)) :
    ∃ plan, w.Rotates settings ids request plan ∧ plan.response = response := by
  rcases h.refresh_cases hop with ⟨e, t, he, -⟩ | ⟨plan, he⟩
  · rw [he] at hok
    cases hok
  · rw [he.step_eq] at hok
    cases hok
    exact ⟨plan, he, rfl⟩

/-- Where a row comes from: it was there before, or a grant has added it. -/
theorem row_cases (h : w.Sound) (hop : w.Admits op) {r : RefreshToken}
    (hr : r ∈ (w.step op).2.store.rows.records) :
    (∃ r₀ ∈ w.store.rows.records, r₀.MayBecome r) ∨
    (∃ settings ids code plan id, op = .exchange settings ids code ∧
      w.Exchanges settings ids code plan ∧ r = { plan.row with id := id }) ∨
    ∃ settings ids request plan id, op = .refresh settings ids request ∧
      w.Rotates settings ids request plan ∧ r = { plan.row with id := id } := by
  rcases h.step_cases hop with
    hrevokes | ⟨settings, ids, code, plan, rfl, he⟩ | ⟨settings, ids, request, plan, rfl, he⟩
  · exact .inl (hrevokes.exists_row hr)
  · rw [he.step_eq, Store.mem_withRow] at hr
    rcases hr with hr | hr
    · exact .inl ⟨r, hr, .refl r⟩
    · exact .inr (.inl ⟨settings, ids, code, plan, _, rfl, he, hr⟩)
  · rw [he.step_eq, Store.mem_withRow] at hr
    rcases hr with hr | hr
    · exact .inl ((w.store.revokesTo_revoke _).exists_row hr)
    · exact .inr (.inr ⟨settings, ids, request, plan, _, rfl, he, hr⟩)

/-- No new chain starts with the token of a chain that has rows. -/
lemma firstJti_ne_of_exchanges (h : w.Sound) {settings : Settings} {ids : TokenIds} {code : Code}
    {plan : GrantPlan} {f : String} (he : w.Exchanges settings ids code plan)
    (hrows : w.store.chain f ≠ []) : plan.row.firstJti ≠ f := by
  obtain ⟨r, hr, hrf⟩ := Store.chain_ne_nil_iff.mp hrows
  obtain ⟨r₀, hr₀, hjti, -⟩ := h.linked.exists_head hr
  obtain ⟨hrowJti, hrowFirst, -⟩ := row_of_planExchange he.planned
  intro hf
  refine he.addable.jti_ne hr₀ ?_
  rw [hjti, hrf, ← hf, hrowFirst, hrowJti]

/-- In terms of rows alone: some are revoked, and then one may be added. -/
theorem changesTo_step (h : w.Sound) (hop : w.Admits op) :
    w.store.ChangesTo (w.step op).2.store := by
  rcases h.step_cases hop with hrevokes | ⟨_, _, _, plan, rfl, he⟩ | ⟨_, _, _, plan, rfl, he⟩
  · exact .inl hrevokes
  · rw [he.step_eq]
    exact .inr ⟨w.store, plan.row, .refl _, he.addable, rfl⟩
  · rw [he.step_eq]
    exact .inr ⟨_, plan.row, w.store.revokesTo_revoke _, he.addable, rfl⟩

/-- A step that changes rows in this way keeps the server sound. -/
lemma of_changesTo (h : w.Sound) (hchanges : w.store.ChangesTo (w.step op).2.store) :
    (w.step op).2.Sound where
  linked := hchanges.linked h.linked
  held := by
    intro c hc
    rcases List.mem_append.mp hc with hc | hc
    · exact ⟨c, hc, .refl c⟩
    · obtain ⟨r, hr, hcr⟩ := h.held c hc
      obtain ⟨r', hr', hrr'⟩ := hchanges.growsTo.exists_row hr
      exact ⟨r', hr', hcr.trans hrr'⟩

/-- An admitted operation keeps the server sound. -/
theorem step (h : w.Sound) (hop : w.Admits op) : (w.step op).2.Sound :=
  h.of_changesTo (h.changesTo_step hop)

end Sound

end Server

namespace Run

variable {v w : Server} {events : List Event}

/-- A run from a sound server ends in one. -/
theorem sound (h : Run Server.Admits v events w) (hv : v.Sound) : w.Sound :=
  h.invariant Server.Sound hv fun _ _ hu hop => hu.step hop

/-- Rows are never taken away nor changed but for their revocation. -/
theorem growsTo (h : Run Server.Admits v events w) (hv : v.Sound) :
    v.store.GrowsTo w.store :=
  (h.invariant (fun u => u.Sound ∧ v.store.GrowsTo u.store) ⟨hv, .refl _⟩
    fun _ _ hu hop => ⟨hu.1.step hop, hu.2.trans (hu.1.changesTo_step hop).growsTo⟩).2

end Run

end TokenAuthority
