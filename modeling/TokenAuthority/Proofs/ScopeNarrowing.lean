import Mathlib.Tactic.Lemma
import TokenAuthority.Proofs.GrantEffect
import TokenAuthority.Proofs.GrantSuccess
import TokenAuthority.Proofs.RowOrigin
import TokenAuthority.Proofs.ScopeWords

/-!
# Scopes only narrow

The scope of a code is the effective one of its request. What an exchange of the code grants, and
what the refreshes along its chain grant, is a part of it, apart from the permission to call the
userinfo endpoint, which an OpenID Connect scope implies. From row to row of a chain the scope gets
smaller: the permission cannot come in later, since the row that implies it has it already.

## Main definitions

* `TokenAuthority.AuthContext.Covers` — what may be granted for a request.
* `TokenAuthority.TokenResponse.ScopeWithin` — the access token of a response has such a scope.
* `TokenAuthority.Store.ScopesClosed` — every row that implies the permission has it.
* `TokenAuthority.Store.ChainWithin` — the rows of a chain have scopes with a property.

## Main results

* `TokenAuthority.Run.scopesClosed` — the invariant that keeps the permission from coming in later.
* `TokenAuthority.Run.scope_narrows` — scopes along a chain.
-/

set_option autoImplicit false

namespace TokenAuthority

/-- What may be granted for a request: a word of its effective scope, or the permission to call the
userinfo endpoint if the effective scope has an OpenID Connect scope. -/
def AuthContext.Covers (ctx : AuthContext) (w : String) : Prop :=
  w ∈ words ctx.effectiveScope ∨
    (w = userinfoPermission.text ∧ NamesOidc ctx.effectiveScope)

/-- The code was made for the request; its number and its use do not matter. -/
def Code.IssuedFor (code : Code) (ctx : AuthContext) : Prop :=
  ∃ value clientId sessionIdentifier authenticatedAt now id used,
    code = { Code.ofContext ctx value clientId sessionIdentifier authenticatedAt now with
      id := id
      used := used }

/-- The access token of the response carries claims with a scope all of whose words have the
property. -/
def TokenResponse.ScopeWithin (response : TokenResponse) (Q : String → Prop) : Prop :=
  ∃ claims : AccessClaims, claims.SignedAs response.accessToken ∧ ∀ w ∈ words claims.scope, Q w

/-! ## One grant -/

section Plans

variable {s : Store} {settings : Settings} {now : Instant} {ids : TokenIds} {plan : GrantPlan}
  {code : Code} {request : RefreshRequest}

/-- Words of one kind are of another kind. -/
lemma TokenResponse.ScopeWithin.mono {response : TokenResponse} {Q Q' : String → Prop}
    (h : response.ScopeWithin Q) (hQ : ∀ w, Q w → Q' w) : response.ScopeWithin Q' := by
  obtain ⟨claims, hsigned, hwords⟩ := h
  exact ⟨claims, hsigned, fun w hw => hQ w (hwords w hw)⟩

/-- The row of a plan has the scope of the grant, and so has the access token. -/
lemma scope_of_planUserTokens {client : Client} {user : User} {scope : ResolvedScope}
    {previous : Option RefreshToken}
    (h : planUserTokens s settings now ids code client user scope previous = .ok plan) :
    plan.row.scope = scope.text ∧ plan.response.ScopeWithin (· ∈ words plan.row.scope) := by
  obtain ⟨-, -, claims, hsigned, hscope⟩ := planUserTokens_ok h
  obtain ⟨-, -, hsame, -⟩ := row_of_planUserTokens h
  exact ⟨hsame, claims, hsigned, fun w hw => by rwa [hsame, ← hscope]⟩

/-- The scope of an exchange is resolved from that of the code. -/
lemma scope_of_planExchange (h : planExchange s settings now ids code = .ok plan) :
    plan.response.ScopeWithin (· ∈ words plan.row.scope) ∧
    ∃ scope, ResolvedScope.resolve code.scope .authorizationCode settings = .ok scope ∧
      plan.row.scope = scope.text := by
  obtain ⟨client, user, scope, -, -, hresolve, h⟩ := planExchange_ok h
  obtain ⟨hrow, hwithin⟩ := scope_of_planUserTokens h
  exact ⟨hwithin, scope, hresolve, hrow⟩

/-- The scope of a refresh is resolved from a part of that of the row. -/
lemma scope_of_planRefresh (h : planRefresh s settings now ids request = .ok plan) :
    plan.response.ScopeWithin (· ∈ words plan.row.scope) ∧
    ∃ requested scope, words requested ⊆ words request.stored.scope ∧
      ResolvedScope.resolve requested .refresh settings = .ok scope ∧
      plan.row.scope = scope.text := by
  obtain ⟨client, user, requested, scope, -, -, -, hrequested, hresolve, h⟩ := planRefresh_ok h
  obtain ⟨hrow, hwithin⟩ := scope_of_planUserTokens h
  exact ⟨hwithin, requested, scope, words_requestedScope_subset hrequested, hresolve, hrow⟩

/-- An exchange grants what may be granted for the request of its code. -/
lemma covers_of_planExchange {ctx : AuthContext} (hcode : code.IssuedFor ctx)
    (h : planExchange s settings now ids code = .ok plan) :
    ∀ w ∈ words plan.row.scope, ctx.Covers w := by
  obtain ⟨-, scope, hresolve, hrow⟩ := scope_of_planExchange h
  have hwords : words code.scope = words ctx.effectiveScope := by
    obtain ⟨_, _, _, _, _, _, _, rfl⟩ := hcode
    exact words_trimBlank _
  intro w hw
  rw [hrow, ResolvedScope.mem_words_text hresolve, NamesOidc, hwords] at hw
  exact hw.imp_right fun hw => ⟨hw.1, hw.2.2⟩

/-- A refresh grants a part of the scope of the row, if that scope is closed. -/
lemma subset_of_planRefresh (h : planRefresh s settings now ids request = .ok plan)
    (hclosed : ScopeClosed request.stored.scope) :
    words plan.row.scope ⊆ words request.stored.scope := by
  obtain ⟨-, requested, scope, hpart, hresolve, hrow⟩ := scope_of_planRefresh h
  rw [hrow]
  exact ResolvedScope.words_text_subset hresolve hpart hclosed

end Plans

/-! ## The rows of a store -/

namespace Store

/-- Every row with an OpenID Connect scope has the permission to call the userinfo endpoint. -/
def ScopesClosed (s : Store) : Prop := ∀ r ∈ s.rows.records, ScopeClosed r.scope

/-- A row has no more than the row that it replaces. -/
def ScopesNarrow (s : Store) : Prop :=
  ∀ r ∈ s.rows.records, ∀ p ∈ s.rows.records, r.previousJti = p.jti →
    words r.scope ⊆ words p.scope

/-- The chain has rows, and all words of their scopes have the property. -/
def ChainWithin (s : Store) (f : String) (Q : String → Prop) : Prop :=
  s.chain f ≠ [] ∧ ∀ r ∈ s.chain f, ∀ w ∈ words r.scope, Q w

end Store

namespace Server.Sound

variable {w : Server} {op : Operation} {settings : Settings} {ids : TokenIds}
  {request : RefreshRequest} {plan : GrantPlan}

/-- The row that a refresh comes with has the scope of a row of the store. -/
lemma exists_row_of_rotates (h : w.Sound) (hop : w.Admits (.refresh settings ids request)) :
    ∃ r ∈ w.store.rows.records, r.jti = request.stored.jti ∧
      r.firstJti = request.stored.firstJti ∧ r.scope = request.stored.scope := by
  obtain ⟨r, hr, hcopy⟩ := h.held _ hop.2
  exact ⟨r, hr, hcopy.jti, hcopy.firstJti, hcopy.scope⟩

/-- The scope that a refresh grants is a part of that of the row that it comes with. -/
lemma subset_of_rotates (h : w.Sound) (hclosed : w.store.ScopesClosed)
    (hop : w.Admits (.refresh settings ids request)) (hr : w.Rotates settings ids request plan) :
    words plan.row.scope ⊆ words request.stored.scope := by
  obtain ⟨r, hrow, -, -, hscope⟩ := h.exists_row_of_rotates hop
  exact subset_of_planRefresh hr.planned (hscope ▸ hclosed r hrow)

/-- Rows stay closed. -/
lemma scopesClosed_step (h : w.Sound) (hclosed : w.store.ScopesClosed) (hop : w.Admits op) :
    (w.step op).2.store.ScopesClosed := by
  intro r hr
  rcases h.row_of_grants hop hr with ⟨r₀, hr₀, hbecome⟩ | ⟨plan, id, hgrants, rfl⟩
  · rw [hbecome.scope]
    exact hclosed r₀ hr₀
  · obtain ⟨_, _, _, hfor⟩ := hgrants.exists_grantsFor
    obtain ⟨_, _, _, _, scope, _, -, -, hflow, hscope, hplan⟩ := hgrants.exists_planUserTokens hfor
    exact (scope_of_planUserTokens hplan).1 ▸ ResolvedScope.scopeClosed_text hscope hflow

/-- Rows go on having no more than the rows that they replace. -/
lemma scopesNarrow_step (h : w.Sound) (hclosed : w.store.ScopesClosed)
    (hnarrow : w.store.ScopesNarrow) (hop : w.Admits op) :
    (w.step op).2.store.ScopesNarrow := by
  intro r hr p hp hname
  rcases h.previous_cases hop hr hp hname with
    ⟨r₀, hr₀, p₀, hp₀, hr₀r, hp₀p, hname₀⟩ | ⟨_, _, request, plan, _, rfl, he, rfl, hcopy⟩
  · rw [hr₀r.scope, hp₀p.scope]
    exact hnarrow r₀ hr₀ p₀ hp₀ hname₀
  · rw [hcopy.scope]
    exact h.subset_of_rotates hclosed hop he

/-- The rows of a chain go on having scopes with the property. -/
lemma chainWithin_step (h : w.Sound) (hclosed : w.store.ScopesClosed) (hop : w.Admits op)
    {f : String} {Q : String → Prop} (hchain : w.store.ChainWithin f Q) :
    (w.step op).2.store.ChainWithin f Q := by
  obtain ⟨hrows, hwithin⟩ := hchain
  constructor
  · obtain ⟨r, hr, hrf⟩ := Store.chain_ne_nil_iff.mp hrows
    obtain ⟨r', hr', hbecome⟩ := (h.changesTo_step hop).growsTo.exists_row hr
    exact Store.chain_ne_nil_iff.mpr ⟨r', hr', hbecome.firstJti.trans hrf⟩
  · intro r hr
    obtain ⟨hr, hrf⟩ := Store.mem_chain.mp hr
    rcases h.row_cases hop hr with
      ⟨r₀, hr₀, hbecome⟩ | ⟨_, _, _, plan, _, -, he, rfl⟩ | ⟨_, _, request, plan, _, rfl, he, rfl⟩
    · rw [hbecome.scope]
      exact hwithin r₀ (Store.mem_chain.mpr ⟨hr₀, hbecome.firstJti.symm.trans hrf⟩)
    · exact absurd hrf (h.firstJti_ne_of_exchanges he hrows)
    · obtain ⟨-, hfirst, -, -⟩ := row_of_planRefresh he.planned
      obtain ⟨r₀, hr₀, -, hfirst₀, hscope⟩ := h.exists_row_of_rotates hop
      intro v hv
      refine hwithin r₀ (Store.mem_chain.mpr ⟨hr₀, hfirst₀.trans (hfirst.symm.trans hrf)⟩) v ?_
      rw [hscope]
      exact h.subset_of_rotates hclosed hop he hv

/-- An exchange starts a chain with what may be granted for the request of its code, and its access
token has no more than that. -/
lemma covers_of_exchange (h : w.Sound) {code : Code} {ctx : AuthContext} {response : TokenResponse}
    (hcode : code.IssuedFor ctx) (hop : w.Admits (.exchange settings ids code))
    (hok : (w.step (.exchange settings ids code)).1 = .ok (.tokens response)) :
    response.ScopeWithin ctx.Covers ∧
      (w.step (.exchange settings ids code)).2.store.ChainWithin ids.refresh ctx.Covers := by
  obtain ⟨plan, he, rfl⟩ := h.of_exchange hop hok
  have hcovers := covers_of_planExchange hcode he.planned
  obtain ⟨hjti, hfirst, -⟩ := row_of_planExchange he.planned
  refine ⟨(scope_of_planExchange he.planned).1.mono hcovers, ?_⟩
  -- the chain was empty, for its head would have the fresh token
  have hempty : w.store.chain ids.refresh = [] := by
    by_contra hrows
    exact h.firstJti_ne_of_exchanges he hrows hfirst
  rw [he.step_eq, Store.ChainWithin, Store.chain_withRow, hempty, if_pos hfirst]
  refine ⟨by simp, fun r hr => ?_⟩
  rw [List.mem_singleton.mp hr]
  exact hcovers

/-- The access token of a refresh has no more than the rows of its chain. -/
lemma scopeWithin_of_isRefresh (h : w.Sound) (hclosed : w.store.ScopesClosed)
    (hop : w.Admits op) {response : TokenResponse} {Q : String → Prop}
    (he : Event.IsRefresh ⟨op, (w.step op).1⟩ request response)
    (hchain : w.store.ChainWithin request.stored.firstJti Q) : response.ScopeWithin Q := by
  obtain ⟨settings, ids, he⟩ := he
  obtain ⟨rfl, hok⟩ := Event.mk.inj he
  obtain ⟨plan, hr, rfl⟩ := h.of_refresh hop hok
  obtain ⟨r, hrow, -, hfirst, hscope⟩ := h.exists_row_of_rotates hop
  refine (scope_of_planRefresh hr.planned).1.mono fun v hv => ?_
  refine hchain.2 r (Store.mem_chain.mpr ⟨hrow, hfirst⟩) v ?_
  rw [hscope]
  exact h.subset_of_rotates hclosed hop hr hv

end Server.Sound

/-! ## Runs -/

namespace Run

variable {now : Instant} {v w : Server} {events : List Event}

/-- The rows after a run from an empty store are closed, and they only narrow. -/
theorem scopesClosed (h : Run Server.Admits (.start now) events w) :
    w.store.ScopesClosed ∧ w.store.ScopesNarrow := by
  have hall := h.invariant (fun u => u.Sound ∧ u.store.ScopesClosed ∧ u.store.ScopesNarrow)
    ⟨.start now, by simp [Server.start, Store.ScopesClosed, Table.empty],
      by simp [Server.start, Store.ScopesNarrow, Table.empty]⟩
    fun u op ⟨hu, hclosed, hnarrow⟩ hop => ⟨hu.step hop, hu.scopesClosed_step hclosed hop,
      hu.scopesNarrow_step hclosed hnarrow hop⟩
  exact hall.2

/-- In a run from a server in which the rows of a chain have scopes with a property, the access
tokens of the refreshes along the chain have such scopes too. -/
theorem scopeWithin_of_chainWithin (h : Run Server.Admits v events w) (hv : v.Sound)
    (hclosed : v.store.ScopesClosed) {f : String} {Q : String → Prop}
    (hchain : v.store.ChainWithin f Q) :
    (w.store.ScopesClosed ∧ w.store.ChainWithin f Q) ∧
    ∀ e ∈ events, ∀ request response, e.IsRefresh request response →
      request.stored.firstJti = f → response.ScopeWithin Q := by
  induction h with
  | nil => exact ⟨⟨hclosed, hchain⟩, by simp⟩
  | @step events u op hrun hop ih =>
    obtain ⟨⟨huclosed, huchain⟩, hevents⟩ := ih
    have hu := hrun.sound hv
    refine ⟨⟨hu.scopesClosed_step huclosed hop, hu.chainWithin_step huclosed hop huchain⟩, ?_⟩
    intro e he request response hrefresh hfirst
    rcases List.mem_append.mp he with he | he
    · exact hevents e he request response hrefresh hfirst
    · rw [List.mem_singleton.mp he] at hrefresh
      exact hu.scopeWithin_of_isRefresh huclosed hop hrefresh (hfirst ▸ huchain)

/-- When a code is exchanged that was made for a request, the access token of the exchange, and
those of all refreshes along the chain that it starts, have scopes whose words may be granted for
the request, whatever scopes are asked for and under whatever settings. And every row has no more
than the row that it replaces. -/
theorem scope_narrows {u : Server} {events' : List Event} {settings : Settings} {ids : TokenIds}
    {code : Code} {ctx : AuthContext} {response : TokenResponse}
    (h : Run Server.Admits (.start now) events u) (hcode : code.IssuedFor ctx)
    (hop : u.Admits (.exchange settings ids code))
    (hok : (u.step (.exchange settings ids code)).1 = .ok (.tokens response))
    (h' : Run Server.Admits (u.step (.exchange settings ids code)).2 events' w) :
    response.ScopeWithin ctx.Covers ∧
    (∀ e ∈ events', ∀ request response', e.IsRefresh request response' →
      request.stored.firstJti = ids.refresh → response'.ScopeWithin ctx.Covers) ∧
    ∀ r ∈ w.store.rows.records, ∀ p ∈ w.store.rows.records, r.previousJti = p.jti →
      words r.scope ⊆ words p.scope := by
  have hu := h.sound (.start now)
  obtain ⟨hwithin, hchain⟩ := hu.covers_of_exchange hcode hop hok
  have hclosed := hu.scopesClosed_step h.scopesClosed.1 hop
  refine ⟨hwithin, (h'.scopeWithin_of_chainWithin (hu.step hop) hclosed hchain).2, ?_⟩
  exact ((h.step hop).trans h').scopesClosed.2

end Run

/-- In the sample the exchange grants the two scopes of the request and the permission that they
imply, and the refresh leaves out one of the two. -/
theorem Sample.scope_narrows_refreshed : ∃ response response',
    server.step (.exchange {} firstIds code) = (.ok (.tokens response), exchanged) ∧
    Run Server.Admits exchanged [⟨.refresh {} secondIds request, .ok (.tokens response')⟩]
      refreshed ∧
    response.ScopeWithin context.Covers ∧ response'.ScopeWithin context.Covers ∧
    words firstRow.scope = ["openid", "offline_access", "authserver:userinfo"] ∧
    words secondRow.scope = ["offline_access", "authserver:userinfo"] ∧
    words secondRow.scope ⊆ words firstRow.scope := by
  obtain ⟨events, hrun⟩ := run_server
  obtain ⟨response, hstep⟩ := step_exchange
  obtain ⟨response', hrun'⟩ := run_refreshed
  have hcode : code.IssuedFor context := ⟨"c1", 1, "s1", now, now, 0, false, rfl⟩
  have hafter : (server.step (.exchange {} firstIds code)).2 = exchanged := by rw [hstep]
  obtain ⟨hwithin, hrefreshes, hnarrow⟩ := hrun.scope_narrows hcode admits_exchange
    (congrArg Prod.fst hstep) (hafter.symm ▸ hrun')
  refine ⟨response, response', hstep, hrun', hwithin, ?_, by decide +kernel, by decide +kernel, ?_⟩
  · exact hrefreshes _ (List.mem_singleton.mpr rfl) request response'
      ⟨{}, secondIds, rfl⟩ rfl
  · have hfirst : { firstRow with revoked := true } ∈ refreshed.store.rows.records := by decide
    have hsecond : { secondRow with id := 2 } ∈ refreshed.store.rows.records := by decide
    exact hnarrow { secondRow with id := 2 } hsecond { firstRow with revoked := true } hfirst rfl

end TokenAuthority
