import Mathlib.Tactic.Lemma
import TokenAuthority.Proofs.Checks
import TokenAuthority.Proofs.GrantSuccess

/-!
# What the grants decide

Every grant is decided by a list of checks: it hands out tokens exactly if all of them hold, and
otherwise its error has the kind of the first one that does not. The lists are written out here for
the three grants. That of a refresh comes with a row as the store holds it.

## Main definitions

* `TokenAuthority.Store.exchangeChecks`, `TokenAuthority.Store.refreshChecks`,
  `TokenAuthority.Store.clientChecks` — the checks of the grants.

## Main results

* `TokenAuthority.Store.Linked.decidedBy_exchangeCode`,
  `TokenAuthority.Store.Linked.decidedBy_refresh`, `TokenAuthority.decidedBy_clientCredentials` —
  the grants are decided by them.
* `TokenAuthority.Run.refresh_decision` — refreshes in a run.
-/

set_option autoImplicit false

namespace TokenAuthority

namespace Store

variable (s : Store) (settings : Settings) (now : Instant)

/-- The checks of the exchange of a code. -/
def exchangeChecks (code : Code) : List Check :=
  s.codeChecks code ++ (s.client? code.clientId).elim [] fun client =>
    client.enabledCheck ::
    ⟨client.authorizationCodeEnabled = true, .invalidClient⟩ ::
    vocabularyCheck .authorizationCode settings code.scope ::
    (s.lifetimeChecks settings now code client none (refreshTypeOf code.scope) ++
      s.signingChecks settings now client)

/-- The checks of a refresh, once the row is known to be the last one of its chain and not
revoked. -/
def redemptionChecks (request : RefreshRequest) : List Check :=
  s.codeChecks request.code ++ (s.client? request.code.clientId).elim [] fun client =>
    client.enabledCheck ::
    (request.stored.redeemableChecks client settings now ++
    narrowingCheck request.scope request.stored.scope ::
    vocabularyCheck .refresh settings (usedScope request.scope request.stored.scope) ::
    (s.lifetimeChecks settings now request.code client request.stored.maxLifetime
        (refreshTypeOf (usedScope request.scope request.stored.scope)) ++
      s.signingChecks settings now client))

/-- The checks of a refresh: the presented token is the one of the row, it has not been replaced,
the row is not revoked, and it may be redeemed. -/
def refreshChecks (request : RefreshRequest) : List Check :=
  ⟨request.presented ≠ "" ∧ request.stored.jti = request.presented, .invalidGrant⟩ ::
  ⟨∀ r ∈ s.rows.records, r.previousJti ≠ request.presented, .refreshTokenReused⟩ ::
  ⟨request.stored.revoked = false, .tokenRevoked⟩ ::
  s.redemptionChecks settings now request

/-- The checks of a grant to a client in its own name. -/
def clientChecks (client : Client) (scope : String) : List Check :=
  client.enabledCheck ::
  ⟨client.clientCredentialsEnabled = true, .invalidClient⟩ ::
  ⟨isBlankText scope = false, .invalidRequest⟩ ::
  vocabularyCheck .clientCredentials settings scope ::
  s.signingChecks settings now client

end Store

/-! ## Plans -/

/-- The plan of an exchange is decided by the checks of an exchange. -/
lemma decidedBy_planExchange (s : Store) (settings : Settings) (now : Instant) (ids : TokenIds)
    (code : Code) :
    DecidedBy (planExchange s settings now ids code) (s.exchangeChecks settings now code) := by
  refine (decidedBy_loadCode s code).bind fun ⟨client, user⟩ hload => ?_
  rw [(Store.loadCode_eq_ok_iff.mp hload).1, Option.elim_some]
  refine (decidedBy_ensureEnabled client).bind fun _ _ => ⟨fun hallowed => ?_, fun hbarred => ?_⟩
  · dsimp only
    rw [hallowed]
    refine (decidedBy_resolve code.scope .authorizationCode settings).bind fun scope hscope => ?_
    rw [← refreshTypeFor_of_resolve hscope]
    exact decidedBy_planUserTokens s settings now ids code client user scope none
  · have hoff : client.authorizationCodeEnabled = false := by simpa using hbarred
    dsimp only
    rw [hoff]
    exact ⟨_, rfl, rfl, rfl⟩

/-- The plan of a refresh is decided by the checks that come after those of the row. -/
lemma decidedBy_planRefresh (s : Store) (settings : Settings) (now : Instant) (ids : TokenIds)
    (request : RefreshRequest) :
    DecidedBy (planRefresh s settings now ids request)
      (s.redemptionChecks settings now request) := by
  refine (decidedBy_loadCode s request.code).bind fun ⟨client, user⟩ hload => ?_
  rw [(Store.loadCode_eq_ok_iff.mp hload).1, Option.elim_some]
  refine (decidedBy_ensureEnabled client).bind fun _ _ => ?_
  refine (decidedBy_ensureRedeemable request.stored client settings now).bind fun _ _ => ?_
  refine (decidedBy_requestedScope request.scope request.stored.scope).bind
    fun requested hrequested => ?_
  rw [← eq_usedScope hrequested]
  refine (decidedBy_resolve requested .refresh settings).bind fun scope hscope => ?_
  rw [← refreshTypeFor_of_resolve hscope]
  exact decidedBy_planUserTokens s settings now ids request.code client user scope
    (some request.stored)

/-- A grant to a client in its own name is decided by its checks. -/
theorem decidedBy_clientCredentials (s : Store) (settings : Settings) (now : Instant) (jti : String)
    (client : Client) (scope : String) :
    DecidedBy (clientCredentials s settings now jti client scope)
      (s.clientChecks settings now client scope) := by
  refine (decidedBy_ensureEnabled client).bind fun _ _ => ⟨fun hallowed => ?_, fun hbarred => ?_⟩
  · refine ⟨fun hscope => ?_, fun hscope => ?_⟩
    · dsimp only
      rw [hallowed, hscope]
      refine (decidedBy_resolve scope .clientCredentials settings).bind fun resolved _ => ?_
      refine decidedBy_signing s settings now client fun key expiresAt => ?_
      exact (decidedBy_sign key _).bind fun token _ => .ok _
    · have hblank : isBlankText scope = true := by simpa using hscope
      dsimp only
      rw [hallowed, hblank]
      exact ⟨_, rfl, rfl, rfl⟩
  · have hoff : client.clientCredentialsEnabled = false := by simpa using hbarred
    dsimp only
    rw [hoff]
    exact ⟨_, rfl, rfl, rfl⟩

/-! ## Grants -/

namespace Store.Linked

variable {s : Store} {ids : TokenIds}

/-- An exchange is decided by its checks: what has been planned is carried out. -/
theorem decidedBy_exchangeCode (h : s.Linked) (settings : Settings) (now : Instant) (code : Code)
    (hne : ids.refresh ≠ "") (hfree : s.rows.has ids.refresh = false) :
    DecidedBy (exchangeCode s settings now ids code).1 (s.exchangeChecks settings now code) := by
  have hplan := decidedBy_planExchange s settings now ids code
  have hcarried : (exchangeCode s settings now ids code).1 =
      (planExchange s settings now ids code).map GrantPlan.response := by
    cases hp : planExchange s settings now ids code with
    | error e => simp only [exchangeCode, hp, Except.map]
    | ok plan =>
      rw [(h.exchangeCode_of_plan hne hfree hp).2]
      rfl
  rw [hcarried]
  exact hplan.map

/-- A refresh with a copy of a stored row is decided by its checks.

**Proof sketch.** The first three are those of the row, and the row has a successor exactly if some
row names it. After them the plan decides, since what has been planned is carried out. -/
theorem decidedBy_refresh (h : s.Linked) (settings : Settings) (now : Instant)
    {request : RefreshRequest} (hne : ids.refresh ≠ "") (hfree : s.rows.has ids.refresh = false)
    {r : RefreshToken} (hr : r ∈ s.rows.records) (hcopy : request.stored.MayBecome r) :
    DecidedBy (refresh s settings now ids request).1 (s.refreshChecks settings now request) := by
  refine ⟨fun ⟨hnamed, hjti⟩ => ⟨fun hlast => ?_, fun hreplaced => ?_⟩, fun hmismatch => ?_⟩
  · have hnone : s.successor? request.presented = none := h.successor?_eq_none hlast
    refine ⟨fun hlive => ?_, fun hrevoked => ?_⟩
    · have htip : s.verifyTip request.stored request.presented = (.ok (), s) := by
        simpa [verifyTip, hnamed, hjti, hnone] using hlive
      have hcarried : (refresh s settings now ids request).1 =
          (planRefresh s settings now ids request).map GrantPlan.response := by
        cases hp : planRefresh s settings now ids request with
        | error e => simp only [refresh, htip, hp, Except.map]
        | ok plan =>
          rw [(h.refresh_of_plan hne hfree hr hcopy hjti (hjti ▸ hnone) hlive hp).2]
          rfl
      rw [hcarried]
      exact (decidedBy_planRefresh s settings now ids request).map
    · have htip : s.verifyTip request.stored request.presented = (.error .tokenRevoked, s) := by
        simpa [verifyTip, hnamed, hjti, hnone] using hrevoked
      exact ⟨.tokenRevoked, by simp only [refresh, htip], rfl, rfl⟩
  · have hsome : (s.successor? request.presented).isSome = true := by
      rw [h.successor?_isSome_iff]
      exact ⟨hnamed, by simpa using hreplaced⟩
    rw [h.refresh_of_successor settings now ids hjti hsome]
    exact ⟨_, rfl, rfl, rfl⟩
  · have htip : s.verifyTip request.stored request.presented = (.error .tokenMismatch, s) := by
      rw [verifyTip, if_pos]
      simpa [Classical.or_iff_not_imp_left] using hmismatch
    exact ⟨.tokenMismatch, by simp only [refresh, htip], rfl, rfl⟩

end Store.Linked

/-! ## Runs -/

namespace Server.Sound

variable {w : Server} {settings : Settings} {ids : TokenIds}

/-- The answer of an exchange is decided by its checks. -/
lemma decidedBy_exchange {code : Code} (h : w.Sound)
    (hop : w.Admits (.exchange settings ids code)) :
    DecidedBy (w.step (.exchange settings ids code)).1
      (w.store.exchangeChecks settings w.now code) :=
  (h.linked.decidedBy_exchangeCode settings w.now code hop.1 hop.2).map

/-- The answer of a refresh is decided by its checks. -/
lemma decidedBy_refresh {request : RefreshRequest} (h : w.Sound)
    (hop : w.Admits (.refresh settings ids request)) :
    DecidedBy (w.step (.refresh settings ids request)).1
      (w.store.refreshChecks settings w.now request) := by
  obtain ⟨r, hr, hcopy⟩ := h.held _ hop.2
  exact (h.linked.decidedBy_refresh settings w.now hop.1.1 hop.1.2 hr hcopy).map

end Server.Sound

/-- In every run a refresh with a row as the store holds it hands out tokens exactly if all checks
of a refresh hold, and otherwise its error has the kind of the first check that does not. The check
of a session, that something is left of it, says under valid settings that neither of its windows
has closed. -/
theorem Run.refresh_decision {now : Instant} {events : List Event} {w : Server}
    (h : Run Server.Admits (.start now) events w) {settings : Settings} {ids : TokenIds}
    {request : RefreshRequest} (hop : w.AdmitsCurrent (.refresh settings ids request)) :
    ((∃ response, (w.step (.refresh settings ids request)).1 = .ok (.tokens response)) ↔
      ∀ c ∈ w.store.refreshChecks settings w.now request, c.holds) ∧
    (∀ before c after, w.store.refreshChecks settings w.now request = before ++ c :: after →
      (∀ d ∈ before, d.holds) → ¬ c.holds →
      ∃ e, (w.step (.refresh settings ids request)).1 = .error e ∧ e.kind = c.kind) ∧
    (settings.isValid = true → ∀ session : Session,
      (0 < session.remaining settings w.now ↔
        session.lastAccessed.secondsUntil w.now < settings.sessionIdleTimeout ∧
        session.started.secondsUntil w.now < settings.sessionMaxLifetime)) := by
  have hdecided := (h.sound (.start now)).decidedBy_refresh hop.admits
  refine ⟨?_, ?_, fun hvalid session => ?_⟩
  · rw [← hdecided.ok_iff]
    refine ⟨fun ⟨response, hok⟩ => ⟨_, hok⟩, fun ⟨reply, hok⟩ => ?_⟩
    -- a refresh answers with tokens only
    have hanswer : (w.step (.refresh settings ids request)).1 =
        (refresh w.store settings w.now ids request).1.map .tokens := rfl
    cases hrefresh : (refresh w.store settings w.now ids request).1 with
    | ok response => exact ⟨response, by rw [hanswer, hrefresh]; rfl⟩
    | error e =>
      rw [hanswer, hrefresh] at hok
      cases hok
  · intro before c after hchecks hbefore hc
    rw [hchecks] at hdecided
    obtain ⟨e, he, hkind, -⟩ := hdecided.refused hbefore hc
    exact ⟨e, he, hkind⟩
  · rw [Session.remaining_of_isValid hvalid, Session.secondsLeft_pos_iff]

/-- In the sample all checks of the refresh hold, since it succeeds; the same request with another
token is refused by the first of them. -/
theorem Sample.refresh_decision_exchanged :
    (∀ c ∈ exchanged.store.refreshChecks {} now request, c.holds) ∧
    ∃ e, (exchanged.step (.refresh {} secondIds { request with presented := "R2" })).1 =
      .error e ∧ e.kind = .invalidGrant := by
  obtain ⟨events, hrun⟩ := run_exchanged
  obtain ⟨response, hstep⟩ := step_refresh
  have hcurrent : exchanged.AdmitsCurrent (.refresh {} secondIds request) :=
    ⟨admits_refresh.1, by decide⟩
  have hother : exchanged.AdmitsCurrent
      (.refresh {} secondIds { request with presented := "R2" }) :=
    ⟨admits_refresh.1, by decide⟩
  refine ⟨(hrun.refresh_decision hcurrent).1.mp ⟨response, congrArg Prod.fst hstep⟩, ?_⟩
  exact (hrun.refresh_decision hother).2.1 [] _ _ rfl (by simp) (by decide)

end TokenAuthority
