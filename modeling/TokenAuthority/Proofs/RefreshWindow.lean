import Mathlib.Tactic.Lemma
import TokenAuthority.Proofs.OfflineCutoff
import TokenAuthority.Proofs.ScopeResolution

/-!
# The window of a refresh token

A refresh token can be redeemed until a second before its expiry, as long as nothing has changed
that a refresh looks at: whatever a grant has made sure of when it issued the token holds then too.
The scope is resolved to itself, and a second is left until the end of the session or the cutoff.

## Main definitions

* `TokenAuthority.Store.SameRecords` — two stores agree on what a refresh for a code reads.
* `TokenAuthority.Store.LifetimesInRange` — the instants at which new tokens end can be represented.

## Main results

* `TokenAuthority.exists_refreshLifetime_of_window` — there is a lifetime for the next token.
* `TokenAuthority.exists_planRefresh_of_window` — there is a plan for it, of the same scope.
* `TokenAuthority.Run.redeemable_throughout` — the token can be redeemed.
-/

set_option autoImplicit false

namespace TokenAuthority

namespace Store

/-- The stores agree on the client, the user and the session of a code, and on the signing key. -/
structure SameRecords (s t : Store) (code : Code) : Prop where
  client : t.client? code.clientId = s.client? code.clientId
  user : t.user? code.userId = s.user? code.userId
  session : t.session? code.sessionIdentifier = s.session? code.sessionIdentifier
  signingKey : t.signingKey = s.signingKey

/-- The instants at which access tokens and refresh tokens of a kind would end can be represented:
for an offline token the end of the window of the client, and otherwise that of the session. -/
structure LifetimesInRange (s : Store) (settings : Settings) (now : Instant) (code : Code)
    (client : Client) (type : RefreshTokenType) : Prop where
  access : (now.wholeSecond.addSeconds? (accessTokenLifetime client settings)).isSome = true
  offline : type = .offline →
    (now.addSeconds? (client.effectiveOfflineMaxLifetime settings)).isSome = true
  session : type = .refresh → ∀ session ∈ s.session? code.sessionIdentifier,
    (now.addSeconds? (session.remaining settings now)).isSome = true

variable {s t : Store} {code : Code} {client : Client} {user : User}

/-- The code can be loaded from the other store as well, for the same client. -/
lemma SameRecords.exists_loadCode (h : s.SameRecords t code)
    (hload : s.loadCode code = .ok (client, user)) :
    ∃ user', t.loadCode code = .ok (client, user') := by
  obtain ⟨hclient, stored, huser, -⟩ := loadCode_eq_ok_iff.mp hload
  exact ⟨t.loadRelations stored,
    loadCode_eq_ok_iff.mpr ⟨h.client.trans hclient, stored, h.user.trans huser, rfl⟩⟩

end Store

section Plans

variable {s t : Store} {settings : Settings} {now later : Instant} {code : Code} {client : Client}

/-- A row may be redeemed until a second before its expiry. -/
lemma ensureRedeemable_of_window {row : RefreshToken} (hsound : row.CutoffSound)
    (hwindow : later.utc + nanosPerSecond ≤ row.expiresAt.utc)
    (hidle : row.type = .offline →
      row.issuedAt.secondsUntil later ≤ client.effectiveOfflineIdleTimeout settings) :
    ensureRedeemable row client settings later = .ok () := by
  have hbefore : later.utc < row.expiresAt.utc := by
    rw [nanosPerSecond] at hwindow
    omega
  rw [ensureRedeemable_eq_ok_iff, RefreshToken.isExpiredAt_eq_false_iff]
  refine ⟨⟨Instant.le_eq_false_iff.mpr hbefore, fun cutoff hcutoff => ?_⟩, hidle⟩
  have hexpiry := Instant.le_iff.mp (hsound.expiry cutoff hcutoff)
  exact Instant.le_eq_false_iff.mpr (by omega)

/-- There is a lifetime for the next token: a row that was given a lifetime can be given one
again until a second before its expiry. An offline row keeps its cutoff.

**Proof sketch.** An offline row does not outlive its cutoff, so that a second is left until the
cutoff too. For a row of a session, the seconds that were left of the session when the row was
issued reach up to its expiry. -/
theorem exists_refreshLifetime_of_window (row : RefreshToken) {previous : Option RefreshToken}
    {first : RefreshLifetime} (hvalid : settings.isValid = true)
    (hfirst : refreshLifetime s settings now code client row.type previous = .ok first)
    (hexpires : row.expiresAt = first.expiresAt) (hsound : row.CutoffSound)
    (hsame : s.SameRecords t code)
    (hrange : t.LifetimesInRange settings later code client row.type)
    (hwindow : later.utc + nanosPerSecond ≤ row.expiresAt.utc) :
    ∃ lifetime, refreshLifetime t settings later code client row.type (some row) = .ok lifetime ∧
      (row.type = .offline → lifetime.maxLifetime = row.maxLifetime) := by
  cases htype : row.type with
  | offline =>
    obtain ⟨windowEnd, hend⟩ := Option.isSome_iff_exists.mp (hrange.offline htype)
    obtain ⟨cutoff, hcutoff⟩ := Option.isSome_iff_exists.mp (hsound.cutoff.mp htype)
    have hexpiry := Instant.le_iff.mp (hsound.expiry cutoff hcutoff)
    have hleft : 0 < later.secondsUntil (windowEnd.earlier (row.maxLifetime.getD windowEnd)) := by
      rw [secondsUntil_earlier_pos_iff hend, hcutoff]
      refine ⟨client.effectiveOfflineMaxLifetime_pos hvalid, fun c hc => ?_⟩
      cases hc
      rw [Instant.secondsUntil_pos_iff]
      omega
    refine ⟨_, offlineRefreshLifetime_eq_ok_iff.mpr ⟨windowEnd, hend, hleft, rfl⟩, fun _ => ?_⟩
    simp [hcutoff]
  | refresh =>
    rw [htype] at hfirst
    simp only [refreshLifetime] at hfirst
    split at hfirst
    · cases hfirst
    · rename_i session hsession
      obtain ⟨-, expiresAt, hend, rfl⟩ := sessionRefreshLifetime_eq_ok_iff.mp hfirst
      have hthere : t.session? code.sessionIdentifier = some session :=
        hsame.session.trans hsession
      have hopen : 0 < session.remaining settings later :=
        Session.remaining_pos hvalid hend (by rwa [hexpires] at hwindow)
      obtain ⟨expiresAt', hend'⟩ := Option.isSome_iff_exists.mp (hrange.session htype session hthere)
      refine ⟨⟨session.remaining settings later, expiresAt', none⟩, ?_, by simp⟩
      simp only [refreshLifetime, hthere]
      exact sessionRefreshLifetime_eq_ok_iff.mpr ⟨hopen, expiresAt', hend', rfl⟩

/-- There is a plan for the next token: the row of a plan can be planned to be replaced until a
second before its expiry, by one of the same kind, with the same scope and the same cutoff. -/
theorem exists_planRefresh_of_window (ids' : TokenIds) (id : Int) (presented : String)
    {ids : TokenIds} {user : User} {requested : String} {flow : GrantFlow} {scope : ResolvedScope}
    {previous : Option RefreshToken} {plan : GrantPlan} {blank : String}
    (hvalid : settings.isValid = true)
    (hload : s.loadCode code = .ok (client, user)) (henabled : client.enabled = true)
    (hflow : flow ≠ .clientCredentials)
    (hscope : ResolvedScope.resolve requested flow settings = .ok scope)
    (hplan : planUserTokens s settings now ids code client user scope previous = .ok plan)
    (hsame : s.SameRecords t code)
    (hrange : t.LifetimesInRange settings later code client plan.row.type)
    (hwindow : later.utc + nanosPerSecond ≤ plan.row.expiresAt.utc)
    (hidle : plan.row.type = .offline →
      plan.row.issuedAt.secondsUntil later ≤ client.effectiveOfflineIdleTimeout settings)
    (hblank : isBlankText blank = true) :
    ∃ next, planRefresh t settings later ids'
        ⟨code, { plan.row with id := id }, presented, blank⟩ = .ok next ∧
      next.response.scope = plan.row.scope ∧ next.row.type = plan.row.type ∧
      (plan.row.type = .offline → next.row.maxLifetime = plan.row.maxLifetime) := by
  obtain ⟨_, pair, key, _, -, hpair, hkey, -, hsigned, -⟩ := planUserTokens_claims hplan
  obtain ⟨-, htype, htext, lifetime, hlifetime, hexpires, -⟩ := row_of_planUserTokens hplan
  have hsound := (cutoffSound_of_planUserTokens hscope hplan).withId id
  -- the scope of the row is resolved to itself
  have hagain : ResolvedScope.resolve scope.text .refresh settings = .ok ⟨.refresh, scope.tokens⟩ :=
    ResolvedScope.resolve_text hscope (iff_of_false hflow (by decide))
  have hused : requestedScope blank plan.row.scope = .ok scope.text := by
    rw [requestedScope, if_pos hblank, htext]
  obtain ⟨user', hload'⟩ := hsame.exists_loadCode hload
  obtain ⟨next, hnext, hcutoff⟩ := exists_refreshLifetime_of_window { plan.row with id := id }
    hvalid hlifetime hexpires hsound hsame hrange hwindow
  have hsettled : refreshLifetime t settings later code client
      (refreshTypeFor ⟨.refresh, scope.tokens⟩) (some { plan.row with id := id }) = .ok next :=
    htype ▸ hnext
  obtain ⟨expiresAt', hexpiry⟩ := Option.isSome_iff_exists.mp hrange.access
  obtain ⟨response, hplan'⟩ := exists_planUserTokens ids' code user' hsettled
    (hsame.signingKey.trans hpair) hkey (SigningKey.canSign_of_sign hsigned.access)
    (expiryAfter_eq_ok_iff.mpr hexpiry)
  refine ⟨_, (planRefresh_of_checks hload' henabled
    (ensureRedeemable_of_window hsound hwindow hidle) hused hagain).trans hplan', ?_, ?_, ?_⟩
  · exact (planUserTokens_ok hplan').2.1.trans htext.symm
  · rw [htype]
    rfl
  · exact hcutoff

end Plans

namespace Run

variable {start : Instant} {u w : Server} {events events' : List Event}

/-- The row of a grant, as long as it is not revoked, is still as it was planned. -/
lemma eq_of_grants {op : Operation} {plan : GrantPlan} (hu : u.Sound) (hop : u.Admits op)
    (hgrants : u.Grants op plan) (h : Run Server.Admits (u.step op).2 events w) {r : RefreshToken}
    (hr : r ∈ w.store.rows.records) (hjti : r.jti = plan.row.jti) (hlive : r.revoked = false) :
    ∃ id, r = { plan.row with id := id } := by
  obtain ⟨id, hrow⟩ := hgrants.exists_row
  obtain ⟨r', hr', hbecome⟩ := (h.growsTo (hu.step hop)).exists_row hrow
  have hsame : r' = r :=
    (h.sound (hu.step hop)).linked.eq_of_jti hr' hr (hbecome.jti.trans hjti.symm)
  rcases hbecome with rfl | rfl
  · exact ⟨id, hsame.symm⟩
  · rw [← hsame] at hlive
    cases hlive

/-- A refresh token stays redeemable throughout its window. Let an exchange or a refresh have
issued a token, and let its row have been neither replaced nor revoked since. Then a refresh of it
with a blank scope succeeds until a second before its expiry, if the client, the user, the session,
the signing key and the settings are the same, an offline token has not gone unused for too long,
and the new expiries can be represented. It grants the scope of the row, and the new row has the
same kind and the same cutoff. -/
theorem redeemable_throughout (ids' : TokenIds) {settings : Settings} {ids : TokenIds} {code : Code}
    {client : Client} {op : Operation} {response : TokenResponse} {r : RefreshToken}
    {blank : String} (h : Run Server.Admits (.start start) events u)
    (hvalid : settings.isValid = true) (hfor : op.GrantsFor settings ids code)
    (hop : u.Admits op) (hok : (u.step op).1 = .ok (.tokens response))
    (h' : Run Server.Admits (u.step op).2 events' w)
    (hsame : u.store.SameRecords w.store code)
    (hclient : u.store.client? code.clientId = some client)
    (hr : r ∈ w.store.rows.records) (hjti : r.jti = ids.refresh) (hlive : r.revoked = false)
    (hlast : ∀ r' ∈ w.store.rows.records, r'.previousJti ≠ r.jti)
    (hwindow : w.now.utc + nanosPerSecond ≤ r.expiresAt.utc)
    (hidle : r.type = .offline →
      r.issuedAt.secondsUntil w.now ≤ client.effectiveOfflineIdleTimeout settings)
    (hrange : w.store.LifetimesInRange settings w.now code client r.type)
    (hblank : isBlankText blank = true) (hfresh : w.Fresh ids'.refresh) :
    ∃ response' row', (w.step (.refresh settings ids' ⟨code, r, r.jti, blank⟩)).1 =
        .ok (.tokens response') ∧
      row' ∈ (w.step (.refresh settings ids' ⟨code, r, r.jti, blank⟩)).2.store.rows.records ∧
      row'.jti = ids'.refresh ∧ response.scope = r.scope ∧ response'.scope = r.scope ∧
      row'.type = r.type ∧ (r.type = .offline → row'.maxLifetime = r.maxLifetime) := by
  have hu := h.sound (.start start)
  have hw := h'.sound (hu.step hop)
  obtain ⟨plan, hgrants, rfl⟩ := hu.exists_grants hop hfor hok
  obtain ⟨client', user, requested, flow, scope, previous, hload, henabled, hflow, hscope, hplan⟩ :=
    hgrants.exists_planUserTokens hfor
  obtain rfl : client' = client :=
    Option.some.inj ((Store.loadCode_eq_ok_iff.mp hload).1.symm.trans hclient)
  obtain ⟨hplanJti, -, htext, -⟩ := row_of_planUserTokens hplan
  obtain ⟨id, rfl⟩ := eq_of_grants hu hop hgrants h' hr (hjti.trans hplanJti.symm) hlive
  obtain ⟨next, hnext, hnextScope, hnextType, hnextCutoff⟩ :=
    exists_planRefresh_of_window ids' id plan.row.jti hvalid hload henabled hflow hscope hplan
      hsame hrange hwindow hidle hblank
  obtain ⟨-, hrefresh⟩ := hw.linked.refresh_of_plan hfresh.1 hfresh.2 hr (.refl _) rfl
    (hw.linked.successor?_eq_none hlast) hlive hnext
  have hstep := Server.step_of_run (Operation.run_refresh hrefresh)
  refine ⟨next.response, { next.row with id := (w.store.revoke plan.row.jti).nextId }, ?_, ?_,
    (row_of_planRefresh hnext).1, ?_, hnextScope, hnextType, hnextCutoff⟩
  · rw [hstep]
    rfl
  · rw [hstep, Store.mem_withRow]
    exact .inr rfl
  · exact (planUserTokens_ok hplan).2.1.trans htext.symm

end Run

/-- In the sample the token of the exchange can still be redeemed after thirty days, which is just
as long as it may go unused. -/
theorem Sample.redeemable_after_thirty_days :
    ∃ (w : Server) (response : TokenResponse) (row : RefreshToken),
    w.now = .ofUnixSeconds (1717243200 + 2592000) ∧ w.store = exchanged.store ∧
    (w.step (.refresh {} secondIds ⟨code, firstRow, firstRow.jti, ""⟩)).1 = .ok (.tokens response) ∧
    row ∈ (w.step (.refresh {} secondIds ⟨code, firstRow, firstRow.jti, ""⟩)).2.store.rows.records ∧
    row.jti = "R2" ∧ response.scope = firstRow.scope ∧ row.type = .offline ∧
    row.maxLifetime = some (.ofUnixSeconds 1722427200) := by
  obtain ⟨events, hrun⟩ := run_server
  obtain ⟨response, hstep⟩ := step_exchange
  have hafter : (server.step (.exchange {} firstIds code)).2 = exchanged := by rw [hstep]
  obtain ⟨events', hlater⟩ : ∃ events', Run Server.Admits
      (server.step (.exchange {} firstIds code)).2 events'
      ⟨exchanged.store, .ofUnixSeconds (1717243200 + 2592000), exchanged.copies⟩ := by
    rw [hafter]
    exact ⟨_, Run.nil.snoc (.setClock _) trivial rfl⟩
  have hvalid : ({} : Settings).isValid = true := by decide +kernel
  have hrange : exchanged.store.LifetimesInRange {} (.ofUnixSeconds (1717243200 + 2592000)) code
      client firstRow.type :=
    ⟨by decide, fun _ => by decide, fun htype => by cases htype⟩
  obtain ⟨response', row, hok, hrow, hjti, -, hscope, htype, hcutoff⟩ :=
    hrun.redeemable_throughout secondIds (r := firstRow) hvalid (.inl rfl) admits_exchange
      (congrArg Prod.fst hstep) hlater ⟨rfl, rfl, rfl, rfl⟩ rfl (by decide) rfl rfl (by decide)
      (by decide) (fun _ => by decide +kernel) hrange (show isBlankText "" = true from rfl)
      ⟨by decide, rfl⟩
  exact ⟨⟨exchanged.store, .ofUnixSeconds (1717243200 + 2592000), exchanged.copies⟩, response', row,
    rfl, rfl, hok, hrow, hjti, hscope, htype, hcutoff rfl⟩

end TokenAuthority
