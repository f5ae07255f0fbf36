import Mathlib.Tactic.Lemma
import TokenAuthority.Proofs.GrantSuccess
import TokenAuthority.Proofs.Lifetimes
import TokenAuthority.Proofs.OfflineCutoff
import TokenAuthority.Proofs.RowOrigin
import TokenAuthority.Proofs.ScopeWords

/-!
# Response, tokens and row agree

The response of a grant, the claims of its tokens and the row of its refresh token are filled from
the same few values, some of them cut to whole seconds and some not. They tell the same: where
seconds are compared with instants, the seconds that a response advertises are the whole seconds
until the expiry of the row.

## Main definitions

* `TokenAuthority.GrantClaims.Agree` — claims, response and row tell the same.
* `TokenAuthority.TokenResponse.AdvertisesLifetime` — how long a response says that its refresh token
  lives.

## Main results

* `TokenAuthority.expiresIn_of_refreshLifetime`, `TokenAuthority.expiresAt_of_refreshLifetime` — the
  lifetime of a refresh token in seconds and as an instant.
* `TokenAuthority.Operation.GrantsFor.agreement` — every grant that succeeds.
-/

set_option autoImplicit false

namespace TokenAuthority

/-! ## Grants that succeed -/

/-- A row that was stored is found under its token, which had no row before. -/
lemma Store.of_createRow {s t : Store} {row stored : RefreshToken}
    (h : s.createRow row = (.ok stored, t)) :
    s.row? row.jti = none ∧ t.row? row.jti = some { row with id := s.nextId } := by
  rw [createRow] at h
  split at h
  · cases h
  · dsimp only at h
    split at h
    · cases h
    · rename_i rows hinsert
      cases h
      exact Table.of_insertNew? hinsert

/-- A plan that was carried out has handed out its response and stored its row. -/
lemma GrantPlan.of_commit {plan : GrantPlan} {s t : Store} {replaced : Option RefreshToken}
    {response : TokenResponse} (h : plan.commit s replaced = (.ok response, t)) :
    plan.response = response ∧ s.row? plan.row.jti = none ∧
      ∃ row, t.row? plan.row.jti = some row ∧
        ({ plan.row with id := s.nextId } : RefreshToken).MayBecome row := by
  rw [commit] at h
  split at h
  · cases h
  · rename_i stored u hcreate
    obtain ⟨hnone, hrow⟩ := Store.of_createRow hcreate
    cases replaced with
    | none =>
      cases h
      exact ⟨rfl, hnone, _, hrow, .refl _⟩
    | some r =>
      cases h
      have hkey : ∀ x : RefreshToken, ({ x with revoked := true } : RefreshToken).jti = x.jti :=
        fun _ => rfl
      have hfound : (u.revoke r.jti).row? plan.row.jti = _ :=
        (Table.find?_modify u.rows hkey r.jti plan.row.jti).trans
          (congrArg (Option.map _) hrow)
      refine ⟨rfl, hnone, _, hfound, ?_⟩
      dsimp only
      split
      · exact .inr rfl
      · exact .refl _

section Plans

variable {s t : Store} {settings : Settings} {now : Instant} {ids : TokenIds} {code : Code}
  {response : TokenResponse}

/-- What an exchange that has handed out tokens rests on, whatever the store. -/
lemma of_exchangeCode (h : exchangeCode s settings now ids code = (.ok response, t)) :
    ∃ plan, planExchange s settings now ids code = .ok plan ∧
      plan.commit s none = (.ok response, t) := by
  rw [exchangeCode] at h
  split at h
  · cases h
  · rename_i plan hplan
    exact ⟨plan, hplan, h⟩

/-- What a refresh that has handed out tokens rests on, whatever the store. -/
lemma of_refresh {request : RefreshRequest}
    (h : refresh s settings now ids request = (.ok response, t)) :
    request.presented ≠ "" ∧ request.stored.jti = request.presented ∧
      ∃ plan, planRefresh s settings now ids request = .ok plan ∧
        plan.commit s (some request.stored) = (.ok response, t) := by
  rw [refresh, Store.verifyTip] at h
  by_cases hmatch : (request.presented.isEmpty || request.stored.jti != request.presented) = true
  · rw [if_pos hmatch] at h
    cases h
  · have hpresented : request.presented ≠ "" ∧ request.stored.jti = request.presented := by
      simpa using hmatch
    refine ⟨hpresented.1, hpresented.2, ?_⟩
    rw [if_neg hmatch] at h
    split_ifs at h
    · cases h
    · cases h
    · dsimp only at h
      split at h
      · cases h
      · rename_i plan hplan
        exact ⟨plan, hplan, h⟩

namespace Operation

/-- An exchange that has answered with tokens has handed them out. -/
lemma exchangeCode_of_run
    (h : (exchange settings ids code).run s now = (.ok (.tokens response), t)) :
    exchangeCode s settings now ids code = (.ok response, t) := by
  cases hanswer : exchangeCode s settings now ids code with
  | mk answer u =>
    rw [run_exchange hanswer] at h
    cases answer <;> cases h
    rfl

/-- A refresh that has answered with tokens has handed them out. -/
lemma refresh_of_run {request : RefreshRequest}
    (h : (refresh settings ids request).run s now = (.ok (.tokens response), t)) :
    TokenAuthority.refresh s settings now ids request = (.ok response, t) := by
  cases hanswer : TokenAuthority.refresh s settings now ids request with
  | mk answer u =>
    rw [run_refresh hanswer] at h
    cases answer <;> cases h
    rfl

/-- A grant of client credentials that has answered with tokens has handed them out. -/
lemma clientCredentials_of_run {jti : String} {client : Client} {scope : String}
    (h : (clientCredentials settings jti client scope).run s now = (.ok (.tokens response), t)) :
    TokenAuthority.clientCredentials s settings now jti client scope = .ok response := by
  rw [run] at h
  cases hanswer : TokenAuthority.clientCredentials s settings now jti client scope with
  | error e =>
    rw [hanswer] at h
    cases h
  | ok answer =>
    rw [hanswer] at h
    cases h
    rfl

/-- What a grant that has handed out tokens rests on, whatever the store: a client and a user, a scope
that was resolved, and a plan that was carried out, whose row is the first of a chain or names the
one before it. -/
theorem GrantsFor.exists_commit {op : Operation} (hfor : op.GrantsFor settings ids code)
    (hrun : op.run s now = (.ok (.tokens response), t)) :
    ∃ client user requested flow scope previous plan,
      s.loadCode code = .ok (client, user) ∧
      ResolvedScope.resolve requested flow settings = .ok scope ∧
      planUserTokens s settings now ids code client user scope previous = .ok plan ∧
      plan.commit s previous = (.ok response, t) ∧
      (previous = none ∨ plan.row.previousJti ≠ "") := by
  rcases hfor with rfl | ⟨request, rfl, rfl⟩
  · obtain ⟨plan, hplan, hcommit⟩ := of_exchangeCode (exchangeCode_of_run hrun)
    obtain ⟨client, user, scope, hload, -, hscope, huser⟩ := planExchange_ok hplan
    exact ⟨client, user, _, _, scope, none, plan, hload, hscope, huser, hcommit, .inl rfl⟩
  · obtain ⟨hnamed, hjti, plan, hplan, hcommit⟩ := of_refresh (refresh_of_run hrun)
    obtain ⟨client, user, requested, scope, hload, -, -, -, hscope, huser⟩ := planRefresh_ok hplan
    have hprevious : plan.row.previousJti = request.presented :=
      (row_of_planRefresh hplan).2.2.1.trans hjti
    exact ⟨client, user, _, _, scope, some request.stored, plan, hload, hscope, huser, hcommit,
      .inr (hprevious ▸ hnamed)⟩

end Operation

end Plans

/-! ## Lifetimes in seconds and as instants -/

/-- The seconds of the epoch of a whole second. -/
@[simp] lemma Instant.unixSeconds_wholeSecond (t : Instant) :
    t.wholeSecond.unixSeconds = t.unixSeconds := by
  simp only [wholeSecond, ofUnixSeconds, unixSeconds, utc, nanosPerSecond]
  omega

/-- The seconds of the epoch of the instant some seconds later. -/
lemma Instant.unixSeconds_of_addSeconds? {t u : Instant} {n : Int}
    (h : t.addSeconds? n = some u) : u.unixSeconds = t.unixSeconds + n := by
  have hutc := utc_of_addSeconds? h
  simp only [unixSeconds, nanosPerSecond] at *
  omega

/-- The whole seconds until an instant that lies a number of whole seconds later. -/
lemma Instant.secondsUntil_of_utc {t u : Instant} {n : Int}
    (h : u.utc = t.utc + n * nanosPerSecond) : t.secondsUntil u = n := by
  have hleft : t.utc + n * nanosPerSecond - t.utc = n * nanosPerSecond := by omega
  rw [secondsUntil, nanosUntil, h, hleft]
  exact Int.mul_tdiv_cancel n (by decide)

section Lifetimes

variable {s : Store} {settings : Settings} {now : Instant} {code : Code} {client : Client}
  {type : RefreshTokenType} {previous : Option RefreshToken} {lifetime : RefreshLifetime}

/-- A refresh token expires as many seconds from now as its lifetime has, or else at the cutoff of
the row that it replaces. -/
theorem expiresAt_of_refreshLifetime
    (h : refreshLifetime s settings now code client type previous = .ok lifetime) :
    lifetime.expiresAt.utc = now.utc + lifetime.expiresIn * nanosPerSecond ∨
      (lifetime.maxLifetime = some lifetime.expiresAt ∧ previous ≠ none) := by
  cases type with
  | refresh =>
    rw [refreshLifetime] at h
    split at h
    · cases h
    · obtain ⟨-, expiresAt, hexpiry, rfl⟩ := sessionRefreshLifetime_eq_ok_iff.mp h
      exact .inl (Instant.utc_of_addSeconds? hexpiry)
  | offline =>
    obtain ⟨windowEnd, hwindow, -, rfl⟩ := offlineRefreshLifetime_eq_ok_iff.mp h
    have hend := Instant.utc_of_addSeconds? hwindow
    dsimp only
    rw [Instant.earlier]
    split
    · refine .inr ⟨rfl, ?_⟩
      rintro rfl
      rename_i hbefore
      exact absurd hbefore (Int.lt_irrefl _)
    · rw [Instant.secondsUntil_of_utc hend]
      exact .inl hend

/-- The seconds of the lifetime are those until the expiry, and there are some. -/
theorem expiresIn_of_refreshLifetime
    (h : refreshLifetime s settings now code client type previous = .ok lifetime) :
    lifetime.expiresIn = now.secondsUntil lifetime.expiresAt ∧ 0 < lifetime.expiresIn := by
  cases type with
  | refresh =>
    rw [refreshLifetime] at h
    split at h
    · cases h
    · obtain ⟨hleft, expiresAt, hexpiry, rfl⟩ := sessionRefreshLifetime_eq_ok_iff.mp h
      exact ⟨(Instant.secondsUntil_of_utc (Instant.utc_of_addSeconds? hexpiry)).symm, hleft⟩
  | offline =>
    obtain ⟨windowEnd, -, hleft, rfl⟩ := offlineRefreshLifetime_eq_ok_iff.mp h
    exact ⟨rfl, hleft⟩

/-- An offline token has a cutoff, and a token of a session has none. -/
lemma maxLifetime_isSome_of_refreshLifetime
    (h : refreshLifetime s settings now code client type previous = .ok lifetime) :
    lifetime.maxLifetime.isSome = true ↔ type = .offline := by
  cases type with
  | refresh => simp [maxLifetime_of_refreshLifetime h]
  | offline =>
    obtain ⟨_, -, hcutoff, -⟩ := cutoff_of_refreshLifetime h
    simp [hcutoff]

end Lifetimes

/-! ## Agreement -/

/-- The row tells what was issued. -/
structure RefreshToken.Tells (row : RefreshToken) (issued : IssuedRefresh) : Prop where
  jti : row.jti = issued.jti
  type : row.type = issued.type
  scope : row.scope = issued.scope
  sessionIdentifier : row.sessionIdentifier = issued.sessionIdentifier
  issuedAt : row.issuedAt = issued.issuedAt
  expiresAt : row.expiresAt = issued.lifetime.expiresAt
  maxLifetime : row.maxLifetime = issued.lifetime.maxLifetime

/-- The row of a refresh token tells what was issued, under whatever number, and also once it has
been revoked. -/
lemma IssuedRefresh.tells {issued : IssuedRefresh} {code : Code} {previous : Option RefreshToken}
    {id : Int} {row : RefreshToken}
    (h : ({ issued.row code previous with id := id } : RefreshToken).MayBecome row) :
    row.Tells issued := by
  cases previous <;> rcases h with rfl | rfl <;> exact ⟨rfl, rfl, rfl, rfl, rfl, rfl, rfl⟩

namespace GrantClaims

/-- What the tokens have in common. -/
def registered (claims : GrantClaims) : List RegisteredClaims :=
  claims.access.registered :: claims.refresh.registered ::
    (claims.identity.map IdClaims.registered).toList

/-- The response has an ID token exactly if there are claims for one. -/
lemma SignedInto.isSome_idToken {claims : GrantClaims} {key : SigningKey}
    {response : TokenResponse} (h : claims.SignedInto key response) :
    response.idToken.isSome = claims.identity.isSome := by
  have hrel := h.identity
  revert hrel
  cases claims.identity <;> cases response.idToken <;> simp

/-- The response, the claims of its tokens and the row of its refresh token tell the same. -/
structure Agree (claims : GrantClaims) (response : TokenResponse) (row : RefreshToken) : Prop where
  scope : response.scope = row.scope
  accessScope : claims.access.scope = row.scope
  refreshScope : claims.refresh.scope = row.scope
  jti : claims.refresh.registered.jti = row.jti
  typ : claims.refresh.typ.text = row.type.text
  sid : claims.refresh.sid = row.sessionIdentifier
  iat : row.issuedAt = .ofUnixSeconds claims.refresh.registered.iat
  exp : claims.refresh.registered.exp = row.expiresAt.unixSeconds
  cutoff : claims.refresh.offlineMaxLifetime = row.maxLifetime.map Instant.unixSeconds
  openid : response.idToken.isSome = true ↔ OidcScope.openid.text ∈ words response.scope
  accessLifetime :
    claims.access.registered.exp - claims.access.registered.iat = response.expiresIn
  identityLifetime :
    ∀ c ∈ claims.identity, c.registered.exp - c.registered.iat = response.expiresIn
  shared : ∀ c ∈ claims.registered, c.iss = claims.access.registered.iss ∧
    c.sub = claims.access.registered.sub ∧ c.iat = claims.access.registered.iat
  distinct : (claims.registered.map RegisteredClaims.jti).Nodup

end GrantClaims

/-- How long the response says that its refresh token lives, counted from an instant: at least a
second, and not beyond the expiry of the row. Where the claims count from the begun second, they may
count one second more, since the fraction of the second is not lost on both sides of the difference;
they count as many if the fraction of the expiry is not the smaller one, which is so on a clock of
whole seconds, for the first row of a chain, and for a row that does not end at the cutoff. -/
structure TokenResponse.AdvertisesLifetime (response : TokenResponse) (now : Instant)
    (claims : RegisteredClaims) (row : RefreshToken) : Prop where
  pos : 1 ≤ response.refreshExpiresIn
  within : response.refreshExpiresIn * nanosPerSecond ≤ now.nanosUntil row.expiresAt
  nonneg : 0 ≤ claims.exp - claims.iat - response.refreshExpiresIn
  drift : claims.exp - claims.iat - response.refreshExpiresIn ≤ 1
  exact_iff : claims.exp - claims.iat - response.refreshExpiresIn = 0 ↔
    now.utc % nanosPerSecond ≤ row.expiresAt.utc % nanosPerSecond
  exact_of_wholeSecond : now.utc % nanosPerSecond = 0 →
    claims.exp - claims.iat - response.refreshExpiresIn = 0
  exact_of_first : row.previousJti = "" →
    claims.exp - claims.iat - response.refreshExpiresIn = 0
  exact_of_uncut : (∀ cutoff ∈ row.maxLifetime, row.expiresAt.utc ≠ cutoff.utc) →
    claims.exp - claims.iat - response.refreshExpiresIn = 0

/-- An ID token is built exactly if `openid` is granted. -/
lemma ClaimsBuilder.idToken?_isSome {b : ClaimsBuilder} {ctx : GrantContext} {expiresAt : Instant}
    {jti : String} : (b.idToken? ctx expiresAt jti).isSome = ctx.scope.has .openid := by
  rw [idToken?]
  cases ctx.scope.has .openid <;> rfl

/-- What the tokens of a grant have in common with each other. -/
lemma GrantClaims.registered_ofGrant (settings : Settings) (now : Instant) (ids : TokenIds)
    (ctx : GrantContext) (lifetime : RefreshLifetime) (expiresAt : Instant) :
    (ofGrant settings now ids ctx lifetime expiresAt).registered =
      let claims := (ClaimsBuilder.ofInstant settings now).registered ctx.user.subject.text
      claims ctx.scope.audience? expiresAt ids.access ::
        claims (some (.single settings.issuer)) lifetime.expiresAt ids.refresh ::
        if ctx.scope.has .openid then
          [claims (some (.single ctx.client.identifier)) expiresAt ids.identity]
        else [] := by
  simp only [registered, ofGrant, ClaimsBuilder.idToken?]
  split <;> rfl

section Agreement

variable {s : Store} {settings : Settings} {now : Instant} {ids : TokenIds} {code : Code}
  {client : Client} {user : User} {scope : ResolvedScope} {type : RefreshTokenType}
  {previous : Option RefreshToken} {lifetime : RefreshLifetime} {row : RefreshToken}
  {response : TokenResponse} {expiresAt : Instant}

/-- A response that tells the seconds of the lifetime that was settled advertises it.

**Proof sketch.** The claims have the difference of two quotients where the response has the quotient
of the difference. Where the row does not end at an older cutoff, its expiry lies a number of whole
seconds behind the instant, and the fractions are the same. -/
theorem advertisesLifetime
    (h : refreshLifetime s settings now code client type previous = .ok lifetime)
    (hresponse : response.refreshExpiresIn = lifetime.expiresIn)
    (hrow : row.Tells (issuedRefresh now ids code scope lifetime))
    (hprevious : previous = none ∨ row.previousJti ≠ "") {claims : RegisteredClaims}
    (hexp : claims.exp = row.expiresAt.unixSeconds) (hiat : claims.iat = now.unixSeconds) :
    response.AdvertisesLifetime now claims row := by
  obtain ⟨hseconds, hpos⟩ := expiresIn_of_refreshLifetime h
  have hexpires : row.expiresAt = lifetime.expiresAt := hrow.expiresAt
  have hlater : now.utc ≤ row.expiresAt.utc := by
    rw [hseconds, Instant.secondsUntil_pos_iff, nanosPerSecond] at hpos
    rw [hexpires]
    omega
  have hquotient : response.refreshExpiresIn =
      (row.expiresAt.utc - now.utc) / nanosPerSecond := by
    rw [hresponse, hseconds, ← hexpires, Instant.secondsUntil_of_le hlater]
  have hsame (hcut : row.expiresAt.utc = now.utc + lifetime.expiresIn * nanosPerSecond) :
      claims.exp - claims.iat - response.refreshExpiresIn = 0 := by
    rw [hexp, hiat, hresponse, Instant.unixSeconds, Instant.unixSeconds, hcut, nanosPerSecond]
    omega
  have hcase := hexpires ▸ expiresAt_of_refreshLifetime h
  have hdrift : claims.exp - claims.iat - response.refreshExpiresIn =
      row.expiresAt.utc / nanosPerSecond - now.utc / nanosPerSecond -
        (row.expiresAt.utc - now.utc) / nanosPerSecond := by
    rw [hexp, hiat, hquotient, Instant.unixSeconds, Instant.unixSeconds]
  have hwhole : claims.exp - claims.iat - response.refreshExpiresIn = 0 ↔
      now.utc % nanosPerSecond ≤ row.expiresAt.utc % nanosPerSecond := by
    rw [hdrift, nanosPerSecond]
    omega
  constructor
  case pos => omega
  case within =>
    rw [hquotient, Instant.nanosUntil, nanosPerSecond]
    omega
  case nonneg =>
    rw [hdrift, nanosPerSecond]
    omega
  case drift =>
    rw [hdrift, nanosPerSecond]
    omega
  case exact_iff => exact hwhole
  case exact_of_wholeSecond =>
    intro hzero
    rw [hwhole, hzero, nanosPerSecond]
    omega
  case exact_of_first =>
    intro hfirst
    exact hsame (hcase.resolve_right fun hcut => hcut.2 (hprevious.resolve_right (· hfirst)))
  case exact_of_uncut =>
    intro huncut
    exact hsame (hcase.resolve_right fun hcut => huncut _ (hrow.maxLifetime.trans hcut.1) rfl)

/-- The claims of a grant agree with a response and a row that were filled from the same values. -/
theorem agree_ofGrant {requested : String} {flow : GrantFlow}
    (hscope : ResolvedScope.resolve requested flow settings = .ok scope)
    (hlifetime : refreshLifetime s settings now code client (refreshTypeFor scope) previous =
      .ok lifetime)
    (hexpiry : expiryAfter now.wholeSecond (accessTokenLifetime client settings) = .ok expiresAt)
    (hids : [ids.access, ids.identity, ids.refresh].Nodup) {key : SigningKey}
    (hsigned : (GrantClaims.ofGrant settings now ids (grantContext code client user scope) lifetime
      expiresAt).SignedInto key response)
    (htext : response.scope = scope.text)
    (hseconds : response.expiresIn = accessTokenLifetime client settings)
    (hrow : row.Tells (issuedRefresh now ids code scope lifetime)) :
    (GrantClaims.ofGrant settings now ids (grantContext code client user scope) lifetime
      expiresAt).Agree response row := by
  have hend : expiresAt.unixSeconds = now.unixSeconds + response.expiresIn := by
    rw [hseconds, Instant.unixSeconds_of_addSeconds? (expiryAfter_eq_ok_iff.mp hexpiry),
      Instant.unixSeconds_wholeSecond]
  constructor
  case scope => rw [htext, hrow.scope]; rfl
  case accessScope => exact hrow.scope.symm
  case refreshScope => exact hrow.scope.symm
  case jti => exact hrow.jti.symm
  case typ =>
    rw [hrow.type]
    simp only [GrantClaims.ofGrant, grantContext, ClaimsBuilder.refreshToken, issuedRefresh]
    cases refreshTypeFor scope <;> rfl
  case sid => exact hrow.sessionIdentifier.symm
  case iat =>
    rw [hrow.issuedAt]
    exact congrArg Instant.ofUnixSeconds now.unixSeconds_wholeSecond.symm
  case exp => rw [hrow.expiresAt]; rfl
  case cutoff =>
    have hkind := maxLifetime_isSome_of_refreshLifetime hlifetime
    rw [hrow.maxLifetime]
    simp only [GrantClaims.ofGrant, grantContext, ClaimsBuilder.refreshToken, issuedRefresh]
    cases htype : refreshTypeFor scope with
    | offline => rfl
    | refresh =>
      have hnone : lifetime.maxLifetime = none := by simpa [htype] using hkind
      rw [hnone]
      rfl
  case openid =>
    rw [htext, ← ResolvedScope.has_iff_mem_words_text hscope, hsigned.isSome_idToken]
    exact iff_of_eq (congrArg (· = true) ClaimsBuilder.idToken?_isSome)
  case accessLifetime =>
    change expiresAt.unixSeconds - now.wholeSecond.unixSeconds = _
    rw [hend, Instant.unixSeconds_wholeSecond]
    omega
  case identityLifetime =>
    intro c hc
    change c ∈ (ClaimsBuilder.ofInstant settings now).idToken? _ _ _ at hc
    rw [ClaimsBuilder.idToken?] at hc
    split at hc <;> cases hc
    change expiresAt.unixSeconds - now.wholeSecond.unixSeconds = _
    rw [hend, Instant.unixSeconds_wholeSecond]
    omega
  case shared =>
    intro c hc
    rw [GrantClaims.registered_ofGrant] at hc
    simp only [List.mem_cons, List.mem_ite_nil_right, List.not_mem_nil, or_false] at hc
    rcases hc with rfl | rfl | ⟨-, rfl⟩ <;> exact ⟨rfl, rfl, rfl⟩
  case distinct =>
    have hpair : [ids.access, ids.refresh, ids.identity].Nodup :=
      (List.Perm.swap _ _ []).cons _ |>.nodup_iff.mp hids
    rw [GrantClaims.registered_ofGrant]
    split
    · exact hpair
    · exact hpair.sublist (by simp [ClaimsBuilder.registered])

end Agreement

namespace Operation

/-- Every exchange and every refresh that hands out tokens, on whatever store and at whatever
instant: the claims of the tokens, which the current key has signed, agree with the response and with
the row that has been stored under the identifier of the refresh token; access and ID token live as
long as the client says, or else the server; and the response advertises the lifetime of the refresh
token. -/
theorem GrantsFor.agreement {op : Operation} {settings : Settings} {ids : TokenIds} {code : Code}
    {s t : Store} {now : Instant} {response : TokenResponse}
    (hfor : op.GrantsFor settings ids code)
    (hids : [ids.access, ids.identity, ids.refresh].Nodup)
    (hrun : op.run s now = (.ok (.tokens response), t)) :
    ∃ client pair key claims row, s.client? code.clientId = some client ∧
      s.signingKey = some pair ∧ pair.signingKey = .ok key ∧
      GrantClaims.SignedInto claims key response ∧
      s.row? ids.refresh = none ∧ t.row? ids.refresh = some row ∧
      claims.Agree response row ∧
      response.expiresIn = (if 0 < client.tokenExpiration then client.tokenExpiration
        else settings.tokenExpiration) ∧
      response.AdvertisesLifetime now claims.refresh.registered row := by
  obtain ⟨client, user, requested, flow, scope, previous, plan, hload, hscope, hplan, hcommit,
    hprevious⟩ := hfor.exists_commit hrun
  have hclient := (Store.loadCode_eq_ok_iff.mp hload).1
  obtain ⟨rfl, hnone, row, hfound, hbecome⟩ := GrantPlan.of_commit hcommit
  obtain ⟨lifetime, pair, key, expiresAt, hlifetime, hpair, hkey, hexpiry, hsigned, htext, hseconds,
    hrefreshSeconds, hrow⟩ := planUserTokens_claims hplan
  rw [(row_of_planUserTokens hplan).1] at hnone hfound
  rw [hrow] at hbecome
  have htells := IssuedRefresh.tells hbecome
  have hagree := agree_ofGrant hscope hlifetime hexpiry hids hsigned htext hseconds htells
  refine ⟨client, pair, key, _, row, hclient, hpair, hkey, hsigned, hnone, hfound, hagree,
    hseconds, advertisesLifetime hlifetime hrefreshSeconds htells
      (hprevious.imp_right fun hnamed => ?_) hagree.exp ?_⟩
  · rwa [hbecome.previousJti, ← hrow]
  · exact now.unixSeconds_wholeSecond

end Operation

/-- In the sample the refresh answers with tokens that live for five minutes; their claims, which the
key of the server has signed, agree with the row of `R2`. -/
theorem Sample.agreement_refreshed : ∃ response claims row pair key,
    (Operation.refresh {} secondIds request).run exchanged.store now =
      (.ok (.tokens response), refreshed.store) ∧
    exchanged.store.signingKey = some pair ∧ pair.signingKey = .ok key ∧
    GrantClaims.SignedInto claims key response ∧
    refreshed.store.row? "R2" = some row ∧ GrantClaims.Agree claims response row ∧
    response.expiresIn = 300 ∧ response.AdvertisesLifetime now claims.refresh.registered row := by
  obtain ⟨response, hstep⟩ := step_refresh
  have hrun : (Operation.refresh {} secondIds request).run exchanged.store now =
      (.ok (.tokens response), refreshed.store) :=
    Server.run_of_step hstep
  have hfor : (Operation.refresh {} secondIds request).GrantsFor {} secondIds code :=
    .inr ⟨request, rfl, rfl⟩
  obtain ⟨c, pair, key, claims, row, hclient, hpair, hkey, hsigned, -, hrow, hagree, hseconds,
    hadvertises⟩ := hfor.agreement (by decide) hrun
  have hc : exchanged.store.client? code.clientId = some client := rfl
  obtain rfl : client = c := Option.some.inj (hc.symm.trans hclient)
  exact ⟨response, claims, row, pair, key, hrun, hpair, hkey, hsigned, hrow, hagree, hseconds,
    hadvertises⟩

end TokenAuthority
