import Mathlib.Tactic.Lemma
import TokenAuthority.Proofs.Audiences
import TokenAuthority.Proofs.Checks
import TokenAuthority.Proofs.GrantSuccess
import TokenAuthority.Proofs.Server

/-!
# Scopes of clients in their own name

In the client-credentials grant, OpenID Connect scopes do nothing. If they are left out of a scope
string that has other words, then the grant is refused with the same error, or it hands out an
access token with the same claims, but for the scope and the identifier. Extensions that the
settings list are not known to this grant.

## Main definitions

* `TokenAuthority.WithoutOidc` — a string with the words of another, less its OpenID Connect scopes.
* `TokenAuthority.GrantsOwn` — the grant hands out an access token and nothing else.

## Main results

* `TokenAuthority.ResolvedScope.classify_filter_oidc` — OpenID Connect scopes are classified
  independently of the other words.
* `TokenAuthority.ResolvedScope.resolve_withoutOidc` — the audiences are the same without them.
* `TokenAuthority.clientCredentials_eq` — the grant as one sequence of steps.
* `TokenAuthority.grantsOwn_withoutOidc` — the grant with OpenID Connect scopes and without them.
* `TokenAuthority.clientCredentials_inert` — this, and what is made of other words.
-/

set_option autoImplicit false

namespace TokenAuthority

/-- The second string has the words of the first one that are no OpenID Connect scopes. -/
def WithoutOidc (s s' : String) : Prop := words s' = (words s).filter (· ∉ oidcWords)

/-! ## Resolving without OpenID Connect scopes -/

/-- Dropping repetitions and leaving out elements may be done in either order. -/
lemma eraseDups_filter {α : Type} [BEq α] [LawfulBEq α] (p : α → Bool) (xs : List α) :
    (xs.filter p).eraseDups = xs.eraseDups.filter p := by
  induction xs using List.reverseRecOn with
  | nil => rfl
  | append_singleton xs x ih =>
    rw [List.filter_append, eraseDups_concat]
    by_cases hx : p x = true
    · have hseen : (xs.filter p).contains x = xs.contains x := by
        rw [Bool.eq_iff_iff]
        simp [hx]
      rw [List.filter_cons_of_pos hx, List.filter_nil, eraseDups_concat, hseen]
      split <;> simp [hx, ih]
    · rw [List.filter_cons_of_neg hx, List.filter_nil, List.append_nil, ih]
      split <;> simp [hx]

/-- A token is no OpenID Connect scope exactly if its word is none. -/
lemma ScopeToken.isNone_oidc?_iff {flow : GrantFlow} {settings : Settings} {w : String}
    {t : ScopeToken} (h : ScopeToken.ofText? flow settings w = some t) :
    t.oidc?.isNone = true ↔ w ∉ oidcWords := by
  rw [mem_oidcWords_iff, ← (ScopeToken.of_ofText? h).2]
  simp

namespace ResolvedScope

variable {s s' : String} {flow : GrantFlow} {settings : Settings} {scope : ResolvedScope}

/-- Words of OpenID Connect scopes may be left out before words are classified, or their tokens
afterwards. -/
theorem classify_filter_oidc (flow : GrantFlow) (settings : Settings) (ws : List String) :
    classify flow settings (ws.filter (· ∉ oidcWords)) =
      (classify flow settings ws).map fun ts => ts.filter fun t => t.oidc?.isNone := by
  induction ws with
  | nil => rfl
  | cons w ws ih =>
    by_cases hw : w ∈ oidcWords
    · have hsome : (ScopeToken.ofText? flow settings w).isSome = true :=
        ScopeToken.ofText?_isSome_iff.mpr (.inl hw)
      obtain ⟨t, ht⟩ := Option.isSome_iff_exists.mp hsome
      have hoidc : ¬ t.oidc?.isNone = true := by simpa [ScopeToken.isNone_oidc?_iff ht] using hw
      rw [List.filter_cons_of_neg (by simpa using hw), ih, classify, ht]
      cases classify flow settings ws with
      | error e => rfl
      | ok ts =>
        exact congrArg Except.ok
          (List.filter_cons_of_neg (p := fun t : ScopeToken => t.oidc?.isNone) hoidc).symm
    · rw [List.filter_cons_of_pos (by simpa using hw), classify, classify, ih]
      cases ht : ScopeToken.ofText? flow settings w with
      | none => rfl
      | some t =>
        have hother : t.oidc?.isNone = true := (ScopeToken.isNone_oidc?_iff ht).mpr hw
        cases classify flow settings ws with
        | error e => rfl
        | ok ts =>
          exact congrArg Except.ok
            (List.filter_cons_of_pos (p := fun t : ScopeToken => t.oidc?.isNone) hother).symm

/-- A client in its own name is granted the tokens of the words, and nothing is added. -/
lemma resolve_clientCredentials (s : String) (settings : Settings) :
    resolve s .clientCredentials settings =
      (classify .clientCredentials settings (words s)).map fun ts =>
        ⟨.clientCredentials, ts.eraseDups⟩ := by
  rw [resolve]
  cases classify .clientCredentials settings (words s) <;> rfl

/-- OpenID Connect scopes have no part in the permissions. -/
lemma filterMap_permission?_filter (ts : List ScopeToken) :
    (ts.filter fun t => t.oidc?.isNone).filterMap ScopeToken.permission? =
      ts.filterMap ScopeToken.permission? := by
  rw [List.filterMap_filter]
  refine List.filterMap_congr fun t _ => ?_
  cases t <;> rfl

/-- A string is refused for a client in its own name as it is without its OpenID Connect scopes, or
both are resolved, to the same audiences. -/
theorem resolve_withoutOidc (h : WithoutOidc s s') (settings : Settings) :
    (∃ e, resolve s .clientCredentials settings = .error e ∧
      resolve s' .clientCredentials settings = .error e) ∨
    ∃ scope scope', resolve s .clientCredentials settings = .ok scope ∧
      resolve s' .clientCredentials settings = .ok scope' ∧
      scope'.audience? = scope.audience? := by
  have hclassify := classify_filter_oidc .clientCredentials settings (words s)
  rw [← h] at hclassify
  rw [resolve_clientCredentials, resolve_clientCredentials, hclassify]
  cases classify .clientCredentials settings (words s) with
  | error e => exact .inl ⟨e, rfl, rfl⟩
  | ok ts =>
    refine .inr ⟨_, _, rfl, rfl, ?_⟩
    have hpermissions : (ts.filter fun t => t.oidc?.isNone).eraseDups.filterMap
        ScopeToken.permission? = ts.eraseDups.filterMap ScopeToken.permission? := by
      rw [eraseDups_filter, filterMap_permission?_filter]
    exact congrArg (fun ps : List Permission =>
      Audience.ofValues? ((ps.map (·.resource)).eraseDups)) hpermissions

/-- The settings have no part in the scope of a client in its own name. -/
lemma resolve_clientCredentials_settings (s : String) (settings settings' : Settings) :
    resolve s .clientCredentials settings = resolve s .clientCredentials settings' := by
  have hclassify : classify .clientCredentials settings (words s) =
      classify .clientCredentials settings' (words s) := by
    induction words s with
    | nil => rfl
    | cons w ws ih => rw [classify, classify, ih]; rfl
  rw [resolve_clientCredentials, hclassify, ← resolve_clientCredentials]

/-- The scope of a client in its own name is the words of the string, each at its first place. -/
lemma text_clientCredentials (h : resolve s .clientCredentials settings = .ok scope) :
    scope.text = " ".intercalate (words s).eraseDups :=
  ((resolve_grammar s .clientCredentials settings).2.2 scope h).1

end ResolvedScope

/-! ## Tokens of clients in their own name -/

section Grant

variable {s : Store} {settings : Settings} {now : Instant} {jti : String} {client : Client}
  {requested : String}

/-- The client may be granted tokens in its own name. -/
def ensureOwnName (client : Client) : Except AuthError Unit := do
  ensureEnabled client
  if !client.clientCredentialsEnabled then
    throw (.grantNotAllowed client.identifier .clientCredentials)

/-- A client that is enabled and allowed the grant may be granted tokens. -/
lemma ensureOwnName_of_allowed (henabled : client.enabled = true)
    (hallowed : client.clientCredentialsEnabled = true) : ensureOwnName client = .ok () := by
  rw [ensureOwnName, ensureEnabled, henabled, hallowed]
  rfl

/-- The key that signs an access token, and the expiry of the token. -/
def Store.signingFor (s : Store) (settings : Settings) (now : Instant) (client : Client) :
    Except AuthError (SigningKey × Instant) := do
  let pair ← s.currentSigningKey
  let key ← signed pair.signingKey
  let expiresAt ← expiryAfter now.wholeSecond (accessTokenLifetime client settings)
  pure (key, expiresAt)

/-- The response with an access token of the claims. -/
def clientResponse (settings : Settings) (client : Client) (key : SigningKey)
    (claims : AccessClaims) : Except AuthError TokenResponse := do
  let token ← signed (key.sign (AccessClaims.layered.codec.write claims))
  pure {
    accessToken := token
    expiresIn := accessTokenLifetime client settings
    scope := claims.scope }

/-- The grant looks at the client, resolves the scope, settles key and expiry, and signs a token. -/
lemma clientCredentials_eq (h : isBlankText requested = false) :
    clientCredentials s settings now jti client requested = (do
      ensureOwnName client
      let scope ← ResolvedScope.resolve requested .clientCredentials settings
      let (key, expiresAt) ← s.signingFor settings now client
      clientResponse settings client key
        ((ClaimsBuilder.ofInstant settings now).clientAccessToken client scope expiresAt jti)) := by
  simp only [clientCredentials, ensureOwnName, Store.signingFor, bind_assoc, pure_bind, h]
  cases client.clientCredentialsEnabled <;> rfl

/-- The key that signs is that of the store. -/
lemma signingKey_of_signingFor {key : SigningKey} {expiresAt : Instant}
    (h : s.signingFor settings now client = .ok (key, expiresAt)) :
    ∃ pair, s.currentSigningKey = .ok pair ∧ pair.signingKey = .ok key := by
  obtain ⟨pair, hpair, h⟩ := bind_ok h
  obtain ⟨key', hkey, h⟩ := bind_ok h
  obtain ⟨expiresAt', -, h⟩ := bind_ok h
  cases h
  exact ⟨pair, hpair, signed_ok hkey⟩

/-- A key that cannot sign signs no claims of clients. -/
lemma clientResponse_of_not_canSign {key : SigningKey} (h : ¬ key.CanSign) (claims : AccessClaims) :
    clientResponse settings client key claims = .error (.signing .unsigned) := by
  rw [clientResponse, key.sign_of_not_canSign h]
  rfl

/-- The grant hands out an access token to a client in its own name, signed with the key of the
store: it names the client as its subject, is good for the words of the string, each at its first
place only, and says nothing of a user, a session or an authentication. There is no ID token and no
refresh token, and the store stays as it is. -/
structure GrantsOwn (s : Store) (settings : Settings) (now : Instant) (jti : String)
    (client : Client) (requested : String) (key : SigningKey) (claims : AccessClaims)
    (response : TokenResponse) : Prop where
  granted : (Operation.clientCredentials settings jti client requested).run s now =
    (.ok (.tokens response), s)
  signs : ∃ pair, s.currentSigningKey = .ok pair ∧ pair.signingKey = .ok key
  signed : key.sign (AccessClaims.layered.codec.write claims) = .ok response.accessToken
  scope : claims.scope = " ".intercalate (words requested).eraseDups
  answered : response.scope = claims.scope
  subject : claims.registered.sub = client.identifier
  identifier : claims.registered.jti = jti
  user : claims.user = {}
  session : claims.sid = ""
  level : claims.acr = ""
  methods : claims.amr = ""
  authTime : claims.authTime = none
  idToken : response.idToken = none
  refreshToken : response.refreshToken = none
  refreshExpiresIn : response.refreshExpiresIn = 0

/-- A string that has words is not blank. -/
lemma isBlankText_eq_false {w : String} (h : w ∈ words requested) :
    isBlankText requested = false := by
  rw [← Bool.not_eq_true]
  intro hblank
  rw [words_of_isBlankText hblank] at h
  cases h

/-- A grant that is refused leaves the store as it is. -/
lemma run_of_clientCredentials_error {e : AuthError}
    (h : clientCredentials s settings now jti client requested = .error e) :
    (Operation.clientCredentials settings jti client requested).run s now = (.error e, s) := by
  rw [Operation.run, h]
  rfl

/-- What is handed out if all steps succeed. -/
lemma grantsOwn_of_steps {scope : ResolvedScope} {key : SigningKey} {expiresAt : Instant}
    {token : String} (hblank : isBlankText requested = false)
    (hname : ensureOwnName client = .ok ())
    (hscope : ResolvedScope.resolve requested .clientCredentials settings = .ok scope)
    (hkey : s.signingFor settings now client = .ok (key, expiresAt))
    (hsigned : key.sign (AccessClaims.layered.codec.write
      ((ClaimsBuilder.ofInstant settings now).clientAccessToken client scope expiresAt jti)) =
        .ok token) :
    GrantsOwn s settings now jti client requested key
      ((ClaimsBuilder.ofInstant settings now).clientAccessToken client scope expiresAt jti)
      { accessToken := token
        expiresIn := accessTokenLifetime client settings
        scope := scope.text } where
  granted := by
    rw [Operation.run, clientCredentials_eq hblank, hname, hscope, hkey]
    change ((clientResponse _ _ _ _).map _, _) = _
    rw [clientResponse, hsigned]
    rfl
  signs := signingKey_of_signingFor hkey
  signed := hsigned
  scope := ResolvedScope.text_clientCredentials hscope
  answered := rfl
  subject := rfl
  identifier := rfl
  user := rfl
  session := rfl
  level := rfl
  methods := rfl
  authTime := rfl
  idToken := rfl
  refreshToken := rfl
  refreshExpiresIn := rfl

/-- Without its OpenID Connect scopes, a string that has other words is refused with the same error,
or a token with the same claims is handed out for it, but for the scope and the identifier.

**Proof sketch.** The client, the key and the expiry are looked at whatever the scope is, and so is
whether the key can sign. What is left is the resolution of the scope. -/
theorem grantsOwn_withoutOidc {requested' : String} (jti jti' : String) (s : Store)
    (settings : Settings) (now : Instant) (client : Client)
    (hblank : isBlankText requested = false) (hblank' : isBlankText requested' = false)
    (hwithout : WithoutOidc requested requested') :
    (∃ e, clientCredentials s settings now jti client requested = .error e ∧
      clientCredentials s settings now jti' client requested' = .error e) ∨
    ∃ key claims claims' response response',
      GrantsOwn s settings now jti client requested key claims response ∧
      GrantsOwn s settings now jti' client requested' key claims' response' ∧
      claims' = { claims with
        scope := claims'.scope
        registered := { claims.registered with jti := jti' } } ∧
      response'.expiresIn = response.expiresIn := by
  rw [clientCredentials_eq hblank, clientCredentials_eq hblank']
  cases hname : ensureOwnName client with
  | error e => exact .inl ⟨e, rfl, rfl⟩
  | ok u =>
    rcases ResolvedScope.resolve_withoutOidc hwithout settings with
      ⟨e, hscope, hscope'⟩ | ⟨scope, scope', hscope, hscope', haudience⟩
    · rw [hscope, hscope']
      exact .inl ⟨e, rfl, rfl⟩
    rw [hscope, hscope']
    cases hkey : s.signingFor settings now client with
    | error e => exact .inl ⟨e, rfl, rfl⟩
    | ok signing =>
      obtain ⟨key, expiresAt⟩ := signing
      let builder := ClaimsBuilder.ofInstant settings now
      by_cases hcan : key.CanSign
      · obtain ⟨token, hsigned⟩ := hcan.sign (AccessClaims.layered.codec.write
          (builder.clientAccessToken client scope expiresAt jti))
        obtain ⟨token', hsigned'⟩ := hcan.sign (AccessClaims.layered.codec.write
          (builder.clientAccessToken client scope' expiresAt jti'))
        refine .inr ⟨key, _, _, _, _, grantsOwn_of_steps hblank hname hscope hkey hsigned,
          grantsOwn_of_steps hblank' hname hscope' hkey hsigned', ?_, rfl⟩
        simp only [ClaimsBuilder.clientAccessToken, ClaimsBuilder.registered, haudience]
      · exact .inl ⟨_, clientResponse_of_not_canSign hcan _, clientResponse_of_not_canSign hcan _⟩

/-- The extensions that the settings list make no difference to a client in its own name. -/
lemma clientCredentials_extensions (hblank : isBlankText requested = false)
    (extensions : List String) :
    clientCredentials s { settings with scopeExtensions := extensions } now jti client requested =
      clientCredentials s settings now jti client requested := by
  rw [clientCredentials_eq hblank, clientCredentials_eq hblank,
    ResolvedScope.resolve_clientCredentials_settings requested _ settings]
  rfl

/-- A word that is neither an OpenID Connect scope nor a permission is refused. -/
lemma clientCredentials_refused {w : String} (hw : w ∈ words requested) (hoidc : w ∉ oidcWords)
    (hpermission : ¬ IsPermissionWord w) :
    ∃ e, clientCredentials s settings now jti client requested = .error e ∧
      (client.enabled = true → client.clientCredentialsEnabled = true →
        ∃ before v after, words requested = before ++ v :: after ∧
          (∀ u ∈ before, u ∈ oidcWords ∨ IsPermissionWord u) ∧
          v ∉ oidcWords ∧ ¬ IsPermissionWord v ∧ e = .invalidScope v) := by
  have hword (u : String) : IsScopeWord .clientCredentials settings u ↔
      u ∈ oidcWords ∨ IsPermissionWord u := by simp [IsScopeWord]
  obtain ⟨haccepted, hrefused, -⟩ :=
    ResolvedScope.resolve_grammar requested .clientCredentials settings
  rw [clientCredentials_eq (isBlankText_eq_false hw)]
  cases hname : ensureOwnName client with
  | error e =>
    refine ⟨e, rfl, fun henabled hallowed => ?_⟩
    rw [ensureOwnName_of_allowed henabled hallowed] at hname
    cases hname
  | ok u =>
    cases hscope : ResolvedScope.resolve requested .clientCredentials settings with
    | ok scope =>
      have hall := haccepted.mp ⟨scope, hscope⟩ w hw
      rw [hword] at hall
      exact absurd hall (by simp [hoidc, hpermission])
    | error e =>
      obtain ⟨before, v, after, hsplit, hbefore, hv, rfl⟩ := (hrefused e).mp hscope
      rw [hword, not_or] at hv
      exact ⟨_, rfl, fun _ _ => ⟨before, v, after, hsplit, fun u hu => (hword u).mp (hbefore u hu),
        hv.1, hv.2, rfl⟩⟩

/-- OpenID Connect scopes do nothing for a client in its own name. Leave them out of a scope string
that has other words: then the grant is refused both times with the same error, or it hands out an
access token both times, with claims that are the same but for the scope and the identifier. The
settings have no part in the scope: which extensions they list makes no difference, and a word that
is neither an OpenID Connect scope nor a permission is refused, with the first such word in the
error if the client may be granted anything. -/
theorem clientCredentials_inert {requested' : String} (jti jti' : String) (s : Store)
    (settings : Settings) (now : Instant) (client : Client)
    (hother : ∃ w ∈ words requested, w ∉ oidcWords) (hwithout : WithoutOidc requested requested') :
    let run (settings : Settings) (jti requested : String) :=
      (Operation.clientCredentials settings jti client requested).run s now
    ((∃ e, run settings jti requested = (.error e, s) ∧
        run settings jti' requested' = (.error e, s)) ∨
      ∃ key claims claims' response response',
        GrantsOwn s settings now jti client requested key claims response ∧
        GrantsOwn s settings now jti' client requested' key claims' response' ∧
        claims' = { claims with
          scope := claims'.scope
          registered := { claims.registered with jti := jti' } } ∧
        response'.expiresIn = response.expiresIn) ∧
    (∀ extensions, run { settings with scopeExtensions := extensions } jti requested =
      run settings jti requested) ∧
    ∀ w ∈ words requested, w ∉ oidcWords → ¬ IsPermissionWord w →
      ∃ e, run settings jti requested = (.error e, s) ∧
        (client.enabled = true → client.clientCredentialsEnabled = true →
          ∃ before v after, words requested = before ++ v :: after ∧
            (∀ u ∈ before, u ∈ oidcWords ∨ IsPermissionWord u) ∧
            v ∉ oidcWords ∧ ¬ IsPermissionWord v ∧ e = .invalidScope v) := by
  obtain ⟨w, hw, hother⟩ := hother
  have hblank : isBlankText requested = false := isBlankText_eq_false hw
  have hw' : w ∈ words requested' := by
    rw [hwithout]
    exact List.mem_filter.mpr ⟨hw, by simpa using hother⟩
  have hblank' : isBlankText requested' = false := isBlankText_eq_false hw'
  intro run
  refine ⟨?inert, fun extensions => ?extensions, fun v hv hoidc hpermission => ?refused⟩
  case inert =>
    rcases grantsOwn_withoutOidc jti jti' s settings now client hblank hblank' hwithout with
      ⟨e, h, h'⟩ | hgrants
    · exact .inl ⟨e, run_of_clientCredentials_error h, run_of_clientCredentials_error h'⟩
    · exact .inr hgrants
  case extensions =>
    simp only [run, Operation.run, clientCredentials_extensions hblank]
  case refused =>
    obtain ⟨e, h, hfirst⟩ := clientCredentials_refused hv hoidc hpermission
    exact ⟨e, run_of_clientCredentials_error h, hfirst⟩

end Grant

namespace Sample

/-- A client that may be granted tokens in its own name. -/
def service : Client := { id := 2, identifier := "service", clientCredentialsEnabled := true }

/-- The grants for a string with OpenID Connect scopes and without them succeed, and their claims
differ as they may. -/
theorem clientCredentials_inert_service : ∃ key claims claims' response response',
    GrantsOwn store {} now "A1" service "openid orders:read email openid" key claims response ∧
    GrantsOwn store {} now "A2" service "orders:read" key claims' response' ∧
    claims.scope = "openid orders:read email" ∧ claims'.scope = "orders:read" ∧
    claims'.registered = { claims.registered with jti := "A2" } := by
  obtain ⟨pair, key, hpair, hkey, hcan⟩ := signs
  have hscope : ResolvedScope.resolve "orders:read" .clientCredentials {} =
      .ok ⟨.clientCredentials, [.permission ⟨"orders", "read"⟩]⟩ := by rfl
  have hsigning : store.signingFor {} now service = .ok (key, .ofUnixSeconds 1717243500) := by
    rw [Store.signingFor, Store.currentSigningKey, hpair]
    change (signed pair.signingKey >>= _) = _
    rw [hkey]
    rfl
  obtain ⟨token, hsigned⟩ := hcan.sign (AccessClaims.layered.codec.write
    ((ClaimsBuilder.ofInstant {} now).clientAccessToken service
      ⟨.clientCredentials, [.permission ⟨"orders", "read"⟩]⟩ (.ofUnixSeconds 1717243500) "A2"))
  have hgranted := (grantsOwn_of_steps rfl rfl hscope hsigning hsigned).granted
  have hwithout : WithoutOidc "openid orders:read email openid" "orders:read" := by
    unfold WithoutOidc
    decide +kernel
  obtain ⟨hinert, -, -⟩ := clientCredentials_inert "A1" "A2" store {} now service
    ⟨"orders:read", by decide +kernel, by decide +kernel⟩ hwithout
  rcases hinert with ⟨e, -, hrefused⟩ | ⟨key, claims, claims', response, response', h, h', hsame, -⟩
  · cases hgranted.symm.trans hrefused
  · refine ⟨key, claims, claims', response, response', h, h', h.scope.trans (by decide +kernel),
      h'.scope.trans (by decide +kernel), ?_⟩
    rw [hsame]

end Sample

end TokenAuthority
