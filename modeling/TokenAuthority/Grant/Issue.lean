import TokenAuthority.Claims.Builder
import TokenAuthority.Grant.Chain
import TokenAuthority.Jwt.Signing
import TokenAuthority.Record.TokenResponse
import TokenAuthority.Store.RefreshTokens

/-!
# Grants

A grant reads what it needs from the store, settles scope and lifetimes, builds and signs its
tokens, and only then writes: the row of the new refresh token, and the revocation of the row that
it replaces. What fails before that leaves the store as it was.

## Main definitions

* `TokenIds` — the identifiers that the tokens of a grant are given.
* `GrantPlan` — what a grant is going to hand out and to store.
* `exchangeCode` — the authorization-code grant.
* `RefreshRequest`, `refresh` — the refresh grant.
* `clientCredentials` — the client-credentials grant, which stores nothing.
-/

set_option autoImplicit false

namespace TokenAuthority

open Json

/-- The identifiers of the tokens of a grant. -/
structure TokenIds where
  access : String
  identity : String
  refresh : String

/-- What a grant hands out, and the row that it stores. -/
structure GrantPlan where
  response : TokenResponse
  row : RefreshToken

/-- An error of signing as one of a grant. -/
def signed {α : Type} (x : Except JwtError α) : Except AuthError α := x.mapError .signing

/-- The client may be used. -/
def ensureEnabled (client : Client) : Except AuthError Unit :=
  if client.enabled then .ok () else .error (.clientDisabled client.identifier)

/-- The kind of refresh token that a scope asks for. -/
def refreshTypeFor (scope : ResolvedScope) : RefreshTokenType :=
  if scope.has .offlineAccess then .offline else .refresh

/-- The lifetime of the refresh token of a grant: that of the offline chain, or that of the
session. -/
def refreshLifetime (s : Store) (settings : Settings) (now : Instant) (code : Code)
    (client : Client) (type : RefreshTokenType) (previous : Option RefreshToken) :
    Except AuthError RefreshLifetime :=
  match type with
  | .offline =>
    offlineRefreshLifetime client settings now (previous.bind (·.maxLifetime))
  | .refresh =>
    match s.session? code.sessionIdentifier with
    | none => .error (.sessionMissing code.sessionIdentifier)
    | some session => sessionRefreshLifetime session settings now

/-- Builds and signs the tokens of a grant for a user. -/
def planUserTokens (s : Store) (settings : Settings) (now : Instant) (ids : TokenIds) (code : Code)
    (client : Client) (user : User) (scope : ResolvedScope) (previous : Option RefreshToken) :
    Except AuthError GrantPlan := do
  let type := refreshTypeFor scope
  let lifetime ← refreshLifetime s settings now code client type previous
  let pair ← s.currentSigningKey
  let key ← signed pair.signingKey
  let builder := ClaimsBuilder.ofInstant settings now
  let ctx : GrantContext := {
    client, user, scope
    sessionIdentifier := code.sessionIdentifier
    nonce := code.nonce
    acrLevel := code.acrLevel
    authMethods := code.authMethods
    authenticatedAt := code.authenticatedAt }
  let expiresIn := accessTokenLifetime client settings
  let expiresAt ← expiryAfter builder.now expiresIn
  let idToken ← match builder.idToken? ctx expiresAt ids.identity with
    | none => pure none
    | some claims => some <$> signed (key.sign (IdClaims.layered.codec.write claims))
  let accessClaims := builder.accessToken ctx expiresAt ids.access
  let accessToken ← signed (key.sign (AccessClaims.layered.codec.write accessClaims))
  let refreshClaims :=
    builder.refreshToken ctx type lifetime.expiresAt lifetime.maxLifetime ids.refresh
  let refreshToken ← signed (key.sign (RefreshClaims.layered.codec.write refreshClaims))
  let issued : IssuedRefresh := {
    jti := ids.refresh
    type := type
    scope := scope.text
    sessionIdentifier := code.sessionIdentifier
    issuedAt := builder.now
    lifetime := lifetime }
  pure {
    response := {
      accessToken := accessToken
      idToken := idToken
      refreshToken := some refreshToken
      expiresIn := expiresIn
      refreshExpiresIn := lifetime.expiresIn
      scope := scope.text }
    row := match previous with
      | none => startChain code.id issued
      | some row => rotate row issued }

/-- Stores the row of a plan, and revokes the row that it replaces. -/
def GrantPlan.commit (plan : GrantPlan) (s : Store) (replaced : Option RefreshToken) :
    Except AuthError TokenResponse × Store :=
  match s.createRow plan.row with
  | (.error e, s) => (.error e, s)
  | (.ok _, s) =>
    (.ok plan.response, match replaced with
      | none => s
      | some row => s.revoke row.jti)

/-! ## The authorization-code grant -/

/-- What the exchange of a code is going to hand out. -/
def planExchange (s : Store) (settings : Settings) (now : Instant) (ids : TokenIds) (code : Code) :
    Except AuthError GrantPlan := do
  let (client, user) ← s.loadCode code
  ensureEnabled client
  if !client.authorizationCodeEnabled then
    throw (.grantNotAllowed client.identifier .authorizationCode)
  let scope ← ResolvedScope.resolve code.scope .authorizationCode settings
  planUserTokens s settings now ids code client user scope none

/-- Exchanges an authorization code for tokens. -/
def exchangeCode (s : Store) (settings : Settings) (now : Instant) (ids : TokenIds) (code : Code) :
    Except AuthError TokenResponse × Store :=
  match planExchange s settings now ids code with
  | .error e => (.error e, s)
  | .ok plan => plan.commit s none

/-! ## The refresh grant -/

/-- A request for a refresh. -/
structure RefreshRequest where
  /-- The code from which the chain was started. -/
  code : Code
  /-- The stored row of the presented token. -/
  stored : RefreshToken
  /-- The identifier of the presented token. -/
  presented : String
  /-- The scope that is asked for; blank for that of the stored row. -/
  scope : String

/-- The scope string of a refresh: the requested one, if all its words are in that of the row. -/
def requestedScope (requested stored : String) : Except AuthError String :=
  if isBlankText requested then .ok stored
  else
    match (words requested).find? fun word => !isSubset word stored with
    | some word => .error (.invalidScope word)
    | none => .ok requested

/-- The row has neither expired nor, if it is an offline one, gone unused for too long. -/
def ensureRedeemable (row : RefreshToken) (client : Client) (settings : Settings) (now : Instant) :
    Except AuthError Unit := do
  if row.isExpiredAt now then throw .tokenExpired
  if row.isOffline &&
      client.effectiveOfflineIdleTimeout settings < row.issuedAt.secondsUntil now then
    throw .offlineIdle

/-- What a refresh is going to hand out, once the row is known to be the last of its chain. -/
def planRefresh (s : Store) (settings : Settings) (now : Instant) (ids : TokenIds)
    (request : RefreshRequest) : Except AuthError GrantPlan := do
  let (client, user) ← s.loadCode request.code
  ensureEnabled client
  ensureRedeemable request.stored client settings now
  let requested ← requestedScope request.scope request.stored.scope
  let scope ← ResolvedScope.resolve requested .refresh settings
  planUserTokens s settings now ids request.code client user scope (some request.stored)

/-- Rotates a refresh token: hands out fresh tokens and replaces the stored row. -/
def refresh (s : Store) (settings : Settings) (now : Instant) (ids : TokenIds)
    (request : RefreshRequest) : Except AuthError TokenResponse × Store :=
  match s.verifyTip request.stored request.presented with
  | (.error e, s) => (.error e, s)
  | (.ok (), s) =>
    match planRefresh s settings now ids request with
    | .error e => (.error e, s)
    | .ok plan => plan.commit s (some request.stored)

/-! ## The client-credentials grant -/

/-- Issues an access token to a client in its own name. -/
def clientCredentials (s : Store) (settings : Settings) (now : Instant) (jti : String)
    (client : Client) (scope : String) : Except AuthError TokenResponse := do
  ensureEnabled client
  if !client.clientCredentialsEnabled then
    throw (.grantNotAllowed client.identifier .clientCredentials)
  if isBlankText scope then throw .scopeRequired
  let resolved ← ResolvedScope.resolve scope .clientCredentials settings
  let pair ← s.currentSigningKey
  let key ← signed pair.signingKey
  let builder := ClaimsBuilder.ofInstant settings now
  let expiresIn := accessTokenLifetime client settings
  let expiresAt ← expiryAfter builder.now expiresIn
  let claims := builder.clientAccessToken client resolved expiresAt jti
  let token ← signed (key.sign (AccessClaims.layered.codec.write claims))
  pure { accessToken := token, expiresIn := expiresIn, scope := resolved.text }

end TokenAuthority
