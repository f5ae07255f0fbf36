import Mathlib.Tactic.Lemma
import TokenAuthority.Grant.Issue

/-!
# What a grant plans

Before it writes, a grant for a user has settled the tokens that it hands out and the row that it
stores. This file says what they are, and when there is a plan at all.

## Main definitions

* `TokenAuthority.issuedRefresh`, `TokenAuthority.IssuedRefresh.row` — the refresh token of a grant,
  and its row.
* `TokenAuthority.GrantClaims` — the claims of the tokens of a grant;
  `TokenAuthority.GrantClaims.SignedInto` — a response carries them.
* `TokenAuthority.AccessClaims.SignedAs`, `TokenAuthority.RefreshClaims.SignedAs` — a compact token
  carries a set of claims.
* `TokenAuthority.SigningKey.CanSign` — a private key that is long enough to sign with.

## Main results

* `TokenAuthority.planUserTokens_eq` — the plan as one sequence of steps.
* `TokenAuthority.planUserTokens_claims`, `TokenAuthority.planUserTokens_ok` — what a plan rests on,
  and what it holds; `TokenAuthority.row_of_planUserTokens` — its row.
* `TokenAuthority.exists_planUserTokens` — when there is a plan.
* `TokenAuthority.SigningKey.CanSign.sign`, `TokenAuthority.SigningKey.sign_of_not_canSign` — a key
  signs everything or nothing.
-/

set_option autoImplicit false

namespace TokenAuthority

/-- A sequence of steps succeeds only if the first one does, and the others do with its result. -/
lemma bind_ok {ε α β : Type} {x : Except ε α} {f : α → Except ε β} {b : β}
    (h : (x >>= f) = .ok b) : ∃ a, x = .ok a ∧ f a = .ok b := by
  cases x with
  | error e => cases h
  | ok a => exact ⟨a, rfl, h⟩

/-! ## Signing -/

/-- What was signed for a grant was signed. -/
lemma signed_ok {α : Type} {x : Except JwtError α} {a : α} (h : signed x = .ok a) :
    x = .ok a := by
  cases x with
  | error e => cases h
  | ok b => cases h; rfl

/-- The compact token carries the claims. -/
def AccessClaims.SignedAs (claims : AccessClaims) (token : String) : Prop :=
  ∃ key : SigningKey, key.sign (AccessClaims.layered.codec.write claims) = .ok token

/-- The compact token carries the claims. -/
def RefreshClaims.SignedAs (claims : RefreshClaims) (token : String) : Prop :=
  ∃ key : SigningKey, key.sign (RefreshClaims.layered.codec.write claims) = .ok token

/-- A hash of SHA-256 has 32 bytes. -/
lemma Sha256.length_hash (message : Bytes) : (Sha256.hash message).length = 32 := by
  simp [Sha256.hash, Sha256.bytesOfWord]

namespace SigningKey

/-- The content of the key is a private key whose modulus has room for a padded hash. -/
def CanSign (k : SigningKey) : Prop :=
  ∃ key, KeyFile.signingKey? k.content = some key ∧ 62 ≤ key.publicKey.size

/-- A padded hash takes 62 bytes. -/
lemma paddedHash?_isSome_iff {size : Nat} {message : Bytes} :
    (Rsa.paddedHash? size message).isSome = true ↔ 62 ≤ size := by
  have hlen : (Rsa.hashName ++ Sha256.hash message).length + 11 = 62 := by
    rw [List.length_append, Sha256.length_hash]
    rfl
  simp only [Rsa.paddedHash?, hlen]
  split <;> simp <;> omega

/-- A key that cannot sign signs nothing. -/
lemma sign_of_not_canSign {k : SigningKey} (h : ¬ k.CanSign) (claims : Json.Value) :
    k.sign claims = .error .unsigned := by
  have hsig (message : Bytes) : k.signature message = .error .unsigned := by
    rw [signature]
    cases hkey : KeyFile.signingKey? k.content with
    | none => rfl
    | some key =>
      have hshort : Rsa.paddedHash? key.publicKey.size message = none := by
        rw [← Option.not_isSome_iff_eq_none, paddedHash?_isSome_iff]
        exact fun hsize => h ⟨key, hkey, hsize⟩
      simp [Rsa.PrivateKey.sign?, hshort]
  simp only [SigningKey.sign, hsig]
  rfl

/-- A key that signs anything can sign. -/
lemma canSign_of_sign {k : SigningKey} {claims : Json.Value} {token : String}
    (h : k.sign claims = .ok token) : k.CanSign := by
  by_cases hcan : k.CanSign
  · exact hcan
  · rw [sign_of_not_canSign hcan] at h
    cases h

/-- Signing succeeds whatever is signed. -/
lemma CanSign.sign {k : SigningKey} (h : k.CanSign) (claims : Json.Value) :
    ∃ token, k.sign claims = .ok token := by
  obtain ⟨key, hkey, hsize⟩ := h
  have hpad (message : Bytes) :
      ∃ padded, Rsa.paddedHash? key.publicKey.size message = some padded :=
    Option.isSome_iff_exists.mp (paddedHash?_isSome_iff.mpr hsize)
  have hsig (message : Bytes) : ∃ signature, k.signature message = .ok signature := by
    obtain ⟨padded, hpadded⟩ := hpad message
    exact ⟨_, by simp only [signature, hkey, Rsa.PrivateKey.sign?, hpadded]; rfl⟩
  obtain ⟨signature, hs⟩ := hsig (utf8 (base64url (utf8 k.header.text) ++ "." ++
    base64url (utf8 claims.text)))
  exact ⟨_, by simp only [SigningKey.sign, hs]; rfl⟩

/-- Signs the claims of an ID token, if there are any. -/
def signIdToken (k : SigningKey) : Option IdClaims → Except AuthError (Option String)
  | none => pure none
  | some claims => some <$> signed (k.sign (IdClaims.layered.codec.write claims))

end SigningKey

/-! ## The plan of a grant for a user -/

/-- What the tokens of a grant for a user are about. -/
def grantContext (code : Code) (client : Client) (user : User) (scope : ResolvedScope) :
    GrantContext where
  client := client
  user := user
  scope := scope
  sessionIdentifier := code.sessionIdentifier
  nonce := code.nonce
  acrLevel := code.acrLevel
  authMethods := code.authMethods
  authenticatedAt := code.authenticatedAt

/-- The refresh token of a grant. -/
def issuedRefresh (now : Instant) (ids : TokenIds) (code : Code) (scope : ResolvedScope)
    (lifetime : RefreshLifetime) : IssuedRefresh where
  jti := ids.refresh
  type := refreshTypeFor scope
  scope := scope.text
  sessionIdentifier := code.sessionIdentifier
  issuedAt := now.wholeSecond
  lifetime := lifetime

/-- The row of an issued refresh token: the first one of a chain, or one that replaces another. -/
def IssuedRefresh.row (issued : IssuedRefresh) (code : Code) : Option RefreshToken → RefreshToken
  | none => startChain code.id issued
  | some previous => rotate previous issued

namespace IssuedRefresh

variable (issued : IssuedRefresh) (code : Code) (previous : Option RefreshToken)

/-- The row is that of the token. -/
@[simp] lemma row_jti : (issued.row code previous).jti = issued.jti := by
  cases previous <;> rfl

/-- The row has the kind of the token. -/
@[simp] lemma row_type : (issued.row code previous).type = issued.type := by
  cases previous <;> rfl

/-- The row has the scope of the token. -/
@[simp] lemma row_scope : (issued.row code previous).scope = issued.scope := by
  cases previous <;> rfl

/-- The row has the expiry of the token. -/
@[simp] lemma row_expiresAt : (issued.row code previous).expiresAt = issued.lifetime.expiresAt := by
  cases previous <;> rfl

/-- The row has the cutoff of the token. -/
@[simp] lemma row_maxLifetime :
    (issued.row code previous).maxLifetime = issued.lifetime.maxLifetime := by
  cases previous <;> rfl

end IssuedRefresh

/-- The claims of the tokens of a grant for a user. -/
structure GrantClaims where
  access : AccessClaims
  identity : Option IdClaims
  refresh : RefreshClaims

namespace GrantClaims

/-- The claims that a grant builds for a user, given the lifetime of its refresh token and the expiry
of the other two. -/
def ofGrant (settings : Settings) (now : Instant) (ids : TokenIds) (ctx : GrantContext)
    (lifetime : RefreshLifetime) (expiresAt : Instant) : GrantClaims where
  access := (ClaimsBuilder.ofInstant settings now).accessToken ctx expiresAt ids.access
  identity := (ClaimsBuilder.ofInstant settings now).idToken? ctx expiresAt ids.identity
  refresh := (ClaimsBuilder.ofInstant settings now).refreshToken ctx (refreshTypeFor ctx.scope)
    lifetime.expiresAt lifetime.maxLifetime ids.refresh

/-- The tokens of a response carry the claims, signed with the key. -/
structure SignedInto (claims : GrantClaims) (key : SigningKey) (response : TokenResponse) :
    Prop where
  access : key.sign (AccessClaims.layered.codec.write claims.access) = .ok response.accessToken
  identity : Option.Rel (fun (c : IdClaims) token =>
    key.sign (IdClaims.layered.codec.write c) = .ok token) claims.identity response.idToken
  refresh : ∃ token, response.refreshToken = some token ∧
    key.sign (RefreshClaims.layered.codec.write claims.refresh) = .ok token

end GrantClaims

/-- The ID token that was signed carries the claims, if there are any. -/
lemma SigningKey.signIdToken_ok {key : SigningKey} {claims : Option IdClaims}
    {token : Option String} (h : key.signIdToken claims = .ok token) :
    Option.Rel (fun (c : IdClaims) t => key.sign (IdClaims.layered.codec.write c) = .ok t)
      claims token := by
  cases claims with
  | none =>
    cases h
    exact .none
  | some c =>
    rw [signIdToken] at h
    cases hsigned : signed (key.sign (IdClaims.layered.codec.write c)) with
    | error e =>
      rw [hsigned] at h
      cases h
    | ok t =>
      rw [hsigned] at h
      cases h
      exact .some (signed_ok hsigned)

variable {s : Store} {settings : Settings} {now : Instant} {ids : TokenIds} {code : Code}
  {client : Client} {user : User} {scope : ResolvedScope} {previous : Option RefreshToken}

/-- The plan of a grant as one sequence of steps: the lifetime, the key, the expiry and the three
tokens. -/
theorem planUserTokens_eq :
    planUserTokens s settings now ids code client user scope previous = (do
      let lifetime ← refreshLifetime s settings now code client (refreshTypeFor scope) previous
      let pair ← s.currentSigningKey
      let key ← signed pair.signingKey
      let builder := ClaimsBuilder.ofInstant settings now
      let ctx := grantContext code client user scope
      let expiresAt ← expiryAfter builder.now (accessTokenLifetime client settings)
      let idToken ← key.signIdToken (builder.idToken? ctx expiresAt ids.identity)
      let accessToken ← signed (key.sign
        (AccessClaims.layered.codec.write (builder.accessToken ctx expiresAt ids.access)))
      let refreshToken ← signed (key.sign
        (RefreshClaims.layered.codec.write (builder.refreshToken ctx (refreshTypeFor scope)
          lifetime.expiresAt lifetime.maxLifetime ids.refresh)))
      pure {
        response := {
          accessToken := accessToken
          idToken := idToken
          refreshToken := some refreshToken
          expiresIn := accessTokenLifetime client settings
          refreshExpiresIn := lifetime.expiresIn
          scope := scope.text }
        row := (issuedRefresh now ids code scope lifetime).row code previous }) := by
  dsimp only [planUserTokens]
  refine bind_congr fun lifetime => bind_congr fun pair => bind_congr fun key => ?_
  refine bind_congr fun expiresAt => ?_
  -- the ID token may be left out, so the two sides differ in how they go on after it
  simp only [grantContext]
  generalize (ClaimsBuilder.ofInstant settings now).idToken? _ expiresAt ids.identity = claims
  cases claims with
  | none => cases previous <;> rfl
  | some claims => cases previous <;> rfl

/-- The key to sign with is the current one. -/
lemma Store.signingKey_of_current {s : Store} {pair : KeyPair} (h : s.currentSigningKey = .ok pair) :
    s.signingKey = some pair := by
  rw [currentSigningKey] at h
  split at h <;> cases h
  assumption

/-- What a plan rests on, and all that it holds: the lifetime of the refresh token, the signing key,
the expiry of the access token, the signed tokens, the lifetimes that are told, and the row. -/
theorem planUserTokens_claims {plan : GrantPlan}
    (h : planUserTokens s settings now ids code client user scope previous = .ok plan) :
    ∃ lifetime pair key expiresAt,
      refreshLifetime s settings now code client (refreshTypeFor scope) previous = .ok lifetime ∧
      s.signingKey = some pair ∧ pair.signingKey = .ok key ∧
      expiryAfter now.wholeSecond (accessTokenLifetime client settings) = .ok expiresAt ∧
      (GrantClaims.ofGrant settings now ids (grantContext code client user scope) lifetime
        expiresAt).SignedInto key plan.response ∧
      plan.response.scope = scope.text ∧
      plan.response.expiresIn = accessTokenLifetime client settings ∧
      plan.response.refreshExpiresIn = lifetime.expiresIn ∧
      plan.row = (issuedRefresh now ids code scope lifetime).row code previous := by
  rw [planUserTokens_eq] at h
  obtain ⟨lifetime, hlifetime, h⟩ := bind_ok h
  obtain ⟨pair, hpair, h⟩ := bind_ok h
  obtain ⟨key, hkey, h⟩ := bind_ok h
  obtain ⟨expiresAt, hexpiry, h⟩ := bind_ok h
  obtain ⟨idToken, hid, h⟩ := bind_ok h
  obtain ⟨accessToken, haccess, h⟩ := bind_ok h
  obtain ⟨refreshToken, hrefresh, h⟩ := bind_ok h
  cases h
  exact ⟨lifetime, pair, key, expiresAt, hlifetime, Store.signingKey_of_current hpair,
    signed_ok hkey, hexpiry,
    ⟨signed_ok haccess, SigningKey.signIdToken_ok hid, refreshToken, rfl, signed_ok hrefresh⟩,
    rfl, rfl, rfl, rfl⟩

/-- What a plan holds: the row of the new refresh token, and tokens of one and the same scope. -/
theorem planUserTokens_ok {plan : GrantPlan}
    (h : planUserTokens s settings now ids code client user scope previous = .ok plan) :
    (∃ lifetime,
      refreshLifetime s settings now code client (refreshTypeFor scope) previous = .ok lifetime ∧
      plan.row = (issuedRefresh now ids code scope lifetime).row code previous) ∧
    plan.response.scope = scope.text ∧
    ∃ claims : AccessClaims,
      claims.SignedAs plan.response.accessToken ∧ claims.scope = scope.text := by
  obtain ⟨lifetime, _, key, expiresAt, hlifetime, -, -, -, ⟨haccess, -⟩, hscope, -, -, hrow⟩ :=
    planUserTokens_claims h
  exact ⟨⟨lifetime, hlifetime, hrow⟩, hscope,
    (ClaimsBuilder.ofInstant settings now).accessToken (grantContext code client user scope)
      expiresAt ids.access, ⟨key, haccess⟩, rfl⟩

/-- The row of a plan is that of the new refresh token, with the lifetime that was settled. -/
lemma row_of_planUserTokens {plan : GrantPlan}
    (h : planUserTokens s settings now ids code client user scope previous = .ok plan) :
    plan.row.jti = ids.refresh ∧ plan.row.type = refreshTypeFor scope ∧
    plan.row.scope = scope.text ∧
    ∃ lifetime,
      refreshLifetime s settings now code client plan.row.type previous = .ok lifetime ∧
      plan.row.expiresAt = lifetime.expiresAt ∧ plan.row.maxLifetime = lifetime.maxLifetime := by
  obtain ⟨⟨lifetime, hlifetime, hrow⟩, -⟩ := planUserTokens_ok h
  have htype : plan.row.type = refreshTypeFor scope := by
    rw [hrow, IssuedRefresh.row_type]
    rfl
  refine ⟨?_, htype, ?_, lifetime, htype ▸ hlifetime, ?_, ?_⟩
  · rw [hrow, IssuedRefresh.row_jti]
    rfl
  · rw [hrow, IssuedRefresh.row_scope]
    rfl
  · rw [hrow, IssuedRefresh.row_expiresAt]
    rfl
  · rw [hrow, IssuedRefresh.row_maxLifetime]
    rfl

/-- There is a plan if the lifetimes are settled and the signing key can sign. -/
theorem exists_planUserTokens (ids : TokenIds) (code : Code) (user : User)
    {lifetime : RefreshLifetime} {pair : KeyPair} {key : SigningKey}
    {expiresAt : Instant}
    (hlifetime : refreshLifetime s settings now code client (refreshTypeFor scope) previous =
      .ok lifetime)
    (hpair : s.signingKey = some pair) (hkey : pair.signingKey = .ok key) (hsign : key.CanSign)
    (hexpiry : expiryAfter now.wholeSecond (accessTokenLifetime client settings) =
      .ok expiresAt) :
    ∃ response, planUserTokens s settings now ids code client user scope previous =
      .ok ⟨response, (issuedRefresh now ids code scope lifetime).row code previous⟩ := by
  have hid (claims : Option IdClaims) : ∃ token, key.signIdToken claims = .ok token := by
    cases claims with
    | none => exact ⟨none, rfl⟩
    | some claims =>
      obtain ⟨token, ht⟩ := hsign.sign (IdClaims.layered.codec.write claims)
      exact ⟨some token, by simp only [SigningKey.signIdToken, ht]; rfl⟩
  let builder := ClaimsBuilder.ofInstant settings now
  let ctx := grantContext code client user scope
  obtain ⟨idToken, hidToken⟩ := hid (builder.idToken? ctx expiresAt ids.identity)
  obtain ⟨accessToken, haccess⟩ := hsign.sign
    (AccessClaims.layered.codec.write (builder.accessToken ctx expiresAt ids.access))
  obtain ⟨refreshToken, hrefresh⟩ := hsign.sign
    (RefreshClaims.layered.codec.write (builder.refreshToken ctx (refreshTypeFor scope)
      lifetime.expiresAt lifetime.maxLifetime ids.refresh))
  have hcurrent : s.currentSigningKey = .ok pair := by rw [Store.currentSigningKey, hpair]
  refine ⟨⟨accessToken, "Bearer", idToken, some refreshToken,
    accessTokenLifetime client settings, lifetime.expiresIn, scope.text⟩, ?_⟩
  rw [planUserTokens_eq, hlifetime, hcurrent]
  change (signed pair.signingKey >>= _) = _
  rw [hkey]
  change (expiryAfter now.wholeSecond _ >>= _) = _
  rw [hexpiry]
  change (key.signIdToken _ >>= _) = _
  rw [hidToken]
  change (signed (key.sign _) >>= _) = _
  rw [haccess]
  change (signed (key.sign _) >>= _) = _
  rw [hrefresh]
  rfl

end TokenAuthority
