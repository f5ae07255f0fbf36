import TokenAuthority.Json.Record

/-!
# Settings of the server

## Main definitions

* `Settings` — the defaults that every grant starts from.
* `Settings.isScopeExtension` — the scope tokens without a colon that are tolerated.
* `Settings.record` — the JSON form.
-/

set_option autoImplicit false

namespace TokenAuthority

/-- The settings of the server. All lifetimes are seconds. -/
structure Settings where
  /-- The `iss` claim, and the audience of refresh tokens. -/
  issuer : String := "http://localhost:9090"
  /-- Lifetime of access and ID tokens. -/
  tokenExpiration : Int := 300
  /-- How long a session may go unused. -/
  sessionIdleTimeout : Int := 7200
  /-- How long a session may last. -/
  sessionMaxLifetime : Int := 86400
  /-- How long an offline refresh token may go unused. -/
  offlineIdleTimeout : Int := 2592000
  /-- How long an offline chain may last. -/
  offlineMaxLifetime : Int := 5184000
  /-- Claims about the user are put into access tokens. -/
  claimsInAccessToken : Bool := true
  /-- Scope tokens without a colon that are kept and have no effect. -/
  scopeExtensions : List String := []
deriving DecidableEq

namespace Settings

/-- A token without a colon that the settings list. -/
def isScopeExtension (settings : Settings) (token : String) : Bool :=
  !token.toList.contains ':' && settings.scopeExtensions.contains token

open Json in
/-- The JSON form of settings; every member may be absent. -/
def record : Record Settings where
  fields :=
    .cons (.withDefault "issuer" Codec.text ({} : Settings).issuer) <|
    .cons (.withDefault "token_expiration_in_seconds" Codec.integer 300) <|
    .cons (.withDefault "user_session_idle_timeout_in_seconds" Codec.integer 7200) <|
    .cons (.withDefault "user_session_max_lifetime_in_seconds" Codec.integer 86400) <|
    .cons (.withDefault "refresh_token_offline_idle_timeout_in_seconds" Codec.integer 2592000) <|
    .cons (.withDefault "refresh_token_offline_max_lifetime_in_seconds" Codec.integer 5184000) <|
    .cons (.withDefault "include_open_id_connect_claims_in_access_token" Codec.flag true) <|
    .cons (.withDefault "oidc_scope_extensions" Codec.text.listOf []) .nil
  unpack s := (s.issuer, s.tokenExpiration, s.sessionIdleTimeout, s.sessionMaxLifetime,
    s.offlineIdleTimeout, s.offlineMaxLifetime, s.claimsInAccessToken, s.scopeExtensions, ())
  pack := fun (issuer, token, idle, max, offlineIdle, offlineMax, claims, extensions, _) =>
    ⟨issuer, token, idle, max, offlineIdle, offlineMax, claims, extensions⟩

end Settings

end TokenAuthority
