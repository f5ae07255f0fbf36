import TokenAuthority.Settings.Basic

/-!
# Clients

## Main definitions

* `Override` — a choice of the client that may defer to the server.
* `Client` — a registered client.
* `Client.effectiveTokenExpiration` and its like — the client's own lifetime if it is positive, that
  of the settings otherwise.
-/

set_option autoImplicit false

namespace TokenAuthority

open Json

/-- A choice between on and off that a client may leave to the server. -/
inductive Override where
  | on
  | off
  | inherit
deriving DecidableEq

namespace Override

/-- The choice, given that of the server. -/
def resolve (o : Override) (server : Bool) : Bool :=
  match o with
  | .on => true
  | .off => false
  | .inherit => server

/-- The name of a choice. -/
def text : Override → String
  | .on => "on"
  | .off => "off"
  | .inherit => "default"

/-- The JSON form: the name. -/
def codec : Codec Override :=
  Codec.enumeration ([Override.on, .off, .inherit].map fun o => (o.text, o)) text

end Override

/-- A registered client. A lifetime that is not positive is that of the settings. -/
structure Client where
  /-- The number under which it is stored. -/
  id : Int
  /-- The name that it uses. -/
  identifier : String
  /-- A description for people. -/
  description : Option String := none
  /-- It may be used at all. -/
  enabled : Bool := true
  /-- It may exchange authorization codes. -/
  authorizationCodeEnabled : Bool := true
  /-- It may ask for tokens in its own name. -/
  clientCredentialsEnabled : Bool := true
  /-- Lifetime of access and ID tokens. -/
  tokenExpiration : Int := 0
  /-- How long an offline refresh token may go unused. -/
  offlineIdleTimeout : Int := 0
  /-- How long an offline chain may last. -/
  offlineMaxLifetime : Int := 0
  /-- Claims about the user are put into access tokens. -/
  claimsInAccessToken : Override := .inherit
deriving DecidableEq

namespace Client

/-- The client's value if it is positive, that of the server otherwise. -/
def overrideOr (own server : Int) : Int := if 0 < own then own else server

/-- The lifetime of access and ID tokens. -/
def effectiveTokenExpiration (c : Client) (settings : Settings) : Int :=
  overrideOr c.tokenExpiration settings.tokenExpiration

/-- How long an offline refresh token may go unused. -/
def effectiveOfflineIdleTimeout (c : Client) (settings : Settings) : Int :=
  overrideOr c.offlineIdleTimeout settings.offlineIdleTimeout

/-- How long an offline chain may last. -/
def effectiveOfflineMaxLifetime (c : Client) (settings : Settings) : Int :=
  overrideOr c.offlineMaxLifetime settings.offlineMaxLifetime

/-- Claims about the user are put into access tokens. -/
def includesUserClaims (c : Client) (settings : Settings) : Bool :=
  c.claimsInAccessToken.resolve settings.claimsInAccessToken

/-- The JSON form of clients. -/
def record : Record Client where
  fields :=
    .cons (.required "id" Codec.integer) <|
    .cons (.required "clientIdentifier" Codec.text) <|
    .cons (.optional "description" Codec.text) <|
    .cons (.required "enabled" Codec.flag) <|
    .cons (.required "authorizationCodeEnabled" Codec.flag) <|
    .cons (.required "clientCredentialsEnabled" Codec.flag) <|
    .cons (.withDefault "tokenExpirationInSeconds" Codec.integer 0) <|
    .cons (.withDefault "refreshTokenOfflineIdleTimeoutInSeconds" Codec.integer 0) <|
    .cons (.withDefault "refreshTokenOfflineMaxLifetimeInSeconds" Codec.integer 0) <|
    .cons (.withDefault "includeOpenIdConnectClaimsInAccessToken" Override.codec .inherit) .nil
  unpack c := (c.id, c.identifier, c.description, c.enabled, c.authorizationCodeEnabled,
    c.clientCredentialsEnabled, c.tokenExpiration, c.offlineIdleTimeout, c.offlineMaxLifetime,
    c.claimsInAccessToken, ())
  pack := fun (id, identifier, description, enabled, code, credentials, expiration, idle, max,
      claims, _) =>
    ⟨id, identifier, description, enabled, code, credentials, expiration, idle, max, claims⟩

end Client

end TokenAuthority
