import TokenAuthority.Error
import TokenAuthority.Json.Record
import TokenAuthority.Record.Scalar
import TokenAuthority.Text.Blank

/-!
# Authorization codes

## Main definitions

* `AuthContext` — what the login and consent steps know about a request.
* `AuthContext.effectiveScope` — the consented scope, or the requested one if nothing was consented.
* `Code` — an authorization code.
* `Code.ofContext` — the fresh code of a request.
-/

set_option autoImplicit false

namespace TokenAuthority

open Json

/-- An authorization request after login and consent. -/
structure AuthContext where
  /-- The name of the client. -/
  clientId : String
  redirectUri : String
  responseMode : String
  codeChallenge : String
  codeChallengeMethod : String
  /-- The scope that the client asks for. -/
  scope : String
  /-- The scope that the user consents to; empty without a consent step. -/
  consentedScope : String
  nonce : String
  state : String
  acrLevel : String
  authMethods : String
  /-- The number of the user. -/
  userId : Int
deriving DecidableEq

namespace AuthContext

/-- The consented scope, or the requested one if the former is blank. -/
def effectiveScope (ctx : AuthContext) : String :=
  if isBlankText ctx.consentedScope then ctx.scope else ctx.consentedScope

/-- The JSON form of requests. -/
def record : Record AuthContext where
  fields :=
    .cons (.required "clientId" Codec.text) <|
    .cons (.required "redirectUri" Codec.text) <|
    .cons (.required "responseMode" Codec.text) <|
    .cons (.required "codeChallenge" Codec.text) <|
    .cons (.required "codeChallengeMethod" Codec.text) <|
    .cons (.required "scope" Codec.text) <|
    .cons (.required "consentedScope" Codec.text) <|
    .cons (.required "nonce" Codec.text) <|
    .cons (.required "state" Codec.text) <|
    .cons (.required "acrLevel" Codec.text) <|
    .cons (.required "authMethods" Codec.text) <|
    .cons (.required "userId" Codec.integer) .nil
  unpack c := (c.clientId, c.redirectUri, c.responseMode, c.codeChallenge, c.codeChallengeMethod,
    c.scope, c.consentedScope, c.nonce, c.state, c.acrLevel, c.authMethods, c.userId, ())
  pack := fun (clientId, redirectUri, responseMode, codeChallenge, codeChallengeMethod, scope,
      consentedScope, nonce, state, acrLevel, authMethods, userId, _) =>
    ⟨clientId, redirectUri, responseMode, codeChallenge, codeChallengeMethod, scope,
      consentedScope, nonce, state, acrLevel, authMethods, userId⟩

end AuthContext

/-- An authorization code. -/
structure Code where
  /-- The number that the store gives it. -/
  id : Int
  /-- The value that the client presents. -/
  value : String
  /-- The number of the client. -/
  clientId : Int
  /-- The number of the user. -/
  userId : Int
  codeChallenge : String
  codeChallengeMethod : String
  redirectUri : String
  scope : String
  state : String
  nonce : String
  responseMode : String
  acrLevel : String
  authMethods : String
  /-- The session in which it was issued. -/
  sessionIdentifier : String
  authenticatedAt : Instant
  createdAt : Instant
  /-- It has been exchanged. -/
  used : Bool
deriving DecidableEq

namespace Code

/-- The fresh code of a request: its scope is the effective one without the blanks around it. -/
def ofContext (ctx : AuthContext) (value : String) (clientId : Int) (sessionIdentifier : String)
    (authenticatedAt now : Instant) : Code where
  id := 0
  value := value
  clientId := clientId
  userId := ctx.userId
  codeChallenge := ctx.codeChallenge
  codeChallengeMethod := ctx.codeChallengeMethod
  redirectUri := ctx.redirectUri
  scope := trimBlank ctx.effectiveScope
  state := ctx.state
  nonce := ctx.nonce
  responseMode := ctx.responseMode
  acrLevel := ctx.acrLevel
  authMethods := ctx.authMethods
  sessionIdentifier := sessionIdentifier
  authenticatedAt := authenticatedAt
  createdAt := now
  used := false

/-- The error of asking a code for its client before it is loaded. -/
def clientFault (c : Code) : AuthError := .clientNotLoaded c.id

/-- The error of asking a code for its user before it is loaded. -/
def userFault (c : Code) : AuthError := .userNotLoaded c.id

/-- The JSON form of codes. -/
def record : Record Code where
  fields :=
    .cons (.required "id" Codec.integer) <|
    .cons (.required "code" Codec.text) <|
    .cons (.required "clientId" Codec.integer) <|
    .cons (.required "userId" Codec.integer) <|
    .cons (.required "codeChallenge" Codec.text) <|
    .cons (.required "codeChallengeMethod" Codec.text) <|
    .cons (.required "redirectUri" Codec.text) <|
    .cons (.required "scope" Codec.text) <|
    .cons (.required "state" Codec.text) <|
    .cons (.required "nonce" Codec.text) <|
    .cons (.required "responseMode" Codec.text) <|
    .cons (.required "acrLevel" Codec.text) <|
    .cons (.required "authMethods" Codec.text) <|
    .cons (.required "sessionIdentifier" Codec.text) <|
    .cons (.required "authenticatedAt" Instant.codec) <|
    .cons (.required "createdAt" Instant.codec) <|
    .cons (.required "used" Codec.flag) .nil
  unpack c := (c.id, c.value, c.clientId, c.userId, c.codeChallenge, c.codeChallengeMethod,
    c.redirectUri, c.scope, c.state, c.nonce, c.responseMode, c.acrLevel, c.authMethods,
    c.sessionIdentifier, c.authenticatedAt, c.createdAt, c.used, ())
  pack := fun (id, value, clientId, userId, codeChallenge, codeChallengeMethod, redirectUri, scope,
      state, nonce, responseMode, acrLevel, authMethods, sessionIdentifier, authenticatedAt,
      createdAt, used, _) =>
    ⟨id, value, clientId, userId, codeChallenge, codeChallengeMethod, redirectUri, scope, state,
      nonce, responseMode, acrLevel, authMethods, sessionIdentifier, authenticatedAt, createdAt,
      used⟩

end Code

end TokenAuthority
