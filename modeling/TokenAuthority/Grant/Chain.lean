import TokenAuthority.Grant.Lifetime
import TokenAuthority.Record.RefreshToken

/-!
# Chains of refresh tokens

A refresh token that is issued gets a row: the first row of a new chain, or one that replaces the
last row of a chain.

## Main definitions

* `IssuedRefresh` — what is known of a freshly issued refresh token.
* `startChain` — the first row of a chain.
* `rotate` — the row that replaces another one.
-/

set_option autoImplicit false

namespace TokenAuthority

/-- A freshly issued refresh token. -/
structure IssuedRefresh where
  jti : String
  type : RefreshTokenType
  scope : String
  sessionIdentifier : String
  issuedAt : Instant
  lifetime : RefreshLifetime

/-- The first row of a chain. -/
def startChain (codeId : Int) (issued : IssuedRefresh) : RefreshToken where
  id := 0
  codeId := codeId
  jti := issued.jti
  firstJti := issued.jti
  previousJti := ""
  type := issued.type
  scope := issued.scope
  sessionIdentifier := issued.sessionIdentifier
  issuedAt := issued.issuedAt
  expiresAt := issued.lifetime.expiresAt
  maxLifetime := issued.lifetime.maxLifetime
  revoked := false

/-- The row that replaces another one: it stays in the chain and names its predecessor. -/
def rotate (previous : RefreshToken) (issued : IssuedRefresh) : RefreshToken :=
  { startChain previous.codeId issued with
    firstJti := previous.firstJti
    previousJti := previous.jti }

end TokenAuthority
