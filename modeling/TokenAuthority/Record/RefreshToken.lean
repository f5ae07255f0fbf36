import TokenAuthority.Json.Record
import TokenAuthority.Record.Scalar

/-!
# Rows of refresh tokens

Every refresh token that is issued has a row. The rows of successive refreshes form a chain: each
names the first one and the one that it replaces, and the first names itself and no predecessor.

## Main definitions

* `RefreshTokenType` — bound to a session, or offline.
* `RefreshToken` — a row.
* `RefreshToken.isExpiredAt`, `RefreshToken.isValidAt`, `RefreshToken.isChainHead` — tests on rows.
-/

set_option autoImplicit false

namespace TokenAuthority

open Json

/-- The kinds of refresh tokens. -/
inductive RefreshTokenType where
  /-- Bound to the windows of a session. -/
  | refresh
  /-- Bound to the windows of its chain alone. -/
  | offline
deriving DecidableEq

namespace RefreshTokenType

/-- The name of a kind. -/
def text : RefreshTokenType → String
  | .refresh => "Refresh"
  | .offline => "Offline"

/-- The JSON form: the name. -/
def codec : Codec RefreshTokenType :=
  Codec.enumeration ([RefreshTokenType.refresh, .offline].map fun t => (t.text, t)) text

end RefreshTokenType

/-- A row of a refresh token. -/
structure RefreshToken where
  /-- The number that the store gives it. -/
  id : Int
  /-- The number of the code from which its chain was started. -/
  codeId : Int
  /-- The identifier of the token. -/
  jti : String
  /-- The identifier of the first token of the chain. -/
  firstJti : String
  /-- The identifier of the token that it replaces; empty on the first row. -/
  previousJti : String
  /-- The kind of the token. -/
  type : RefreshTokenType
  /-- The scope that the token was issued with. -/
  scope : String
  sessionIdentifier : String
  issuedAt : Instant
  expiresAt : Instant
  /-- The cutoff of an offline chain. -/
  maxLifetime : Option Instant
  revoked : Bool
deriving DecidableEq

namespace RefreshToken

/-- The row has expired, or its chain has reached its cutoff. -/
def isExpiredAt (row : RefreshToken) (now : Instant) : Bool :=
  row.expiresAt.le now || row.maxLifetime.any fun cutoff => cutoff.le now

/-- The row is neither revoked nor expired. -/
def isValidAt (row : RefreshToken) (now : Instant) : Bool := !row.revoked && !row.isExpiredAt now

/-- The token is an offline one. -/
def isOffline (row : RefreshToken) : Bool := row.type == .offline

/-- The row starts its chain. -/
def isChainHead (row : RefreshToken) : Bool := row.previousJti.isEmpty && row.firstJti == row.jti

/-- The JSON form of rows. -/
def record : Record RefreshToken where
  fields :=
    .cons (.required "id" Codec.integer) <|
    .cons (.required "codeId" Codec.integer) <|
    .cons (.required "refreshTokenJti" Codec.text) <|
    .cons (.required "firstRefreshTokenJti" Codec.text) <|
    .cons (.withDefault "previousRefreshTokenJti" Codec.text "") <|
    .cons (.required "refreshTokenType" RefreshTokenType.codec) <|
    .cons (.required "scope" Codec.text) <|
    .cons (.required "sessionIdentifier" Codec.text) <|
    .cons (.required "issuedAt" Instant.codec) <|
    .cons (.required "expiresAt" Instant.codec) <|
    .cons (.optional "maxLifetime" Instant.codec) <|
    .cons (.required "revoked" Codec.flag) .nil
  unpack r := (r.id, r.codeId, r.jti, r.firstJti, r.previousJti, r.type, r.scope,
    r.sessionIdentifier, r.issuedAt, r.expiresAt, r.maxLifetime, r.revoked, ())
  pack := fun (id, codeId, jti, firstJti, previousJti, type, scope, sessionIdentifier, issuedAt,
      expiresAt, maxLifetime, revoked, _) =>
    ⟨id, codeId, jti, firstJti, previousJti, type, scope, sessionIdentifier, issuedAt, expiresAt,
      maxLifetime, revoked⟩

end RefreshToken

end TokenAuthority
