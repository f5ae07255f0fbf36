import TokenAuthority.Jwt.Error

/-!
# Errors of the grants

## Main definitions

* `AuthErrorKind` — the kinds of error that a caller tells apart: their wording, their OAuth code,
  their category, and on which side they lie.
* `AuthError` — an error of a grant or of the store, by its cause.
-/

set_option autoImplicit false

namespace TokenAuthority

/-- The kinds of error of the grants. -/
inductive AuthErrorKind where
  | invalidScope
  | invalidRequest
  | invalidGrant
  | invalidClient
  | refreshTokenReused
  | tokenRevoked
  | storage
  | configuration
  | internal
deriving DecidableEq

namespace AuthErrorKind

/-- All kinds. -/
def all : List AuthErrorKind :=
  [.invalidScope, .invalidRequest, .invalidGrant, .invalidClient, .refreshTokenReused,
    .tokenRevoked, .storage, .configuration, .internal]

/-- The name of a kind. -/
def name : AuthErrorKind → String
  | .invalidScope => "InvalidScope"
  | .invalidRequest => "InvalidRequest"
  | .invalidGrant => "InvalidGrant"
  | .invalidClient => "InvalidClient"
  | .refreshTokenReused => "RefreshTokenReused"
  | .tokenRevoked => "TokenRevoked"
  | .storage => "Storage"
  | .configuration => "Configuration"
  | .internal => "Internal"

/-- The wording of a kind with a detail; a revoked token has none. -/
def display (kind : AuthErrorKind) (detail : String) : String :=
  match kind with
  | .invalidScope => "invalid scope: " ++ detail
  | .invalidRequest => "Invalid request: " ++ detail
  | .invalidGrant => "Invalid grant: " ++ detail
  | .invalidClient => "Invalid client: " ++ detail
  | .refreshTokenReused => "Refresh token reused: " ++ detail
  | .tokenRevoked => "Token revoked"
  | .storage => "Storage error: " ++ detail
  | .configuration => "Configuration error: " ++ detail
  | .internal => "Internal error: " ++ detail

/-- The OAuth 2.0 error code of a kind. -/
def oauthCode : AuthErrorKind → String
  | .invalidScope => "invalid_scope"
  | .invalidRequest => "invalid_request"
  | .invalidGrant | .refreshTokenReused | .tokenRevoked => "invalid_grant"
  | .invalidClient => "invalid_client"
  | .storage | .configuration | .internal => "server_error"

/-- The category under which a kind is logged. -/
def category : AuthErrorKind → String
  | .invalidScope => "authorization"
  | .invalidRequest => "validation"
  | .invalidGrant | .invalidClient => "authentication"
  | .refreshTokenReused | .tokenRevoked => "token"
  | .storage => "infrastructure"
  | .configuration => "configuration"
  | .internal => "internal"

/-- The fault lies with the request and not with the server. -/
def isClientError : AuthErrorKind → Bool
  | .storage | .configuration | .internal => false
  | _ => true

end AuthErrorKind

/-- The grants that a client may be barred from. -/
inductive BarredGrant where
  | authorizationCode
  | clientCredentials
deriving DecidableEq

/-- A barred grant in words. -/
def BarredGrant.text : BarredGrant → String
  | .authorizationCode => "authorization code"
  | .clientCredentials => "client credentials"

/-- An error of a grant or of the store. -/
inductive AuthError where
  /-- A token of a scope is none of the known kinds, or is not in the scope granted before. -/
  | invalidScope (token : String)
  /-- A client asks for nothing in its own name. -/
  | scopeRequired
  /-- The presented token is not the one of the stored row. -/
  | tokenMismatch
  /-- The stored row has expired. -/
  | tokenExpired
  /-- An offline token has not been used for too long. -/
  | offlineIdle
  /-- The cutoff of an offline chain has been reached. -/
  | offlineCutoff
  /-- A window of the user session has closed. -/
  | sessionExpired
  /-- No code of this value is stored. -/
  | codeUnknown
  /-- The code has been exchanged before. -/
  | codeUsed
  /-- The client is disabled. -/
  | clientDisabled (identifier : String)
  /-- The client is not allowed the grant. -/
  | grantNotAllowed (identifier : String) (grant : BarredGrant)
  /-- A refresh token that has a successor was presented again. -/
  | tokenReused (jti : String)
  /-- The refresh token has been revoked. -/
  | tokenRevoked
  /-- The client of a code is not stored. -/
  | codeClientMissing (client code : Int)
  /-- The user of a code is not stored. -/
  | codeUserMissing (user code : Int)
  /-- The session of a code is not stored. -/
  | sessionMissing (identifier : String)
  /-- There is no signing key. -/
  | signingKeyMissing
  /-- Another row replaces the same row already. -/
  | alreadyRotated (jti : String)
  /-- A row of this token is stored already. -/
  | tokenExists (jti : String)
  /-- A code of this value is stored already. -/
  | codeExists
  /-- The user is not stored. -/
  | userMissing (user : Int)
  /-- The group is not stored. -/
  | groupMissing (group : Int)
  /-- An expiry lies beyond the representable instants. -/
  | lifetimeOutOfRange (seconds : Int)
  /-- A token cannot be signed. -/
  | signing (cause : JwtError)
  /-- The client of a code has not been loaded. -/
  | clientNotLoaded (code : Int)
  /-- The user of a code has not been loaded. -/
  | userNotLoaded (code : Int)
deriving DecidableEq

namespace AuthError

/-- The kind of an error. -/
def kind : AuthError → AuthErrorKind
  | .invalidScope _ => .invalidScope
  | .scopeRequired => .invalidRequest
  | .tokenMismatch | .tokenExpired | .offlineIdle | .offlineCutoff | .sessionExpired
  | .codeUnknown | .codeUsed => .invalidGrant
  | .clientDisabled _ | .grantNotAllowed _ _ => .invalidClient
  | .tokenReused _ => .refreshTokenReused
  | .tokenRevoked => .tokenRevoked
  | .codeClientMissing _ _ | .codeUserMissing _ _ | .sessionMissing _ | .signingKeyMissing
  | .alreadyRotated _ | .tokenExists _ | .codeExists | .userMissing _ | .groupMissing _ => .storage
  | .lifetimeOutOfRange _ => .configuration
  | .signing _ | .clientNotLoaded _ | .userNotLoaded _ => .internal

/-- What an error adds to the wording of its kind. -/
def detail : AuthError → String
  | .invalidScope token => token
  | .scopeRequired => "scope is required for the client credentials grant"
  | .tokenMismatch => "refresh token does not match the stored record"
  | .tokenExpired => "refresh token has expired"
  | .offlineIdle => "offline refresh token has been idle for too long"
  | .offlineCutoff => "offline refresh token has reached its max lifetime"
  | .sessionExpired => "user session has expired"
  | .codeUnknown => "authorization code not found"
  | .codeUsed => "authorization code has already been used"
  | .clientDisabled identifier => "client '" ++ identifier ++ "' is disabled"
  | .grantNotAllowed identifier grant =>
    "client '" ++ identifier ++ "' is not allowed the " ++ grant.text ++ " grant"
  | .tokenReused jti => jti
  | .tokenRevoked => ""
  | .codeClientMissing client code =>
    "client " ++ toString client ++ " of code " ++ toString code ++ " not found"
  | .codeUserMissing user code =>
    "user " ++ toString user ++ " of code " ++ toString code ++ " not found"
  | .sessionMissing identifier => "user session '" ++ identifier ++ "' not found"
  | .signingKeyMissing => "no current signing key"
  | .alreadyRotated jti => "refresh token " ++ jti ++ " has already been rotated"
  | .tokenExists jti => "refresh token " ++ jti ++ " already exists"
  | .codeExists => "authorization code already exists"
  | .userMissing user => "user " ++ toString user ++ " not found"
  | .groupMissing group => "group " ++ toString group ++ " not found"
  | .lifetimeOutOfRange seconds =>
    "token lifetime of " ++ toString seconds ++ "s is out of range"
  | .signing cause => "failed to sign token: " ++ cause.message
  | .clientNotLoaded code => "client not loaded for code " ++ toString code
  | .userNotLoaded code => "user not loaded for code " ++ toString code

/-- The wording of an error. -/
def message (e : AuthError) : String := e.kind.display e.detail

end AuthError

end TokenAuthority
