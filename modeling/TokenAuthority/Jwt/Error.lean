/-!
# Errors of signed tokens

## Main definitions

* `JoseFault` — what can be wrong with a signed token or a key, at the level of the JOSE formats.
* `JwtErrorKind` — the kinds of error that a caller tells apart, with their wording.
* `JwtError` — an error of reading or writing a token, by its cause.
* `JoseFault.toJwtError` — the error that a fault is reported as.
-/

set_option autoImplicit false

namespace TokenAuthority

/-- A fault of a signed token or of a key in the JOSE formats. -/
inductive JoseFault where
  | invalidToken
  | invalidSignature
  | invalidEcdsaKey
  | invalidEddsaKey
  | invalidRsaKey (detail : String)
  | rsaFailedSigning
  | invalidAlgorithmName
  | invalidKeyFormat
  | missingRequiredClaim (claim : String)
  | invalidClaimFormat (claim : String)
  | expiredSignature
  | invalidIssuer
  | invalidAudience
  | invalidSubject
  | immatureSignature
  | invalidAlgorithm
  | missingAlgorithm
  | base64
  | json
  | utf8
deriving DecidableEq

/-- The wording of a fault: its name where nothing is to be added. -/
def JoseFault.text : JoseFault → String
  | .invalidToken => "InvalidToken"
  | .invalidSignature => "InvalidSignature"
  | .invalidEcdsaKey => "InvalidEcdsaKey"
  | .invalidEddsaKey => "InvalidEddsaKey"
  | .invalidRsaKey detail => "RSA key invalid: " ++ detail
  | .rsaFailedSigning => "RsaFailedSigning"
  | .invalidAlgorithmName => "InvalidAlgorithmName"
  | .invalidKeyFormat => "InvalidKeyFormat"
  | .missingRequiredClaim claim => "Missing required claim: " ++ claim
  | .invalidClaimFormat claim => "Invalid format for claim: " ++ claim
  | .expiredSignature => "ExpiredSignature"
  | .invalidIssuer => "InvalidIssuer"
  | .invalidAudience => "InvalidAudience"
  | .invalidSubject => "InvalidSubject"
  | .immatureSignature => "ImmatureSignature"
  | .invalidAlgorithm => "InvalidAlgorithm"
  | .missingAlgorithm => "MissingAlgorithm"
  | .base64 => "Base64 error"
  | .json => "JSON error"
  | .utf8 => "UTF-8 error"

/-- The kinds of error of signed tokens. -/
inductive JwtErrorKind where
  | expired
  | missingClaim
  | invalidSignature
  | malformed
  | invalidKey
  | encoding
deriving DecidableEq

namespace JwtErrorKind

/-- The name of a kind. -/
def name : JwtErrorKind → String
  | .expired => "Expired"
  | .missingClaim => "MissingClaim"
  | .invalidSignature => "InvalidSignature"
  | .malformed => "Malformed"
  | .invalidKey => "InvalidKey"
  | .encoding => "EncodingError"

/-- All kinds. -/
def all : List JwtErrorKind :=
  [.expired, .missingClaim, .invalidSignature, .malformed, .invalidKey, .encoding]

/-- What the wording of a kind starts with. -/
def heading : JwtErrorKind → String
  | .expired => "Token expired"
  | .missingClaim => "Missing required claim"
  | .invalidSignature => "Invalid signature"
  | .malformed => "Malformed token"
  | .invalidKey => "Invalid key"
  | .encoding => "Failed to encode token"

/-- The wording of a kind with a detail; two of the kinds have none. -/
def display (kind : JwtErrorKind) (detail : String) : String :=
  match kind with
  | .expired | .invalidSignature => kind.heading
  | kind => kind.heading ++ ": " ++ detail

/-- The token was read but is not to be accepted. -/
def isValidation : JwtErrorKind → Bool
  | .expired | .invalidSignature | .missingClaim => true
  | .malformed | .invalidKey | .encoding => false

end JwtErrorKind

/-- An error of reading or writing a signed token. -/
inductive JwtError where
  /-- The expiry of the token has passed. -/
  | expired
  /-- A claim that is needed is absent. -/
  | missingClaim (claim : String)
  /-- The signature does not verify. -/
  | invalidSignature
  /-- The token is not formed as it has to be. -/
  | malformed (fault : JoseFault)
  /-- The claims are not those of the type asked for. -/
  | mistyped
  /-- The key cannot be used. -/
  | invalidKey
  /-- The key does not sign. -/
  | unsigned
deriving DecidableEq

namespace JwtError

/-- The kind of an error. -/
def kind : JwtError → JwtErrorKind
  | .expired => .expired
  | .missingClaim _ => .missingClaim
  | .invalidSignature => .invalidSignature
  | .malformed _ | .mistyped => .malformed
  | .invalidKey => .invalidKey
  | .unsigned => .encoding

/-- The wording of an error. -/
def message (e : JwtError) : String :=
  match e with
  | .missingClaim claim => e.kind.display claim
  | .malformed fault => e.kind.display fault.text
  | _ => e.kind.heading

/-- The token was read but is not to be accepted. -/
def isValidation (e : JwtError) : Bool := e.kind.isValidation

end JwtError

/-- The error that a fault is reported as. -/
def JoseFault.toJwtError : JoseFault → JwtError
  | .expiredSignature => .expired
  | .invalidSignature => .invalidSignature
  | .missingRequiredClaim claim => .missingClaim claim
  | .invalidRsaKey _ | .invalidKeyFormat => .invalidKey
  | fault => .malformed fault

end TokenAuthority
