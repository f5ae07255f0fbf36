import TokenAuthority.Json.Record

/-!
# Token responses

What a grant answers with: an access token, and where the grant has them an ID token and a refresh
token with their lifetimes.
-/

set_option autoImplicit false

namespace TokenAuthority

open Json

/-- The response to a grant. -/
structure TokenResponse where
  accessToken : String
  /-- The only type that is issued is `Bearer`. -/
  tokenType : String := "Bearer"
  idToken : Option String := none
  refreshToken : Option String := none
  /-- Seconds that the access token lives. -/
  expiresIn : Int
  /-- Seconds that the refresh token lives; zero without one. -/
  refreshExpiresIn : Int := 0
  scope : String
deriving DecidableEq

/-- The JSON form of responses. -/
def TokenResponse.record : Record TokenResponse where
  fields :=
    .cons (.required "access_token" Codec.text) <|
    .cons (.required "token_type" Codec.text) <|
    .cons (.optional "id_token" Codec.text) <|
    .cons (.optional "refresh_token" Codec.text) <|
    .cons (.required "expires_in" Codec.integer) <|
    .cons (.withDefault "refresh_expires_in" Codec.integer 0) <|
    .cons (.required "scope" Codec.text) .nil
  unpack r := (r.accessToken, r.tokenType, r.idToken, r.refreshToken, r.expiresIn,
    r.refreshExpiresIn, r.scope, ())
  pack := fun (accessToken, tokenType, idToken, refreshToken, expiresIn, refreshExpiresIn, scope,
      _) =>
    ⟨accessToken, tokenType, idToken, refreshToken, expiresIn, refreshExpiresIn, scope⟩

end TokenAuthority
