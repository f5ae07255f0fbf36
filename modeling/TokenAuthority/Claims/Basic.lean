import TokenAuthority.Claims.Audience
import TokenAuthority.Json.Record

/-!
# Claim sets

## Main definitions

* `TokenKind` — the `typ` claim.
* `RegisteredClaims` — the claims of every token.
* `AddressClaim` — the `address` claim; `AddressClaim.ofParts` builds it.
* `UserClaims` — the claims about a user.
* `IdClaims`, `AccessClaims`, `RefreshClaims` — the claim sets of the three tokens.
-/

set_option autoImplicit false

namespace TokenAuthority

open Json

/-- The kinds of tokens. -/
inductive TokenKind where
  | id
  | bearer
  | refresh
  | offline
deriving DecidableEq

namespace TokenKind

/-- The `typ` claim of a kind. -/
def text : TokenKind → String
  | .id => "ID"
  | .bearer => "Bearer"
  | .refresh => "Refresh"
  | .offline => "Offline"

/-- The JSON form: the name. -/
def codec : Codec TokenKind :=
  Codec.enumeration ([TokenKind.id, .bearer, .refresh, .offline].map fun k => (k.text, k)) text

end TokenKind

/-- The claims of every token. -/
structure RegisteredClaims where
  iss : String
  sub : String
  aud : Option Audience
  exp : Int
  iat : Int
  jti : String
deriving DecidableEq

/-- The JSON form of the claims of every token. -/
def RegisteredClaims.record : Record RegisteredClaims where
  fields :=
    .cons (.required "iss" Codec.text) <|
    .cons (.required "sub" Codec.text) <|
    .cons (.optional "aud" Audience.codec) <|
    .cons (.required "exp" Codec.integer) <|
    .cons (.required "iat" Codec.integer) <|
    .cons (.required "jti" Codec.text) .nil
  unpack c := (c.iss, c.sub, c.aud, c.exp, c.iat, c.jti, ())
  pack := fun (iss, sub, aud, exp, iat, jti, _) => ⟨iss, sub, aud, exp, iat, jti⟩

/-- The `address` claim. An empty part is not there. -/
structure AddressClaim where
  streetAddress : String := ""
  locality : String := ""
  region : String := ""
  postalCode : String := ""
  country : String := ""
  /-- The address as it stands on an envelope. -/
  formatted : String := ""
deriving DecidableEq

namespace AddressClaim

/-- What ends a line of an address. -/
def lineEnd : String := "\r\n"

/-- The claim of two street lines and the parts after them: the second line joins the first where it
is there, and the formatted address has one line for every part that is there. -/
def ofParts (line1 line2 locality region postalCode country : String) : AddressClaim :=
  let street := if line2.isEmpty then line1 else line1 ++ lineEnd ++ line2
  { streetAddress := street
    locality := locality
    region := region
    postalCode := postalCode
    country := country
    formatted :=
      lineEnd.intercalate ([street, locality, region, postalCode, country].filter (!·.isEmpty)) }

/-- The JSON form of the claim. -/
def record : Record AddressClaim where
  fields :=
    .cons (.optionalText "street_address") <|
    .cons (.optionalText "locality") <|
    .cons (.optionalText "region") <|
    .cons (.optionalText "postal_code") <|
    .cons (.optionalText "country") <|
    .cons (.optionalText "formatted") .nil
  unpack a := (a.streetAddress, a.locality, a.region, a.postalCode, a.country, a.formatted, ())
  pack := fun (street, locality, region, postalCode, country, formatted, _) =>
    ⟨street, locality, region, postalCode, country, formatted⟩

end AddressClaim

/-- The claims about a user; every one may be absent. -/
structure UserClaims where
  name : Option String := none
  givenName : Option String := none
  middleName : Option String := none
  familyName : Option String := none
  nickname : Option String := none
  preferredUsername : Option String := none
  profile : Option String := none
  website : Option String := none
  gender : Option String := none
  birthdate : Option String := none
  zoneinfo : Option String := none
  locale : Option String := none
  updatedAt : Option Int := none
  email : Option String := none
  emailVerified : Option Bool := none
  phoneNumber : Option String := none
  phoneNumberVerified : Option Bool := none
  address : Option AddressClaim := none
  groups : Option (List String) := none
  /-- The attributes in order, each key once. -/
  attributes : Option (List (String × String)) := none
deriving DecidableEq

/-- The JSON form of the claims about a user. -/
def UserClaims.record : Record UserClaims where
  fields :=
    .cons (.optional "name" Codec.text) <|
    .cons (.optional "given_name" Codec.text) <|
    .cons (.optional "middle_name" Codec.text) <|
    .cons (.optional "family_name" Codec.text) <|
    .cons (.optional "nickname" Codec.text) <|
    .cons (.optional "preferred_username" Codec.text) <|
    .cons (.optional "profile" Codec.text) <|
    .cons (.optional "website" Codec.text) <|
    .cons (.optional "gender" Codec.text) <|
    .cons (.optional "birthdate" Codec.text) <|
    .cons (.optional "zoneinfo" Codec.text) <|
    .cons (.optional "locale" Codec.text) <|
    .cons (.optional "updated_at" Codec.integer) <|
    .cons (.optional "email" Codec.text) <|
    .cons (.optional "email_verified" Codec.flag) <|
    .cons (.optional "phone_number" Codec.text) <|
    .cons (.optional "phone_number_verified" Codec.flag) <|
    .cons (.optional "address" AddressClaim.record.codec) <|
    .cons (.optional "groups" Codec.text.listOf) <|
    .cons (.optional "attributes" Codec.dictionary) .nil
  unpack c := (c.name, c.givenName, c.middleName, c.familyName, c.nickname, c.preferredUsername,
    c.profile, c.website, c.gender, c.birthdate, c.zoneinfo, c.locale, c.updatedAt, c.email,
    c.emailVerified, c.phoneNumber, c.phoneNumberVerified, c.address, c.groups, c.attributes, ())
  pack := fun (name, givenName, middleName, familyName, nickname, preferredUsername, profile,
      website, gender, birthdate, zoneinfo, locale, updatedAt, email, emailVerified, phoneNumber,
      phoneNumberVerified, address, groups, attributes, _) =>
    ⟨name, givenName, middleName, familyName, nickname, preferredUsername, profile, website, gender,
      birthdate, zoneinfo, locale, updatedAt, email, emailVerified, phoneNumber,
      phoneNumberVerified, address, groups, attributes⟩

/-- A record without members. -/
def noClaims : Record Unit := ⟨.nil, id, id⟩

/-- The claims of an ID token. -/
structure IdClaims where
  registered : RegisteredClaims
  typ : TokenKind
  nonce : String
  acr : String
  amr : String
  sid : String
  authTime : Int
  user : UserClaims
deriving DecidableEq

/-- The JSON form of ID claims. -/
def IdClaims.layered : Layered IdClaims where
  leading := RegisteredClaims.record
  own :=
    .cons (.required "typ" TokenKind.codec) <|
    .cons (.optionalText "nonce") <|
    .cons (.optionalText "acr") <|
    .cons (.optionalText "amr") <|
    .cons (.optionalText "sid") <|
    .cons (.required "auth_time" Codec.integer) .nil
  trailing := UserClaims.record
  unpack c := (c.registered, (c.typ, c.nonce, c.acr, c.amr, c.sid, c.authTime, ()), c.user)
  pack := fun (registered, (typ, nonce, acr, amr, sid, authTime, _), user) =>
    ⟨registered, typ, nonce, acr, amr, sid, authTime, user⟩

/-- The claims of an access token. A client that acts in its own name has no session. -/
structure AccessClaims where
  registered : RegisteredClaims
  typ : TokenKind
  scope : String
  sid : String
  acr : String
  amr : String
  authTime : Option Int
  user : UserClaims
deriving DecidableEq

/-- The JSON form of access claims. -/
def AccessClaims.layered : Layered AccessClaims where
  leading := RegisteredClaims.record
  own :=
    .cons (.required "typ" TokenKind.codec) <|
    .cons (.required "scope" Codec.text) <|
    .cons (.optionalText "sid") <|
    .cons (.optionalText "acr") <|
    .cons (.optionalText "amr") <|
    .cons (.optional "auth_time" Codec.integer) .nil
  trailing := UserClaims.record
  unpack c := (c.registered, (c.typ, c.scope, c.sid, c.acr, c.amr, c.authTime, ()), c.user)
  pack := fun (registered, (typ, scope, sid, acr, amr, authTime, _), user) =>
    ⟨registered, typ, scope, sid, acr, amr, authTime, user⟩

/-- The claims of a refresh token. -/
structure RefreshClaims where
  registered : RegisteredClaims
  typ : TokenKind
  sid : String
  scope : String
  /-- The cutoff of an offline chain, in seconds since 1970. -/
  offlineMaxLifetime : Option Int
deriving DecidableEq

/-- The JSON form of refresh claims. -/
def RefreshClaims.layered : Layered RefreshClaims where
  leading := RegisteredClaims.record
  own :=
    .cons (.required "typ" TokenKind.codec) <|
    .cons (.optionalText "sid") <|
    .cons (.required "scope" Codec.text) <|
    .cons (.optional "offline_access_max_lifetime" Codec.integer) .nil
  trailing := noClaims
  unpack c := (c.registered, (c.typ, c.sid, c.scope, c.offlineMaxLifetime, ()), ())
  pack := fun (registered, (typ, sid, scope, offlineMaxLifetime, _), _) =>
    ⟨registered, typ, sid, scope, offlineMaxLifetime⟩

end TokenAuthority
