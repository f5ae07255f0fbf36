import TokenAuthority.Json.Record
import TokenAuthority.Record.Scalar

/-!
# Users, groups and attributes

## Main definitions

* `Attribute` — a key with a value, and the tokens that show it.
* `Group` — a group of users with its attributes.
* `User` — an account with its profile; its groups and attributes are loaded on demand.
* `User.fullName`, `User.hasAddress` — what is derived from the profile.
-/

set_option autoImplicit false

namespace TokenAuthority

open Json

/-- A key with a value, attached to a user or a group. -/
structure Attribute where
  /-- The key. -/
  key : String
  /-- The value. -/
  value : String
  /-- ID tokens show it. -/
  inIdToken : Bool := true
  /-- Access tokens show it. -/
  inAccessToken : Bool := true
deriving DecidableEq

/-- The JSON form of attributes. -/
def Attribute.record : Record Attribute where
  fields :=
    .cons (.required "key" Codec.text) <|
    .cons (.required "value" Codec.text) <|
    .cons (.required "includeInIdToken" Codec.flag) <|
    .cons (.required "includeInAccessToken" Codec.flag) .nil
  unpack a := (a.key, a.value, a.inIdToken, a.inAccessToken, ())
  pack := fun (key, value, inIdToken, inAccessToken, _) => ⟨key, value, inIdToken, inAccessToken⟩

/-- A group of users. -/
structure Group where
  /-- The number under which it is stored. -/
  id : Int
  /-- The name that tokens show. -/
  identifier : String
  /-- ID tokens show it. -/
  inIdToken : Bool := true
  /-- Access tokens show it. -/
  inAccessToken : Bool := true
  /-- The attributes that its members have. -/
  attributes : List Attribute := []
deriving DecidableEq

/-- The JSON form of groups. -/
def Group.record : Record Group where
  fields :=
    .cons (.required "id" Codec.integer) <|
    .cons (.required "groupIdentifier" Codec.text) <|
    .cons (.required "includeInIdToken" Codec.flag) <|
    .cons (.required "includeInAccessToken" Codec.flag) <|
    .cons (.withDefault "attributes" Attribute.record.codec.listOf []) .nil
  unpack g := (g.id, g.identifier, g.inIdToken, g.inAccessToken, g.attributes, ())
  pack := fun (id, identifier, inIdToken, inAccessToken, attributes, _) =>
    ⟨id, identifier, inIdToken, inAccessToken, attributes⟩

/-- An account. -/
structure User where
  /-- The number under which it is stored. -/
  id : Int
  /-- The name that tokens show as their subject. -/
  subject : Uuid
  /-- It may be used. -/
  enabled : Bool := true
  /-- The login name. -/
  username : String
  givenName : String := ""
  middleName : String := ""
  familyName : String := ""
  nickname : String := ""
  website : String := ""
  gender : String := ""
  birthDate : Option Date := none
  zoneInfo : String := ""
  locale : String := ""
  email : String := ""
  emailVerified : Bool := false
  phoneNumber : String := ""
  phoneNumberVerified : Bool := false
  addressLine1 : String := ""
  addressLine2 : String := ""
  addressLocality : String := ""
  addressRegion : String := ""
  addressPostalCode : String := ""
  addressCountry : String := ""
  /-- When the profile was changed last. -/
  updatedAt : Option Instant := none
  /-- The groups that it is a member of. -/
  groups : List Group := []
  /-- Its own attributes. -/
  attributes : List Attribute := []
deriving DecidableEq

namespace User

/-- Given, middle and family name joined by blanks, without the empty ones. -/
def fullName (u : User) : String :=
  " ".intercalate ([u.givenName, u.middleName, u.familyName].filter (!·.isEmpty))

/-- Some part of the address is there. -/
def hasAddress (u : User) : Bool :=
  [u.addressLine1, u.addressLine2, u.addressLocality, u.addressRegion, u.addressPostalCode,
    u.addressCountry].any (!·.isEmpty)

/-- The JSON form of users. -/
def record : Record User where
  fields :=
    .cons (.required "id" Codec.integer) <|
    .cons (.required "subject" Uuid.codec) <|
    .cons (.required "enabled" Codec.flag) <|
    .cons (.required "username" Codec.text) <|
    .cons (.required "givenName" Codec.text) <|
    .cons (.required "middleName" Codec.text) <|
    .cons (.required "familyName" Codec.text) <|
    .cons (.required "nickname" Codec.text) <|
    .cons (.required "website" Codec.text) <|
    .cons (.required "gender" Codec.text) <|
    .cons (.withDefault "birthDate" Date.codec.nullable none) <|
    .cons (.required "zoneInfo" Codec.text) <|
    .cons (.required "locale" Codec.text) <|
    .cons (.required "email" Codec.text) <|
    .cons (.required "emailVerified" Codec.flag) <|
    .cons (.required "phoneNumber" Codec.text) <|
    .cons (.required "phoneNumberVerified" Codec.flag) <|
    .cons (.required "addressLine1" Codec.text) <|
    .cons (.required "addressLine2" Codec.text) <|
    .cons (.required "addressLocality" Codec.text) <|
    .cons (.required "addressRegion" Codec.text) <|
    .cons (.required "addressPostalCode" Codec.text) <|
    .cons (.required "addressCountry" Codec.text) <|
    .cons (.withDefault "updatedAt" Instant.codec.nullable none) <|
    .cons (.withDefault "groups" Group.record.codec.listOf []) <|
    .cons (.withDefault "attributes" Attribute.record.codec.listOf []) .nil
  unpack u := (u.id, u.subject, u.enabled, u.username, u.givenName, u.middleName, u.familyName,
    u.nickname, u.website, u.gender, u.birthDate, u.zoneInfo, u.locale, u.email, u.emailVerified,
    u.phoneNumber, u.phoneNumberVerified, u.addressLine1, u.addressLine2, u.addressLocality,
    u.addressRegion, u.addressPostalCode, u.addressCountry, u.updatedAt, u.groups, u.attributes, ())
  pack := fun (id, subject, enabled, username, givenName, middleName, familyName, nickname, website,
      gender, birthDate, zoneInfo, locale, email, emailVerified, phoneNumber, phoneNumberVerified,
      addressLine1, addressLine2, addressLocality, addressRegion, addressPostalCode, addressCountry,
      updatedAt, groups, attributes, _) =>
    ⟨id, subject, enabled, username, givenName, middleName, familyName, nickname, website, gender,
      birthDate, zoneInfo, locale, email, emailVerified, phoneNumber, phoneNumberVerified,
      addressLine1, addressLine2, addressLocality, addressRegion, addressPostalCode, addressCountry,
      updatedAt, groups, attributes⟩

end User

end TokenAuthority
