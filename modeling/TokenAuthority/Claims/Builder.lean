import TokenAuthority.Claims.Basic
import TokenAuthority.Record.Client
import TokenAuthority.Record.RefreshToken
import TokenAuthority.Record.User
import TokenAuthority.Scope.Resolved

/-!
# Claims of the tokens of a grant

## Main definitions

* `ClaimTarget` — the token that claims about a user are meant for.
* `userClaims` — the claims about a user that a scope releases to a token.
* `GrantContext` — what a grant for a user puts into its tokens.
* `ClaimsBuilder` — settings and an instant, cut to whole seconds; its functions build the claims of
  the four kinds of tokens.

## Design

Identifiers of tokens are arguments: which ones are drawn is for the caller to decide.
-/

set_option autoImplicit false

namespace TokenAuthority

/-- The tokens that show claims about a user. -/
inductive ClaimTarget where
  | idToken
  | accessToken
deriving DecidableEq

/-- The flag that belongs to a token. -/
def ClaimTarget.includes (target : ClaimTarget) (inIdToken inAccessToken : Bool) : Bool :=
  match target with
  | .idToken => inIdToken
  | .accessToken => inAccessToken

/-- A text, unless it is empty. -/
def nonEmpty? (s : String) : Option String := if s.isEmpty then none else some s

/-- A list, unless it is empty. -/
def nonEmptyList? {α : Type} (xs : List α) : Option (List α) := if xs.isEmpty then none else some xs

/-- A date as year, month and day. -/
def Date.text (d : Date) : String :=
  let (month, day) := monthAndDay (isLeapYear d.year) d.ordinal
  let sign := if d.year < 0 then ['-'] else []
  String.ofList (sign ++ fixedDigits 4 d.year.natAbs ++ '-' :: (fixedDigits 2 month ++ '-' ::
    fixedDigits 2 day))

/-- A text without the slashes at its end. -/
def dropLastSlashes (s : String) : String :=
  String.ofList (s.toList.reverse.dropWhile (· == '/')).reverse

/-- The address of the page on which a user sees the account. -/
def profileUrl (issuer : String) : String := dropLastSlashes issuer ++ "/account/profile"

/-- Entries with the value of the first one for every key. -/
def firstEntries (entries : List (String × String)) : List (String × String) :=
  entries.foldl (fun seen e => if seen.any (·.1 == e.1) then seen else seen ++ [e]) []

/-- The groups of a user that a token shows. -/
def releasedGroups (target : ClaimTarget) (user : User) : List String :=
  (user.groups.filter fun g => target.includes g.inIdToken g.inAccessToken).map (·.identifier)

/-- The attributes that a token shows: those of the user, then those of the groups in order. -/
def releasedAttributes (target : ClaimTarget) (user : User) : List (String × String) :=
  let all := user.attributes ++ user.groups.flatMap (·.attributes)
  (all.filter fun a => target.includes a.inIdToken a.inAccessToken).map fun a => (a.key, a.value)

/-- The claims about a user that a scope releases to a token. -/
def userClaims (settings : Settings) (user : User) (scope : ResolvedScope) (target : ClaimTarget) :
    UserClaims :=
  let given {α : Type} (s : OidcScope) (claim : Option α) : Option α :=
    if scope.has s then claim else none
  { name := given .profile (nonEmpty? user.fullName)
    givenName := given .profile (nonEmpty? user.givenName)
    middleName := given .profile (nonEmpty? user.middleName)
    familyName := given .profile (nonEmpty? user.familyName)
    nickname := given .profile (nonEmpty? user.nickname)
    preferredUsername := given .profile (nonEmpty? user.username)
    profile := given .profile (some (profileUrl settings.issuer))
    website := given .profile (nonEmpty? user.website)
    gender := given .profile (nonEmpty? user.gender)
    birthdate := given .profile (user.birthDate.map Date.text)
    zoneinfo := given .profile (nonEmpty? user.zoneInfo)
    locale := given .profile (nonEmpty? user.locale)
    updatedAt := given .profile (user.updatedAt.map Instant.unixSeconds)
    email := given .email (nonEmpty? user.email)
    emailVerified := given .email (some user.emailVerified)
    phoneNumber := given .phone (nonEmpty? user.phoneNumber)
    phoneNumberVerified := given .phone (some user.phoneNumberVerified)
    address := given .address
      (if user.hasAddress then
        some (AddressClaim.ofParts user.addressLine1 user.addressLine2 user.addressLocality
          user.addressRegion user.addressPostalCode user.addressCountry)
      else none)
    groups := given .groups (nonEmptyList? (releasedGroups target user))
    attributes :=
      given .attributes (nonEmptyList? (firstEntries (releasedAttributes target user))) }

/-- What a grant for a user puts into its tokens. -/
structure GrantContext where
  client : Client
  user : User
  scope : ResolvedScope
  sessionIdentifier : String
  nonce : String
  acrLevel : String
  authMethods : String
  authenticatedAt : Instant

/-- Settings and the instant, in whole seconds, at which tokens are issued. -/
structure ClaimsBuilder where
  settings : Settings
  now : Instant

namespace ClaimsBuilder

/-- A builder for an instant, which is cut to whole seconds. -/
def ofInstant (settings : Settings) (now : Instant) : ClaimsBuilder := ⟨settings, now.wholeSecond⟩

/-- The claims of every token. -/
def registered (b : ClaimsBuilder) (subject : String) (aud : Option Audience) (expiresAt : Instant)
    (jti : String) : RegisteredClaims where
  iss := b.settings.issuer
  sub := subject
  aud := aud
  exp := expiresAt.unixSeconds
  iat := b.now.unixSeconds
  jti := jti

/-- The claims of an ID token, if `openid` is granted. -/
def idToken? (b : ClaimsBuilder) (ctx : GrantContext) (expiresAt : Instant) (jti : String) :
    Option IdClaims :=
  if ctx.scope.has .openid then
    some {
      registered := b.registered ctx.user.subject.text (some (.single ctx.client.identifier))
        expiresAt jti
      typ := .id
      nonce := ctx.nonce
      acr := ctx.acrLevel
      amr := ctx.authMethods
      sid := ctx.sessionIdentifier
      authTime := ctx.authenticatedAt.unixSeconds
      user := userClaims b.settings ctx.user ctx.scope .idToken }
  else none

/-- The claims of an access token for a user. -/
def accessToken (b : ClaimsBuilder) (ctx : GrantContext) (expiresAt : Instant) (jti : String) :
    AccessClaims where
  registered := b.registered ctx.user.subject.text ctx.scope.audience? expiresAt jti
  typ := .bearer
  scope := ctx.scope.text
  sid := ctx.sessionIdentifier
  acr := ctx.acrLevel
  amr := ctx.authMethods
  authTime := some ctx.authenticatedAt.unixSeconds
  user :=
    if ctx.client.includesUserClaims b.settings then
      userClaims b.settings ctx.user ctx.scope .accessToken
    else {}

/-- The claims of an access token for a client in its own name. -/
def clientAccessToken (b : ClaimsBuilder) (client : Client) (scope : ResolvedScope)
    (expiresAt : Instant) (jti : String) : AccessClaims where
  registered := b.registered client.identifier scope.audience? expiresAt jti
  typ := .bearer
  scope := scope.text
  sid := ""
  acr := ""
  amr := ""
  authTime := none
  user := {}

/-- The claims of a refresh token. Offline tokens carry the cutoff of their chain. -/
def refreshToken (b : ClaimsBuilder) (ctx : GrantContext) (type : RefreshTokenType)
    (expiresAt : Instant) (cutoff : Option Instant) (jti : String) : RefreshClaims where
  registered := b.registered ctx.user.subject.text (some (.single b.settings.issuer)) expiresAt jti
  typ := match type with
    | .refresh => .refresh
    | .offline => .offline
  sid := ctx.sessionIdentifier
  scope := ctx.scope.text
  offlineMaxLifetime := match type with
    | .refresh => none
    | .offline => cutoff.map Instant.unixSeconds

end ClaimsBuilder

end TokenAuthority
