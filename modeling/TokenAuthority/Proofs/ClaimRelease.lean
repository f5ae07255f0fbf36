import Mathlib.Tactic.Lemma
import TokenAuthority.Claims.Builder

/-!
# What is released about a user

The claims about a user in a token tell no more about the user than the scope and the flags on
groups and attributes allow: two users that agree on the data that may be released are told apart by
no claim. The policy about access tokens has no part in ID tokens, and where it says no, nothing of
the user but the subject is in an access token.

## Main definitions

* `TokenAuthority.User.shownGroups`, `TokenAuthority.User.shownAttributes` — what a token may show
  of the groups and attributes of a user.
* `TokenAuthority.User.AgreesWith` — two users have the same data, as far as a scope releases it to
  a token.

## Main results

* `TokenAuthority.User.AgreesWith.userClaims_eq` — the claims about two such users are the same.
* `TokenAuthority.ClaimsBuilder.release` — the claims of ID and access tokens.
-/

set_option autoImplicit false

namespace TokenAuthority

/-! ## Data that may be released -/

/-- The keys and values of the attributes that are flagged for the token. -/
def Attribute.shown (target : ClaimTarget) (attributes : List Attribute) :
    List (String × String) :=
  (attributes.filter fun a => target.includes a.inIdToken a.inAccessToken).map fun a =>
    (a.key, a.value)

namespace User

/-- The identifiers of the groups that are flagged for the token, in order. -/
def shownGroups (target : ClaimTarget) (u : User) : List String :=
  (u.groups.filter fun g => target.includes g.inIdToken g.inAccessToken).map (·.identifier)

/-- The keys and values of the attributes that are flagged for the token: first those of the user,
then those of the groups in order. -/
def shownAttributes (target : ClaimTarget) (u : User) : List (String × String) :=
  Attribute.shown target u.attributes ++
    u.groups.flatMap fun g => Attribute.shown target g.attributes

/-- Two users have the same profile. -/
structure SameProfile (u v : User) : Prop where
  givenName : u.givenName = v.givenName
  middleName : u.middleName = v.middleName
  familyName : u.familyName = v.familyName
  nickname : u.nickname = v.nickname
  username : u.username = v.username
  website : u.website = v.website
  gender : u.gender = v.gender
  birthDate : u.birthDate = v.birthDate
  zoneInfo : u.zoneInfo = v.zoneInfo
  locale : u.locale = v.locale
  updatedAt : u.updatedAt = v.updatedAt

/-- Two users have the same address. -/
structure SameAddress (u v : User) : Prop where
  line1 : u.addressLine1 = v.addressLine1
  line2 : u.addressLine2 = v.addressLine2
  locality : u.addressLocality = v.addressLocality
  region : u.addressRegion = v.addressRegion
  postalCode : u.addressPostalCode = v.addressPostalCode
  country : u.addressCountry = v.addressCountry

/-- Two users have the same data, as far as the scope releases it to the token. -/
structure AgreesWith (scope : ResolvedScope) (target : ClaimTarget) (u v : User) : Prop where
  profile : scope.has .profile = true → u.SameProfile v
  email : scope.has .email = true → u.email = v.email ∧ u.emailVerified = v.emailVerified
  phone : scope.has .phone = true →
    u.phoneNumber = v.phoneNumber ∧ u.phoneNumberVerified = v.phoneNumberVerified
  address : scope.has .address = true → u.SameAddress v
  groups : scope.has .groups = true → u.shownGroups target = v.shownGroups target
  attributes : scope.has .attributes = true → u.shownAttributes target = v.shownAttributes target

end User

/-! ## Claims about a user -/

section UserClaims

variable {settings : Settings} {scope : ResolvedScope} {target : ClaimTarget} {u v : User}

/-- The groups in a token are those that it may show. -/
lemma releasedGroups_eq (target : ClaimTarget) (u : User) :
    releasedGroups target u = u.shownGroups target := rfl

/-- The attributes in a token are those that it may show. -/
lemma releasedAttributes_eq (target : ClaimTarget) (u : User) :
    releasedAttributes target u = u.shownAttributes target := by
  rw [releasedAttributes, List.filter_append, List.map_append, List.filter_flatMap,
    List.map_flatMap]
  rfl

/-- The same profile has the same full name. -/
lemma User.SameProfile.fullName (h : u.SameProfile v) : u.fullName = v.fullName := by
  rw [User.fullName, User.fullName, h.givenName, h.middleName, h.familyName]

/-- The same address is an address for both users or for none. -/
lemma User.SameAddress.hasAddress (h : u.SameAddress v) : u.hasAddress = v.hasAddress := by
  rw [User.hasAddress, User.hasAddress, h.line1, h.line2, h.locality, h.region, h.postalCode,
    h.country]

/-- The same address makes the same claim. -/
lemma User.SameAddress.claim_eq (h : u.SameAddress v) :
    (if u.hasAddress then
      some (AddressClaim.ofParts u.addressLine1 u.addressLine2 u.addressLocality u.addressRegion
        u.addressPostalCode u.addressCountry)
    else none) =
    if v.hasAddress then
      some (AddressClaim.ofParts v.addressLine1 v.addressLine2 v.addressLocality v.addressRegion
        v.addressPostalCode v.addressCountry)
    else none := by
  rw [h.hasAddress, h.line1, h.line2, h.locality, h.region, h.postalCode, h.country]

/-- Users that agree on the data that may be released have the same claims.

**Proof sketch.** Every claim stands behind the gate of its scope. Where the gate is closed, the
claim is absent for both users; where it is open, the claim is computed from data on which they
agree. -/
theorem User.AgreesWith.userClaims_eq (h : u.AgreesWith scope target v) (settings : Settings) :
    userClaims settings u scope target = userClaims settings v scope target := by
  have hgate {α : Type} (s : OidcScope) {x y : Option α} (hxy : scope.has s = true → x = y) :
      (if scope.has s then x else none) = if scope.has s then y else none :=
    ite_congr rfl hxy fun _ => rfl
  have hprofile {α : Type} {x y : Option α} (hxy : u.SameProfile v → x = y) :
      (if scope.has .profile then x else none) = if scope.has .profile then y else none :=
    hgate .profile fun hs => hxy (h.profile hs)
  rw [userClaims, userClaims, UserClaims.mk.injEq]
  refine ⟨hprofile fun hp => ?ofName, hprofile fun hp => ?ofGiven, hprofile fun hp => ?ofMiddle,
    hprofile fun hp => ?ofFamily, hprofile fun hp => ?ofNickname, hprofile fun hp => ?ofUsername,
    rfl, hprofile fun hp => ?ofWebsite, hprofile fun hp => ?ofGender,
    hprofile fun hp => ?ofBirthdate, hprofile fun hp => ?ofZoneinfo,
    hprofile fun hp => ?ofLocale, hprofile fun hp => ?ofUpdated,
    hgate .email fun hs => ?ofEmail, hgate .email fun hs => ?ofEmailVerified,
    hgate .phone fun hs => ?ofPhone, hgate .phone fun hs => ?ofPhoneVerified,
    hgate .address fun hs => ?ofAddress, hgate .groups fun hs => ?ofGroups,
    hgate .attributes fun hs => ?ofAttributes⟩
  case ofName => rw [hp.fullName]
  case ofGiven => rw [hp.givenName]
  case ofMiddle => rw [hp.middleName]
  case ofFamily => rw [hp.familyName]
  case ofNickname => rw [hp.nickname]
  case ofUsername => rw [hp.username]
  case ofWebsite => rw [hp.website]
  case ofGender => rw [hp.gender]
  case ofBirthdate => rw [hp.birthDate]
  case ofZoneinfo => rw [hp.zoneInfo]
  case ofLocale => rw [hp.locale]
  case ofUpdated => rw [hp.updatedAt]
  case ofEmail => rw [(h.email hs).1]
  case ofEmailVerified => rw [(h.email hs).2]
  case ofPhone => rw [(h.phone hs).1]
  case ofPhoneVerified => rw [(h.phone hs).2]
  case ofAddress => exact (h.address hs).claim_eq
  case ofGroups => rw [releasedGroups_eq, releasedGroups_eq, h.groups hs]
  case ofAttributes => rw [releasedAttributes_eq, releasedAttributes_eq, h.attributes hs]

end UserClaims

/-! ## Tokens -/

/-- What the tokens of a grant tell about a user. The claims in a token are the same for two users
that agree on the data that the scope releases to the token. ID and access tokens have the same
claims about a user, but for groups and attributes. There is an ID token exactly if `openid` is
granted, and what the client or the server say about claims in access tokens does not matter for it.
Where they say no, no claim about the user is in an access token, and the access token of another
user differs in its subject and its identifier only. -/
theorem ClaimsBuilder.release (b : ClaimsBuilder) :
    (∀ scope target u v, User.AgreesWith scope target u v →
      userClaims b.settings u scope target = userClaims b.settings v scope target) ∧
    (∀ u scope,
      { userClaims b.settings u scope .accessToken with groups := none, attributes := none } =
        { userClaims b.settings u scope .idToken with groups := none, attributes := none }) ∧
    (∀ ctx expiresAt jti, b.idToken? ctx expiresAt jti = none ↔ ctx.scope.has .openid = false) ∧
    (∀ ctx expiresAt jti client server,
      (ClaimsBuilder.mk { b.settings with claimsInAccessToken := server } b.now).idToken?
          { ctx with client := { ctx.client with claimsInAccessToken := client } } expiresAt jti =
        b.idToken? ctx expiresAt jti) ∧
    ∀ ctx expiresAt jti, ctx.client.includesUserClaims b.settings = false →
      (b.accessToken ctx expiresAt jti).user = {} ∧
      ∀ user jti', b.accessToken { ctx with user := user } expiresAt jti' =
        { b.accessToken ctx expiresAt jti with
          registered := { (b.accessToken ctx expiresAt jti).registered with
            sub := user.subject.text
            jti := jti' } } := by
  refine ⟨fun scope target u v h => h.userClaims_eq b.settings, fun u scope => rfl,
    fun ctx expiresAt jti => ?_, fun ctx expiresAt jti client server => rfl,
    fun ctx expiresAt jti hpolicy => ⟨?_, fun user jti' => ?_⟩⟩
  · rw [idToken?]
    cases ctx.scope.has .openid <;> simp
  · exact if_neg (by simp [hpolicy])
  · simp [accessToken, hpolicy, registered]

end TokenAuthority
