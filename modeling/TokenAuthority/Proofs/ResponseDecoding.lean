import Mathlib.Tactic.Lemma
import TokenAuthority.Proofs.TokenRoundTrip

/-!
# Responses are decoded

The tokens of a response are decoded with the public half of the key that has signed them, all of them
or none: as long as no token that is there has expired, each one gives back the claims that it was
signed with, and from then on the response is reported as expired.

## Main definitions

* `TokenAuthority.TokenClaims` — the claims of the tokens of a response;
  `TokenAuthority.TokenClaims.SignedInto` — a response carries them.
* `TokenAuthority.TokenClaims.isAliveAt` — none of the tokens has expired.
* `TokenAuthority.DecodedResponse.Carries` — the decoded tokens give the claims back.

## Main results

* `TokenAuthority.TokenClaims.exists_decodedResponse` — when a response is decoded, and what for.
-/

set_option autoImplicit false

namespace TokenAuthority

open Json Value

/-- The claims of the tokens of a response. -/
structure TokenClaims where
  access : AccessClaims
  identity : Option IdClaims
  refresh : Option RefreshClaims

namespace TokenClaims

/-- The registered claims of each token. -/
def registered (claims : TokenClaims) : List RegisteredClaims :=
  claims.access.registered :: ((claims.identity.map IdClaims.registered).toList ++
    (claims.refresh.map RefreshClaims.registered).toList)

/-- None of the tokens has expired: the seconds begun are not beyond any `exp`. -/
def isAliveAt (claims : TokenClaims) (now : Instant) : Bool :=
  claims.registered.all fun c => now.unixSeconds ≤ c.exp

/-- The tokens of a response carry the claims, signed with the key, and no others. -/
structure SignedInto (claims : TokenClaims) (key : SigningKey) (response : TokenResponse) :
    Prop where
  access : key.sign (AccessClaims.layered.codec.write claims.access) = .ok response.accessToken
  identity : Option.Rel (fun (c : IdClaims) token =>
    key.sign (IdClaims.layered.codec.write c) = .ok token) claims.identity response.idToken
  refresh : Option.Rel (fun (c : RefreshClaims) token =>
    key.sign (RefreshClaims.layered.codec.write c) = .ok token) claims.refresh response.refreshToken

/-- The integers of the claims fit 64 bits, no attribute has two values, and nothing has expired before
1970. -/
structure Representable (claims : TokenClaims) : Prop where
  access : claims.access.Representable
  identity : ∀ c ∈ claims.identity, c.Representable
  refresh : ∀ c ∈ claims.refresh, c.Representable
  expiry : ∀ c ∈ claims.registered, 0 ≤ c.exp

end TokenClaims

/-- The decoded response has the tokens of the response, each of them or none where the response has
none, and their claims are read as those claim sets, with the attributes of a user in any order. -/
structure DecodedResponse.Carries (info : DecodedResponse) (claims : TokenClaims)
    (response : TokenResponse) : Prop where
  original : info.response = response
  accessToken : info.access.map Jwt.token = some response.accessToken
  idToken : info.identity.map Jwt.token = response.idToken
  refreshToken : info.refresh.map Jwt.token = response.refreshToken
  access : Option.Rel (fun (jwt : Jwt) c =>
    ∃ d, jwt.claimsAs AccessClaims.layered.codec = .ok d ∧ d.SameAs c) info.access (some claims.access)
  identity : Option.Rel (fun (jwt : Jwt) c =>
    ∃ d, jwt.claimsAs IdClaims.layered.codec = .ok d ∧ d.SameAs c) info.identity claims.identity
  refresh : Option.Rel (fun (jwt : Jwt) c =>
    jwt.claimsAs RefreshClaims.layered.codec = .ok c) info.refresh claims.refresh

/-! ## Tokens that may be absent -/

/-- The token, if there is one, is decoded with the key until its expiry, and reported as expired
afterwards. -/
def DecodesPresentUntil (token : Option String) (publicKey : Rsa.PublicKey) (seconds : Option Int)
    (jwt : Option Jwt) : Prop :=
  ∀ now : Instant, decodePresent token publicKey now =
    if seconds.all (now.unixSeconds ≤ ·) then .ok jwt else .error .expired

/-- A token that carries a claim set is decoded until the claims expire, and an absent one is passed
over. -/
theorem exists_decodedPresent {σ : Type} {l : Layered σ} (same : σ → σ → Prop)
    {registered : σ → RegisteredClaims} {k : SigningKey} {publicKey : Rsa.PublicKey}
    (hmatches : k.Matches publicKey) {claims : Option σ} {token : Option String}
    (hsigned : Option.Rel (fun c t => k.sign (l.codec.write c) = .ok t) claims token)
    (hsurvives : ∀ c ∈ claims, ∃ d, same d c ∧ l.codec.Survives .memory canonical 2 c d)
    (hexp : ∀ c, ExpiresAt (l.members c) (registered c).exp)
    (hpos : ∀ c ∈ claims, 0 ≤ (registered c).exp) :
    ∃ jwt : Option Jwt, jwt.map Jwt.token = token ∧
      Option.Rel (fun (j : Jwt) c => ∃ d, j.claimsAs l.codec = .ok d ∧ same d c) jwt claims ∧
      DecodesPresentUntil token publicKey (claims.map fun c => (registered c).exp) jwt := by
  cases hsigned with
  | none => exact ⟨none, rfl, .none, fun now => rfl⟩
  | @some c t hsign =>
    obtain ⟨d, hsame, hd⟩ := hsurvives c rfl
    obtain ⟨jwt, htoken, hclaims, hdecodes⟩ :=
      exists_decoded hmatches hd (hexp c) (hpos c rfl) hsign
    refine ⟨some jwt, congrArg some htoken, .some ⟨d, hclaims, hsame⟩, fun now => ?_⟩
    rw [decodePresent, SigningKey.isEmpty_of_sign hsign, hdecodes]
    simp only [Bool.false_eq_true, if_false, Option.map_some, Option.all_some, decide_eq_true_eq]
    split <;> rfl

/-! ## All tokens of a response -/

namespace TokenClaims

/-- The tokens are alive as long as each of them is. -/
lemma isAliveAt_eq (claims : TokenClaims) (now : Instant) :
    claims.isAliveAt now = ((some claims.access.registered.exp).all (now.unixSeconds ≤ ·) &&
      (claims.identity.map (·.registered.exp)).all (now.unixSeconds ≤ ·) &&
      (claims.refresh.map (·.registered.exp)).all (now.unixSeconds ≤ ·)) := by
  obtain ⟨access, identity, refresh⟩ := claims
  cases identity <;> cases refresh <;> simp [isAliveAt, registered, Bool.and_assoc]

/-- A response is decoded as long as none of its tokens has expired, and then its tokens give back the
claims that they were signed with; from then on it is reported as expired. -/
theorem exists_decodedResponse {claims : TokenClaims} (hrep : claims.Representable)
    {k : SigningKey} {publicKey : Rsa.PublicKey} (hmatches : k.Matches publicKey)
    {response : TokenResponse} (hsigned : claims.SignedInto k response) :
    ∃ info : DecodedResponse, info.Carries claims response ∧ ∀ now : Instant,
      decodeResponse response publicKey now =
        if claims.isAliveAt now then .ok info else .error .expired := by
  have haccessSigned : Option.Rel (fun (c : AccessClaims) token =>
      k.sign (AccessClaims.layered.codec.write c) = .ok token) (some claims.access)
      (some response.accessToken) := .some hsigned.access
  obtain ⟨access, haccess, haccessClaims, haccessDecodes⟩ := exists_decodedPresent
    AccessClaims.SameAs hmatches haccessSigned
    (fun c hc => Option.some.inj hc ▸ AccessClaims.survives reorders_canonical hrep.access)
    AccessClaims.expiresAt
    (fun c hc => hrep.expiry _ (by simp [registered, Option.some.inj hc]))
  obtain ⟨identity, hidentity, hidentityClaims, hidentityDecodes⟩ := exists_decodedPresent
    IdClaims.SameAs hmatches hsigned.identity
    (fun c hc => IdClaims.survives reorders_canonical (hrep.identity c hc)) IdClaims.expiresAt
    (fun c hc => hrep.expiry _ (by simp [registered, Option.mem_def.mp hc]))
  obtain ⟨refresh, hrefresh, hrefreshClaims, hrefreshDecodes⟩ := exists_decodedPresent
    Eq hmatches hsigned.refresh
    (fun c hc => ⟨c, rfl, RefreshClaims.survives reorders_canonical (hrep.refresh c hc)⟩)
    RefreshClaims.expiresAt
    (fun c hc => hrep.expiry _ (by simp [registered, Option.mem_def.mp hc]))
  have hrefreshSame : Option.Rel (fun (jwt : Jwt) c =>
      jwt.claimsAs RefreshClaims.layered.codec = .ok c) refresh claims.refresh := by
    generalize claims.refresh = expected at hrefreshClaims ⊢
    cases hrefreshClaims with
    | none => exact .none
    | some h =>
      obtain ⟨d, hd, rfl⟩ := h
      exact .some hd
  refine ⟨⟨response, access, identity, refresh⟩,
    ⟨rfl, haccess, hidentity, hrefresh, haccessClaims, hidentityClaims, hrefreshSame⟩,
    fun now => ?_⟩
  -- the first token that has expired decides, and all have the same fault
  rw [decodeResponse, haccessDecodes now, hidentityDecodes now, hrefreshDecodes now, isAliveAt_eq,
    Option.map_some]
  cases (some claims.access.registered.exp).all (now.unixSeconds ≤ ·) <;>
    cases (claims.identity.map (·.registered.exp)).all (now.unixSeconds ≤ ·) <;>
    cases (claims.refresh.map (·.registered.exp)).all (now.unixSeconds ≤ ·) <;> rfl

end TokenClaims

end TokenAuthority
