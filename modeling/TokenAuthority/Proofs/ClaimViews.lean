import Mathlib.Tactic.Lemma
import TokenAuthority.Jwt.Token
import TokenAuthority.Proofs.ClaimForms

/-!
# Claims one by one

A token with the claims of a typed claim set can be read in two ways, all claims together or one by
one under their names, and both give what the claim set holds. A claim that was left out is read as
its default, and nothing in the nested objects is taken for a claim.

## Main definitions

* `TokenAuthority.ClaimSet` — a claim set of some kind; `TokenAuthority.ClaimSet.asJwt` — a token
  with its claims.
* `TokenAuthority.ClaimSet.ReadFrom` — the claim set is what a token is read as.
* `TokenAuthority.ClaimView` — what claim sets of all kinds have in common.
* `TokenAuthority.ClaimView.Found`, `TokenAuthority.Jwt.Shows` — the claims are found under their
  names, and read from there.

## Main results

* `TokenAuthority.ClaimSet.found` — claim sets of every kind are written so that they are found.
* `TokenAuthority.Jwt.shows_of_found` — what is found is read.
* `TokenAuthority.ClaimSet.readFrom_asJwt` — a claim set is read back as a whole.
* `TokenAuthority.ClaimSet.views_agree` — both ways of reading a token.
-/

set_option autoImplicit false

namespace TokenAuthority

open Json Value

/-! ## Claim sets of every kind -/

/-- The claim set of a token. -/
inductive ClaimSet where
  | identity (claims : IdClaims)
  | access (claims : AccessClaims)
  | refresh (claims : RefreshClaims)

namespace ClaimSet

/-- The claims as they are written. -/
def write : ClaimSet → Value
  | identity c => IdClaims.layered.codec.write c
  | access c => AccessClaims.layered.codec.write c
  | refresh c => RefreshClaims.layered.codec.write c

/-- The members of the object that is written. -/
def members : ClaimSet → List (String × Value)
  | identity c => IdClaims.layered.members c
  | access c => AccessClaims.layered.members c
  | refresh c => RefreshClaims.layered.members c

/-- A token that holds the object, whose members are kept sorted. -/
def asJwt (token : String) (c : ClaimSet) : Jwt := ⟨token, sortMembers (canonicalMembers c.members)⟩

/-- The integers of the claims fit 64 bits, and no attribute has two values. -/
def Representable : ClaimSet → Prop
  | identity c => c.Representable
  | access c => c.Representable
  | refresh c => c.Representable

/-- The token is read as the claim set, but for the order of the attributes. -/
def ReadFrom (t : Jwt) : ClaimSet → Prop
  | identity c => ∃ d, t.claimsAs IdClaims.layered.codec = .ok d ∧ d.SameAs c
  | access c => ∃ d, t.claimsAs AccessClaims.layered.codec = .ok d ∧ d.SameAs c
  | refresh c => t.claimsAs RefreshClaims.layered.codec = .ok c

end ClaimSet

/-- What the claim sets of all kinds have in common. -/
structure ClaimView where
  registered : RegisteredClaims
  typ : TokenKind
  nonce : String := ""
  acr : String := ""
  amr : String := ""
  sid : String := ""
  scope : String := ""
  authTime : Option Int := none
  user : UserClaims := {}

/-- A claim set with defaults for the claims that its kind does not have. -/
def ClaimSet.view : ClaimSet → ClaimView
  | identity c =>
    { registered := c.registered, typ := c.typ, nonce := c.nonce, acr := c.acr, amr := c.amr,
      sid := c.sid, authTime := some c.authTime, user := c.user }
  | access c =>
    { registered := c.registered, typ := c.typ, acr := c.acr, amr := c.amr, sid := c.sid,
      scope := c.scope, authTime := c.authTime, user := c.user }
  | refresh c => { registered := c.registered, typ := c.typ, sid := c.sid, scope := c.scope }

/-- The audiences of a claim set, in order. -/
def ClaimView.audience (v : ClaimView) : List String :=
  (v.registered.aud.map Audience.values).getD []

/-- What is read of a token one by one is what the claim set holds. -/
structure Jwt.Shows (t : Jwt) (v : ClaimView) : Prop where
  subject : t.subject = v.registered.sub
  jti : t.jti = v.registered.jti
  type : t.type = v.typ.text
  iss : t.string "iss" = v.registered.iss
  nonce : t.string "nonce" = v.nonce
  acr : t.string "acr" = v.acr
  amr : t.string "amr" = v.amr
  sid : t.string "sid" = v.sid
  scope : t.string "scope" = v.scope
  exp : t.integer? "exp" = some v.registered.exp
  iat : t.integer? "iat" = some v.registered.iat
  authTime : t.integer? "auth_time" = v.authTime
  audience : t.audience = v.audience
  hasAudience : ∀ audience, t.hasAudience audience = true ↔ audience ∈ v.audience
  scopes : t.scopes = words v.scope
  hasScope : ∀ scope, t.hasScope scope = true ↔ scope ∈ words v.scope
  emailVerified : t.flag "email_verified" = v.user.emailVerified.getD false
  phoneNumberVerified : t.flag "phone_number_verified" = v.user.phoneNumberVerified.getD false
  address : t.address = v.user.address.getD {}
  isIssuedBy : ∀ issuer, t.isIssuedBy issuer = true ↔ issuer ≠ "" ∧ issuer = v.registered.iss
  hasNonce : ∀ nonce, t.hasNonce nonce = true ↔ nonce ≠ "" ∧ nonce = v.nonce

/-! ## Where claims are found -/

/-- The text is found under the name, or it is empty and nothing is. -/
def TextFound (find : String → Option Value) (name s : String) : Prop :=
  find name = some (.str s) ∨ find name = none ∧ s = ""

/-- The claims of the view are found under their names. -/
structure ClaimView.Found (find : String → Option Value) (v : ClaimView) : Prop where
  registered : RegisteredClaims.record.fields.Finds canonical find
    (RegisteredClaims.record.unpack v.registered)
  typ : find "typ" = some (.str v.typ.text)
  nonce : TextFound find "nonce" v.nonce
  acr : TextFound find "acr" v.acr
  amr : TextFound find "amr" v.amr
  sid : TextFound find "sid" v.sid
  scope : TextFound find "scope" v.scope
  authTime : find "auth_time" = v.authTime.map .int
  emailVerified : find "email_verified" = v.user.emailVerified.map .bool
  phoneNumberVerified : find "phone_number_verified" = v.user.phoneNumberVerified.map .bool
  address : find "address" = (v.user.address.map AddressClaim.record.codec.write).map canonical

/-- The integers of the view fit 64 bits. -/
structure ClaimView.Representable (v : ClaimView) : Prop where
  registered : v.registered.Representable
  authTime : ∀ seconds ∈ v.authTime, inWord seconds = true

/-- A member that may be left out is written where there is a value. -/
lemma Json.Field.written_optional {α : Type} (name : String) (c : Codec α) (x : Option α) :
    (Field.optional name c).written x = x.map c.write := by
  cases x <;> rfl

section Reading

variable {t : Jwt} {name : String}

/-- A text that is found is read. -/
lemma TextFound.string_eq {s : String} (h : TextFound t.claim? name s) : t.string name = s := by
  rw [Jwt.string]
  rcases h with h | ⟨h, rfl⟩ <;> rw [h]

/-- An integer that is found is read. -/
lemma Jwt.integer?_eq {x : Option Int} (h : t.claim? name = x.map Value.int)
    (hword : ∀ n ∈ x, inWord n = true) : t.integer? name = x := by
  rw [integer?, h]
  cases x with
  | none => rfl
  | some n => exact congrArg some (clampToWord_of_inWord (hword n rfl))

/-- A truth value that is found is read, and none is read as false. -/
lemma Jwt.flag_eq {x : Option Bool} (h : t.claim? name = x.map Value.bool) :
    t.flag name = x.getD false := by
  rw [flag, h]
  cases x <;> rfl

/-- An address that is found is read, and none is read as an empty one. -/
lemma Jwt.address_eq {x : Option AddressClaim}
    (h : t.claim? "address" = (x.map AddressClaim.record.codec.write).map canonical) :
    t.address = x.getD {} := by
  rw [address, h]
  cases x with
  | none => rfl
  | some a =>
    have hread : AddressClaim.record.codec.ofValue (AddressClaim.record.codec.write a).canonical =
        .ok a := (a.survives reorders_canonical).reads
    simp only [Option.map_some, hread, Option.getD_some]

/-- Audiences that are found are read, and none are read as no audiences. -/
lemma Jwt.audience_eq {x : Option Audience}
    (h : t.claim? "aud" = (x.map Audience.codec.write).map canonical) :
    t.audience = (x.map Audience.values).getD [] := by
  rw [audience, h]
  cases x with
  | none => rfl
  | some aud =>
    have hread : Audience.codec.ofValue (Audience.codec.write aud).canonical = .ok aud :=
      (aud.survives reorders_canonical).reads
    simp only [Option.map_some, hread, Option.getD_some]

/-- A text that is given is the one that is expected. -/
lemma isGiven_iff {given expected : String} :
    (!given.isEmpty && expected == given) = true ↔ given ≠ "" ∧ given = expected := by
  rw [Bool.and_eq_true, beq_iff_eq, eq_comm (a := expected)]
  simp

/-- What is found of a claim set is read of the token. -/
theorem Jwt.shows_of_found {v : ClaimView} (h : v.Found t.claim?) (hrep : v.Representable) :
    t.Shows v := by
  obtain ⟨hiss, hsub, haud, hexp, hiat, hjti, -⟩ := h.registered
  rw [Field.written_optional] at haud
  have haudience : t.audience = v.audience := audience_eq haud
  have hscopes : t.scopes = words v.scope := congrArg words h.scope.string_eq
  have hissuer : t.string "iss" = v.registered.iss := TextFound.string_eq (.inl hiss)
  exact {
    subject := TextFound.string_eq (.inl hsub)
    jti := TextFound.string_eq (.inl hjti)
    type := TextFound.string_eq (.inl h.typ)
    iss := hissuer
    nonce := h.nonce.string_eq
    acr := h.acr.string_eq
    amr := h.amr.string_eq
    sid := h.sid.string_eq
    scope := h.scope.string_eq
    exp := integer?_eq (x := some v.registered.exp) hexp (by simpa using hrep.registered.1)
    iat := integer?_eq (x := some v.registered.iat) hiat (by simpa using hrep.registered.2)
    authTime := integer?_eq h.authTime hrep.authTime
    audience := haudience
    hasAudience := fun audience => by rw [hasAudience, haudience, List.contains_iff_mem]
    scopes := hscopes
    hasScope := fun scope => by rw [hasScope, hscopes, List.contains_iff_mem]
    emailVerified := flag_eq h.emailVerified
    phoneNumberVerified := flag_eq h.phoneNumberVerified
    address := address_eq h.address
    isIssuedBy := fun issuer => by rw [isIssuedBy, hissuer, isGiven_iff]
    hasNonce := fun nonce => by rw [hasNonce, h.nonce.string_eq, isGiven_iff] }

end Reading

/-! ## Claim sets are found -/

section Writing

variable {find : String → Option Value}

/-- A text that is left out where it is empty is found. -/
lemma textFound_of_optionalText {name s : String}
    (h : find name = ((Field.optionalText name).written s).map canonical) :
    TextFound find name s := by
  rw [Field.written] at h
  split at h
  · rename_i hempty
    exact .inr ⟨h, String.isEmpty_iff.mp hempty⟩
  · exact .inl h

/-- What is found of the claims about a user: two truth values and the address. -/
lemma UserClaims.found {c : UserClaims}
    (h : record.fields.Finds canonical find (record.unpack c)) :
    find "email_verified" = c.emailVerified.map .bool ∧
    find "phone_number_verified" = c.phoneNumberVerified.map .bool ∧
    find "address" = (c.address.map AddressClaim.record.codec.write).map canonical := by
  obtain ⟨-, -, -, -, -, -, -, -, -, -, -, -, -, -, hemail, -, hphone, haddress, -⟩ := h
  rw [Field.written_optional] at hemail hphone haddress
  rw [Option.map_map] at hemail hphone
  exact ⟨hemail, hphone, haddress⟩

/-- ID claims are found; they have no scope. -/
lemma IdClaims.found (c : IdClaims)
    (hfind : ∀ name, find name = (lookup name (layered.members c)).map canonical) :
    (ClaimSet.identity c).view.Found find := by
  obtain ⟨hregistered, ⟨htyp, hnonce, hacr, hamr, hsid, htime, -⟩, huser⟩ := distinct.finds hfind
  obtain ⟨hemail, hphone, haddress⟩ := UserClaims.found huser
  have hscope : find "scope" = none := by
    rw [hfind, Layered.lookup_members_of_notMem (by decide)]
    rfl
  exact {
    registered := hregistered
    typ := htyp
    nonce := textFound_of_optionalText hnonce
    acr := textFound_of_optionalText hacr
    amr := textFound_of_optionalText hamr
    sid := textFound_of_optionalText hsid
    scope := .inr ⟨hscope, rfl⟩
    authTime := htime
    emailVerified := hemail
    phoneNumberVerified := hphone
    address := haddress }

/-- Access claims are found; they have no nonce. -/
lemma AccessClaims.found (c : AccessClaims)
    (hfind : ∀ name, find name = (lookup name (layered.members c)).map canonical) :
    (ClaimSet.access c).view.Found find := by
  obtain ⟨hregistered, ⟨htyp, hscope, hsid, hacr, hamr, htime, -⟩, huser⟩ := distinct.finds hfind
  obtain ⟨hemail, hphone, haddress⟩ := UserClaims.found huser
  have hnonce : find "nonce" = none := by
    rw [hfind, Layered.lookup_members_of_notMem (by decide)]
    rfl
  exact {
    registered := hregistered
    typ := htyp
    nonce := .inr ⟨hnonce, rfl⟩
    acr := textFound_of_optionalText hacr
    amr := textFound_of_optionalText hamr
    sid := textFound_of_optionalText hsid
    scope := .inl hscope
    authTime := htime.trans (by rw [Field.written_optional, Option.map_map]; rfl)
    emailVerified := hemail
    phoneNumberVerified := hphone
    address := haddress }

/-- Refresh claims are found; they say nothing of an authentication and of a user. -/
lemma RefreshClaims.found (c : RefreshClaims)
    (hfind : ∀ name, find name = (lookup name (layered.members c)).map canonical) :
    (ClaimSet.refresh c).view.Found find := by
  obtain ⟨hregistered, ⟨htyp, hsid, hscope, -⟩, -⟩ := distinct.finds hfind
  have hnone (name : String) (h : name ∉ layered.leading.fields.names ++ layered.own.names ++
      layered.trailing.fields.names) : find name = none := by
    rw [hfind, Layered.lookup_members_of_notMem h]
    rfl
  exact {
    registered := hregistered
    typ := htyp
    nonce := .inr ⟨hnone _ (by decide), rfl⟩
    acr := .inr ⟨hnone _ (by decide), rfl⟩
    amr := .inr ⟨hnone _ (by decide), rfl⟩
    sid := textFound_of_optionalText hsid
    scope := .inl hscope
    authTime := hnone _ (by decide)
    emailVerified := hnone _ (by decide)
    phoneNumberVerified := hnone _ (by decide)
    address := hnone _ (by decide) }

end Writing

namespace ClaimSet

variable {c : ClaimSet}

/-- The members are those of the object that is written. -/
lemma write_eq (c : ClaimSet) : c.write = .obj c.members := by
  cases c <;> rfl

/-- No name is written twice. -/
lemma nodup_members (c : ClaimSet) : (namesOf c.members).Nodup := by
  cases c with
  | identity c => exact IdClaims.distinct.nodup_members c
  | access c => exact AccessClaims.distinct.nodup_members c
  | refresh c => exact RefreshClaims.distinct.nodup_members c

/-- A claim set of every kind is found. -/
theorem found {find : String → Option Value} (c : ClaimSet)
    (hfind : ∀ name, find name = (lookup name c.members).map canonical) : c.view.Found find := by
  cases c with
  | identity c => exact c.found hfind
  | access c => exact c.found hfind
  | refresh c => exact c.found hfind

/-- The integers of a claim set are those of its view. -/
lemma Representable.view (h : c.Representable) : c.view.Representable := by
  cases c with
  | identity c => exact ⟨h.registered, by simpa [ClaimSet.view] using h.authTime⟩
  | access c => exact ⟨h.registered, h.authTime⟩
  | refresh c => exact ⟨h.registered, nofun⟩

/-- The token holds the object that is written, with its members sorted. -/
lemma obj_claims_asJwt (token : String) (c : ClaimSet) :
    .obj (c.asJwt token).claims = c.write.canonical := by
  rw [write_eq, canonical]
  rfl

/-- What survives is what a token that holds it is read as. -/
lemma claimsAs_of_survives {α : Type} {n : Nat} {codec : Codec α} {x y : α} {t : Jwt}
    (h : codec.Survives .memory canonical n x y) (ht : .obj t.claims = (codec.write x).canonical) :
    t.claimsAs codec = .ok y := by
  rw [Jwt.claimsAs, Codec.ofValue, ht, h.reads]
  rfl

/-- A token that holds a claim set is read as it. -/
theorem readFrom_asJwt (h : c.Representable) (token : String) : c.ReadFrom (c.asJwt token) := by
  have ht := obj_claims_asJwt token c
  cases c with
  | identity c =>
    obtain ⟨d, hsame, hsurvives⟩ := IdClaims.survives reorders_canonical h
    exact ⟨d, claimsAs_of_survives hsurvives ht, hsame⟩
  | access c =>
    obtain ⟨d, hsame, hsurvives⟩ := AccessClaims.survives reorders_canonical h
    exact ⟨d, claimsAs_of_survives hsurvives ht, hsame⟩
  | refresh c => exact claimsAs_of_survives (RefreshClaims.survives reorders_canonical h) ht

/-- The two ways of reading a token agree. No name is there twice in the object that a claim set is
written to, nor among the claims of a token that holds this object. Read all together, the claims
are the claim set, but for the order of the attributes; read one by one, each is what the claim set
holds, and a default where the claim was left out or is none of its kind: whatever the texts, the
audiences and the keys of the attributes are. -/
theorem views_agree (h : c.Representable) (token : String) :
    (c.write = .obj c.members ∧ (namesOf c.members).Nodup) ∧
    (.obj (c.asJwt token).claims = c.write.canonical ∧ (namesOf (c.asJwt token).claims).Nodup) ∧
    c.ReadFrom (c.asJwt token) ∧ (c.asJwt token).Shows c.view := by
  have hfind (name : String) :
      (c.asJwt token).claim? name = (lookup name c.members).map canonical :=
    lookup_sortMembers c.nodup_members name
  obtain ⟨reordered, hreordered, hperm⟩ := reorders_canonical.obj c.members c.nodup_members
  have hclaims : (c.asJwt token).claims = reordered := by
    have heq := obj_claims_asJwt token c
    rw [write_eq, hreordered] at heq
    exact Value.obj.inj heq
  exact ⟨⟨c.write_eq, c.nodup_members⟩,
    ⟨obj_claims_asJwt token c, hclaims ▸ (lookup_reordered c.nodup_members hperm).1⟩,
    readFrom_asJwt h token, Jwt.shows_of_found (c.found hfind) h.view⟩

end ClaimSet

namespace Sample

/-- Access claims with two audiences and without a level of authentication, about a user whose
attributes have the names of other claims. -/
def crowded : AccessClaims where
  registered := ⟨"http://localhost:9090", "alice", some (.several ["orders", "authserver"]),
    1717243500, 1717243200, "A1"⟩
  typ := .bearer
  scope := "openid  orders:read"
  sid := "s1"
  acr := ""
  amr := "pwd"
  authTime := none
  user := {
    emailVerified := some true
    address := some { country := "NL" }
    attributes := some [("sub", "bob"), ("aud", "all"), ("acr", "high")] }

/-- The attributes are taken for no claims. -/
theorem views_agree_crowded : (ClaimSet.access crowded).Representable ∧
    let t := (ClaimSet.access crowded).asJwt "token"
    t.subject = "alice" ∧ t.audience = ["orders", "authserver"] ∧ t.string "acr" = "" ∧
    t.scopes = ["openid", "orders:read"] ∧ t.integer? "auth_time" = none ∧
    t.flag "email_verified" = true ∧ t.address = { country := "NL" } ∧
    t.hasNonce "" = false ∧
    ∃ d, t.claimsAs AccessClaims.layered.codec = .ok d ∧ d.SameAs crowded := by
  have hrepresentable : (ClaimSet.access crowded).Representable :=
    ⟨⟨by decide, by decide⟩, nofun, nofun, by rintro _ ⟨⟩; decide⟩
  obtain ⟨-, -, hread, hshows⟩ := ClaimSet.views_agree hrepresentable "token"
  have hscopes : words crowded.scope = ["openid", "orders:read"] := by decide
  refine ⟨hrepresentable, hshows.subject, hshows.audience, hshows.acr, hshows.scopes.trans hscopes,
    hshows.authTime, hshows.emailVerified, hshows.address, ?_, hread⟩
  rw [← Bool.not_eq_true, hshows.hasNonce]
  exact fun h => h.1 rfl

end Sample

end TokenAuthority
