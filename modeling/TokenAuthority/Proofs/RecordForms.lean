import Mathlib.Tactic.Lemma
import TokenAuthority.Proofs.CodecReturns
import TokenAuthority.Proofs.Rfc3339Texts
import TokenAuthority.Record.Client
import TokenAuthority.Record.Code
import TokenAuthority.Record.KeyPair
import TokenAuthority.Record.RefreshToken
import TokenAuthority.Record.Session
import TokenAuthority.Record.TokenResponse
import TokenAuthority.Record.User

/-!
# Records survive their JSON form

Every record is read back as it was from the JSON text that it is written to: times keep their
nanoseconds and their offsets, and lists their order.

## Main definitions

* `TokenAuthority.RecordType` — the types of records, each with its codec.
* `TokenAuthority.RecordType.Representable` — the integers of a record fit 64 bits, and its times
  have RFC 3339 texts.

## Main results

* `TokenAuthority.RecordType.round_trip` — a record is read back from its text.
-/

set_option autoImplicit false

namespace TokenAuthority

open Json

variable {n : Nat}

/-! ## Times, dates, identifiers and choices -/

/-- Instants that have a text return. -/
@[simp] lemma Instant.returns {t : Instant} (h : t.HasText) : Instant.codec.Returns n t :=
  Codec.returns_imap (Codec.returns_text _) (Instant.ofRfc3339?_text h)

/-- Identifiers return. -/
@[simp] lemma Uuid.returns (u : Uuid) : Uuid.codec.Returns n u :=
  Codec.returns_imap (Codec.returns_text _) u.ofText?_text

/-- Year and ordinal of a date fit 64 bits. -/
lemma Date.inWord_parts (d : Date) : inWord d.year = true ∧ inWord d.ordinal = true := by
  obtain ⟨hlow, hhigh, hordinal⟩ := d.bounds
  rw [inWord_iff, inWord_iff]
  omega

/-- A date is read from its year and its ordinal. -/
lemma Date.read_pair {d : Date} {src inner : Source} (henter : src.enter = .ok inner)
    {year ordinal : Doc} (hyear : Codec.integer.read inner year = .ok d.year)
    (hordinal : Codec.integer.read inner ordinal = .ok (d.ordinal : Int)) :
    Date.codec.read src (.list [year, ordinal] true) = .ok d := by
  simp only [Date.codec, henter, hyear, hordinal, bind, Except.bind]
  rw [d.ofOrdinal?_ordinal]
  rfl

/-- Dates return. -/
@[simp] lemma Date.returns (d : Date) : Date.codec.Returns (n + 1) d := by
  intro src hsrc
  obtain ⟨inner, henter, hinner⟩ := hsrc.enter
  have hyear := Codec.returns_integer (n := n) d.inWord_parts.1 inner hinner
  have hordinal := Codec.returns_integer (n := n) d.inWord_parts.2 inner hinner
  have hfits : ∀ v ∈ [Value.int d.year, Value.int d.ordinal], v.Fits n := by
    simpa using ⟨hyear.fits, hordinal.fits⟩
  exact ⟨.list hfits, Date.read_pair henter hyear.reads hordinal.reads⟩

/-- Instants that may be null return. -/
lemma Instant.returns_nullable {x : Option Instant} (h : ∀ t ∈ x, t.HasText) :
    Instant.codec.nullable.Returns n x :=
  Codec.returns_nullable (fun t ht => Instant.returns (h t ht)) nofun

/-- Instants that may be left out return. -/
lemma Instant.returns_optional {x : Option Instant} (name : String)
    (h : ∀ t ∈ x, t.HasText) : (Field.optional name Instant.codec).Returns n x :=
  Field.returns_optional name (fun t ht => Instant.returns (h t ht)) nofun

/-- Null is no date. -/
lemma Date.read_null (src : Source) : Date.codec.read src .null = .error .mismatch := rfl

/-- Dates that may be null return. -/
@[simp] lemma Date.returns_nullable (x : Option Date) : Date.codec.nullable.Returns (n + 1) x := by
  refine Codec.returns_nullable (fun d _ => d.returns) fun src d h => ?_
  rw [Date.read_null] at h
  cases h

/-- Texts that may be left out return. -/
@[simp] lemma returns_optional_text (name : String) (x : Option String) :
    (Field.optional name Codec.text).Returns n x :=
  Field.returns_optional name (fun s _ => Codec.returns_text s) nofun

/-- Choices return. -/
@[simp] lemma Override.returns (o : Override) : Override.codec.Returns n o :=
  Codec.returns_enumeration (by cases o <;> decide)

/-- Kinds of refresh tokens return. -/
@[simp] lemma RefreshTokenType.returns (t : RefreshTokenType) :
    RefreshTokenType.codec.Returns n t :=
  Codec.returns_enumeration (by cases t <;> decide)

/-! ## Records -/

/-- The integers of the settings fit 64 bits. -/
structure Settings.Representable (s : Settings) : Prop where
  tokenExpiration : inWord s.tokenExpiration = true
  sessionIdleTimeout : inWord s.sessionIdleTimeout = true
  sessionMaxLifetime : inWord s.sessionMaxLifetime = true
  offlineIdleTimeout : inWord s.offlineIdleTimeout = true
  offlineMaxLifetime : inWord s.offlineMaxLifetime = true

/-- Settings return. -/
lemma Settings.returns {s : Settings} (h : s.Representable) :
    Settings.record.codec.Returns 2 s :=
  Record.returns (by decide) rfl
    (by simp [Settings.record, h.tokenExpiration, h.sessionIdleTimeout, h.sessionMaxLifetime,
      h.offlineIdleTimeout, h.offlineMaxLifetime])

/-- The integers of the client fit 64 bits. -/
structure Client.Representable (c : Client) : Prop where
  id : inWord c.id = true
  tokenExpiration : inWord c.tokenExpiration = true
  offlineIdleTimeout : inWord c.offlineIdleTimeout = true
  offlineMaxLifetime : inWord c.offlineMaxLifetime = true

/-- Clients return. -/
lemma Client.returns {c : Client} (h : c.Representable) : Client.record.codec.Returns 1 c :=
  Record.returns (by decide) rfl
    (by simp [Client.record, h.id, h.tokenExpiration, h.offlineIdleTimeout, h.offlineMaxLifetime])

/-- Attributes return. -/
@[simp] lemma Attribute.returns (a : Attribute) : Attribute.record.codec.Returns (n + 1) a :=
  Record.returns (by decide) rfl (by simp [Attribute.record])

/-- The integer of the group fits 64 bits. -/
def Group.Representable (g : Group) : Prop := inWord g.id = true

/-- Groups return. -/
lemma Group.returns {g : Group} (h : g.Representable) : Group.record.codec.Returns (n + 3) g := by
  rw [Group.Representable] at h
  exact Record.returns (by decide) rfl (by simp [Group.record, h])

/-- The integers of the user fit 64 bits, and the time of the last change has a text. -/
structure User.Representable (u : User) : Prop where
  id : inWord u.id = true
  updatedAt : ∀ t ∈ u.updatedAt, t.HasText
  groups : ∀ g ∈ u.groups, g.Representable

/-- Users return. -/
lemma User.returns {u : User} (h : u.Representable) : User.record.codec.Returns 5 u := by
  have hupdatedAt : Instant.codec.nullable.Returns 4 u.updatedAt :=
    Instant.returns_nullable h.updatedAt
  have hgroups : Group.record.codec.listOf.Returns 4 u.groups :=
    Codec.returns_listOf fun g hg => Group.returns (h.groups g hg)
  exact Record.returns (by decide) rfl (by simp [User.record, h.id, hupdatedAt, hgroups])

/-- The integer of the request fits 64 bits. -/
def AuthContext.Representable (ctx : AuthContext) : Prop := inWord ctx.userId = true

/-- Requests return. -/
lemma AuthContext.returns {ctx : AuthContext} (h : ctx.Representable) :
    AuthContext.record.codec.Returns 1 ctx := by
  rw [AuthContext.Representable] at h
  exact Record.returns (by decide) rfl (by simp [AuthContext.record, h])

/-- The integers of the code fit 64 bits, and its times have texts. -/
structure Code.Representable (c : Code) : Prop where
  id : inWord c.id = true
  clientId : inWord c.clientId = true
  userId : inWord c.userId = true
  authenticatedAt : c.authenticatedAt.HasText
  createdAt : c.createdAt.HasText

/-- Codes return. -/
lemma Code.returns {c : Code} (h : c.Representable) : Code.record.codec.Returns 1 c :=
  Record.returns (by decide) rfl
    (by simp [Code.record, h.id, h.clientId, h.userId, h.authenticatedAt, h.createdAt])

/-- The integers of the session fit 64 bits, and its times have texts. -/
structure Session.Representable (s : Session) : Prop where
  id : inWord s.id = true
  userId : inWord s.userId = true
  started : s.started.HasText
  lastAccessed : s.lastAccessed.HasText

/-- Sessions return. -/
lemma Session.returns {s : Session} (h : s.Representable) : Session.record.codec.Returns 1 s :=
  Record.returns (by decide) rfl
    (by simp [Session.record, h.id, h.userId, h.started, h.lastAccessed])

/-- The integers of the row fit 64 bits, and its times have texts. -/
structure RefreshToken.Representable (r : RefreshToken) : Prop where
  id : inWord r.id = true
  codeId : inWord r.codeId = true
  issuedAt : r.issuedAt.HasText
  expiresAt : r.expiresAt.HasText
  maxLifetime : ∀ t ∈ r.maxLifetime, t.HasText

/-- Rows return. -/
lemma RefreshToken.returns {r : RefreshToken} (h : r.Representable) :
    RefreshToken.record.codec.Returns 1 r := by
  have hmaxLifetime := Instant.returns_optional (n := 0) "maxLifetime" h.maxLifetime
  exact Record.returns (by decide) rfl
    (by simp [RefreshToken.record, h.id, h.codeId, h.issuedAt, h.expiresAt, hmaxLifetime])

/-- The integer of the key pair fits 64 bits. -/
def KeyPair.Representable (k : KeyPair) : Prop := inWord k.id = true

/-- Key pairs return. -/
lemma KeyPair.returns {k : KeyPair} (h : k.Representable) : KeyPair.record.codec.Returns 1 k := by
  rw [KeyPair.Representable] at h
  exact Record.returns (by decide) rfl (by simp [KeyPair.record, h])

/-- Published keys return. -/
@[simp] lemma Jwk.returns (k : Jwk) : Jwk.record.codec.Returns (n + 1) k :=
  Record.returns (by decide) rfl (by simp [Jwk.record])

/-- Sets of published keys return. -/
lemma Jwks.returns (s : Jwks) : Jwks.record.codec.Returns 3 s :=
  Record.returns (by decide) rfl (by simp [Jwks.record])

/-- The integers of the response fit 64 bits. -/
structure TokenResponse.Representable (r : TokenResponse) : Prop where
  expiresIn : inWord r.expiresIn = true
  refreshExpiresIn : inWord r.refreshExpiresIn = true

/-- Responses return. -/
lemma TokenResponse.returns {r : TokenResponse} (h : r.Representable) :
    TokenResponse.record.codec.Returns 1 r :=
  Record.returns (by decide) rfl (by simp [TokenResponse.record, h.expiresIn, h.refreshExpiresIn])

/-! ## All types of records -/

/-- The types of records. -/
inductive RecordType where
  | settings
  | client
  | userAttribute
  | group
  | user
  | authContext
  | code
  | session
  | refreshToken
  | keyPair
  | jwk
  | jwks
  | tokenResponse

namespace RecordType

/-- The records of a type. -/
def Carrier : RecordType → Type
  | settings => Settings
  | client => Client
  | userAttribute => Attribute
  | group => Group
  | user => User
  | authContext => AuthContext
  | code => Code
  | session => Session
  | refreshToken => RefreshToken
  | keyPair => KeyPair
  | jwk => Jwk
  | jwks => Jwks
  | tokenResponse => TokenResponse

/-- The JSON form of a type. -/
def codec : (k : RecordType) → Codec k.Carrier
  | settings => Settings.record.codec
  | client => Client.record.codec
  | userAttribute => Attribute.record.codec
  | group => Group.record.codec
  | user => User.record.codec
  | authContext => AuthContext.record.codec
  | code => Code.record.codec
  | session => Session.record.codec
  | refreshToken => RefreshToken.record.codec
  | keyPair => KeyPair.record.codec
  | jwk => Jwk.record.codec
  | jwks => Jwks.record.codec
  | tokenResponse => TokenResponse.record.codec

/-- The integers of a record fit 64 bits, and its times have RFC 3339 texts. -/
def Representable : (k : RecordType) → k.Carrier → Prop
  | settings => Settings.Representable
  | client => Client.Representable
  | userAttribute => fun _ => True
  | group => Group.Representable
  | user => User.Representable
  | authContext => AuthContext.Representable
  | code => Code.Representable
  | session => Session.Representable
  | refreshToken => RefreshToken.Representable
  | keyPair => KeyPair.Representable
  | jwk => fun _ => True
  | jwks => fun _ => True
  | tokenResponse => TokenResponse.Representable

/-- Records return. -/
lemma returns (k : RecordType) {x : k.Carrier} (h : k.Representable x) :
    ∃ n ≤ 127, k.codec.Returns n x := by
  cases k with
  | settings => exact ⟨2, by decide, Settings.returns h⟩
  | client => exact ⟨1, by decide, Client.returns h⟩
  | userAttribute => exact ⟨1, by decide, Attribute.returns x⟩
  | group => exact ⟨3, by decide, Group.returns h⟩
  | user => exact ⟨5, by decide, User.returns h⟩
  | authContext => exact ⟨1, by decide, AuthContext.returns h⟩
  | code => exact ⟨1, by decide, Code.returns h⟩
  | session => exact ⟨1, by decide, Session.returns h⟩
  | refreshToken => exact ⟨1, by decide, RefreshToken.returns h⟩
  | keyPair => exact ⟨1, by decide, KeyPair.returns h⟩
  | jwk => exact ⟨1, by decide, Jwk.returns x⟩
  | jwks => exact ⟨3, by decide, Jwks.returns x⟩
  | tokenResponse => exact ⟨1, by decide, TokenResponse.returns h⟩

/-- A record is read back from the JSON text that it is written to, and what was read back is
written to the same text. -/
theorem round_trip (k : RecordType) (x : k.Carrier) (h : k.Representable x) :
    ∃ y, k.codec.decode (k.codec.encode x) = .ok y ∧ y = x ∧
      k.codec.encode y = k.codec.encode x := by
  obtain ⟨n, hn, hreturns⟩ := k.returns h
  exact ⟨x, hreturns.decode_encode hn, rfl, rfl⟩

end RecordType

namespace Sample

/-- A user who was born on a leap day and is in a group. The profile was changed a half second
before midnight, on a clock five and a half hours ahead of UTC. -/
def member : User where
  id := 7
  subject := ⟨0x550e8400e29b41d4a716446655440000, by decide⟩
  username := "al\"ice"
  birthDate := Date.ofOrdinal? 2000 60
  updatedAt := some ⟨1709251199500000000, 19800⟩
  groups := [{ id := -1, identifier := "staff", attributes := [⟨"unit", "é\n", true, false⟩] }]

/-- The integers of the user fit 64 bits, and the time of the change has a text. -/
lemma representable_member : member.Representable where
  id := by decide
  updatedAt := by
    rintro _ ⟨⟩
    decide +kernel
  groups := by
    refine List.forall_mem_singleton.mpr ?_
    rw [Group.Representable]
    decide

/-- The user is read back. -/
theorem round_trip_member : RecordType.user.Representable member ∧
    ∃ u : User, User.record.codec.decode (User.record.codec.encode member) = .ok u ∧ u = member ∧
      User.record.codec.encode u = User.record.codec.encode member :=
  ⟨representable_member, RecordType.round_trip .user member representable_member⟩

end Sample

end TokenAuthority
