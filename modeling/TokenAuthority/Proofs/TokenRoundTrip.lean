import Mathlib.Data.List.Count
import Mathlib.Tactic.Lemma
import TokenAuthority.Jwt.Verification
import TokenAuthority.Proofs.ByteTexts
import TokenAuthority.Proofs.ClaimForms
import TokenAuthority.Proofs.RsaSignatures

/-!
# Signed tokens are decoded

A token that a key has signed is decoded with the public half of the key: its three parts are told
apart, the header names the algorithm, the signature verifies, and the claims are read back, sorted.
What is left to decide is the form of the registered claims, and the expiry.

## Main definitions

* `TokenAuthority.SigningKey.Matches` — the key to sign with belongs to a public key.
* `TokenAuthority.readPayload` — the last part of decoding, which is left to do once the signature
  verifies.
* `TokenAuthority.PlainClaims` — claims of which those that are checked are no lists or objects.

## Main results

* `TokenAuthority.cutAtLastPoint?_append` — a text is cut at its last point.
* `TokenAuthority.Header.decode_header` — the header of a key is read back.
* `TokenAuthority.decodeToken_sign_payload` — a signed token comes down to its payload.
* `TokenAuthority.decodeToken_sign` — what is left to decide about a signed token.
* `TokenAuthority.decodeToken_sign_expiring` — a token with an expiry is accepted until then.
-/

set_option autoImplicit false

namespace TokenAuthority

open Json Value

/-! ## The parts of a token -/

/-- A text is cut at its last point. -/
theorem cutAtLastPoint?_append (front : List Char) {back : List Char} (h : '.' ∉ back) :
    cutAtLastPoint? (front ++ '.' :: back) = some (front, back) := by
  have hno : ∀ c ∈ back.reverse, (c != '.') = true := by
    intro c hc
    rw [bne_iff_ne]
    rintro rfl
    exact h (List.mem_reverse.mp hc)
  have hreverse : (front ++ '.' :: back).reverse = back.reverse ++ '.' :: front.reverse := by simp
  rw [cutAtLastPoint?, hreverse, List.dropWhile_append_of_pos hno, List.takeWhile_append_of_pos hno]
  simp

/-- A sequence of steps goes on with the result of the first one. -/
lemma ok_bind {ε α β : Type} (a : α) (f : α → Except ε β) : (Except.ok a >>= f) = f a := rfl

/-- A part of a token is read back. -/
lemma partBytes_base64url (bytes : Bytes) : partBytes (base64url bytes).toList = .ok bytes := by
  rw [partBytes, base64url, String.toList_ofList,
    Base64.decode?_encode Base64.lawful_urlSafe bytes]

/-- A part that was written as text is read as JSON. -/
lemma partJson_utf8 {α : Type} (c : Codec α) (s : String) :
    partJson c (utf8 s) = (c.decode s).mapError fun _ => .malformed .json := by
  rw [partJson, fromUTF8?_utf8]

/-- The header of a key is read back: it names the algorithm. -/
lemma Header.decode_header (k : SigningKey) : Header.codec.decode k.header.text = .ok "RS256" := by
  have hfits : k.header.Fits 1 := by
    refine .obj fun m hm => ?_
    simp only [List.mem_cons, List.not_mem_nil, or_false] at hm
    rcases hm with rfl | rfl | rfl <;> exact .str 0 _
  rw [Codec.decode_text _ hfits]
  rfl

/-! ## Signed tokens -/

/-- The key to sign with is a private key that verifies what it signs, and `publicKey` is its public
half. -/
def SigningKey.Matches (k : SigningKey) (publicKey : Rsa.PublicKey) : Prop :=
  ∃ key, KeyFile.signingKey? k.content = some key ∧ key.publicKey = publicKey ∧ key.Verifies

/-- A signature that was made with a matching key verifies. -/
lemma SigningKey.Matches.verify {k : SigningKey} {publicKey : Rsa.PublicKey}
    (hmatches : k.Matches publicKey) {message signature : Bytes}
    (h : k.signature message = .ok signature) : publicKey.verify message signature = true := by
  obtain ⟨key, hkey, rfl, hverifies⟩ := hmatches
  rw [SigningKey.signature, hkey] at h
  cases hsign : key.sign? message with
  | none =>
    simp only [hsign] at h
    cases h
  | some s =>
    simp only [hsign] at h
    cases h
    exact hverifies _ _ hsign

/-- What a key has signed has three parts, of which the last one is the signature of the others. -/
lemma SigningKey.of_sign {k : SigningKey} {claims : Value} {token : String}
    (h : k.sign claims = .ok token) :
    ∃ signature,
      token = compact (base64url (utf8 k.header.text)) (base64url (utf8 claims.text))
        (base64url signature) ∧
      k.signature (utf8 (base64url (utf8 k.header.text) ++ "." ++ base64url (utf8 claims.text))) =
        .ok signature := by
  rw [SigningKey.sign] at h
  cases hsignature : k.signature (utf8 (base64url (utf8 k.header.text) ++ "." ++
      base64url (utf8 claims.text))) with
  | error e =>
    simp only [hsignature] at h
    cases h
  | ok signature =>
    simp only [hsignature] at h
    cases h
    exact ⟨signature, rfl, rfl⟩

/-- A token is not empty. -/
lemma SigningKey.isEmpty_of_sign {k : SigningKey} {claims : Value} {token : String}
    (h : k.sign claims = .ok token) : token.isEmpty = false := by
  obtain ⟨signature, rfl, -⟩ := SigningKey.of_sign h
  rw [Bool.eq_false_iff, Ne, String.isEmpty_iff, ← String.toList_inj]
  simp [compact]

/-- Reads the payload of a token whose signature verifies, which is the last part of decoding. -/
def readPayload (token : String) (check : Bool) (now : Instant) (payload : Bytes) :
    Except JwtError Jwt := do
  let v ← partJson Codec.value payload
  let .obj members := v | throw (.malformed .json)
  if Registered.hasRepeated members || Registered.hasBadForm members then throw (.malformed .json)
  let claims := sortMembers (canonicalMembers members)
  if check then Registered.checkExpiry claims now
  pure ⟨token, claims⟩

/-- What is left to decide about a payload that is an object: the form of the registered claims, and
the expiry. -/
lemma readPayload_obj {payload : Bytes} {members : List (String × Value)}
    (h : partJson Codec.value payload = .ok (.obj members)) (token : String) (check : Bool)
    (now : Instant) :
    readPayload token check now payload =
      if Registered.hasRepeated members || Registered.hasBadForm members then
        .error (.malformed .json)
      else
        (if check then Registered.checkExpiry (sortMembers (canonicalMembers members)) now
          else .ok ()).map fun _ => ⟨token, sortMembers (canonicalMembers members)⟩ := by
  rw [readPayload, h, ok_bind]
  dsimp only
  split
  · rfl
  · cases check with
    | false => rfl
    | true =>
      simp only [if_true]
      cases Registered.checkExpiry (sortMembers (canonicalMembers members)) now <;> rfl

/-- What is left to decide about a signed token is how the claims are read that were signed. -/
theorem decodeToken_sign_payload {k : SigningKey} {publicKey : Rsa.PublicKey}
    (hmatches : k.Matches publicKey) {claims : Value} {token : String}
    (h : k.sign claims = .ok token) (check : Bool) (now : Instant) :
    decodeToken token publicKey check now = readPayload token check now (utf8 claims.text) := by
  obtain ⟨signature, htoken, hsignature⟩ := SigningKey.of_sign h
  have hverify := hmatches.verify hsignature
  generalize hheader : base64url (utf8 k.header.text) = header at *
  generalize hpayload : base64url (utf8 claims.text) = payload at *
  have hmessage : (header ++ "." ++ payload).toList = header.toList ++ '.' :: payload.toList := by
    simp
  have hchars : token.toList =
      (header ++ "." ++ payload).toList ++ '.' :: (base64url signature).toList := by
    simp [htoken, compact]
  have hnonempty : token.isEmpty = false := SigningKey.isEmpty_of_sign h
  have hpoint : '.' ∉ payload.toList := hpayload ▸ point_notMem_base64url _
  have hmalg : partJson Header.codec (utf8 k.header.text) = .ok "RS256" := by
    rw [partJson_utf8, Header.decode_header]
    rfl
  rw [decodeToken, hnonempty, hchars, cutAtLastPoint?_append _ (point_notMem_base64url _), hmessage]
  simp only [cutAtLastPoint?_append _ hpoint]
  rw [← hmessage, String.ofList_toList, ← hheader]
  simp only [partBytes_base64url, ok_bind, hmalg, bne_self_eq_false, Bool.false_eq_true, if_false]
  rw [hheader, hverify, ← hpayload]
  simp only [partBytes_base64url, ok_bind, Bool.not_true, Bool.false_eq_true, if_false]
  rfl

/-- What is left to decide about a signed token: the form of the registered claims, and the expiry.
The claims of a token that is accepted are those that were signed, sorted. -/
theorem decodeToken_sign {k : SigningKey} {publicKey : Rsa.PublicKey}
    (hmatches : k.Matches publicKey) {members : List (String × Value)}
    (hfits : (Value.obj members).Fits 127) {token : String} (h : k.sign (.obj members) = .ok token)
    (check : Bool) (now : Instant) :
    decodeToken token publicKey check now =
      if Registered.hasRepeated members || Registered.hasBadForm members then
        .error (.malformed .json)
      else
        (if check then Registered.checkExpiry (sortMembers (canonicalMembers members)) now
          else .ok ()).map fun _ => ⟨token, sortMembers (canonicalMembers members)⟩ := by
  have hread : Codec.value.decode (Value.obj members).text = .ok (.obj members) := by
    have hallows : Source.document.Allows 127 := Nat.le_refl 127
    rw [Codec.decode_text _ hfits]
    exact Codec.readValue_ofValue hfits hallows
  have hclaims : partJson Codec.value (utf8 (Value.obj members).text) = .ok (.obj members) := by
    rw [partJson_utf8, hread]
    rfl
  rw [decodeToken_sign_payload hmatches h, readPayload_obj hclaims]

/-! ## Plain claims -/

/-- Where no name is repeated, no claim is. -/
lemma Registered.hasRepeated_of_nodup {members : List (String × Value)}
    (h : (namesOf members).Nodup) : hasRepeated members = false := by
  rw [hasRepeated, List.any_eq_false]
  intro name _
  have hcount : (members.filter (·.1 == name)).length = (namesOf members).count name := by
    rw [← List.countP_eq_length_filter, List.count, List.countP_map]
    rfl
  rw [hcount, decide_eq_true_eq, Nat.not_lt]
  exact List.nodup_iff_count_le_one.mp h name

/-- The claims of an object, of which those that are checked are strings, integers, truth values or
null. -/
structure PlainClaims (members : List (String × Value)) : Prop where
  nodup : (namesOf members).Nodup
  plain : ∀ name ∈ ["exp", "nbf", "sub"], ∀ v, lookup name members = some v →
    Registered.isContainer v = false

/-- Such claims have a form in which they can be read. -/
lemma PlainClaims.hasBadForm {members : List (String × Value)} (h : PlainClaims members) :
    Registered.hasBadForm members = false := by
  rw [Registered.hasBadForm, List.any_eq_false]
  rintro ⟨name, v⟩ hm
  have hfound : lookup name members = some v := (lookup_eq_some_iff h.nodup).mpr hm
  have hplain (hname : name ∈ ["exp", "nbf", "sub"]) : Registered.isContainer v = false :=
    h.plain name hname v hfound
  have hfilled (hv : Registered.isContainer v = false) : Registered.isFilled v = false := by
    cases v with
    | list | obj => cases hv
    | null | bool | num | str => rfl
  simp only [Bool.or_eq_true, Bool.and_eq_true, beq_iff_eq, not_or, not_and]
  refine ⟨?_, ?_⟩
  · rintro rfl
    simp [hplain]
  · rintro (rfl | rfl) <;> simp [hfilled, hplain]

/-- What is left to decide about a signed token of plain claims is their expiry. -/
theorem decodeToken_sign_plain {k : SigningKey} {publicKey : Rsa.PublicKey}
    (hmatches : k.Matches publicKey) {members : List (String × Value)}
    (hplain : PlainClaims members) (hfits : (Value.obj members).Fits 127) {token : String}
    (h : k.sign (.obj members) = .ok token) (check : Bool) (now : Instant) :
    decodeToken token publicKey check now =
      (if check then Registered.checkExpiry (sortMembers (canonicalMembers members)) now
        else .ok ()).map fun _ => ⟨token, sortMembers (canonicalMembers members)⟩ := by
  rw [decodeToken_sign hmatches hfits h, Registered.hasRepeated_of_nodup hplain.nodup,
    hplain.hasBadForm, Bool.or_self, if_neg Bool.false_ne_true]

/-! ## Tokens that expire -/

/-- The registered claims of a token that expires: a subject, an expiry, and no time before which it
is not valid. -/
structure ExpiresAt (members : List (String × Value)) (seconds : Int) : Prop where
  nodup : (namesOf members).Nodup
  exp : lookup "exp" members = some (.int seconds)
  sub : ∃ subject, lookup "sub" members = some (.str subject)
  nbf : lookup "nbf" members = none

/-- Such claims are plain. -/
lemma ExpiresAt.plain {members : List (String × Value)} {seconds : Int}
    (h : ExpiresAt members seconds) : PlainClaims members where
  nodup := h.nodup
  plain name hname v hv := by
    obtain ⟨subject, hsub⟩ := h.sub
    simp only [List.mem_cons, List.not_mem_nil, or_false] at hname
    rcases hname with rfl | rfl | rfl
    · cases hv.symm.trans h.exp
      rfl
    · cases hv.symm.trans h.nbf
    · cases hv.symm.trans hsub
      rfl

/-- A token that expires is accepted until then, with the claims that were signed, and afterwards it
is reported as expired. -/
theorem decodeToken_sign_expiring {k : SigningKey} {publicKey : Rsa.PublicKey}
    (hmatches : k.Matches publicKey) {members : List (String × Value)}
    (hfits : (Value.obj members).Fits 127) {token : String} (h : k.sign (.obj members) = .ok token)
    {seconds : Int} (hexp : ExpiresAt members seconds) (hpos : 0 ≤ seconds) (now : Instant) :
    decodeToken token publicKey true now =
      if now.unixSeconds ≤ seconds then .ok ⟨token, sortMembers (canonicalMembers members)⟩
      else .error .expired := by
  have hsorted : lookup "exp" (sortMembers (canonicalMembers members)) = some (.int seconds) := by
    rw [lookup_sortMembers hexp.nodup, hexp.exp]
    rfl
  have hsome : (lookup "exp" (sortMembers (canonicalMembers members))).bind Registered.expiry? =
      some seconds.toNat := by
    rw [hsorted]
    exact if_pos hpos
  have hback : (seconds.toNat : Int) = seconds := Int.toNat_of_nonneg hpos
  rw [decodeToken_sign_plain hmatches hexp.plain hfits h, if_pos rfl]
  simp only [Registered.checkExpiry, hsome, hback]
  by_cases hlate : seconds < now.unixSeconds
  · rw [if_pos hlate, if_neg (by omega)]
    rfl
  · rw [if_neg hlate, if_pos (by omega)]
    rfl

/-! ## Claim sets in tokens -/

/-- The token is decoded with the key until an expiry, and reported as expired afterwards. -/
def DecodesUntil (token : String) (publicKey : Rsa.PublicKey) (seconds : Int) (jwt : Jwt) : Prop :=
  ∀ now : Instant, decodeToken token publicKey true now =
    if now.unixSeconds ≤ seconds then .ok jwt else .error .expired

/-- A token that carries a claim set is decoded until the claims expire, and then the claim set is
read back. -/
theorem exists_decoded {σ : Type} {l : Layered σ} {k : SigningKey} {publicKey : Rsa.PublicKey}
    (hmatches : k.Matches publicKey) {x y : σ} {seconds : Int}
    (hsurvives : l.codec.Survives .memory canonical 2 x y)
    (hexp : ExpiresAt (l.members x) seconds) (hpos : 0 ≤ seconds) {token : String}
    (h : k.sign (l.codec.write x) = .ok token) :
    ∃ jwt : Jwt, jwt.token = token ∧ jwt.claimsAs l.codec = .ok y ∧
      DecodesUntil token publicKey seconds jwt := by
  have hread : l.codec.ofValue (canonical (l.codec.write x)) = .ok y := hsurvives.reads
  refine ⟨⟨token, sortMembers (canonicalMembers (l.members x))⟩, rfl, ?_,
    decodeToken_sign_expiring hmatches (hsurvives.fits.mono (by decide)) h hexp hpos⟩
  rw [Layered.write_eq, canonical] at hread
  rw [Jwt.claimsAs, hread]
  rfl

/-- The registered claims that are looked up when a token is verified. -/
lemma RegisteredClaims.lookup_members (c : RegisteredClaims) :
    lookup "exp" (record.members c) = some (.int c.exp) ∧
      lookup "sub" (record.members c) = some (.str c.sub) := by
  obtain ⟨iss, sub, aud, exp, iat, jti⟩ := c
  cases aud <;> exact ⟨rfl, rfl⟩

/-- A claim set whose leading members are registered claims expires with them. -/
lemma ExpiresAt.of_leading {σ : Type} {l : Layered σ} (hdistinct : l.Distinct) (x : σ)
    (c : RegisteredClaims)
    (hnames : l.leading.fields.names = RegisteredClaims.record.fields.names)
    (hmembers : l.leading.members (l.unpack x).1 = RegisteredClaims.record.members c)
    (hnbf : "nbf" ∉ l.leading.fields.names ++ l.own.names ++ l.trailing.fields.names) :
    ExpiresAt (l.members x) c.exp := by
  have hleading (name : String) (hname : name ∈ RegisteredClaims.record.fields.names) :
      lookup name (l.members x) = lookup name (RegisteredClaims.record.members c) := by
    rw [(hdistinct.lookup_members x).1 name (hnames ▸ hname), hmembers]
  exact ⟨hdistinct.nodup_members x, (hleading "exp" (by decide)).trans c.lookup_members.1,
    ⟨c.sub, (hleading "sub" (by decide)).trans c.lookup_members.2⟩,
    Layered.lookup_members_of_notMem hnbf x⟩

/-- ID claims expire with their registered claims. -/
lemma IdClaims.expiresAt (c : IdClaims) :
    ExpiresAt (layered.members c) c.registered.exp :=
  .of_leading distinct c c.registered rfl rfl (by decide)

/-- Access claims expire with their registered claims. -/
lemma AccessClaims.expiresAt (c : AccessClaims) :
    ExpiresAt (layered.members c) c.registered.exp :=
  .of_leading distinct c c.registered rfl rfl (by decide)

/-- Refresh claims expire with their registered claims. -/
lemma RefreshClaims.expiresAt (c : RefreshClaims) :
    ExpiresAt (layered.members c) c.registered.exp :=
  .of_leading distinct c c.registered rfl rfl (by decide)

end TokenAuthority
