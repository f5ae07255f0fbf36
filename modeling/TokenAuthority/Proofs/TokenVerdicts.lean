import Mathlib.Tactic.Lemma
import TokenAuthority.Proofs.JsonDepth
import TokenAuthority.Proofs.Verifiability

/-!
# Verdicts on tokens

The signature of a token is decided before its claims are looked at, and its expiry is decided to
the second. The two are told apart by what they depend on: everything before the expiry is the same
at all instants, whether or not the expiry is to be checked, and the expiry is checked last.

## Main definitions

* `TokenAuthority.Rsa.PublicKey.SignatureVerifies` — the last part of a token is a signature of the
  others.
* `TokenAuthority.Verdict` — what decoding a token comes to before its expiry is checked.
* `TokenAuthority.SignedVerdicts` — the verdicts on a signed token at an instant.

## Main results

* `TokenAuthority.verdict_decodeToken` — the verdict on a token does not depend on the clock.
* `TokenAuthority.decodeToken_of_not_verifies` — a signature that does not verify decides.
* `TokenAuthority.decodeToken_true` — checking the expiry is one step more, at the end.
* `TokenAuthority.decodeToken_sign_of_not_fits` — claims that are nested too deeply are not read
  back.
* `TokenAuthority.KeyPair.token_verdicts` — the verdicts on all tokens.
-/

set_option autoImplicit false

namespace TokenAuthority

open Json Value

/-! ## The signature comes first -/

/-- The last part of the token is a signature of the parts before it. -/
def Rsa.PublicKey.SignatureVerifies (key : Rsa.PublicKey) (token : String) : Prop :=
  ∃ message part signature, cutAtLastPoint? token.toList = some (message, part) ∧
    partBytes part = .ok signature ∧ key.verify (utf8 (String.ofList message)) signature = true

section Decoding

variable {token : String} {key : Rsa.PublicKey} {now : Instant} {jwt : Jwt}

/-- The empty text is decoded to the empty token. -/
lemma decodeToken_of_isEmpty (h : token.isEmpty = true) (key : Rsa.PublicKey) (check : Bool)
    (now : Instant) : decodeToken token key check now = .ok {} := by
  rw [decodeToken, if_pos h]
  rfl

/-- A part of a token that is refused is no base64url text. -/
lemma error_of_partBytes {cs : List Char} {e : JwtError} (h : partBytes cs = .error e) :
    e = .malformed .base64 := by
  rw [partBytes] at h
  split at h <;> cases h
  rfl

/-- A part of a token that is refused as JSON is no JSON text of the type that is read. -/
lemma error_of_partJson {α : Type} {c : Codec α} {bytes : Bytes} {e : JwtError}
    (h : partJson c bytes = .error e) : e = .malformed .json := by
  rw [partJson] at h
  split at h
  · cases h
    rfl
  · rename_i s _
    cases hdecode : c.decode s <;> rw [hdecode] at h <;> cases h
    rfl

/-- What may be wrong with the form of a token: its number of parts, the algorithm that it names,
and the base64url or the JSON text of a part. -/
def formFaults : List JoseFault := [.invalidToken, .invalidAlgorithm, .base64, .json]

/-- What decoding a token comes to: it is malformed, or its signature is refused, or its signature
verifies and nothing but the expiry of its claims is left to be checked. Which of these it is
depends neither on the instant nor on whether the expiry is to be checked. -/
inductive Verdict (token : String) (key : Rsa.PublicKey)
    (decode : Bool → Instant → Except JwtError Jwt) : Prop
  | malformed (fault : JoseFault) (hfault : fault ∈ formFaults)
      (h : ∀ check now, decode check now = .error (.malformed fault))
  | refused (h : ∀ check now, decode check now = .error .invalidSignature)
  | verified (claims : List (String × Value)) (hverifies : key.SignatureVerifies token)
      (h : ∀ check now, decode check now =
        (if check then Registered.checkExpiry claims now else .ok ()).map fun _ => ⟨token, claims⟩)

/-- A first step that only fails for the form of the token may be passed over. -/
lemma Verdict.bind {α : Type} {x : Except JwtError α}
    {f : α → Bool → Instant → Except JwtError Jwt} {fault : JoseFault} (hfault : fault ∈ formFaults)
    (hx : ∀ e, x = .error e → e = .malformed fault)
    (h : ∀ a, x = .ok a → Verdict token key (f a)) :
    Verdict token key fun check now => x >>= fun a => f a check now := by
  cases x with
  | ok a => exact h a rfl
  | error e =>
    rw [hx e rfl]
    exact .malformed fault hfault fun _ _ => rfl

/-- A payload is malformed, or nothing but the expiry of its claims is left to be checked. -/
lemma verdict_readPayload (hverifies : key.SignatureVerifies token) (payload : Bytes) :
    Verdict token key fun check now => readPayload token check now payload := by
  have hjson : JoseFault.json ∈ formFaults := by decide
  cases hread : partJson Codec.value payload with
  | error e =>
    obtain rfl := error_of_partJson hread
    refine .malformed .json hjson fun _ _ => ?_
    rw [readPayload, hread]
    rfl
  | ok v =>
    cases v with
    | null | bool | num | str | list =>
      refine .malformed .json hjson fun _ _ => ?_
      rw [readPayload, hread]
      rfl
    | obj members =>
      simp only [readPayload_obj hread]
      split
      · exact .malformed .json hjson fun _ _ => rfl
      · exact .verified _ hverifies fun _ _ => rfl

/-- A token that is not empty has a verdict.

**Proof sketch.** One check of `decodeToken` after the other, in their order. All that come before
the signature are about the form of the token, and none of them looks at the clock. -/
theorem verdict_decodeToken (hne : token.isEmpty = false) :
    Verdict token key (decodeToken token key) := by
  -- the flag and the instant are made arguments of what follows, so that `Verdict.bind` applies
  have hdecode : decodeToken token key = fun check now => decodeToken token key check now := rfl
  have hnot : ¬ token.isEmpty = true := by simp [hne]
  have hparts : JoseFault.invalidToken ∈ formFaults := by decide
  have halgorithm : JoseFault.invalidAlgorithm ∈ formFaults := by decide
  have hbase64 : JoseFault.base64 ∈ formFaults := by decide
  have hjson : JoseFault.json ∈ formFaults := by decide
  rw [hdecode]
  simp only [decodeToken, if_neg hnot]
  cases hcut : cutAtLastPoint? token.toList with
  | none => exact .malformed _ hparts fun _ _ => rfl
  | some cut =>
    obtain ⟨message, last⟩ := cut
    dsimp only
    cases cutAtLastPoint? message with
    | none => exact .malformed _ hparts fun _ _ => rfl
    | some cut =>
      obtain ⟨header, body⟩ := cut
      dsimp only
      refine .bind hbase64 (fun _ => error_of_partBytes) fun bytes _ => ?_
      refine .bind hjson (fun _ => error_of_partJson) fun alg _ => ?_
      by_cases halg : (alg != "RS256") = true
      · simp only [if_pos halg]
        exact .malformed _ halgorithm fun _ _ => rfl
      simp only [if_neg halg]
      refine .bind hbase64 (fun _ => error_of_partBytes) fun signature hsignature => ?_
      -- from here on the signature is known to verify
      cases hverify : key.verify (utf8 (String.ofList message)) signature with
      | false => exact .refused fun _ _ => rfl
      | true =>
        refine .bind hbase64 (fun _ => error_of_partBytes) fun payload _ => ?_
        exact verdict_readPayload ⟨message, last, signature, hcut, hsignature, hverify⟩ payload

/-- A token whose signature does not verify is malformed or refused, whatever its claims are and
whether or not the expiry is to be checked. -/
theorem decodeToken_of_not_verifies (hne : token.isEmpty = false)
    (hnot : ¬ key.SignatureVerifies token) (check : Bool) (now : Instant) :
    decodeToken token key check now = .error .invalidSignature ∨
      ∃ fault ∈ formFaults, decodeToken token key check now = .error (.malformed fault) := by
  have hverdict : Verdict token key (decodeToken token key) := verdict_decodeToken hne
  cases hverdict with
  | malformed fault hfault h => exact .inr ⟨fault, hfault, h check now⟩
  | refused h => exact .inl (h check now)
  | verified _ hverifies _ => exact absurd hverifies hnot

/-! ## The expiry comes last -/

/-- Checking the expiry is one step more, at the end. -/
theorem decodeToken_true (hne : token.isEmpty = false) :
    decodeToken token key true now =
      decodeToken token key false now >>= fun jwt =>
        (Registered.checkExpiry jwt.claims now).map fun _ => jwt := by
  have hverdict : Verdict token key (decodeToken token key) := verdict_decodeToken hne
  cases hverdict with
  | malformed fault _ h => rw [h, h]; rfl
  | refused h => rw [h, h]; rfl
  | verified claims _ h => rw [h, h]; rfl

end Decoding

/-- A result that is replaced by another one is there if the first one was. -/
lemma map_const_eq_ok_iff {ε α : Type} {x : Except ε Unit} {a b : α} :
    x.map (fun _ => a) = .ok b ↔ x = .ok () ∧ b = a := by
  cases x <;> simp [Except.map, eq_comm]

/-- A result that is replaced by another one fails as before. -/
lemma map_eq_error_iff {ε α β : Type} {x : Except ε α} {f : α → β} {e : ε} :
    x.map f = .error e ↔ x = .error e := by
  cases x <;> simp [Except.map]

namespace Registered

/-- The expiry of some claims in seconds, if they have one that can be read. -/
abbrev expiryOf (claims : List (String × Value)) : Option Nat := (lookup "exp" claims).bind expiry?

variable {claims : List (String × Value)} {now : Instant}

/-- The check of the expiry is passed by an expiry that has not passed. -/
lemma checkExpiry_eq_ok_iff :
    checkExpiry claims now = .ok () ↔
      ∃ seconds : Nat, expiryOf claims = some seconds ∧ now.unixSeconds ≤ seconds := by
  rw [checkExpiry]
  split
  · simp [expiryOf, *]
  · simp only [expiryOf, *, Option.some.injEq, exists_eq_left']
    split <;> simp <;> omega

/-- The check of the expiry reports an expiry that has passed. -/
lemma checkExpiry_eq_expired_iff :
    checkExpiry claims now = .error .expired ↔
      ∃ seconds : Nat, expiryOf claims = some seconds ∧ seconds < now.unixSeconds := by
  rw [checkExpiry]
  split
  · simp [expiryOf, *]
  · simp only [expiryOf, *, Option.some.injEq, exists_eq_left']
    split <;> simp <;> omega

/-- The check of the expiry reports claims without one. -/
lemma checkExpiry_eq_missing_iff :
    checkExpiry claims now = .error (.missingClaim "exp") ↔ expiryOf claims = none := by
  rw [checkExpiry]
  split
  · simp [expiryOf, *]
  · simp only [expiryOf, *]
    split <;> simp

end Registered

section Decoding

variable {token : String} {key : Rsa.PublicKey} {now : Instant} {jwt : Jwt}

/-- A token that is accepted with its expiry checked is accepted unchecked, with the same result,
which carries the text that was decoded. Unless the text is empty, its signature verifies and its
expiry has not passed. -/
theorem of_decodeToken_true (h : decodeToken token key true now = .ok jwt) :
    decodeToken token key false now = .ok jwt ∧ jwt.token = token ∧
      (token.isEmpty = true ∨ key.SignatureVerifies token ∧
        ∃ seconds : Nat, Registered.expiryOf jwt.claims = some seconds ∧
          now.unixSeconds ≤ seconds) := by
  cases hempty : token.isEmpty with
  | true =>
    rw [decodeToken_of_isEmpty hempty] at h
    cases h
    have htext : token = "" := String.isEmpty_iff.mp hempty
    exact ⟨decodeToken_of_isEmpty hempty key false now, htext.symm, .inl rfl⟩
  | false =>
    rw [decodeToken_true hempty] at h
    obtain ⟨jwt', hread, h⟩ := bind_ok h
    obtain ⟨hcheck, rfl⟩ := map_const_eq_ok_iff.mp h
    have hverdict : Verdict token key (decodeToken token key) := verdict_decodeToken hempty
    cases hverdict with
    | malformed fault _ hverdict => simp [hverdict] at hread
    | refused hverdict => simp [hverdict] at hread
    | verified claims hverifies hverdict =>
      obtain ⟨-, rfl⟩ := map_const_eq_ok_iff.mp ((hverdict false now).symm.trans hread)
      exact ⟨hread, rfl, .inr ⟨hverifies, Registered.checkExpiry_eq_ok_iff.mp hcheck⟩⟩

end Decoding

/-! ## Signed claims -/

/-- The expiry of claims that were signed is an integer that is not negative. -/
lemma expiryOf_sortMembers {n : Nat} {members : List (String × Value)}
    (hfits : (Value.obj members).Fits n) (hnodup : (namesOf members).Nodup) (seconds : Nat) :
    Registered.expiryOf (sortMembers (canonicalMembers members)) = some seconds ↔
      lookup "exp" members = some (.int seconds) := by
  rw [Registered.expiryOf, lookup_sortMembers hnodup]
  cases hexp : lookup "exp" members with
  | none => simp
  | some v =>
    cases hfits with
    | obj hvalues =>
      have hv : v.Fits _ := hvalues _ ((lookup_eq_some_iff hnodup).mp hexp)
      simp only [Option.map_some, Option.bind_some, Option.some.injEq]
      cases hv with
      | @int _ i =>
        simp only [canonical, Registered.expiry?, Value.num.injEq, Number.int.injEq]
        split <;> simp <;> omega
      | null | bool | str | list | obj => simp [canonical, Registered.expiry?]

/-- The verdicts at an instant on a token of some claims. If its expiry is not checked, it is
accepted with these claims, sorted. If it is, the token is accepted with them for an integer expiry
that has not passed, and reported as expired for one that has; an expiry that is negative or no
integer is reported as missing. -/
structure SignedVerdicts (key : Rsa.PublicKey) (token : String) (members : List (String × Value))
    (now : Instant) : Prop where
  unchecked : decodeToken token key false now =
    .ok ⟨token, sortMembers (canonicalMembers members)⟩
  accepted_iff : (∃ jwt, decodeToken token key true now = .ok jwt) ↔
    ∃ exp, lookup "exp" members = some (.int exp) ∧ now.unixSeconds ≤ exp
  accepted : ∀ jwt, decodeToken token key true now = .ok jwt →
    jwt = ⟨token, sortMembers (canonicalMembers members)⟩
  expired_iff : decodeToken token key true now = .error .expired ↔
    ∃ exp, lookup "exp" members = some (.int exp) ∧ 0 ≤ exp ∧ exp < now.unixSeconds
  missing_iff : decodeToken token key true now = .error (.missingClaim "exp") ↔
    ∀ exp, lookup "exp" members = some (.int exp) → exp < 0

section Signing

variable {k : SigningKey} {publicKey : Rsa.PublicKey} {members : List (String × Value)}
  {token : String}

/-- The verdicts on a token that was signed with a matching key.

**Proof sketch.** The form of the claims is no obstacle, so what is left is the check of the expiry.
It reads the expiry as a natural number, which an integer is if it is not negative. -/
theorem SigningKey.Matches.signedVerdicts (hmatches : k.Matches publicKey)
    (hplain : PlainClaims members) (hfits : (Value.obj members).Fits 127)
    (hsign : k.sign (.obj members) = .ok token) {now : Instant} (hepoch : 0 ≤ now.unixSeconds) :
    SignedVerdicts publicKey token members now := by
  have hchecked := decodeToken_sign_plain hmatches hplain hfits hsign true now
  rw [if_pos rfl] at hchecked
  have hexpiry := expiryOf_sortMembers hfits hplain.nodup
  constructor
  case unchecked => exact decodeToken_sign_plain hmatches hplain hfits hsign false now
  case accepted =>
    intro jwt hjwt
    rw [hchecked] at hjwt
    exact (map_const_eq_ok_iff.mp hjwt).2
  case accepted_iff =>
    simp only [hchecked, map_const_eq_ok_iff, exists_and_left, exists_eq, and_true,
      Registered.checkExpiry_eq_ok_iff, hexpiry]
    constructor
    · rintro ⟨seconds, hseconds, hle⟩
      exact ⟨seconds, hseconds, hle⟩
    · rintro ⟨exp, hexp, hle⟩
      obtain ⟨seconds, rfl⟩ := Int.eq_ofNat_of_zero_le (hepoch.trans hle)
      exact ⟨seconds, hexp, hle⟩
  case expired_iff =>
    simp only [hchecked, map_eq_error_iff, Registered.checkExpiry_eq_expired_iff, hexpiry]
    constructor
    · rintro ⟨seconds, hseconds, hlt⟩
      exact ⟨seconds, hseconds, Int.natCast_nonneg seconds, hlt⟩
    · rintro ⟨exp, hexp, hpos, hlt⟩
      obtain ⟨seconds, rfl⟩ := Int.eq_ofNat_of_zero_le hpos
      exact ⟨seconds, hexp, hlt⟩
  case missing_iff =>
    simp only [hchecked, map_eq_error_iff, Registered.checkExpiry_eq_missing_iff,
      Option.eq_none_iff_forall_ne_some, Ne, hexpiry]
    constructor
    · intro hnone exp hexp
      by_contra hpos
      obtain ⟨seconds, rfl⟩ := Int.eq_ofNat_of_zero_le (not_lt.mp hpos)
      exact hnone seconds hexp
    · intro hneg seconds hseconds
      exact absurd (hneg seconds hseconds) (not_lt.mpr (Int.natCast_nonneg seconds))

/-- Claims that are nested more deeply than a text may be are signed, but not read back. -/
theorem decodeToken_sign_of_not_fits (hmatches : k.Matches publicKey) {n : Nat} {claims : Value}
    (hfits : claims.Fits n) (hdeep : ¬ claims.Fits 127) (hsign : k.sign claims = .ok token)
    (check : Bool) (now : Instant) :
    decodeToken token publicKey check now = .error (.malformed .json) := by
  have hrefused : Codec.value.decode claims.text = .error .malformed := by
    rw [Codec.decode_text _ hfits]
    exact Codec.readValue_of_not_fits hfits hdeep
  rw [decodeToken_sign_payload hmatches hsign, readPayload, partJson_utf8, hrefused]
  rfl

end Signing

/-! ## Key pairs -/

/-- A private key that is read for signing is a sound one: this is checked once all its numbers have
been read. -/
lemma KeyFile.isSound_of_signingKey? {content : Bytes} {key : Rsa.PrivateKey}
    (h : signingKey? content = some key) : key.isSound = true := by
  simp only [signingKey?, pkcs1Private?, Option.bind_eq_bind, Option.bind_eq_some_iff,
    Option.ite_none_right_eq_some, Bool.and_eq_true, Option.some.injEq] at h
  obtain ⟨_, -, _, -, _, -, _, -, _, -, _, -, _, -, _, -, _, -, _, -, ⟨-, hsound⟩, rfl⟩ := h
  exact hsound

/-- The key to sign with of a pair of two primes matches its public half. -/
lemma KeyPair.Matches.signingKey {pair : KeyPair} {key : Rsa.PrivateKey}
    (hmatches : pair.Matches key) (hprimes : key.OfPrimes) {k : SigningKey}
    (hkey : pair.signingKey = .ok k) : k.Matches key.publicKey :=
  have hread : KeyFile.signingKey? k.content = some key := hmatches.privateKey k hkey
  ⟨key, hread, rfl, hprimes.verifies (KeyFile.isSound_of_signingKey? hread)⟩

/-- The verdicts on tokens under a key pair of two primes whose halves belong together.

A token that the pair has signed, of an object with plain registered claims and at most 127 levels,
has the verdicts of its claims at every instant not before 1970; that of an object with more levels
is malformed. A token whose signature does not verify is malformed or refused. And whatever is
accepted with its expiry checked is accepted unchecked, with the same result. -/
theorem KeyPair.token_verdicts {pair : KeyPair} {key : Rsa.PrivateKey}
    (hmatches : pair.Matches key) (hprimes : key.OfPrimes) :
    pair.verificationKey = .ok key.publicKey ∧
    (∀ k members token now, pair.signingKey = .ok k → PlainClaims members →
      (Value.obj members).Fits 127 → k.sign (.obj members) = .ok token → 0 ≤ now.unixSeconds →
      SignedVerdicts key.publicKey token members now) ∧
    (∀ k members token n, pair.signingKey = .ok k → (Value.obj members).Fits n →
      ¬ (Value.obj members).Fits 127 → k.sign (.obj members) = .ok token →
      ∀ check now, decodeToken token key.publicKey check now = .error (.malformed .json)) ∧
    (∀ token check now, token.isEmpty = false → ¬ key.publicKey.SignatureVerifies token →
      decodeToken token key.publicKey check now = .error .invalidSignature ∨
        ∃ fault ∈ formFaults,
          decodeToken token key.publicKey check now = .error (.malformed fault)) ∧
    ∀ token now jwt, decodeToken token key.publicKey true now = .ok jwt →
      decodeToken token key.publicKey false now = .ok jwt ∧ jwt.token = token ∧
        (token.isEmpty = true ∨ key.publicKey.SignatureVerifies token ∧
          ∃ seconds : Nat, Registered.expiryOf jwt.claims = some seconds ∧
            now.unixSeconds ≤ seconds) := by
  refine ⟨verificationKey_eq_ok hmatches.publicKey, ?_, ?_, ?_, ?_⟩
  · intro k members token now hkey hplain hfits hsign hepoch
    exact (hmatches.signingKey hprimes hkey).signedVerdicts hplain hfits hsign hepoch
  · intro k members token n hkey hfits hdeep hsign
    exact decodeToken_sign_of_not_fits (hmatches.signingKey hprimes hkey) hfits hdeep hsign
  · intro token check now hne hnot
    exact decodeToken_of_not_verifies hne hnot check now
  · intro token now jwt h
    exact of_decodeToken_true h

/-! ## A sample -/

namespace Sample

/-- Claims of a token that expires five minutes after the sample's instant. -/
def plainMembers : List (String × Value) :=
  [("exp", .int 1717243500), ("aud", .list [.str "test-client"]), ("sub", .str "jdoe")]

/-- The claims are plain. -/
lemma plainClaims_plainMembers : PlainClaims plainMembers where
  nodup := by decide
  plain name hname v h := by
    simp only [List.mem_cons, List.not_mem_nil, or_false] at hname
    rcases hname with rfl | rfl | rfl <;> cases h <;> rfl

/-- The claims have two levels. -/
lemma fits_plainMembers : (Value.obj plainMembers).Fits 2 := by
  refine .obj fun m hm => ?_
  simp only [plainMembers, List.mem_cons, List.not_mem_nil, or_false] at hm
  rcases hm with rfl | rfl | rfl
  · exact .int (by decide) (by decide)
  · exact .list fun v hv => List.mem_singleton.mp hv ▸ .str 0 _
  · exact .str 1 _

/-- The key pair of the sample signs what it is given. -/
lemma exists_signed (claims : Value) : ∃ k token,
    primePair.signingKey = .ok k ∧ k.Matches primeKey.publicKey ∧ k.sign claims = .ok token := by
  obtain ⟨pair, k, hpair, hkey, hcan⟩ := signs_primeStore
  obtain rfl : primePair = pair := Option.some.inj hpair
  obtain ⟨token, htoken⟩ := hcan.sign claims
  exact ⟨k, token, hkey, matches_primePair.signingKey ofPrimes_primeKey hkey, htoken⟩

/-- In the sample a token is accepted in the very second of its expiry, with its claims sorted, and
is reported as expired in the next one. -/
theorem token_verdicts_plain : ∃ k token, primePair.signingKey = .ok k ∧
    k.sign (.obj plainMembers) = .ok token ∧
    (∃ jwt, decodeToken token primeKey.publicKey true (.ofUnixSeconds 1717243500) = .ok jwt) ∧
    decodeToken token primeKey.publicKey true (.ofUnixSeconds 1717243501) = .error .expired ∧
    decodeToken token primeKey.publicKey false (.ofUnixSeconds 1717243501) =
      .ok ⟨token, [("aud", .list [.str "test-client"]), ("exp", .int 1717243500),
        ("sub", .str "jdoe")]⟩ := by
  obtain ⟨k, token, hkey, -, hsign⟩ := exists_signed (.obj plainMembers)
  have hverdicts := KeyPair.token_verdicts matches_primePair ofPrimes_primeKey
  have hsigned (now : Instant) (hepoch : 0 ≤ now.unixSeconds) :
      SignedVerdicts primeKey.publicKey token plainMembers now :=
    hverdicts.2.1 k plainMembers token now hkey plainClaims_plainMembers
      (fits_plainMembers.mono (by decide)) hsign hepoch
  have hexp : lookup "exp" plainMembers = some (.int 1717243500) := rfl
  refine ⟨k, token, hkey, hsign, ?_, ?_, ?_⟩
  · exact (hsigned _ (by decide)).accepted_iff.mpr ⟨_, hexp, by decide⟩
  · exact (hsigned _ (by decide)).expired_iff.mpr ⟨_, hexp, by decide, by decide⟩
  · exact (hsigned _ (by decide)).unchecked

/-- Claims of 128 levels: an object, and 127 lists in each other. -/
def deepMembers : List (String × Value) := [("deep", nested 127)]

/-- In the sample claims are signed that are nested one level too deeply, and what was signed is not
decoded at any instant, whether or not its expiry is checked. -/
theorem deep_token_malformed : PlainClaims deepMembers ∧ (Value.obj deepMembers).Fits 128 ∧
    ∃ k token, primePair.signingKey = .ok k ∧ k.sign (.obj deepMembers) = .ok token ∧
      ∀ check now, decodeToken token primeKey.publicKey check now = .error (.malformed .json) := by
  have hfits : (Value.obj deepMembers).Fits 128 :=
    .obj fun m hm => List.mem_singleton.mp hm ▸ fits_nested_iff.mpr (Nat.le_refl _)
  have hdeep : ¬ (Value.obj deepMembers).Fits 127 := by
    intro h
    cases h with
    | obj hvalues => exact absurd (fits_nested_iff.mp (hvalues _ List.mem_cons_self)) (by decide)
  obtain ⟨k, token, hkey, hmatches, hsign⟩ := exists_signed (.obj deepMembers)
  refine ⟨⟨by decide, ?_⟩, hfits, k, token, hkey, hsign, ?_⟩
  · intro name hname v h
    simp only [List.mem_cons, List.not_mem_nil, or_false] at hname
    rcases hname with rfl | rfl | rfl <;> cases h
  · exact decodeToken_sign_of_not_fits hmatches hfits hdeep hsign

end Sample

end TokenAuthority
